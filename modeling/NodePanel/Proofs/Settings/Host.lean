import NodePanel.Proofs.Http.Address
import NodePanel.Proofs.Settings.Setting

/-!
Settings of a caller who names the host of the panel. A plain address without a slash at its end is
accepted as it is, and everything else has its default.
-/
namespace NodePanel.Settings

/-- The settings of a caller who names the host of the panel and nothing else. -/
def ofHost (host : Text) : Settings where
  apiHost := host
  key := []
  nodeId := 1
  nodeType := defaultType
  timeoutSeconds := defaultTimeout
  retryCount := defaultRetries
  speedLimit := .zero
  deviceLimit := 0
  ruleListPath := none
  enableVless := false
  enableXtls := false

theorem get_ofHost {x : Setting} (hx : x ≠ .apiHost) (host : Text) :
    x.get (ofHost host) = x.default := by
  cases x with
  | apiHost => contradiction
  | _ => simp only [Setting.get, Setting.default, ofHost]

theorem load_host [Machine] {t host : Text} (h : readHost (.str t) = .ok host) :
    load .empty [] [] [("api_host", .str t)] = .ok (ofHost host) := by
  refine load_given_iff.2 fun x => ?_
  by_cases hx : x = .apiHost
  · subst hx
    exact h
  · have hnone : Keyed.get? (foldKeys [(Text.ofString "api_host", Json.str t)]) x.name = none := by
      cases x <;> first | rfl | contradiction
    exact (congrArg x.ofValue hnone).trans (congrArg Except.ok (get_ofHost hx host).symm)

theorem load_host_node [Machine] {t host : Text} (h : readHost (.str t) = .ok host) (n : Nat) :
    load .empty [] [] [("api_host", .str t), ("node_id", .int n)] =
      .ok { ofHost host with nodeId := n } := by
  refine load_given_iff.2 fun x => ?_
  by_cases hx : x = .apiHost
  · subst hx
    exact h
  · by_cases hnode : x = .nodeId
    · subst hnode
      exact Coercion.readNat_natCast n
    · have hnone : Keyed.get? (foldKeys [(Text.ofString "api_host", Json.str t),
          (Text.ofString "node_id", Json.int n)]) x.name = none := by
        cases x <;> first | rfl | contradiction
      have hget : x.get { ofHost host with nodeId := n } = x.get (ofHost host) := by
        cases x <;> first | contradiction | simp only [Setting.get]
      rw [hnone, hget]
      exact congrArg Except.ok (get_ofHost hx host).symm

theorem readHost_toText {u : Url} (h : u.IsPlain) (hquery : u.query = none)
    (hlast : u.toText.getLast?.any isSlash = false) :
    readHost (.str u.toText) = .ok u.toText := by
  have htext : u.toText ≠ [] := by
    rw [h.toText_eq]
    exact List.append_ne_nil_of_left_ne_nil h.scheme_ne_nil _
  have hstrip : Text.strip u.toText = u.toText := by
    refine (Text.isTrimmed_of_forall fun c hc => ?_).trim
    have hbounds := h.bounds_of_mem_toText hquery c hc
    simp only [CodePoint.isBlank, CodePoint.isWhiteSpace, Bool.or_eq_false_iff,
      Bool.and_eq_false_iff, decide_eq_false_iff_not, beq_eq_false_iff_ne]
    omega
  have hhead : u.toText.head?.any isSlash = false := by
    obtain ⟨c, hc, hletter⟩ := (Option.any_eq_true _ _).1 h.head_scheme
    rw [h.toText_eq, List.head?_append_of_ne_nil _ h.scheme_ne_nil, hc]
    refine decide_eq_false ?_
    rintro rfl
    contradiction
  have hdrop : Text.dropEndWhile isSlash u.toText = u.toText :=
    Text.IsTrimmed.dropEndWhile ⟨hhead, hlast⟩
  have hscalar : Utf8.IsScalar u.toText := by
    intro c hc
    have hbounds := h.bounds_of_mem_toText hquery c hc
    simp only [CodePoint.isSurrogate, Bool.and_eq_false_iff, decide_eq_false_iff_not]
    omega
  exact readHost_eq_ok_iff.2 ⟨hscalar, htext, by rw [hstrip, hdrop]⟩

end NodePanel.Settings
