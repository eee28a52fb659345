import Mathlib.Data.List.Basic
import NodePanel.Proofs.Settings.Given
import NodePanel.Proofs.Settings.Host
import NodePanel.Session.Basic

/-!
Accepted settings, and settings that are accepted again. Blanks are dropped before the slashes at the
end of a host, so a host with blanks before those slashes keeps them, a host of nothing but slashes
becomes empty, and only the hosts of neither kind are at once what they stay.
-/
namespace NodePanel.Settings

/-- The text ends in slashes and then blanks, either of which may be missing, behind something that
is neither. -/
def HasFirmEnd (t : Text) : Prop :=
  ∃ before c slashes blanks, t = before ++ c :: (slashes ++ blanks) ∧
    (isSlash c = false ∧ c.isBlank = false) ∧ (∀ d ∈ slashes, isSlash d = true) ∧
    ∀ d ∈ blanks, d.isBlank = true

private theorem isBlank_of_isSlash {c : CodePoint} (h : isSlash c = true) : c.isBlank = false := by
  rw [of_decide_eq_true h]
  rfl

section Host

variable {t : Text}

@[simp] theorem head?_host :
    (Text.dropEndWhile isSlash (Text.strip t)).head?.any CodePoint.isBlank = false := by
  refine (Option.any_eq_false _ _).2 fun c hc => Text.head?_trim (t := t) ?_
  obtain ⟨rest, hrest⟩ := Text.dropEndWhile_prefix (p := isSlash) (t := Text.strip t)
  show (Text.strip t).head? = some c
  rw [← hrest, List.head?_append, hc]
  rfl

@[simp] theorem getLast?_host :
    (Text.dropEndWhile isSlash (Text.strip t)).getLast?.any isSlash = false :=
  (Option.any_eq_false _ _).2 fun _ hc => Text.getLast?_dropEndWhile hc

theorem hasFirmEnd_iff :
    HasFirmEnd t ↔ Text.dropEndWhile isSlash (Text.strip t) ≠ [] ∧
      Text.IsTrimmed CodePoint.isBlank (Text.dropEndWhile isSlash (Text.strip t)) := by
  constructor
  · rintro ⟨before, c, slashes, blanks, rfl, ⟨hslash, hblank⟩, hslashes, hblanks⟩
    have hsolid : Text.dropEndWhile CodePoint.isBlank slashes = slashes :=
      (Text.isTrimmed_of_forall fun d hd => isBlank_of_isSlash (hslashes d hd)).dropEndWhile
    have hhost : Text.dropEndWhile isSlash (Text.strip (before ++ c :: (slashes ++ blanks))) =
        before.dropWhile CodePoint.isBlank ++ [c] := by
      unfold Text.strip Text.trim
      rw [Text.dropWhile_append_stop hblank, Text.dropEndWhile_append_cons hblank,
        Text.dropEndWhile_append_of_pos hblanks, hsolid, Text.dropEndWhile_append_cons hslash,
        Text.dropEndWhile_eq_nil_iff.2 hslashes]
    have hhead := head?_host (t := before ++ c :: (slashes ++ blanks))
    rw [hhost] at hhead ⊢
    refine ⟨by simp, hhead, ?_⟩
    rw [List.getLast?_concat]
    exact hblank
  · rintro ⟨hne, htrimmed⟩
    obtain ⟨slashes, hsplit, hslashes⟩ := Text.exists_dropEndWhile_append isSlash (Text.strip t)
    obtain ⟨blanks, hrest, hblanks⟩ :=
      Text.exists_dropEndWhile_append CodePoint.isBlank (t.dropWhile CodePoint.isBlank)
    obtain ⟨before, c, hhost⟩ := (List.eq_nil_or_concat' _).resolve_left hne
    have hlast : (Text.dropEndWhile isSlash (Text.strip t)).getLast? = some c := by
      rw [hhost]
      exact List.getLast?_concat
    refine ⟨t.takeWhile CodePoint.isBlank ++ before, c, slashes, blanks, ?_, ⟨?_, ?_⟩, hslashes,
      hblanks⟩
    · change Text.strip t ++ blanks = _ at hrest
      calc t = t.takeWhile CodePoint.isBlank ++ t.dropWhile CodePoint.isBlank :=
            List.takeWhile_append_dropWhile.symm
        _ = t.takeWhile CodePoint.isBlank ++ (before ++ [c] ++ slashes ++ blanks) := by
            rw [← hrest, ← hsplit, hhost]
        _ = _ := by simp
    · exact Text.getLast?_dropEndWhile hlast
    · exact (Option.any_eq_false _ _).1 htrimmed.last c hlast

instance : DecidablePred HasFirmEnd := fun _ => decidable_of_iff _ hasFirmEnd_iff.symm

theorem loadGiven_values_self_iff [Machine] {s : Settings} (h : ∀ x : Setting, x.IsAccepted (x.get s))
    (hhost : s.apiHost = Text.dropEndWhile isSlash (Text.strip t)) :
    loadGiven .empty [] [] s.values = .ok s ↔ HasFirmEnd t := by
  rw [loadGiven_values_iff h, hasFirmEnd_iff, ← hhost]
  refine and_congr_right fun hne => ?_
  constructor
  · intro hsame
    have heq : s.apiHost = Text.dropEndWhile isSlash (Text.strip s.apiHost) :=
      congrArg Settings.apiHost hsame
    have hlength : s.apiHost.length ≤ (Text.strip s.apiHost).length :=
      (congrArg List.length heq).trans_le Text.dropEndWhile_prefix.length_le
    exact Text.isTrimmed_of_trim_eq (Text.trim_isInfix.eq_of_length_le hlength)
  · intro htrimmed
    have hslash : s.apiHost.getLast?.any isSlash = false := hhost ▸ getLast?_host
    have hstrip : Text.strip s.apiHost = s.apiHost := htrimmed.trim
    rw [hstrip, Text.dropEndWhile_of_last hslash]

end Host

/-- The host that a caller gives, or the one that stands for none. -/
def hostText (given : Keyed Given) : Text :=
  match Keyed.get? (foldKeys given) "api_host" with
  | some (.data (.str t)) => t
  | _ => defaultHost

theorem apiHost_eq [Machine] {given : Keyed Given} {s : Settings}
    (h : loadGiven .empty [] [] given = .ok s) :
    s.apiHost = Text.dropEndWhile isSlash (Text.strip (hostText given)) := by
  have hread : Setting.apiHost.ofGiven (Keyed.get? (foldKeys given) "api_host") = .ok s.apiHost :=
    loadGiven_iff.1 h .apiHost
  unfold hostText
  cases hgiven : Keyed.get? (foldKeys given) "api_host" with
  | none =>
    rw [hgiven] at hread
    rw [← Except.ok.inj hread]
    decide
  | some g =>
    rw [hgiven] at hread
    cases g with
    | path p => contradiction
    | data v =>
      cases v with
      | str t => exact (readHost_eq_ok_iff.1 hread).2.2.symm
      | _ => contradiction

private theorem exists_path_eq (e : Endpoint) :
    ∃ rest, e.path = CodePoint.ofChar '/' :: rest ∧ rest.head?.any isSlash = false := by
  cases e <;> exact ⟨_, rfl, rfl⟩

/-- What holds of all settings that are accepted from a caller. The time is positive, and exactly one
slash stands between the host and the path of an endpoint. The host has no blank in front and no slash
at its end. It is not empty and has no blank at its end either exactly if the settings are accepted
again without a change, and both depend on the end of the host as it was given. Given again, the
settings are refused only for an empty host, and nothing but the host can change. -/
theorem settings_again_iff [Machine] {given : Keyed Given} {s : Settings}
    (h : loadGiven .empty [] [] given = .ok s) :
    s.timeoutSeconds.isPositive = true ∧
    s.apiHost.head?.any CodePoint.isBlank = false ∧
    s.apiHost.getLast?.any isSlash = false ∧
    (∀ (session : Session) (e : Endpoint) (error : SendError), session.settings = s →
      ∃ rest, session.urlOf e.path (.error error) = s.apiHost ++ CodePoint.ofChar '/' :: rest ∧
        rest.head?.any isSlash = false) ∧
    (s.apiHost ≠ [] ∧ Text.IsTrimmed CodePoint.isBlank s.apiHost ↔ HasFirmEnd (hostText given)) ∧
    (loadGiven .empty [] [] s.values = .ok s ↔ HasFirmEnd (hostText given)) ∧
    ∀ s', loadGiven .empty [] [] s.values = .ok s' ↔
      s.apiHost ≠ [] ∧
        s' = { s with apiHost := Text.dropEndWhile isSlash (Text.strip s.apiHost) } := by
  have haccepted (x : Setting) : x.IsAccepted (x.get s) :=
    Setting.isAccepted_of_ofGiven (loadGiven_iff.1 h x)
  have hhost := apiHost_eq h
  refine ⟨haccepted .timeoutSeconds, hhost ▸ head?_host, hhost ▸ getLast?_host, ?_,
    hhost ▸ hasFirmEnd_iff.symm, loadGiven_values_self_iff haccepted hhost,
    fun s' => loadGiven_values_iff haccepted⟩
  rintro session e error rfl
  obtain ⟨rest, hpath, hrest⟩ := exists_path_eq e
  exact ⟨rest, congrArg (session.settings.apiHost ++ ·) hpath, hrest⟩

attribute [local instance] Machine.usual

/-- A blank before the slash at the end stays, and the settings change when they are given again. A
name in capitals, an infinite time and a path that looks blank do not disturb. -/
theorem settings_again_of_two_hosts :
    (∃ s, loadGiven .empty [] [] [("api_host", .data (.str "http://panel.test /"))] = .ok s ∧
      s.apiHost = "http://panel.test " ∧ loadGiven .empty [] [] s.values ≠ .ok s) ∧
    ∃ s, loadGiven .empty [] [] [("API_HOST", .data (.str " http://panel.test// ")),
        ("timeout_seconds", .data (.float (.infinite false))),
        ("rule_list_path", .path ⟨.relative, [" "]⟩)] =
        .ok s ∧
      s.ruleListPath = some ⟨.relative, [" "]⟩ ∧ loadGiven .empty [] [] s.values = .ok s := by
  constructor
  · have hload : loadGiven .empty [] [] [("api_host", .data (.str "http://panel.test /"))] =
        .ok (ofHost "http://panel.test ") :=
      (loadGiven_data _ _ _ [("api_host", .str "http://panel.test /")]).trans (load_host rfl)
    obtain ⟨-, -, -, -, -, hagain, -⟩ := settings_again_iff hload
    exact ⟨_, hload, rfl, fun hsame => absurd (hagain.1 hsame) (by decide)⟩
  · have hload : loadGiven .empty [] [] [("API_HOST", .data (.str " http://panel.test// ")),
        ("timeout_seconds", .data (.float (.infinite false))),
        ("rule_list_path", .path ⟨.relative, [" "]⟩)] =
        .ok { ofHost "http://panel.test" with
          timeoutSeconds := .infinite false, ruleListPath := some ⟨.relative, [" "]⟩ } :=
      loadGiven_iff.2 fun x => by cases x <;> rfl
    obtain ⟨-, -, -, -, -, hagain, -⟩ := settings_again_iff hload
    exact ⟨_, hload, rfl, hagain.2 (by decide)⟩

end NodePanel.Settings
