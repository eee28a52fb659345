import NodePanel.Proofs.EnvFile.Assignment
import NodePanel.Proofs.EnvFile.Interpolation

/-!
Values in quotation marks. What is read lies between the marks, so it is always shorter than what
was written; taking escapes apart makes it no longer.
-/
namespace NodePanel.EnvFile

variable {value t : Text} {quote : CodePoint}

theorem cutQuote?_eq {escaped : Bool} {before after : Text}
    (h : cutQuote? quote escaped t = some (before, after)) : t = before ++ quote :: after := by
  induction t generalizing escaped before with
  | nil => contradiction
  | cons c t ih =>
    unfold cutQuote? at h
    split at h
    next hquote =>
      cases h
      obtain ⟨rfl, -⟩ : c = quote ∧ escaped = false := by simpa using hquote
      rfl
    next =>
      obtain ⟨⟨inner, after'⟩, hcut, heq⟩ := Option.map_eq_some_iff.1 h
      cases heq
      rw [ih hcut, List.cons_append]

private theorem unescape_bounds {meaning : CodePoint → Option CodePoint} {d : CodePoint}
    (hmeaning : ∀ c, meaning c ≠ some d) (t : Text) :
    (unescape meaning t).length ≤ t.length ∧ (unescape meaning t).count d ≤ t.count d := by
  fun_induction unescape meaning t with
  | case1 => exact ⟨Nat.le_refl _, Nat.le_refl _⟩
  | case2 c => exact ⟨Nat.le_refl _, Nat.le_refl _⟩
  | case3 c e rest f hf ih =>
    have hne : f ≠ d := by
      rintro rfl
      split at hf
      · exact hmeaning _ hf
      · contradiction
    have hcount : (f :: unescape meaning rest).count d = (unescape meaning rest).count d :=
      List.count_cons_of_ne hne
    have hle : rest.count d ≤ (c :: e :: rest).count d :=
      ((List.sublist_cons_self e rest).trans (List.sublist_cons_self c _)).count_le d
    rw [hcount]
    simp only [List.length_cons]
    omega
  | case4 c e rest hf ih =>
    have hcons : (c :: e :: rest).count d = (e :: rest).count d + if c == d then 1 else 0 :=
      List.count_cons
    rw [List.count_cons, hcons]
    simp only [List.length_cons] at ih ⊢
    omega

private theorem escaped?_ne_dollar (c : CodePoint) : escaped? c ≠ some dollar := by
  unfold escaped?
  intro h
  split at h
  next hself =>
    obtain rfl := Option.some.inj h
    exact absurd hself (by decide)
  next =>
    repeat' split at h
    all_goals exact absurd h (by decide)

private theorem escapedSingle?_ne_dollar (c : CodePoint) : escapedSingle? c ≠ some dollar := by
  unfold escapedSingle?
  intro h
  split at h
  next hself =>
    obtain rfl := Option.some.inj h
    exact absurd hself (by decide)
  next => contradiction

/-- What is read of a value in quotation marks, if anything, is shorter by these at least, and it has
no dollars that were not there. -/
theorem readValue_quoted {read after : Text} (hquote : ¬ IsUnquoted t)
    (h : readValue t = .ok (read, after)) :
    read.length + 2 ≤ t.length ∧ read.count dollar ≤ t.count dollar := by
  have hbounds {meaning : CodePoint → Option CodePoint} (hmeaning : ∀ c, meaning c ≠ some dollar)
      {c quote : CodePoint} {rest before after : Text}
      (hcut : cutQuote? quote false rest = some (before, after)) :
      (unescape meaning before).length + 2 ≤ (c :: rest).length ∧
        (unescape meaning before).count dollar ≤ (c :: rest).count dollar := by
    obtain ⟨hlength, hcount⟩ := unescape_bounds hmeaning before
    have hsub : before.Sublist (c :: rest) := by
      rw [cutQuote?_eq hcut]
      exact (List.sublist_append_left before _).cons c
    refine ⟨?_, Nat.le_trans hcount (hsub.count_le dollar)⟩
    rw [cutQuote?_eq hcut, List.length_cons, List.length_append, List.length_cons]
    omega
  unfold readValue at h
  split at h
  next => exact absurd isUnquoted_nil hquote
  next c rest =>
    split at h
    next =>
      split at h
      next hcut =>
        cases h
        exact hbounds escapedSingle?_ne_dollar hcut
      next => contradiction
    next hsingle =>
      split at h
      next =>
        split at h
        next hcut =>
          cases h
          exact hbounds escaped?_ne_dollar hcut
        next => contradiction
      next hdouble =>
        refine absurd ?_ hquote
        rintro _ ⟨⟩
        exact ⟨hsingle, hdouble⟩

/-! A value that has no quotation marks and no escapes in it -/

def backslash : CodePoint := '\\'

private theorem cutQuote?_append {rest : Text} (hquote : quote ∉ value)
    (hescape : backslash ∉ value) :
    cutQuote? quote false (value ++ quote :: rest) = some (value, rest) := by
  induction value with
  | nil => simp [cutQuote?]
  | cons c value ih =>
    have hc : c ≠ quote := (List.ne_of_not_mem_cons hquote).symm
    have hplain : c ≠ CodePoint.ofChar '\\' := (List.ne_of_not_mem_cons hescape).symm
    rw [List.cons_append]
    unfold cutQuote?
    simp only [hc, hplain, decide_false, Bool.false_and, Bool.false_eq_true, if_false]
    rw [ih (List.not_mem_of_not_mem_cons hquote) (List.not_mem_of_not_mem_cons hescape)]
    rfl

theorem unescape_of_no_backslash {meaning : CodePoint → Option CodePoint} (h : backslash ∉ t) :
    unescape meaning t = t := by
  fun_induction unescape meaning t with
  | case1 => rfl
  | case2 c => rfl
  | case3 c e rest f hf ih =>
    have hc : c ≠ CodePoint.ofChar '\\' := (List.ne_of_not_mem_cons h).symm
    rw [if_neg hc] at hf
    contradiction
  | case4 c e rest hf ih => rw [ih (List.not_mem_of_not_mem_cons h)]

private theorem readValue_inQuotes {rest : Text}
    (hkind : quote = CodePoint.ofChar '\'' ∨ quote = CodePoint.ofChar '"')
    (hquote : quote ∉ value) (hescape : backslash ∉ value) :
    readValue (quote :: (value ++ quote :: rest)) = .ok (value, rest) := by
  have hcut : cutQuote? quote false (value ++ quote :: rest) = some (value, rest) :=
    cutQuote?_append hquote hescape
  rcases hkind with rfl | rfl
  · unfold readValue
    dsimp only
    rw [if_pos rfl, hcut]
    dsimp only
    rw [unescape_of_no_backslash hescape]
  · unfold readValue
    dsimp only
    rw [if_neg (by decide), if_pos rfl, hcut]
    dsimp only
    rw [unescape_of_no_backslash hescape]

theorem nextBinding_inQuotes {key name gap gap' trail tail : Text} (hkey : IsKey key name)
    (hgap : IsGap gap) (hgap' : IsGap gap') (htrail : IsGap trail)
    (hkind : quote = CodePoint.ofChar '\'' ∨ quote = CodePoint.ofChar '"')
    (hquote : quote ∉ value) (hescape : backslash ∉ value) (htail : IsTail tail) :
    nextBinding (key ++ (gap ++ CodePoint.ofChar '=' :: (gap' ++
        (quote :: (value ++ quote :: (trail ++ tail)))))) =
      (some (name, some value), nextLine tail) := by
  let written := quote :: (value ++ quote :: (trail ++ tail))
  have hblank : written.head?.any isInlineBlank = false := by
    show isInlineBlank quote = false
    rcases hkind with rfl | rfl <;> decide
  have hmark : written.head? ≠ some (CodePoint.ofChar '#') := by
    show some quote ≠ _
    rcases hkind with rfl | rfl <;> decide
  unfold nextBinding
  rw [readBinding_assignment hkey hgap hgap' hblank (.inr hmark),
    readValue_inQuotes hkind hquote hescape]
  dsimp only
  rw [readLineEnd_gap htrail htail]
  rfl

/-! The last line of a text -/

theorem skipLine_of_suffix {l stuck : Text} (hl : newline ∉ l) (h : stuck <:+ l ++ [newline]) :
    skipLine stuck = [] := by
  rcases List.suffix_concat_iff.1 h with rfl | ⟨stuck, rfl, hstuck⟩
  · rfl
  · exact skipLine_line fun hmem => hl (hstuck.subset hmem)

private theorem readLineEnd_of_suffix {l t left : Text} (hl : newline ∉ l)
    (h : t <:+ l ++ [newline])
    (hread : readLineEnd t = .ok left) : left = [] := by
  rcases List.suffix_concat_iff.1 h with rfl | ⟨t, rfl, ht⟩
  · cases hread
    rfl
  · rw [readLineEnd_line fun hmem => hl (ht.subset hmem)] at hread
    cases hend : readLineEnd t with
    | ok after =>
      rw [hend] at hread
      cases hread
      rfl
    | error stuck =>
      rw [hend] at hread
      contradiction

theorem line_append_newline (key value : Text) :
    line (key, value) ++ [newline] =
      key ++ ([] ++ CodePoint.ofChar '=' :: ([] ++ (value ++ [newline]))) := by
  simp [line]

/-- What a value with a quotation mark in front is read as on the last line of a text, if it is read
at all, is not the value. -/
theorem nextBinding_lastLine_inQuotes {key name : Text} (hkey : IsKey key name)
    (hvalue : newline ∉ value) (hblank : value.head?.any isInlineBlank = false)
    (hquote : ¬ IsUnquoted value) :
    ∃ read : Option Text,
      nextBinding (line (key, value) ++ [newline]) = (read.map fun u => (name, some u), []) ∧
        ∀ u ∈ read, u.length < value.length ∧ u.count dollar ≤ value.count dollar := by
  obtain ⟨c, rest, rfl⟩ : ∃ c rest, value = c :: rest := by
    cases value with
    | nil => exact absurd isUnquoted_nil hquote
    | cons c rest => exact ⟨c, rest, rfl⟩
  have hbinding : readBinding
      (key ++ ([] ++ CodePoint.ofChar '=' :: ([] ++ (c :: rest ++ [newline])))) = _ :=
    readBinding_assignment hkey isGap_nil isGap_nil hblank (.inl rfl)
  have hsuffix := readValue_suffix (t := c :: rest ++ [newline])
  rw [line_append_newline]
  unfold nextBinding
  rw [hbinding]
  cases hread : readValue (c :: rest ++ [newline]) with
  | error stuck =>
    rw [hread] at hsuffix
    exact ⟨none, congrArg (Prod.mk none) (skipLine_of_suffix hvalue hsuffix), nofun⟩
  | ok found =>
    obtain ⟨u, after⟩ := found
    rw [hread] at hsuffix
    change after <:+ c :: rest ++ [newline] at hsuffix
    have hend := (readLineEnd_suffix (t := after)).trans hsuffix
    dsimp only
    cases hline : readLineEnd after with
    | error stuck =>
      rw [hline] at hend
      exact ⟨none, congrArg (Prod.mk none) (skipLine_of_suffix hvalue hend), nofun⟩
    | ok left =>
      obtain ⟨hlength, hcount⟩ := readValue_quoted (t := c :: rest ++ [newline]) hquote hread
      rw [List.length_append, List.length_singleton] at hlength
      rw [List.count_append] at hcount
      refine ⟨some u, congrArg (Prod.mk _) (readLineEnd_of_suffix hvalue hsuffix hline), ?_⟩
      rintro _ ⟨⟩
      exact ⟨by omega, hcount⟩

theorem nextBinding_lastLine {key name : Text} (hkey : IsKey key name) (hvalue : newline ∉ value)
    (hblank : value.head?.any isInlineBlank = false) :
    ∃ read : Option Text,
      nextBinding (line (key, value) ++ [newline]) = (read.map fun u => (name, some u), []) ∧
        (IsUnquoted value → read = some (bareValue value)) ∧
        (¬ IsUnquoted value → ∀ u ∈ read, u.length < value.length ∧
          u.count dollar ≤ value.count dollar) := by
  by_cases hquote : IsUnquoted value
  · refine ⟨some (bareValue value), ?_, fun _ => rfl, fun hnot => absurd hquote hnot⟩
    rw [line_append_newline]
    exact nextBinding_bare hkey isGap_nil isGap_nil hvalue hquote hblank (.inl rfl) (.line [])
  · obtain ⟨read, hnext, hread⟩ := nextBinding_lastLine_inQuotes hkey hvalue hblank hquote
    exact ⟨read, hnext, fun h => absurd h hquote, fun _ => hread⟩

end NodePanel.EnvFile
