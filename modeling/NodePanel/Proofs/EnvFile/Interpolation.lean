import NodePanel.EnvFile.Interpolation
import NodePanel.Proofs.Text.Basic

/-!
Variables in values. Each one that is replaced takes a dollar with it, so as long as the values that
are put in have none, a value stays as it is only if there is no variable in it.
-/
namespace NodePanel.EnvFile

def dollar : CodePoint := '$'

variable {t : Text}

def IsLiteral (t : Text) : Prop := ∀ rest, rest <:+ t → readVariable? rest = none

theorem isLiteral_cons_iff {c : CodePoint} :
    IsLiteral (c :: t) ↔ readVariable? (c :: t) = none ∧ IsLiteral t := by
  constructor
  · intro h
    exact ⟨h _ List.suffix_rfl, fun rest hrest => h rest (hrest.trans (List.suffix_cons c t))⟩
  · rintro ⟨hfirst, ht⟩ rest hrest
    rcases List.suffix_cons_iff.1 hrest with rfl | hrest
    · exact hfirst
    · exact ht rest hrest

theorem interpolate_of_isLiteral {valueOf : Text → Text → Text} (h : IsLiteral t) :
    interpolate valueOf t = t := by
  induction t with
  | nil => rw [interpolate]
  | cons c t ih =>
    obtain ⟨hfirst, ht⟩ := isLiteral_cons_iff.1 h
    rw [interpolate]
    split
    next hsome =>
      rw [hfirst] at hsome
      contradiction
    next => rw [ih ht]

theorem isLiteral_of_no_dollar (h : dollar ∉ t) : IsLiteral t := by
  intro rest hrest
  cases rest with
  | nil => rfl
  | cons c rest =>
    have hc : c ≠ CodePoint.ofChar '$' := ne_of_mem_of_not_mem (hrest.subset List.mem_cons_self) h
    unfold readVariable?
    cases rest with
    | nil => rfl
    | cons d rest => simp [hc]

theorem interpolate_of_no_dollar {valueOf : Text → Text → Text} (h : dollar ∉ t) :
    interpolate valueOf t = t :=
  interpolate_of_isLiteral (isLiteral_of_no_dollar h)

/-! Counting dollars -/

private theorem count_le_of_readDefault? {default after : Text}
    (h : readDefault? t = some (default, after)) :
    default.count dollar + after.count dollar ≤ t.count dollar := by
  unfold readDefault? at h
  split at h
  next c d rest =>
    split at h
    next =>
      cases h
      rw [List.count_nil, Nat.zero_add]
      exact (List.sublist_cons_self c _).count_le dollar
    next =>
      split at h
      next =>
        obtain ⟨rfl, -⟩ := Text.cut?_eq_some_iff.1 h
        simp only [List.count_cons, List.count_append]
        omega
      next => contradiction
  next c =>
    split at h
    next =>
      cases h
      exact Nat.zero_le _
    next => contradiction
  next => contradiction

private theorem count_lt_of_readVariable? {name default after : Text}
    (h : readVariable? t = some (name, default, after)) :
    default.count dollar + after.count dollar < t.count dollar := by
  unfold readVariable? at h
  split at h
  next c d rest =>
    split at h
    next hopen =>
      obtain ⟨rfl, rfl⟩ : c = CodePoint.ofChar '$' ∧ d = CodePoint.ofChar '\x7b' := by
        simpa using hopen
      obtain ⟨⟨default', after'⟩, hdefault, heq⟩ := Option.map_eq_some_iff.1 h
      cases heq
      have hread := count_le_of_readDefault? hdefault
      have hrest := (List.dropWhile_suffix (l := rest) isNamePoint).sublist.count_le dollar
      have hdollar : (CodePoint.ofChar '$' :: CodePoint.ofChar '\x7b' :: rest).count dollar =
          rest.count dollar + 1 := by
        rw [List.count_cons, List.count_cons]
        rfl
      omega
    next => contradiction
  next => contradiction

/-- Replacing variables by values without dollars leaves fewer dollars, unless there are none to
replace. -/
theorem count_interpolate_lt {valueOf : Text → Text → Text}
    (hvalue : ∀ name default, (valueOf name default).count dollar ≤ default.count dollar) (t : Text) :
    (interpolate valueOf t).count dollar < t.count dollar ∨ IsLiteral t := by
  -- what is put in has at most the dollars of the default, and the dollar in front is gone
  fun_induction interpolate valueOf t with
  | case1 =>
    refine .inr fun rest hrest => ?_
    rw [List.suffix_nil.1 hrest]
    rfl
  | case2 c t name default after hsome ih =>
    have hcount := count_lt_of_readVariable? hsome
    have hname := hvalue name default
    have hafter : (interpolate valueOf after).count dollar ≤ after.count dollar := by
      rcases ih with hlt | hliteral
      · exact Nat.le_of_lt hlt
      · exact Nat.le_of_eq (congrArg (List.count dollar) (interpolate_of_isLiteral hliteral))
    rw [List.count_append]
    exact .inl (by omega)
  | case3 c t hnone ih =>
    rcases ih with hlt | hliteral
    · rw [List.count_cons, List.count_cons]
      exact .inl (by omega)
    · exact .inr (isLiteral_cons_iff.2 ⟨hnone, hliteral⟩)

/-- A text that comes out of another with no more dollars than it started with was not changed. -/
theorem eq_of_interpolate_eq {valueOf : Text → Text → Text} {u : Text}
    (hvalue : ∀ name default, (valueOf name default).count dollar ≤ default.count dollar)
    (hcount : t.count dollar ≤ u.count dollar) (h : interpolate valueOf t = u) :
    t = u ∧ IsLiteral t := by
  rcases count_interpolate_lt hvalue t with hlt | hliteral
  · rw [h] at hlt
    omega
  · rw [interpolate_of_isLiteral hliteral] at h
    exact ⟨h, hliteral⟩

theorem count_variableValue_le {environment : Keyed Text}
    (h : ∀ entry ∈ environment, dollar ∉ entry.2) (name default : Text) :
    (variableValue environment [] name default).count dollar ≤ default.count dollar := by
  show ((environment.lookup name).getD default).count dollar ≤ _
  cases hvalue : environment.lookup name with
  | none => exact Nat.le_refl _
  | some value =>
    obtain ⟨before, after, rfl, -⟩ := List.lookup_eq_some_iff.1 hvalue
    have hnone := h (name, value) (List.mem_append_right before List.mem_cons_self)
    rw [Option.getD_some, List.count_eq_zero.2 hnone]
    exact Nat.zero_le _

end NodePanel.EnvFile
