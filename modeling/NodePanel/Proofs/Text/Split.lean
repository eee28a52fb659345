import NodePanel.Text.Basic

/-!
Pieces of a text. Splitting at a code point and joining with it are those of lists, so each undoes
the other.
-/
namespace NodePanel.Text

variable {c : CodePoint} {t : Text}

theorem splitOn_eq (c : CodePoint) (t : Text) : splitOn c t = List.splitOn c t := by
  induction t with
  | nil => rfl
  | cons x t ih =>
    rw [List.splitOn_cons_eq_if_modifyHead, ← ih]
    by_cases h : x = c
    · simp [splitOn, h]
    · simp [splitOn, h]

theorem join_eq (c : CodePoint) (pieces : List Text) : join [c] pieces = [c].intercalate pieces := by
  induction pieces with
  | nil => rfl
  | cons piece pieces ih =>
    cases pieces with
    | nil => simp [join]
    | cons next pieces =>
      rw [List.intercalate_cons_cons, ← ih]
      simp [join]

@[simp] theorem join_splitOn (c : CodePoint) (t : Text) : join [c] (splitOn c t) = t := by
  rw [splitOn_eq, join_eq, List.intercalate_splitOn]

theorem splitOn_join {pieces : List Text} (h : ∀ piece ∈ pieces, c ∉ piece) (hne : pieces ≠ []) :
    splitOn c (join [c] pieces) = pieces := by
  rw [splitOn_eq, join_eq, List.splitOn_intercalate c h hne]

@[simp] theorem splitOn_append_cons (s t : Text) :
    splitOn c (s ++ c :: t) = splitOn c s ++ splitOn c t := by
  simp only [splitOn_eq, List.splitOn_append_cons_self]

theorem mem_of_mem_splitOn {piece : Text} (hpiece : piece ∈ splitOn c t) {x : CodePoint}
    (hx : x ∈ piece) : x ∈ t ∧ x ≠ c := by
  rw [splitOn_eq] at hpiece
  induction t generalizing piece with
  | nil =>
    rw [List.splitOn_nil, List.mem_singleton] at hpiece
    subst hpiece
    contradiction
  | cons y t ih =>
    rw [List.splitOn_cons_eq_if_modifyHead] at hpiece
    by_cases h : y = c
    · rw [if_pos (beq_iff_eq.2 h)] at hpiece
      rcases List.mem_cons.1 hpiece with rfl | hpiece
      · contradiction
      · exact ⟨List.mem_cons_of_mem y (ih hpiece hx).1, (ih hpiece hx).2⟩
    · rw [if_neg (by simpa using h)] at hpiece
      cases hsplit : List.splitOn c t with
      | nil => exact absurd hsplit (List.splitOn_ne_nil c t)
      | cons first pieces =>
        rw [hsplit, List.modifyHead_cons] at hpiece
        rw [hsplit] at ih
        rcases List.mem_cons.1 hpiece with rfl | hpiece
        · rcases List.mem_cons.1 hx with rfl | hx
          · exact ⟨List.mem_cons_self, h⟩
          · have hmem := ih List.mem_cons_self hx
            exact ⟨List.mem_cons_of_mem y hmem.1, hmem.2⟩
        · have hmem := ih (List.mem_cons_of_mem first hpiece) hx
          exact ⟨List.mem_cons_of_mem y hmem.1, hmem.2⟩

theorem mem_join {pieces : List Text} {x : CodePoint} (h : x ∈ join [c] pieces) :
    x = c ∨ ∃ piece ∈ pieces, x ∈ piece := by
  cases pieces with
  | nil => contradiction
  | cons first pieces =>
    simp only [join, List.singleton_append, List.mem_append, List.mem_flatMap, List.mem_cons] at h
    rcases h with h | ⟨piece, hpiece, rfl | h⟩
    · exact .inr ⟨first, List.mem_cons_self, h⟩
    · exact .inl rfl
    · exact .inr ⟨piece, List.mem_cons_of_mem first hpiece, h⟩

theorem mem_join_iff {pieces : List Text} {x : CodePoint} (hx : x ≠ c) :
    x ∈ join [c] pieces ↔ ∃ piece ∈ pieces, x ∈ piece := by
  cases pieces <;> simp [join, hx]

end NodePanel.Text
