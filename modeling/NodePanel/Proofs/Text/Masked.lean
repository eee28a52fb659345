import NodePanel.Text.Masked

/-!
What is seen of a masked secret: its length and, if it is longer than its ends, its ends.
-/
namespace NodePanel.Text

/-- Whether a place in a text of some length is shown when the text is masked. -/
def isShown (length i : Nat) : Bool :=
  2 * shownAtEnd < length && (i < shownAtEnd || length - shownAtEnd ≤ i)

theorem getElem?_masked {t : Text} {i : Nat} (h : i < t.length) :
    (masked t)[i]? = if isShown t.length i then t[i]? else some mask := by
  unfold masked isShown
  by_cases hshort : t.length ≤ 2 * shownAtEnd
  · have hlong : ¬ 2 * shownAtEnd < t.length := by omega
    simp [hshort, hlong, h]
  · have hlong : 2 * shownAtEnd < t.length := by omega
    have hfront : (t.take shownAtEnd).length = shownAtEnd := by
      rw [List.length_take]
      omega
    rw [if_neg hshort, List.append_assoc]
    by_cases hfirst : i < shownAtEnd
    · rw [List.getElem?_append_left (by omega)]
      simp [hfirst, hlong]
    · rw [List.getElem?_append_right (by omega), hfront]
      by_cases hlast : t.length - shownAtEnd ≤ i
      · rw [List.getElem?_append_right (by simp; omega), List.length_replicate, List.getElem?_drop]
        simp only [hlong, hlast, decide_true, Bool.or_true, Bool.and_self, if_true]
        congr 1
        omega
      · rw [List.getElem?_append_left (by simp; omega),
          List.getElem?_replicate_of_lt (by omega)]
        simp [hfirst, hlast]

theorem getElem?_masked_cases {t : Text} {i : Nat} (h : i < t.length) :
    (masked t)[i]? = some mask ∨
      4 < t.length ∧ (i < 2 ∨ t.length ≤ i + 2) ∧ (masked t)[i]? = t[i]? := by
  rw [getElem?_masked h]
  by_cases hshown : isShown t.length i = true
  · rw [if_pos hshown]
    have hends : shownAtEnd = 2 := rfl
    simp only [isShown, Bool.and_eq_true, Bool.or_eq_true, decide_eq_true_eq] at hshown
    exact .inr ⟨by omega, by omega, rfl⟩
  · exact .inl (if_neg hshown)

@[simp] theorem masked_masked (t : Text) : masked (masked t) = masked t := by
  refine List.ext_getElem? fun i => ?_
  by_cases h : i < t.length
  · rw [getElem?_masked ((length_masked t).symm ▸ h), length_masked, getElem?_masked h]
    split <;> rfl
  · rw [List.getElem?_eq_none (by simpa using h), List.getElem?_eq_none (by simpa using h)]

private theorem mem_of_mem_masked {t : Text} {c : CodePoint} (h : c ∈ masked t) :
    c ∈ t ∨ c = mask := by
  obtain ⟨i, hi⟩ := List.mem_iff_getElem?.1 h
  have hlength : i < t.length := by
    obtain ⟨hlength, -⟩ := List.getElem?_eq_some_iff.1 hi
    simpa using hlength
  rw [getElem?_masked hlength] at hi
  split at hi
  · exact .inl (List.mem_of_getElem? hi)
  · exact .inr (Option.some.inj hi).symm

theorem isAscii_masked {t : Text} (h : ∀ c ∈ t, c.isAscii = true) :
    ∀ c ∈ masked t, c.isAscii = true := by
  intro c hc
  rcases mem_of_mem_masked hc with hmem | rfl
  · exact h c hmem
  · rfl

@[simp] theorem isEmpty_masked (t : Text) : (masked t).isEmpty = t.isEmpty := by
  rw [Bool.eq_iff_iff, List.isEmpty_iff_length_eq_zero, List.isEmpty_iff_length_eq_zero,
    length_masked]

end NodePanel.Text
