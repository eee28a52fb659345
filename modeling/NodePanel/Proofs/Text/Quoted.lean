import NodePanel.Proofs.Text.Surrogate
import NodePanel.Text.Quoted

/-!
What a text in quotes shows. Every code point in it has a visible form, and it is at most ten times as
long as the text, apart from the quotes.
-/
namespace NodePanel

namespace CodePoint

theorem isPrintable_of_ascii {c : CodePoint} (hlow : 0x20 ≤ c.val) (hhigh : c.val < 0x7F) :
    c.isPrintable = true := by
  unfold isPrintable
  rw [if_pos hhigh]
  exact decide_eq_true hlow

@[simp] theorem isPrintable_hexDigit (n : Nat) : (hexDigit n).isPrintable = true := by
  have hdigit : n % 16 < 16 := Nat.mod_lt n (by decide)
  unfold hexDigit
  split
  · apply isPrintable_of_ascii <;> rw [val_ofNat (by omega)] <;> omega
  · apply isPrintable_of_ascii <;> rw [val_ofNat (by omega)] <;> omega

private theorem isPrintable_of_mem_hexText {width n : Nat} {c : CodePoint}
    (h : c ∈ hexText width n) :
    c.isPrintable = true := by
  induction width generalizing n with
  | zero => contradiction
  | succ width ih =>
    rcases List.mem_append.1 h with h | h
    · exact ih h
    · rw [List.mem_singleton.1 h]
      exact isPrintable_hexDigit n

private theorem isPrintable_of_mem_escape {c d : CodePoint} (h : d ∈ c.escape) :
    d.isPrintable = true := by
  have hmark (letter : String) (hletter : ∀ d ∈ Text.ofString letter, d.isPrintable = true)
      {width : Nat} (h : d ∈ Text.ofString letter ++ hexText width c.val) :
      d.isPrintable = true :=
    (List.mem_append.1 h).elim (hletter d) isPrintable_of_mem_hexText
  unfold escape at h
  split at h
  · exact hmark _ (by decide) h
  · split at h
    · exact hmark _ (by decide) h
    · exact hmark _ (by decide) h

private theorem length_escape_le (c : CodePoint) : c.escape.length ≤ 10 := by
  unfold escape
  split
  · simp [Text.ofString]
  · split <;> simp [Text.ofString]

end CodePoint

namespace Text

@[simp] theorem isPrintable_quote (t : Text) : (quote t).isPrintable = true := by
  unfold quote
  split <;> decide

private theorem length_quotedPoint_le (mark c : CodePoint) : (quotedPoint mark c).length ≤ 10 := by
  unfold quotedPoint
  repeat' split
  all_goals first
    | exact c.length_escape_le
    | exact Nat.le_of_ble_eq_true rfl

private theorem isPrintable_of_mem_quotedPoint {mark c d : CodePoint}
    (hmark : mark.isPrintable = true)
    (h : d ∈ quotedPoint mark c) : d.isPrintable = true := by
  have hnamed : ∀ t ∈ [Text.ofString "\\t", Text.ofString "\\n", Text.ofString "\\r"],
      ∀ d ∈ t, d.isPrintable = true := by decide
  unfold quotedPoint at h
  split at h
  next hescaped =>
    rcases List.mem_cons.1 h with rfl | h
    · decide
    · rw [List.mem_singleton.1 h]
      rcases Bool.or_eq_true_iff.1 hescaped with hc | hc
      · rwa [of_decide_eq_true hc]
      · rw [of_decide_eq_true hc]
        decide
  next =>
    repeat' split at h
    · exact hnamed _ (by simp) d h
    · exact hnamed _ (by simp) d h
    · exact hnamed _ (by simp) d h
    next hc => rwa [List.mem_singleton.1 h]
    next => exact CodePoint.isPrintable_of_mem_escape h

theorem isPrintable_of_mem_quoted {t : Text} {d : CodePoint} (h : d ∈ quoted t) :
    d.isPrintable = true := by
  have hquote := isPrintable_quote t
  rcases List.mem_append.1 h with h | h
  · rcases List.mem_cons.1 h with rfl | h
    · exact hquote
    · obtain ⟨c, -, hc⟩ := List.mem_flatMap.1 h
      exact isPrintable_of_mem_quotedPoint hquote hc
  · rwa [List.mem_singleton.1 h]

theorem length_quoted_le (t : Text) : (quoted t).length ≤ 10 * t.length + 2 := by
  have hpoints (mark : CodePoint) : (t.flatMap (quotedPoint mark)).length ≤ 10 * t.length := by
    induction t with
    | nil => exact Nat.le_refl 0
    | cons c t ih =>
      have hc := length_quotedPoint_le mark c
      rw [List.flatMap_cons, List.length_append, List.length_cons]
      omega
  have hle := hpoints (quote t)
  unfold quoted
  simp only [List.cons_append, List.length_cons, List.length_append, List.length_nil]
  omega

end Text

end NodePanel
