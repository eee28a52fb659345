import NodePanel.Proofs.Json.Word
import NodePanel.Proofs.Record.Coercion

/-!
The decimal text of an integer names that integer, as long as it has no more digits than are read. An
integer that is written as a floating-point number never has so many.
-/
namespace NodePanel

namespace Text

variable {n : Int}

@[simp] theorem asciiDigits_ofInt (n : Int) : asciiDigits (ofInt n) = ofInt n := by
  have hdigits := (Numeral.isDigits_ofNat n.natAbs).asciiDigits_eq
  unfold ofInt
  split
  · exact congrArg (CodePoint.ofChar '-' :: ·) hdigits
  · exact hdigits

@[simp] theorem trimWhiteSpace_ofInt (n : Int) : trimWhiteSpace (ofInt n) = ofInt n := by
  apply (isTrimmed_of_forall fun c hc => _).trim
  intro c hc
  have hblank := Coercion.isBlank_of_mem_ofInt hc
  simp_all [CodePoint.isBlank]

@[simp] theorem dropUnderscores?_ofInt (n : Int) : dropUnderscores? (ofInt n) = some (ofInt n) := by
  have hdigits := (Numeral.isDigits_ofNat n.natAbs).dropUnderscores?_eq
  unfold ofInt
  split
  · show (dropUnderscores? (ofNat n.natAbs)).map (CodePoint.ofChar '-' :: ·) = _
    rw [hdigits]
    rfl
  · exact hdigits

theorem toInt?_ofInt (h : HasText n) : toInt? (ofInt n) = some n := by
  have hread : Numeral.ofText? (ofInt n) = some (Json.intNumeral n) := by
    rw [← Json.toText_intNumeral, Numeral.ofText?_toText (Json.isWritten_intNumeral n)]
  have hwhole : (Json.intNumeral n).whole ≠ [] := Numeral.ofNat_ne_nil _
  have hinteger : (Json.intNumeral n).isInteger = true := rfl
  have hlength : (Json.intNumeral n).whole.length ≤ integerDigitLimit := h
  unfold toInt?
  rw [asciiDigits_ofInt, trimWhiteSpace_ofInt, dropUnderscores?_ofInt]
  simp [hread, hinteger, hwhole, hlength]

theorem hasText_of_toInt? {t : Text} (h : toInt? t = some n) : HasText n := by
  obtain ⟨u, -, hu⟩ := Option.bind_eq_some_iff.1 h
  obtain ⟨numeral, hnumeral, hread⟩ := Option.bind_eq_some_iff.1 hu
  split at hread
  next hshort =>
    cases hread
    simp only [Bool.and_eq_true, decide_eq_true_eq] at hshort
    unfold HasText Numeral.toInt
    rw [Binary64.natAbs_withSign, Numeral.length_ofNat_le_iff (by decide)]
    exact (Numeral.digitsValue_lt (Numeral.isDigits_whole hnumeral)).trans_le
      (Nat.pow_le_pow_right (by decide) hshort.2)
  next => contradiction

end Text

namespace Binary64

private theorem lt_pow_of_units_eq {magnitude s k d : Nat} (hlimit : magnitude < (s + 2) * binade)
    (h : units magnitude = k * one) (hsum : 53 + s = d + unitExponent) : k < 2 ^ d := by
  have hunits := units_lt hlimit
  rw [h, two_mul_binade, ← Nat.pow_add, hsum, Nat.pow_add, ← one_eq] at hunits
  exact Nat.lt_of_mul_lt_mul_right hunits

def topExponent : Nat := 1024

private theorem lt_of_units_eq {magnitude : Fin limit} {k : Nat}
    (h : units magnitude.val = k * one) :
    k < 2 ^ topExponent :=
  lt_pow_of_units_eq (s := 2045) magnitude.isLt h rfl

theorem hasText_withSign {magnitude : Fin limit} {k : Nat}
    (h : units magnitude.val = k * one) (negative : Bool) :
    HasText (withSign negative k) := by
  unfold HasText
  rw [natAbs_withSign, Numeral.length_ofNat_le_iff (by decide)]
  calc
    k < 2 ^ topExponent := lt_of_units_eq h
    _ ≤ 10 ^ topExponent := Nat.pow_le_pow_left (by decide) topExponent
    _ ≤ 10 ^ integerDigitLimit := Nat.pow_le_pow_right (by decide) (by decide)

end Binary64

end NodePanel
