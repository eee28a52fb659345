import NodePanel.Json.Reader
import NodePanel.Json.Writer
import NodePanel.Proofs.Number.Shortest

/-!
The words of JSON text: `null`, the truth values and the numbers. A word is read as a whole once
something that cannot belong to it comes up, so what matters of its text is that every code point of
it may stand in a word and which value the text stands for.
-/
namespace NodePanel.Json

open Reader

/-- A text that is read as a word and stands for a value. -/
structure IsWord (t : Text) (v : Json) : Prop where
  ne_nil : t ≠ []
  points : ∀ c ∈ t, isWordPoint c = true
  value : wordValue? t = some v

theorem isWord_null : IsWord "null" .null := ⟨by decide, by decide, rfl⟩

theorem isWord_bool (b : Bool) : IsWord (if b then "true" else "false") (.bool b) := by
  cases b
  · exact ⟨by decide, by decide, rfl⟩
  · exact ⟨by decide, by decide, rfl⟩

/-! Numbers -/

theorem isWordPoint_of_isAsciiDigit {c : CodePoint} (h : c.isAsciiDigit = true) :
    isWordPoint c = true := by
  simp [isWordPoint, h]

theorem isWordPoint_of_isSign {sign : Option CodePoint} (h : Numeral.IsSign sign) :
    ∀ c ∈ sign.toList, isWordPoint c = true := by
  intro c hc
  rcases h c (Option.mem_toList.1 hc) with rfl | rfl <;> rfl

theorem isWordPoint_toText {n : Numeral} (h : n.IsWritten) : ∀ c ∈ n.toText, isWordPoint c = true := by
  obtain ⟨sign, whole, fraction, exponent⟩ := n
  obtain ⟨hsign, hwhole, hfraction, hexponent⟩ := h
  intro c hc
  simp only [Numeral.toText, List.mem_append] at hc
  rcases hc with hc | hc | hc | hc
  · exact isWordPoint_of_isSign hsign c hc
  · exact isWordPoint_of_isAsciiDigit (hwhole c hc)
  · cases fraction with
    | none => contradiction
    | some digits =>
      rcases List.mem_cons.1 hc with rfl | hc
      · rfl
      · exact isWordPoint_of_isAsciiDigit (hfraction digits rfl c hc)
  · cases exponent with
    | none => contradiction
    | some e =>
      obtain ⟨hsign, hdigits⟩ := hexponent e rfl
      rcases List.mem_cons.1 hc with rfl | hc
      · rfl
      · rcases List.mem_append.1 hc with hc | hc
        · exact isWordPoint_of_isSign hsign c hc
        · exact isWordPoint_of_isAsciiDigit (hdigits c hc)

private theorem wordValue?_eq_numberOf? {t : Text} {n : Numeral} (h : Numeral.ofText? t = some n) :
    wordValue? t = numberOf? n := by
  have hother {word : Text} (hword : Numeral.ofText? word = none) : t ≠ word := by
    rintro rfl
    rw [hword] at h
    contradiction
  unfold wordValue?
  rw [if_neg (hother rfl), if_neg (hother rfl), if_neg (hother rfl), if_neg (hother rfl),
    if_neg (hother rfl), if_neg (hother rfl), h]
  rfl

theorem isWord_toText {n : Numeral} {v : Json} (h : n.IsWritten) (hnumber : numberOf? n = some v) :
    IsWord n.toText v := by
  refine ⟨fun hnil => ?_, isWordPoint_toText h, ?_⟩
  · have hwhole : n.whole = [] := by
      simp only [Numeral.toText, List.append_eq_nil_iff] at hnil
      exact hnil.2.1
    simp [numberOf?, isNumber, hwhole] at hnumber
  · rw [wordValue?_eq_numberOf? (Numeral.ofText?_toText h), hnumber]

theorem isNumber_iff {n : Numeral} :
    isNumber n = true ↔ n.sign ≠ some (CodePoint.ofChar '+') ∧ n.whole ≠ [] ∧
      (n.whole.length = 1 ∨ n.whole.head? ≠ some digitZero) ∧
      (∀ digits ∈ n.fraction, digits ≠ []) ∧ ∀ e ∈ n.exponent, e.2 ≠ [] := by
  simp [isNumber, and_assoc, digitZero, Option.all_eq_true]

theorem signOf_ne_plus (negative : Bool) :
    Binary64.signOf negative ≠ some (CodePoint.ofChar '+') := by
  cases negative <;> decide

def intNumeral (n : Int) : Numeral :=
  ⟨Binary64.signOf (n < 0), Text.ofNat n.natAbs, none, none⟩

@[simp] theorem toText_intNumeral (n : Int) : (intNumeral n).toText = Text.ofInt n := by
  unfold intNumeral Numeral.toText Text.ofInt
  by_cases hn : n < 0
  · simp [hn, Binary64.signOf]
  · simp [hn, Binary64.signOf]

@[simp] theorem isNumber_intNumeral (n : Int) : isNumber (intNumeral n) = true := by
  refine isNumber_iff.2 ⟨signOf_ne_plus _, Numeral.ofNat_ne_nil _, ?_, nofun, nofun⟩
  by_cases hzero : n.natAbs = 0
  · left
    show (Text.ofNat n.natAbs).length = 1
    rw [hzero]
    rfl
  · exact .inr (Numeral.head?_ofNat hzero)

@[simp] theorem toInt_intNumeral (n : Int) : (intNumeral n).toInt = n := by
  show Binary64.withSign (Numeral.isMinus (Binary64.signOf (n < 0)))
    (Numeral.digitsValue (Text.ofNat n.natAbs)) = n
  rw [Binary64.isMinus_signOf, Numeral.digitsValue_ofNat]
  unfold Binary64.withSign
  split
  next hn =>
    have := of_decide_eq_true hn
    omega
  next hn =>
    have := of_decide_eq_false (Bool.eq_false_iff.2 hn)
    omega

theorem isWritten_intNumeral (n : Int) : (intNumeral n).IsWritten :=
  ⟨Binary64.isSign_signOf _, Numeral.isDigits_ofNat _, nofun, nofun⟩

theorem isWord_int {n : Int} (h : HasText n) :
    IsWord (Text.ofInt n) (.int n) := by
  rw [← toText_intNumeral]
  refine isWord_toText (isWritten_intNumeral n) ?_
  have hlength : (intNumeral n).whole.length ≤ integerDigitLimit := h
  have hinteger : (intNumeral n).isInteger = true := rfl
  unfold numberOf?
  rw [isNumber_intNumeral, if_neg (by decide), hinteger, if_pos rfl, if_pos hlength,
    toInt_intNumeral]

private theorem isNumber_layoutNumeral (negative : Bool) {digits : Text} {point : Int}
    (hne : digits ≠ []) (hhead : digits.head? ≠ some digitZero) :
    isNumber (Binary64.layoutNumeral negative digits point) = true := by
  have hsign := signOf_ne_plus negative
  have hlength := List.length_pos_iff.2 hne
  unfold Binary64.layoutNumeral
  refine isNumber_iff.2 ?_
  split
  · split
    · exact ⟨hsign, List.cons_ne_nil _ _, .inl rfl, by simp [hne], nofun⟩
    · split
      · refine ⟨hsign, by simp [hne], .inr ?_, by simp, nofun⟩
        cases digits with
        | nil => contradiction
        | cons c rest => exact hhead
      next hpoint hshort =>
        refine ⟨hsign, ?_, .inr ?_, ?_, nofun⟩
        · rw [Ne, List.take_eq_nil_iff, not_or]
          exact ⟨by omega, hne⟩
        · rw [List.head?_take, if_neg (by omega)]
          exact hhead
        · rintro _ ⟨⟩
          rw [Ne, List.drop_eq_nil_iff]
          omega
  · refine ⟨hsign, ?_, .inl ?_, ?_, ?_⟩
    · rw [Ne, List.take_eq_nil_iff]
      simp [hne]
    · rw [List.length_take]
      omega
    · intro part hpart
      dsimp only at hpart
      split at hpart
      · contradiction
      next hlong =>
        cases hpart
        rw [Ne, List.drop_eq_nil_iff]
        exact hlong
    · rintro _ ⟨⟩
      exact List.append_ne_nil_of_right_ne_nil _ (Numeral.ofNat_ne_nil _)

@[simp] theorem isInteger_layoutNumeral (negative : Bool) (digits : Text) (point : Int) :
    (Binary64.layoutNumeral negative digits point).isInteger = false := by
  unfold Binary64.layoutNumeral
  split
  · split
    · rfl
    · split <;> rfl
  · exact Bool.and_false _

private theorem isWord_finite (negative : Bool) (magnitude : Fin Binary64.limit) :
    IsWord (floatText (.finite negative magnitude)) (.float (.finite negative magnitude)) := by
  have hwritten : (Binary64.numeral negative magnitude.val).IsWritten := by
    unfold Binary64.numeral
    split
    · exact Binary64.isWritten_layoutNumeral (Text.IsDigits.zeros 1) negative 1
    · exact Binary64.isWritten_layoutNumeral (Binary64.isDigits_significantDigits _) negative _
  have hnumber : isNumber (Binary64.numeral negative magnitude.val) = true := by
    unfold Binary64.numeral
    split
    · cases negative <;> rfl
    next hzero =>
      obtain ⟨c, rest, hcons, hc⟩ := Binary64.significantDigits_eq_cons magnitude.isLt hzero
      rw [hcons]
      exact isNumber_layoutNumeral negative (List.cons_ne_nil _ _) fun hhead =>
        hc (Option.some.inj hhead)
  have hinteger : (Binary64.numeral negative magnitude.val).isInteger = false := by
    unfold Binary64.numeral
    split <;> exact isInteger_layoutNumeral _ _ _
  have htext : floatText (.finite negative magnitude) =
      (Binary64.numeral negative magnitude.val).toText := by
    rw [Binary64.toText_numeral]
    cases negative <;> rfl
  rw [htext]
  refine isWord_toText hwritten ?_
  unfold numberOf?
  rw [hnumber, if_neg (by decide), hinteger, if_neg (by decide), Binary64.toBinary64_numeral]

theorem isWord_float (x : Binary64) : IsWord (floatText x) (.float x) := by
  cases x with
  | finite negative magnitude => exact isWord_finite negative magnitude
  | infinite negative =>
    cases negative
    · exact ⟨by decide, by decide, rfl⟩
    · exact ⟨by decide, by decide, rfl⟩
  | nan => exact ⟨by decide, by decide, rfl⟩

end NodePanel.Json
