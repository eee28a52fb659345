import Mathlib.Algebra.Group.Nat.Defs
import Mathlib.Data.List.TakeDrop
import Mathlib.Data.List.TakeWhile
import NodePanel.Number.Numeral
import NodePanel.Proofs.Text.Basic

/-!
Decimal digits. A text of digits stands for the number that its parts stand for, the text of a
number stands for that number and has no needless zero in front, and a numeral that is written out
is found again by its parts.
-/
namespace NodePanel

def Text.IsDigits (t : Text) : Prop := ∀ c ∈ t, c.isAsciiDigit = true

instance : DecidablePred Text.IsDigits := fun t => inferInstanceAs (Decidable (∀ c ∈ t, _))

def digitZero : CodePoint := '0'

def zeros (n : Nat) : Text := List.replicate n digitZero

@[simp] theorem length_zeros (n : Nat) : (zeros n).length = n := List.length_replicate

@[simp] theorem singleton_append_zeros (n : Nat) : [digitZero] ++ zeros n = zeros (n + 1) := rfl

@[simp] theorem zeros_append_singleton (n : Nat) : zeros n ++ [digitZero] = zeros (n + 1) :=
  List.replicate_succ'.symm

theorem Text.span_append {p : CodePoint → Bool} {s rest : Text} (hs : ∀ c ∈ s, p c = true)
    (hrest : rest.head?.any p = false) : (s ++ rest).span p = (s, rest) := by
  rw [List.span_eq_takeWhile_dropWhile, takeWhile_append hs hrest, dropWhile_append hs hrest]

namespace Text.IsDigits

variable {s t : Text}

theorem append (hs : IsDigits s) (ht : IsDigits t) : IsDigits (s ++ t) := fun c hc =>
  (List.mem_append.1 hc).elim (hs c) (ht c)

theorem of_subset (ht : IsDigits t) (h : s ⊆ t) : IsDigits s := fun c hc => ht c (h hc)

theorem zeros (n : Nat) : IsDigits (zeros n) := fun c hc => by
  rw [List.eq_of_mem_replicate hc]
  rfl

private theorem span_eq (ht : IsDigits t) : t.span CodePoint.isAsciiDigit = (t, []) := by
  rw [List.span_eq_takeWhile_dropWhile, List.takeWhile_eq_self_iff.2 ht,
    List.dropWhile_eq_nil_iff.2 ht]

theorem span_append {rest : Text} (ht : IsDigits t)
    (hrest : rest.head?.any CodePoint.isAsciiDigit = false) :
    (t ++ rest).span CodePoint.isAsciiDigit = (t, rest) :=
  Text.span_append ht hrest

end Text.IsDigits

namespace Numeral

/-! The number that digits stand for -/

private theorem foldl_digits (t : Text) (n : Nat) :
    t.foldl (fun n c => 10 * n + (c.val - 0x30)) n = n * 10 ^ t.length + digitsValue t := by
  rw [digitsValue_eq_foldl]
  induction t generalizing n with
  | nil => simp
  | cons c t ih =>
    rw [List.foldl_cons, List.foldl_cons, ih, ih (10 * 0 + _), List.length_cons, Nat.pow_succ]
    simp only [Nat.mul_zero, Nat.zero_add, Nat.add_mul]
    rw [Nat.mul_comm 10 n, Nat.mul_assoc, Nat.mul_comm 10, Nat.add_assoc]

theorem digitsValue_append (s t : Text) :
    digitsValue (s ++ t) = digitsValue s * 10 ^ t.length + digitsValue t := by
  rw [digitsValue_eq_foldl (s ++ t), List.foldl_append, foldl_digits, ← digitsValue_eq_foldl]

private theorem digitsValue_singleton (c : CodePoint) : digitsValue [c] = c.val - 0x30 := by
  rw [digitsValue_eq_foldl]
  exact Nat.zero_add _

theorem digitsValue_cons (c : CodePoint) (t : Text) :
    digitsValue (c :: t) = (c.val - 0x30) * 10 ^ t.length + digitsValue t := by
  rw [← List.singleton_append, digitsValue_append, digitsValue_singleton]

@[simp] theorem digitsValue_zeros (n : Nat) : digitsValue (zeros n) = 0 := by
  induction n with
  | zero => rfl
  | succ n ih =>
    have hcons : zeros (n + 1) = digitZero :: zeros n := rfl
    have hzero : digitZero.val - 0x30 = 0 := rfl
    rw [hcons, digitsValue_cons, ih, hzero, Nat.zero_mul]

theorem digitsValue_lt {t : Text} (h : t.IsDigits) : digitsValue t < 10 ^ t.length := by
  induction t with
  | nil => exact Nat.one_pos
  | cons c t ih =>
    have hc := h c List.mem_cons_self
    have ht := ih fun d hd => h d (List.mem_cons_of_mem _ hd)
    simp only [CodePoint.isAsciiDigit, Bool.and_eq_true, decide_eq_true_eq] at hc
    have hmul : (c.val - 0x30) * 10 ^ t.length ≤ 9 * 10 ^ t.length :=
      Nat.mul_le_mul_right _ (by omega)
    rw [digitsValue_cons, List.length_cons, Nat.pow_succ]
    omega

/-! The text of a number -/

private theorem length_ofNat (n : Nat) : (Text.ofNat n).length = (Nat.toDigits 10 n).length :=
  List.length_map _

theorem length_ofNat_le_iff {n k : Nat} (hk : 0 < k) :
    (Text.ofNat n).length ≤ k ↔ n < 10 ^ k := by
  rw [length_ofNat]
  exact Nat.length_toDigits_le_iff (by decide) hk

theorem hasText_natCast_iff {n : Nat} : HasText n ↔ n < 10 ^ integerDigitLimit :=
  length_ofNat_le_iff (by decide)

theorem not_hasText_pow : ¬ HasText (10 ^ integerDigitLimit : Nat) := fun h =>
  Nat.lt_irrefl _ (hasText_natCast_iff.1 h)

theorem ofNat_ne_nil (n : Nat) : Text.ofNat n ≠ [] := by
  simp [Text.ofNat]

theorem isDigits_ofNat (n : Nat) : (Text.ofNat n).IsDigits := by
  intro c hc
  obtain ⟨d, hd, rfl⟩ := List.mem_map.1 hc
  have hdigit := Nat.isDigit_of_mem_toDigits (by decide) (by decide) hd
  simp only [Char.isDigit, Bool.and_eq_true, decide_eq_true_eq, UInt32.le_iff_toNat_le] at hdigit
  simp only [CodePoint.isAsciiDigit, Bool.and_eq_true, decide_eq_true_eq]
  exact hdigit

@[simp] theorem digitsValue_ofNat (n : Nat) : digitsValue (Text.ofNat n) = n := by
  rw [digitsValue_eq_foldl, Text.ofNat, List.foldl_map]
  exact Nat.ofDigitChars_toDigits (by decide) (by decide)

/-- Only the text of zero starts with a zero: without it the rest would stand for the same number in
fewer digits. -/
theorem head?_ofNat {n : Nat} (h : n ≠ 0) : (Text.ofNat n).head? ≠ some digitZero := by
  intro hzero
  obtain ⟨rest, hrest⟩ := List.head?_eq_some_iff.1 hzero
  have hdigits : Text.IsDigits rest := (isDigits_ofNat n).of_subset (by simp [hrest])
  have hvalue : digitsValue rest = n := by
    have := digitsValue_ofNat n
    rwa [hrest, digitsValue_cons, show digitZero.val - 0x30 = 0 from rfl, Nat.zero_mul,
      Nat.zero_add] at this
  have hlt := digitsValue_lt hdigits
  rw [hvalue] at hlt
  cases rest with
  | nil => exact h hvalue.symm
  | cons c rest =>
    have hlength := (length_ofNat_le_iff (Nat.succ_pos rest.length)).2 hlt
    rw [hrest] at hlength
    exact Nat.not_succ_le_self _ hlength

/-! Numerals that are written out -/

/-- The text of a numeral, with a small letter in front of the exponent. -/
def toText (n : Numeral) : Text :=
  n.sign.toList ++ (n.whole ++ ((n.fraction.elim [] fun digits => CodePoint.ofChar '.' :: digits)
    ++ (n.exponent.elim [] fun (sign, digits) => CodePoint.ofChar 'e' :: (sign.toList ++ digits))))

def IsSign (sign : Option CodePoint) : Prop :=
  ∀ c ∈ sign, c = CodePoint.ofChar '+' ∨ c = CodePoint.ofChar '-'

/-- What is written as signs and digits in a numeral is signs and digits. -/
structure IsWritten (n : Numeral) : Prop where
  sign : IsSign n.sign
  whole : n.whole.IsDigits
  fraction : ∀ digits ∈ n.fraction, digits.IsDigits
  exponent : ∀ e ∈ n.exponent, IsSign e.1 ∧ e.2.IsDigits

theorem takeSign_append {sign : Option CodePoint} {rest : Text} (hsign : IsSign sign)
    (hrest : sign = none → ∀ c ∈ rest.head?, c ≠ CodePoint.ofChar '+' ∧ c ≠ CodePoint.ofChar '-') :
    takeSign (sign.toList ++ rest) = (sign, rest) := by
  cases sign with
  | some c =>
    show (if c = CodePoint.ofChar '+' || c = CodePoint.ofChar '-' then (some c, rest) else _) = _
    rcases hsign c rfl with rfl | rfl <;> rfl
  | none =>
    cases rest with
    | nil => rfl
    | cons c rest =>
      obtain ⟨hplus, hminus⟩ := hrest rfl c rfl
      simp [takeSign, hplus, hminus]

theorem ne_sign_of_isAsciiDigit {c : CodePoint} (h : c.isAsciiDigit = true) :
    c ≠ CodePoint.ofChar '+' ∧ c ≠ CodePoint.ofChar '-' := by
  constructor
  · rintro rfl
    exact absurd h (by decide)
  · rintro rfl
    exact absurd h (by decide)

@[simp] theorem takeExponent_letter (rest : Text) :
    takeExponent (CodePoint.ofChar 'e' :: rest) =
      (some ((takeSign rest).1, ((takeSign rest).2.span CodePoint.isAsciiDigit).1),
        ((takeSign rest).2.span CodePoint.isAsciiDigit).2) :=
  rfl

@[simp] theorem takePoint_point (rest : Text) :
    takePoint (CodePoint.ofChar '.' :: rest) =
      (some (rest.span CodePoint.isAsciiDigit).1, (rest.span CodePoint.isAsciiDigit).2) :=
  rfl

private theorem takeExponent_elim {exponent : Option (Option CodePoint × Text)}
    (h : ∀ e ∈ exponent, IsSign e.1 ∧ e.2.IsDigits) :
    takeExponent (exponent.elim [] fun (sign, digits) =>
      CodePoint.ofChar 'e' :: (sign.toList ++ digits)) = (exponent, []) := by
  cases exponent with
  | none => rfl
  | some e =>
    obtain ⟨sign, digits⟩ := e
    obtain ⟨hsign, hdigits⟩ := h _ rfl
    have htake : takeSign (sign.toList ++ digits) = (sign, digits) :=
      takeSign_append hsign fun _ c hc =>
        ne_sign_of_isAsciiDigit (hdigits c (List.mem_of_mem_head? hc))
    rw [Option.elim_some, takeExponent_letter, htake, hdigits.span_eq]

theorem ofText?_toText {n : Numeral} (h : n.IsWritten) : ofText? n.toText = some n := by
  obtain ⟨sign, whole, fraction, exponent⟩ := n
  obtain ⟨hsign, hwhole, hfraction, hexponent⟩ := h
  let tail : Text := exponent.elim [] fun (sign, digits) =>
    CodePoint.ofChar 'e' :: (sign.toList ++ digits)
  let middle : Text := fraction.elim [] fun digits => CodePoint.ofChar '.' :: digits
  have htail : tail.head?.any CodePoint.isAsciiDigit = false := by
    cases exponent <;> rfl
  have hmiddle : (middle ++ tail).head?.any CodePoint.isAsciiDigit = false := by
    cases fraction with
    | none => exact htail
    | some digits => rfl
  have htakeSign : takeSign (sign.toList ++ (whole ++ (middle ++ tail))) =
      (sign, whole ++ (middle ++ tail)) := by
    refine takeSign_append hsign fun _ c hc => ?_
    cases whole with
    | cons d whole =>
      cases hc
      exact ne_sign_of_isAsciiDigit (hwhole c List.mem_cons_self)
    | nil =>
      cases fraction with
      | some digits =>
        cases hc
        decide
      | none =>
        cases exponent with
        | some e =>
          cases hc
          decide
        | none => contradiction
  have htakePoint : takePoint (middle ++ tail) = (fraction, tail) := by
    cases fraction with
    | none =>
      cases exponent <;> rfl
    | some digits =>
      have hspan := (hfraction digits rfl).span_append htail
      show takePoint (CodePoint.ofChar '.' :: (digits ++ tail)) = _
      rw [takePoint_point, hspan]
  show ofText? (sign.toList ++ (whole ++ (middle ++ tail))) = _
  unfold ofText?
  rw [htakeSign]
  simp only [hwhole.span_append hmiddle, htakePoint]
  rw [takeExponent_elim hexponent]
  rfl

theorem isDigits_whole {t : Text} {n : Numeral} (h : ofText? t = some n) : n.whole.IsDigits := by
  unfold ofText? at h
  dsimp only at h
  split at h
  · cases h
    intro c hc
    rw [List.span_eq_takeWhile_dropWhile] at hc
    exact List.all_eq_true.1 List.all_takeWhile c hc
  · contradiction

end Numeral

/-! The text of a number read back -/

namespace Text.IsDigits

variable {t : Text}

theorem asciiDigits_eq (h : t.IsDigits) : asciiDigits t = t := by
  refine (List.map_congr_left fun c hc => ?_).trans (List.map_id t)
  have hdigit := h c hc
  simp only [CodePoint.isAsciiDigit, Bool.and_eq_true, decide_eq_true_eq] at hdigit
  have hvalue : c.digitValue? = some (c.val - 0x30) := by
    rw [CodePoint.digitValue?, if_pos (by omega), if_pos (h c hc)]
  rw [hvalue]
  show CodePoint.ofNat (0x30 + (c.val - 0x30)) = c
  rw [show 0x30 + (c.val - 0x30) = c.val by omega, CodePoint.ofNat_val]

private theorem trimWhiteSpace_eq (h : t.IsDigits) : trimWhiteSpace t = t := by
  refine (isTrimmed_of_forall fun c hc => ?_).trim
  have hdigit := h c hc
  simp only [CodePoint.isAsciiDigit, Bool.and_eq_true, decide_eq_true_eq] at hdigit
  simp only [CodePoint.isWhiteSpace, Bool.or_eq_false_iff, Bool.and_eq_false_iff,
    decide_eq_false_iff_not, beq_eq_false_iff_ne]
  omega

theorem dropUnderscores?_eq (h : t.IsDigits) : dropUnderscores? t = some t := by
  have hgo (afterDigit : Bool) : dropUnderscores?.go t afterDigit = some t := by
    induction t generalizing afterDigit with
    | nil => rfl
    | cons c t ih =>
      have hc : c ≠ CodePoint.ofChar '_' := by
        rintro rfl
        exact absurd (h _ List.mem_cons_self) (by decide)
      have hrest := ih (fun d hd => h d (List.mem_cons_of_mem c hd)) c.isAsciiDigit
      simp [dropUnderscores?.go, hc, hrest]
  exact hgo false

end Text.IsDigits

theorem Text.toInt?_ofNat {n : Nat} (h : (Text.ofNat n).length ≤ integerDigitLimit) :
    Text.toInt? (Text.ofNat n) = some n := by
  have hdigits := Numeral.isDigits_ofNat n
  have hwritten : (Numeral.mk none (Text.ofNat n) none none).IsWritten :=
    ⟨nofun, hdigits, nofun, nofun⟩
  have hread : Numeral.ofText? (Text.ofNat n) = some ⟨none, Text.ofNat n, none, none⟩ := by
    simpa [Numeral.toText] using Numeral.ofText?_toText hwritten
  have hvalue : (Numeral.mk none (Text.ofNat n) none none).toInt = n :=
    congrArg Int.ofNat (Numeral.digitsValue_ofNat n)
  unfold Text.toInt?
  rw [hdigits.asciiDigits_eq, hdigits.trimWhiteSpace_eq, hdigits.dropUnderscores?_eq]
  simp [hread, hvalue, Numeral.isInteger, Numeral.ofNat_ne_nil, h]

end NodePanel
