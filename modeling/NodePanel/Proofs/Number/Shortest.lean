import NodePanel.Number.Shortest
import NodePanel.Proofs.Number.Digits
import NodePanel.Proofs.Number.Nearest
import NodePanel.Proofs.Text.Basic

/-!
The text of a floating-point number reads back as the number. The digits that are tried first are
taken only if they do; with seventeen digits the grid of decimals is finer than the magnitudes, so
the nearest decimal is always good enough. The layout with zeros, a point or an exponent does not
change the decimal.
-/
namespace NodePanel.Binary64

variable {magnitude : Nat}

/-! The digits -/

@[simp] theorem decimalMagnitude_zero (e : Int) : decimalMagnitude 0 e = 0 := by
  unfold decimalMagnitude
  rw [Nat.zero_mul, Nat.zero_mul, nearest_of_small (Nat.pow_pos (by decide))]

private theorem onGrid_eq (n : Nat) (e : Int) :
    onGrid n e = (n * 10 ^ (-e).toNat, one * 10 ^ e.toNat) := by
  unfold onGrid
  split
  next he =>
    have hnegative : (-e).toNat = 0 := by omega
    rw [hnegative, Nat.pow_zero, Nat.mul_one]
    rfl
  next he =>
    have hpositive : e.toNat = 0 := by omega
    rw [hpositive, Nat.pow_zero, Nat.mul_one]
    rfl

theorem eq_of_readsBack {digits : Nat} {e : Int} (hlt : magnitude < limit)
    (h : (ofDecimal false digits e == ofMagnitude false magnitude) = true) :
    decimalMagnitude digits e = magnitude := by
  rw [beq_iff_eq, ofDecimal_eq] at h
  exact eq_of_ofMagnitude_eq hlt h

private theorem decimalMagnitude_of_onGrid {digits : Nat} {e : Int} (hlt : magnitude < limit)
    (h : onGridReadingBack? magnitude e = some digits) : decimalMagnitude digits e = magnitude := by
  unfold onGridReadingBack? at h
  generalize onGrid (units magnitude) e = ratio at h
  obtain ⟨num, den⟩ := ratio
  dsimp only at h
  split at h
  next hboth =>
    obtain ⟨hlower, hupper⟩ := Bool.and_eq_true_iff.1 hboth
    have hle := div_le_roundHalfEven num den
    have hge := roundHalfEven_le num den
    rcases Nat.lt_or_eq_of_le hge with hlt' | heq
    · rw [Nat.le_antisymm (Nat.le_of_lt_succ hlt') hle] at h
      rw [← Option.some.inj h]
      exact eq_of_readsBack hlt hlower
    · rw [heq] at h
      rw [← Option.some.inj h]
      exact eq_of_readsBack hlt hupper
  next =>
    split at h
    next hlower =>
      rw [← Option.some.inj h]
      exact eq_of_readsBack hlt hlower
    next =>
      split at h
      next hupper =>
        rw [← Option.some.inj h]
        exact eq_of_readsBack hlt (Bool.and_eq_true_iff.1 hupper).1
      next => contradiction

private theorem one_mul_pow_le {n : Nat} (hn : n ≠ 0) :
    one * 10 ^ (decimalPoint n - 1).toNat ≤ n * 10 ^ (1 - decimalPoint n).toNat := by
  unfold decimalPoint
  split
  next hone =>
    have hquotient : 0 < n / one := Nat.div_pos hone one_pos
    have hlength : 0 < (Nat.toDigits 10 (n / one)).length := Nat.length_toDigits_pos
    have hpow : 10 ^ ((Nat.toDigits 10 (n / one)).length - 1) ≤ n / one := by
      by_cases hsingle : (Nat.toDigits 10 (n / one)).length = 1
      · rw [hsingle]
        exact hquotient
      · refine Nat.le_of_not_lt fun hlt => ?_
        have := (Nat.length_toDigits_le_iff (by decide) (by omega)).2 hlt
        omega
    have hleft (k : Nat) : ((k : Int) - 1).toNat = k - 1 := by omega
    have hright : (1 - ((Nat.toDigits 10 (n / one)).length : Int)).toNat = 0 := by omega
    rw [hleft, hright, Nat.pow_zero, Nat.mul_one, Nat.mul_comm]
    exact (Nat.le_div_iff_mul_le one_pos).1 hpow
  next hone =>
    have hlt : one / n < 10 ^ (Nat.toDigits 10 (one / n)).length :=
      (Nat.length_toDigits_le_iff (by decide) Nat.length_toDigits_pos).1 (Nat.le_refl _)
    have hleft (k : Nat) : (1 - (k : Int) - 1).toNat = 0 := by omega
    have hright (k : Nat) : (1 - (1 - (k : Int))).toNat = k := by omega
    rw [hleft, hright, Nat.pow_zero, Nat.mul_one, Nat.mul_comm]
    exact Nat.le_of_lt ((Nat.div_lt_iff_lt_mul (Nat.pos_of_ne_zero hn)).1 hlt)

private theorem roundHalfEven_error (num : Nat) {den : Nat} (hden : 0 < den) :
    2 * (roundHalfEven num den * den) ≤ 2 * num + den ∧
      2 * num ≤ 2 * (roundHalfEven num den * den) + den := by
  have hdiv := Nat.div_add_mod num den
  have hmod := Nat.mod_lt num hden
  unfold roundHalfEven
  dsimp only
  split
  · rw [Nat.mul_comm (num / den)]
    omega
  · split
    · rw [Nat.add_mul, Nat.one_mul, Nat.mul_comm (num / den)]
      omega
    · rcases Nat.mod_two_eq_zero_or_one (num / den) with heven | hodd
      · rw [heven, Nat.add_zero, Nat.mul_comm (num / den)]
        omega
      · rw [hodd, Nat.add_mul, Nat.one_mul, Nat.mul_comm (num / den)]
        omega

/-- A grid of which `10 ^ 16` steps fit below a number is fine enough for it, because a magnitude
has less than `2 ^ 53` steps below it. -/
theorem decimalMagnitude_of_fine {e : Int}
    (hfine : one * 10 ^ e.toNat * 10 ^ 16 ≤ units magnitude * 10 ^ (-e).toNat) :
    decimalMagnitude (roundHalfEven (units magnitude * 10 ^ (-e).toNat) (one * 10 ^ e.toNat)) e =
      magnitude := by
  have hden : 0 < one * 10 ^ e.toNat := Nat.mul_pos one_pos (Nat.pow_pos (by decide))
  obtain ⟨habove, hbelow⟩ := roundHalfEven_error (units magnitude * 10 ^ (-e).toNat) hden
  have hsignificand := significand_lt magnitude
  have hplaces : 0 < 10 ^ (-e).toNat := Nat.pow_pos (by decide)
  have hstep : 0 < 10 ^ (-e).toNat * 2 ^ scale magnitude :=
    Nat.mul_pos hplaces (Nat.pow_pos Nat.two_pos)
  unfold decimalMagnitude
  rw [Nat.mul_assoc, Nat.mul_comm (10 ^ e.toNat) one]
  generalize one * 10 ^ e.toNat = den at *
  generalize roundHalfEven _ den * den = num at *
  have hunits : units magnitude * 10 ^ (-e).toNat =
      significand magnitude * (10 ^ (-e).toNat * 2 ^ scale magnitude) := by
    rw [units_eq, Nat.mul_assoc, Nat.mul_comm (2 ^ scale magnitude)]
  have hsteps := Nat.mul_le_mul_right (10 ^ (-e).toNat * 2 ^ scale magnitude)
    (Nat.le_of_lt hsignificand)
  rw [two_mul_binade, ← hunits] at hsteps
  refine nearest_eq_of_close hplaces ?_ (fun hfirst => ?_) ?_
  · omega
  · rw [hfirst, binade_eq] at hunits
    omega
  · omega

private theorem units_ne_zero (h : magnitude ≠ 0) : units magnitude ≠ 0 := by
  have hsum := scale_add_significand magnitude
  have hsignificand : significand magnitude ≠ 0 := by
    intro hzero
    rcases Nat.eq_zero_or_pos (scale magnitude) with hscale | hscale
    · rw [hzero, hscale, Nat.zero_mul] at hsum
      exact h hsum.symm
    · have := binade_le_significand hscale
      have := binade_pos
      omega
  exact Nat.mul_ne_zero hsignificand (Nat.ne_of_gt (Nat.pow_pos Nat.two_pos))

private theorem decimalMagnitude_seventeen (h : magnitude ≠ 0) :
    decimalMagnitude
      (roundHalfEven (onGrid (units magnitude) (decimalPoint (units magnitude) - 17)).1
        (onGrid (units magnitude) (decimalPoint (units magnitude) - 17)).2)
      (decimalPoint (units magnitude) - 17) = magnitude := by
  have hpoint := one_mul_pow_le (units_ne_zero h)
  generalize decimalPoint (units magnitude) = point at *
  rw [onGrid_eq]
  refine decimalMagnitude_of_fine ?_
  obtain ⟨k, hpositive, hnegative⟩ : ∃ k, (point - 17).toNat + 16 = (point - 1).toNat + k ∧
      (-(point - 17)).toNat = (1 - point).toNat + k :=
    ⟨(-(point - 17)).toNat - (1 - point).toNat, by omega, by omega⟩
  rw [Nat.mul_assoc, ← Nat.pow_add, hpositive, hnegative, Nat.pow_add, Nat.pow_add, ← Nat.mul_assoc,
    ← Nat.mul_assoc]
  exact Nat.mul_le_mul_right _ hpoint

private theorem decimalMagnitude_shortestFrom (hlt : magnitude < limit) {point : Int}
    {tries count : Nat}
    (hlast : decimalMagnitude
      (roundHalfEven (onGrid (units magnitude) (point - (count + tries : Nat))).1
        (onGrid (units magnitude) (point - (count + tries : Nat))).2)
      (point - (count + tries : Nat)) = magnitude) :
    decimalMagnitude (shortestFrom magnitude point tries count).1
      (shortestFrom magnitude point tries count).2 = magnitude := by
  induction tries generalizing count with
  | zero => exact hlast
  | succ tries ih =>
    unfold shortestFrom
    split
    next digits hdigits => exact decimalMagnitude_of_onGrid hlt hdigits
    next =>
      refine ih ?_
      rwa [Nat.add_right_comm]

theorem decimalMagnitude_shortest (hlt : magnitude < limit) (h : magnitude ≠ 0) :
    decimalMagnitude (shortest magnitude).1 (shortest magnitude).2 = magnitude :=
  decimalMagnitude_shortestFrom hlt (decimalMagnitude_seventeen h)

private theorem shortest_ne_zero (hlt : magnitude < limit) (h : magnitude ≠ 0) :
    (shortest magnitude).1 ≠ 0 := by
  intro hzero
  have hmagnitude := decimalMagnitude_shortest hlt h
  rw [hzero, decimalMagnitude_zero] at hmagnitude
  exact h hmagnitude.symm

/-! The layout -/

def signOf (negative : Bool) : Option CodePoint :=
  if negative then some (CodePoint.ofChar '-') else none

def layoutNumeral (negative : Bool) (digits : Text) (point : Int) : Numeral :=
  if -4 < point && point ≤ 16 then
    if point ≤ 0 then
      ⟨signOf negative, [digitZero], some (zeros (-point).toNat ++ digits), none⟩
    else if digits.length ≤ point.toNat then
      ⟨signOf negative, digits ++ zeros (point.toNat - digits.length), some [digitZero], none⟩
    else ⟨signOf negative, digits.take point.toNat, some (digits.drop point.toNat), none⟩
  else
    let width := Text.ofNat (point - 1).natAbs
    ⟨signOf negative, digits.take 1, if digits.length ≤ 1 then none else some (digits.drop 1),
      some (some (CodePoint.ofChar (if point - 1 < 0 then '-' else '+')),
        zeros (2 - width.length) ++ width)⟩

@[simp] theorem toText_layoutNumeral (negative : Bool) (digits : Text) (point : Int) :
    (layoutNumeral negative digits point).toText =
      (signOf negative).toList ++ layout digits point := by
  have hpoint : Text.ofString "." = [CodePoint.ofChar '.'] := rfl
  have hzero : Text.ofString "0." = [digitZero, CodePoint.ofChar '.'] := rfl
  have hend : Text.ofString ".0" = [CodePoint.ofChar '.', digitZero] := rfl
  have hletter (b : Prop) [Decidable b] : Text.ofString (if b then "e-" else "e+") =
      [CodePoint.ofChar 'e', CodePoint.ofChar (if b then '-' else '+')] := by
    split <;> rfl
  unfold layoutNumeral layout Numeral.toText
  simp only [hpoint, hzero, hend, hletter]
  split
  · split
    · simp [zeros, digitZero]
    · split <;> simp [zeros, digitZero]
  · by_cases hsingle : digits.length ≤ 1
    · simp [zeros, digitZero, hsingle, List.take_of_length_le hsingle]
    · simp [zeros, digitZero, hsingle]

theorem isSign_signOf (negative : Bool) : Numeral.IsSign (signOf negative) := by
  cases negative with
  | false => exact fun _ hc => nomatch hc
  | true =>
    intro c hc
    exact .inr (Option.some.inj hc).symm

theorem isWritten_layoutNumeral {digits : Text} (h : digits.IsDigits) (negative : Bool) (point : Int) :
    (layoutNumeral negative digits point).IsWritten := by
  have htake (n : Nat) : Text.IsDigits (digits.take n) := h.of_subset (List.take_subset n digits)
  have hdrop (n : Nat) : Text.IsDigits (digits.drop n) := h.of_subset (List.drop_subset n digits)
  have hzeros := Text.IsDigits.zeros
  have hsign := isSign_signOf negative
  unfold layoutNumeral
  split
  · split
    · exact ⟨hsign, hzeros 1, by rintro _ ⟨⟩; exact (hzeros _).append h, nofun⟩
    · split
      · exact ⟨hsign, h.append (hzeros _), by rintro _ ⟨⟩; exact hzeros 1, nofun⟩
      · exact ⟨hsign, htake _, by rintro _ ⟨⟩; exact hdrop _, nofun⟩
  · refine ⟨hsign, htake 1, ?_, ?_⟩
    · intro part hpart
      dsimp only at hpart
      split at hpart
      · contradiction
      · cases hpart
        exact hdrop 1
    · rintro _ ⟨⟩
      refine ⟨?_, (hzeros _).append (Numeral.isDigits_ofNat _)⟩
      rintro _ ⟨⟩
      split
      · exact .inr rfl
      · exact .inl rfl

@[simp] theorem isMinus_signOf (negative : Bool) :
    Numeral.isMinus (signOf negative) = negative := by
  cases negative <;> rfl

theorem toBinary64_eq {n : Numeral} {negative : Bool} {digits : Nat} {e : Int} (shift : Nat)
    (hsign : Numeral.isMinus n.sign = negative)
    (hdigits : Numeral.digitsValue (n.whole ++ n.fraction.getD []) = digits * 10 ^ shift)
    (hplace : n.exponentValue - (n.fraction.getD []).length = e - shift) :
    n.toBinary64 = ofMagnitude negative (decimalMagnitude digits e) := by
  unfold Numeral.toBinary64
  dsimp only
  rw [hsign, hdigits, hplace, ofDecimal_eq, decimalMagnitude_scale]

@[simp] theorem digitsValue_append_zeros (digits : Text) (n : Nat) :
    Numeral.digitsValue (digits ++ zeros n) = Numeral.digitsValue digits * 10 ^ n := by
  rw [Numeral.digitsValue_append, Numeral.digitsValue_zeros, Nat.add_zero, length_zeros]

@[simp] theorem digitsValue_zeros_append (digits : Text) (n : Nat) :
    Numeral.digitsValue (zeros n ++ digits) = Numeral.digitsValue digits := by
  rw [Numeral.digitsValue_append, Numeral.digitsValue_zeros, Nat.zero_mul, Nat.zero_add]

private theorem exponentValue_layout {n : Int} {width : Text}
    (hwidth : width = Text.ofNat n.natAbs) :
    withSign (Numeral.isMinus (some (CodePoint.ofChar (if n < 0 then '-' else '+'))))
      (Numeral.digitsValue (zeros (2 - width.length) ++ width)) = n := by
  rw [digitsValue_zeros_append, hwidth, Numeral.digitsValue_ofNat]
  by_cases hn : n < 0
  · rw [if_pos hn]
    show -(n.natAbs : Int) = n
    omega
  · rw [if_neg hn]
    show (n.natAbs : Int) = n
    omega

theorem toBinary64_layoutNumeral (negative : Bool) {digits : Text} (h : digits ≠ []) (point : Int) :
    (layoutNumeral negative digits point).toBinary64 =
      ofMagnitude negative
        (decimalMagnitude (Numeral.digitsValue digits) (point - digits.length)) := by
  have hlength := List.length_pos_iff.2 h
  have hsign := isMinus_signOf negative
  unfold layoutNumeral
  split
  · split
    next hsmall =>
      refine toBinary64_eq 0 hsign ?_ ?_
      · rw [Nat.pow_zero, Nat.mul_one, Option.getD_some, ← List.append_assoc, singleton_append_zeros]
        exact digitsValue_zeros_append digits ((-point).toNat + 1)
      · show (0 : Int) - _ = _
        rw [Option.getD_some, List.length_append, length_zeros]
        omega
    next hsmall =>
      split
      next hlong =>
        refine toBinary64_eq (point.toNat - digits.length + 1) hsign ?_ ?_
        · rw [Option.getD_some, List.append_assoc, ← digitsValue_append_zeros,
            zeros_append_singleton]
        · show (0 : Int) - (1 : Nat) = _
          omega
      next hshort =>
        refine toBinary64_eq 0 hsign ?_ ?_
        · rw [Nat.pow_zero, Nat.mul_one, Option.getD_some, List.take_append_drop]
        · show (0 : Int) - _ = _
          rw [Option.getD_some, List.length_drop]
          omega
  next =>
    have hexponent := exponentValue_layout (n := point - 1) rfl
    refine toBinary64_eq 0 hsign ?_ ?_
    · rw [Nat.pow_zero, Nat.mul_one]
      dsimp only
      split
      next hsingle => rw [Option.getD_none, List.append_nil, List.take_of_length_le hsingle]
      next => rw [Option.getD_some, List.take_append_drop]
    · refine (congrArg (· - _) hexponent).trans ?_
      dsimp only
      split
      next hsingle =>
        rw [Option.getD_none, List.length_nil]
        omega
      next =>
        rw [Option.getD_some, List.length_drop]
        omega

/-! The text of a number -/

/-- The digits of a magnitude other than zero, without zeros at the end. -/
def significantDigits (magnitude : Nat) : Text :=
  Text.dropEndWhile (· = digitZero) (Text.ofNat (shortest magnitude).1)

def numeral (negative : Bool) (magnitude : Nat) : Numeral :=
  if magnitude = 0 then layoutNumeral negative [digitZero] 1
  else
    layoutNumeral negative (significantDigits magnitude)
      ((Text.ofNat (shortest magnitude).1).length + (shortest magnitude).2)

@[simp] theorem toText_numeral (negative : Bool) (magnitude : Nat) :
    (numeral negative magnitude).toText = (signOf negative).toList ++ magnitudeText magnitude := by
  unfold numeral magnitudeText
  split
  · exact toText_layoutNumeral negative [digitZero] 1
  · unfold significantDigits
    generalize shortest magnitude = decimal
    obtain ⟨digits, e⟩ := decimal
    exact toText_layoutNumeral negative _ _

theorem exists_significantDigits_append (magnitude : Nat) :
    ∃ n, significantDigits magnitude ++ zeros n = Text.ofNat (shortest magnitude).1 := by
  obtain ⟨tail, hsplit, hzeros⟩ :=
    Text.exists_dropEndWhile_append (· = digitZero) (Text.ofNat (shortest magnitude).1)
  have htail : tail = zeros tail.length :=
    List.eq_replicate_iff.2 ⟨rfl, fun c hc => of_decide_eq_true (hzeros c hc)⟩
  refine ⟨tail.length, ?_⟩
  rw [← htail]
  exact hsplit

theorem isDigits_significantDigits (magnitude : Nat) : (significantDigits magnitude).IsDigits :=
  (Numeral.isDigits_ofNat _).of_subset Text.dropEndWhile_subset

theorem significantDigits_eq_cons (hlt : magnitude < limit) (h : magnitude ≠ 0) :
    ∃ c rest, significantDigits magnitude = c :: rest ∧ c ≠ digitZero := by
  have hdigits := shortest_ne_zero hlt h
  obtain ⟨n, hn⟩ := exists_significantDigits_append magnitude
  cases hcons : significantDigits magnitude with
  | nil =>
    rw [hcons, List.nil_append] at hn
    have hvalue := Numeral.digitsValue_ofNat (shortest magnitude).1
    rw [← hn, Numeral.digitsValue_zeros] at hvalue
    exact absurd hvalue.symm hdigits
  | cons c rest =>
    refine ⟨c, rest, rfl, ?_⟩
    rintro rfl
    refine Numeral.head?_ofNat hdigits ?_
    rw [← hn, hcons]
    rfl

@[simp] theorem toBinary64_numeral (negative : Bool) (magnitude : Fin limit) :
    (numeral negative magnitude.val).toBinary64 = .finite negative magnitude := by
  obtain ⟨magnitude, hlt⟩ := magnitude
  show (numeral negative magnitude).toBinary64 = _
  rw [← ofMagnitude_of_lt negative hlt]
  unfold numeral
  split
  next hzero =>
    have hvalue : Numeral.digitsValue [digitZero] = 0 := Numeral.digitsValue_zeros 1
    rw [toBinary64_layoutNumeral negative (List.cons_ne_nil _ _), hvalue, decimalMagnitude_zero,
      hzero]
  next hzero =>
    obtain ⟨c, rest, hcons, -⟩ := significantDigits_eq_cons hlt hzero
    obtain ⟨n, hn⟩ := exists_significantDigits_append magnitude
    have hvalue := Numeral.digitsValue_ofNat (shortest magnitude).1
    rw [← hn, digitsValue_append_zeros] at hvalue
    have hshortest := decimalMagnitude_shortest hlt hzero
    generalize shortest magnitude = decimal at *
    obtain ⟨all, e⟩ := decimal
    have hplace (k : Nat) : ((k + n : Nat) : Int) + e - k = e + n := by omega
    have hback : e = e + n - n := by omega
    rw [toBinary64_layoutNumeral negative (by simp [hcons]), ← hn, List.length_append, length_zeros,
      hplace, ← decimalMagnitude_scale _ n, hvalue, ← hback, hshortest]

end NodePanel.Binary64
