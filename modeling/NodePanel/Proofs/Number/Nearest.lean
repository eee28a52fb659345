import NodePanel.Proofs.Number.Binary64

/-!
Rounding a ratio to a magnitude. A ratio that is nearer to a magnitude than to both its neighbours
is rounded to it, the ratio counts and not its terms, and a decimal is rounded as the ratio that it
is, whether or not its exponent lets the powers be passed over.
-/
namespace NodePanel.Binary64

variable {num den magnitude : Nat}

theorem roundHalfEven_eq_of_close {k : Nat} (hbelow : 2 * (k * den) < 2 * num + den)
    (habove : 2 * num < 2 * (k * den) + den) : roundHalfEven num den = k := by
  have hdiv := Nat.div_add_mod num den
  have hden : 0 < den := by omega
  have hmod := Nat.mod_lt num hden
  have hle : num / den ≤ k := by
    refine Nat.le_of_not_lt fun hlt => ?_
    have := Nat.mul_le_mul_left den hlt
    rw [Nat.mul_succ, Nat.mul_comm den k] at this
    omega
  have hge : k ≤ num / den + 1 := by
    refine Nat.le_of_not_lt fun hlt => ?_
    have := Nat.mul_le_mul_left den hlt
    rw [Nat.mul_succ, Nat.mul_succ, Nat.mul_comm den k] at this
    omega
  unfold roundHalfEven
  dsimp only
  rcases Nat.lt_or_eq_of_le hle with hlt | heq
  · have hk : k = num / den + 1 := by omega
    rw [hk, Nat.add_mul, Nat.one_mul, Nat.mul_comm _ den] at hbelow habove
    split
    · omega
    · split <;> omega
  · rw [← heq, Nat.mul_comm _ den] at hbelow habove
    split
    · exact heq
    · split <;> omega

private theorem roundHalfEven_scale {k : Nat} (hk : 0 < k) :
    roundHalfEven (num * k) (den * k) = roundHalfEven num den := by
  have htwice : 2 * (num * k % (den * k)) = 2 * (num % den) * k := by
    rw [Nat.mul_mod_mul_right, Nat.mul_assoc]
  unfold roundHalfEven
  dsimp only
  rw [htwice, Nat.mul_div_mul_right _ _ hk]
  simp only [Nat.mul_lt_mul_right hk]

private theorem nearest_scale {k : Nat} (hk : 0 < k) :
    nearest (num * k) (den * k) = nearest num den := by
  rw [nearest_eq, nearest_eq, Nat.mul_div_mul_right _ _ hk, Nat.mul_right_comm,
    roundHalfEven_scale hk]

theorem nearest_of_small (h : 2 * num < den) : nearest num den = 0 := by
  have hquotient : num / den = 0 := Nat.div_eq_of_lt (by omega)
  rw [nearest_eq, hquotient]
  refine (Nat.add_eq_zero_iff).2 ⟨by simp, roundHalfEven_eq_of_close ?_ ?_⟩ <;> simp <;> omega

/-! The magnitude that a ratio is close to -/

theorem units_eq : units magnitude = significand magnitude * 2 ^ scale magnitude := rfl

theorem significand_lt (magnitude : Nat) : significand magnitude < 2 * binade := by
  have := Nat.mod_lt magnitude binade_pos
  unfold significand
  split <;> omega

theorem scale_add_significand (magnitude : Nat) :
    scale magnitude * binade + significand magnitude = magnitude := by
  have hdiv := Nat.div_add_mod magnitude binade
  unfold scale significand
  split
  next hlt => simp [Nat.div_eq_of_lt hlt]
  next hge =>
    have hpos : 1 ≤ magnitude / binade :=
      (Nat.le_div_iff_mul_le binade_pos).2 (by rw [Nat.one_mul]; exact Nat.le_of_not_lt hge)
    rw [Nat.sub_mul, Nat.one_mul, Nat.mul_comm]
    have := Nat.mul_le_mul_left binade hpos
    omega

theorem binade_le_significand (h : 0 < scale magnitude) : binade ≤ significand magnitude := by
  unfold significand
  split
  next hlt =>
    unfold scale at h
    rw [Nat.div_eq_of_lt hlt] at h
    contradiction
  next => exact Nat.le_add_left _ _

private theorem log2_sub_eq {quotient s : Nat} (hlt : quotient < 2 * binade * 2 ^ s)
    (hle : s = 0 ∨ binade * 2 ^ s ≤ quotient) : quotient.log2 - 52 = s := by
  rw [two_mul_binade, ← Nat.pow_add] at hlt
  rcases Nat.eq_zero_or_pos quotient with rfl | hpos
  · rcases hle with rfl | hle
    · rfl
    · have : 0 < binade * 2 ^ s := Nat.mul_pos binade_pos (Nat.pow_pos Nat.two_pos)
      omega
  · have hupper := (Nat.log2_lt (Nat.ne_of_gt hpos)).2 hlt
    rcases hle with rfl | hle
    · omega
    · rw [binade_eq, ← Nat.pow_add] at hle
      have hlower := (Nat.le_log2 (Nat.ne_of_gt hpos)).2 hle
      omega

private theorem shift_eq {s : Nat} (hden : 0 < den) (hlt : num < 2 * binade * (den * 2 ^ s))
    (hle : s = 0 ∨ binade * (den * 2 ^ s) ≤ num) : (num / den).log2 - 52 = s := by
  refine log2_sub_eq ?_ (hle.imp_right fun hle => ?_)
  · rwa [Nat.div_lt_iff_lt_mul hden, Nat.mul_assoc, Nat.mul_comm (2 ^ s)]
  · rwa [Nat.le_div_iff_mul_le hden, Nat.mul_assoc, Nat.mul_comm (2 ^ s)]

theorem nearest_of_scale {s sig : Nat} (hden : 0 < den) (hlt : num < 2 * binade * (den * 2 ^ s))
    (hle : s = 0 ∨ binade * (den * 2 ^ s) ≤ num)
    (hbelow : 2 * (sig * (den * 2 ^ s)) < 2 * num + den * 2 ^ s)
    (habove : 2 * num < 2 * (sig * (den * 2 ^ s)) + den * 2 ^ s) :
    nearest num den = s * binade + sig := by
  rw [nearest_eq, shift_eq hden hlt hle, roundHalfEven_eq_of_close hbelow habove]

/-- A ratio is rounded to a magnitude if it is less than half a step away from it. At the first
magnitude of a scale the step downward is half the step upward. -/
theorem nearest_eq_of_close (hden : 0 < den)
    (hbelow : 2 * (units magnitude * den) < 2 * num + den * 2 ^ scale magnitude)
    (hfirst : significand magnitude = binade →
      4 * (units magnitude * den) < 4 * num + den * 2 ^ scale magnitude)
    (habove : 2 * num < 2 * (units magnitude * den) + den * 2 ^ scale magnitude) :
    nearest num den = magnitude := by
  have hsum := scale_add_significand magnitude
  have hlt := significand_lt magnitude
  have hge (h : 0 < scale magnitude) := binade_le_significand h
  have hunits : units magnitude * den = significand magnitude * (den * 2 ^ scale magnitude) := by
    rw [units_eq, Nat.mul_assoc, Nat.mul_comm (2 ^ scale magnitude)]
  rw [hunits] at hbelow hfirst habove
  generalize significand magnitude = sig at *
  generalize scale magnitude = s at *
  have hupper : num < 2 * binade * (den * 2 ^ s) := by
    have hmul := Nat.mul_le_mul_right (den * 2 ^ s) hlt
    rw [Nat.succ_mul] at hmul
    omega
  by_cases hscale : s = 0 ∨ binade * (den * 2 ^ s) ≤ num
  · rw [nearest_of_scale hden hupper hscale hbelow habove, hsum]
  · -- The ratio lies in the scale below, where it is rounded up to the end of that scale.
    obtain ⟨hs, hnum⟩ := not_or.1 hscale
    obtain ⟨t, rfl⟩ := Nat.exists_eq_add_one_of_ne_zero hs
    have hsig : sig = binade := by
      refine Nat.le_antisymm (Nat.le_of_not_lt fun hgt => ?_) (hge (Nat.succ_pos t))
      have hmul := Nat.mul_le_mul_right (den * 2 ^ (t + 1)) hgt
      rw [Nat.succ_mul] at hmul
      omega
    subst hsig
    have hfirst := hfirst rfl
    have hstep : den * 2 ^ (t + 1) = 2 * (den * 2 ^ t) := by
      rw [Nat.pow_succ', Nat.mul_left_comm]
    rw [hstep, Nat.mul_left_comm binade] at hnum hfirst
    have hone : den * 2 ^ t ≤ binade * (den * 2 ^ t) := Nat.le_mul_of_pos_left _ binade_pos
    have htwice : 2 * binade * (den * 2 ^ t) = 2 * (binade * (den * 2 ^ t)) := Nat.mul_assoc _ _ _
    have hnearest : nearest num den = t * binade + 2 * binade :=
      nearest_of_scale hden (by omega) (.inr (by omega)) (by omega) (by omega)
    have hsucc : (t + 1) * binade = t * binade + binade := Nat.succ_mul t binade
    omega

/-! Decimals -/

def decimalMagnitude (digits : Nat) (e : Int) : Nat :=
  nearest (digits * 10 ^ e.toNat * one) (10 ^ (-e).toNat)

/-- The exponent of the unit, under a name so that no power with it is computed. -/
def unitExponent : Nat := 1074

theorem one_eq : one = 2 ^ unitExponent := by
  unfold one unitExponent
  generalize 1074 = n
  rfl

theorem eight_pow_le (n : Nat) : 2 ^ (3 * n) ≤ 10 ^ n := by
  rw [Nat.pow_mul]
  exact Nat.pow_le_pow_left (by decide) n

private theorem threshold_le {s n : Nat} (h : s + 54 ≤ n) : (4 * binade - 1) * 2 ^ s ≤ 2 ^ n := by
  refine Nat.le_trans ?_ (Nat.pow_le_pow_right Nat.two_pos h)
  rw [Nat.pow_add, Nat.mul_comm]
  exact Nat.mul_le_mul_left _ (by decide)

private theorem ofUnits_of_large {digits e : Nat} (hdigits : digits ≠ 0) (he : 400 < e)
    (negative : Bool) :
    ofUnits negative (digits * 10 ^ e * one) 1 = .infinite negative := by
  refine ofUnits_eq_infinite (Bool.eq_false_iff.2 fun hfinite => ?_)
  have hlt := (nearest_one_lt_iff _ _).1 ((isFinite_ofUnits _ _ _).1 hfinite)
  have hpow : 10 ^ e ≤ digits * 10 ^ e := Nat.le_mul_of_pos_left _ (Nat.pos_of_ne_zero hdigits)
  have hle : 2 ^ (3 * e) * one ≤ digits * 10 ^ e * one :=
    Nat.mul_le_mul_right _ (Nat.le_trans (eight_pow_le e) hpow)
  have hbound : (4 * binade - 1) * 2 ^ 2044 ≤ 2 ^ (3 * e) * one := by
    rw [one_eq, ← Nat.pow_add]
    refine threshold_le ?_
    unfold unitExponent
    omega
  exact absurd hlt (Nat.not_lt.2 (Nat.le_trans hbound hle))

private theorem nearest_of_tiny {digits places : Nat} (h : digits.log2 + 1100 < 3 * places) :
    nearest (digits * one) (10 ^ places) = 0 := by
  refine nearest_of_small (Nat.lt_of_lt_of_le ?_ (eight_pow_le places))
  have hdigits : digits < 2 ^ (digits.log2 + 1) := Nat.lt_log2_self
  calc 2 * (digits * one) = digits * 2 ^ (unitExponent + 1) := by
        rw [one_eq, Nat.mul_left_comm, Nat.pow_succ']
    _ < 2 ^ (digits.log2 + 1) * 2 ^ (unitExponent + 1) :=
        Nat.mul_lt_mul_of_pos_right hdigits (Nat.pow_pos Nat.two_pos)
    _ = 2 ^ (digits.log2 + 1 + (unitExponent + 1)) := (Nat.pow_add _ _ _).symm
    _ ≤ 2 ^ (3 * places) := Nat.pow_le_pow_right Nat.two_pos (by unfold unitExponent; omega)

theorem ofDecimal_eq (negative : Bool) (digits : Nat) (e : Int) :
    ofDecimal negative digits e = ofMagnitude negative (decimalMagnitude digits e) := by
  unfold ofDecimal decimalMagnitude
  split
  next hzero =>
    rw [hzero, Nat.zero_mul, Nat.zero_mul, nearest_of_small]
    exact Nat.pow_pos (by decide)
  next hdigits =>
    split
    next he =>
      have hnegative : (-e).toNat = 0 := by omega
      rw [hnegative, Nat.pow_zero]
      split
      next hlarge => exact (ofUnits_of_large hdigits (by omega) negative).symm
      next => rfl
    next he =>
      have hpositive : e.toNat = 0 := by omega
      dsimp only
      rw [hpositive, Nat.pow_zero, Nat.mul_one]
      split
      next htiny => rw [nearest_of_tiny htiny]
      next => rfl

theorem decimalMagnitude_scale (digits shift : Nat) (e : Int) :
    decimalMagnitude (digits * 10 ^ shift) (e - shift) = decimalMagnitude digits e := by
  obtain ⟨k, hnum, hden⟩ : ∃ k, shift + (e - shift).toNat = e.toNat + k ∧
      (-(e - shift)).toNat = (-e).toNat + k :=
    ⟨(-(e - shift)).toNat - (-e).toNat, by omega, by omega⟩
  unfold decimalMagnitude
  rw [Nat.mul_assoc digits, ← Nat.pow_add, hnum, hden, Nat.pow_add, Nat.pow_add, ← Nat.mul_assoc,
    Nat.mul_right_comm]
  exact nearest_scale (Nat.pow_pos (by decide))

theorem ofMagnitude_of_lt (negative : Bool) (h : magnitude < limit) :
    ofMagnitude negative magnitude = .finite negative ⟨magnitude, h⟩ :=
  dif_pos h

theorem eq_of_ofMagnitude_eq {negative : Bool} {other : Nat} (hlt : magnitude < limit)
    (h : ofMagnitude negative other = ofMagnitude negative magnitude) : other = magnitude := by
  rw [ofMagnitude_of_lt negative hlt] at h
  unfold ofMagnitude at h
  split at h
  · cases h
    rfl
  · contradiction

end NodePanel.Binary64
