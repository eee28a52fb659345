import Mathlib.Algebra.Group.Nat.Defs
import NodePanel.Number.Binary64

/-!
Facts about floating-point numbers: which of them are integers, how far rounding moves a number, and
from where on a product is rounded to infinity. The bounds are stated for an arbitrary scale `s`, so
that no proof has to compute with the largest powers of two.
-/
namespace NodePanel.Binary64

theorem one_pos : 0 < one := by decide +kernel

theorem binade_eq : binade = 2 ^ 52 := rfl

theorem binade_pos : 0 < binade := by decide

theorem two_mul_binade : 2 * binade = 2 ^ 53 := rfl

@[simp] theorem natAbs_withSign (negative : Bool) (k : Nat) : (withSign negative k).natAbs = k := by
  cases negative <;> simp [withSign]

theorem toInt?_finite_eq_some_iff {negative : Bool} {magnitude : Fin limit} {n : Int} :
    (finite negative magnitude).toInt? = some n ↔
      ∃ k, units magnitude.val = k * one ∧ withSign negative k = n := by
  show (if units magnitude.val % one = 0
    then some (withSign negative (units magnitude.val / one)) else none) = some n ↔ _
  constructor
  · intro h
    split at h
    next hdvd =>
      refine ⟨units magnitude.val / one, ?_, Option.some.inj h⟩
      exact (Nat.div_mul_cancel (Nat.dvd_of_mod_eq_zero hdvd)).symm
    next => contradiction
  · rintro ⟨k, hk, rfl⟩
    rw [hk, if_pos (Nat.mul_mod_left k one), Nat.mul_div_cancel k one_pos]

theorem div_le_roundHalfEven (num den : Nat) : num / den ≤ roundHalfEven num den := by
  unfold roundHalfEven
  dsimp only
  split
  · exact Nat.le_refl _
  · split <;> omega

theorem roundHalfEven_le (num den : Nat) : roundHalfEven num den ≤ num / den + 1 := by
  unfold roundHalfEven
  dsimp only
  split
  · omega
  · split <;> omega

private theorem roundHalfEven_le_iff_of_odd {num den : Nat} (hodd : num / den % 2 = 1) :
    roundHalfEven num den ≤ num / den ↔ 2 * (num % den) < den := by
  unfold roundHalfEven
  dsimp only
  split
  next h => exact iff_of_true (Nat.le_refl _) h
  next h => split <;> omega

theorem nearest_eq (num den : Nat) :
    nearest num den = ((num / den).log2 - 52) * binade
      + roundHalfEven num (den * 2 ^ ((num / den).log2 - 52)) :=
  rfl

theorem units_lt {magnitude s : Nat} (h : magnitude < (s + 2) * binade) :
    units magnitude < 2 * binade * 2 ^ s := by
  have hsignificand : significand magnitude < 2 * binade := by
    have := Nat.mod_lt magnitude binade_pos
    unfold significand
    split <;> omega
  have hscale : scale magnitude ≤ s := by
    have := Nat.div_lt_of_lt_mul (Nat.mul_comm _ _ ▸ h)
    unfold scale
    omega
  have hpow : 2 ^ scale magnitude ≤ 2 ^ s := Nat.pow_le_pow_right Nat.two_pos hscale
  exact Nat.mul_lt_mul_of_lt_of_le hsignificand hpow (Nat.pow_pos Nat.two_pos)

theorem shifted_lt (n : Nat) : n / 2 ^ (n.log2 - 52) < 2 * binade := by
  have hlt : n < 2 ^ (n.log2 + 1) := Nat.lt_log2_self
  have hle : 2 ^ (n.log2 + 1) ≤ 2 ^ (53 + (n.log2 - 52)) :=
    Nat.pow_le_pow_right Nat.two_pos (by omega)
  rw [Nat.div_lt_iff_lt_mul (Nat.pow_pos Nat.two_pos), two_mul_binade, ← Nat.pow_add]
  exact Nat.lt_of_lt_of_le hlt hle

private theorem binade_le_shifted {n : Nat} (h : 52 ≤ n.log2) : binade ≤ n / 2 ^ (n.log2 - 52) := by
  have hn : n ≠ 0 := by
    rintro rfl
    simp at h
  rw [Nat.le_div_iff_mul_le (Nat.pow_pos Nat.two_pos), binade_eq, ← Nat.pow_add,
    Nat.add_sub_cancel' h]
  exact Nat.log2_self_le hn

theorem nearest_le {num den s : Nat} (hden : 0 < den) (h : num < den * (2 * binade * 2 ^ s)) :
    nearest num den ≤ (s + 2) * binade := by
  have hquotient : num / den < 2 ^ (53 + s) := by
    rw [Nat.div_lt_iff_lt_mul hden, Nat.pow_add, ← two_mul_binade, Nat.mul_comm]
    exact h
  have hshift : (num / den).log2 - 52 ≤ s := by
    by_cases hzero : num / den = 0
    · simp [hzero]
    · have := (Nat.log2_lt hzero).2 hquotient
      omega
  have hround := roundHalfEven_le num (den * 2 ^ ((num / den).log2 - 52))
  rw [← Nat.div_div_eq_div_mul] at hround
  have hlt := shifted_lt (num / den)
  have hmul := Nat.mul_le_mul_right binade hshift
  rw [nearest_eq, Nat.add_mul]
  omega

private theorem lt_shifted (num : Nat) : num < 2 * binade * 2 ^ (num.log2 - 52) :=
  (Nat.div_lt_iff_lt_mul (Nat.pow_pos Nat.two_pos)).1 (shifted_lt num)

/-- Only the greatest significand is rounded up out of its scale, and only from half a step on. -/
theorem roundHalfEven_lt_iff {num unit : Nat} (hunit : 0 < unit)
    (hlt : num / (2 * unit) < 2 * binade) :
    roundHalfEven num (2 * unit) < 2 * binade ↔ num < 4 * (binade * unit) - unit := by
  have hdiv := Nat.div_add_mod num (2 * unit)
  have hmod := Nat.mod_lt num (Nat.mul_pos Nat.two_pos hunit)
  have hround := roundHalfEven_le num (2 * unit)
  have hunits : unit ≤ binade * unit := Nat.le_mul_of_pos_left unit binade_pos
  have hsplit : 2 * unit * (2 * binade - 1) = 4 * (binade * unit) - 2 * unit := by
    rw [Nat.mul_sub, Nat.mul_one, Nat.mul_mul_mul_comm, Nat.mul_comm unit]
  rcases Nat.lt_or_ge (num / (2 * unit) + 1) (2 * binade) with hless | hgreatest
  · have hmul := Nat.mul_le_mul_left (2 * unit) (Nat.le_sub_one_of_lt hless)
    rw [Nat.mul_add, Nat.mul_one, hsplit] at hmul
    exact iff_of_true (by omega) (by omega)
  · have hquotient : num / (2 * unit) = 2 * binade - 1 :=
      Nat.le_antisymm (Nat.le_sub_one_of_lt hlt) (Nat.sub_le_of_le_add hgreatest)
    have hpos := binade_pos
    have hodd : num / (2 * unit) % 2 = 1 := by
      rw [hquotient]
      omega
    have hiff := roundHalfEven_le_iff_of_odd hodd
    rw [hquotient, hsplit] at hdiv
    rw [hquotient] at hiff
    omega

/-- A number is rounded below the scale `s + 3` if it is nearer to the last magnitude there than to
the first of the next scale. -/
theorem nearest_one_lt_iff (num s : Nat) :
    nearest num 1 < (s + 3) * binade ↔ num < (4 * binade - 1) * 2 ^ s := by
  have hpow : 0 < 2 ^ s := Nat.pow_pos Nat.two_pos
  have hunit : 2 ^ s ≤ binade * 2 ^ s := Nat.le_mul_of_pos_left _ binade_pos
  have hthreshold : (4 * binade - 1) * 2 ^ s = 4 * (binade * 2 ^ s) - 2 ^ s := by
    rw [Nat.sub_mul, Nat.one_mul, Nat.mul_assoc]
  have hscales : (s + 3) * binade = s * binade + 3 * binade := Nat.add_mul s 3 binade
  have hsucc : (s + 1).succ * binade = s * binade + 2 * binade := Nat.add_mul s 2 binade
  have hpos := binade_pos
  rcases Nat.lt_trichotomy (num.log2 - 52) (s + 1) with hshift | hshift | hshift
  · have hscale : 2 ^ (num.log2 - 52) ≤ 2 ^ s :=
      Nat.pow_le_pow_right Nat.two_pos (Nat.le_of_lt_succ hshift)
    have hnum : num < 2 * binade * 2 ^ s :=
      Nat.lt_of_lt_of_le (lt_shifted num) (Nat.mul_le_mul_left _ hscale)
    have hnearest := nearest_le Nat.one_pos ((Nat.one_mul (2 * binade * 2 ^ s)).symm ▸ hnum)
    rw [Nat.add_mul] at hnearest
    rw [Nat.mul_assoc] at hnum
    exact iff_of_true (by omega) (by omega)
  · have hlt := shifted_lt num
    rw [nearest_eq, Nat.div_one, Nat.one_mul, hthreshold]
    rw [hshift, Nat.pow_succ, Nat.mul_comm _ 2] at hlt ⊢
    rw [← roundHalfEven_lt_iff hpow hlt, Nat.add_mul]
    omega
  · have hle := binade_le_shifted (n := num) (by omega)
    have hround := div_le_roundHalfEven num (2 ^ (num.log2 - 52))
    have hscale : 2 ^ (s + 2) ≤ 2 ^ (num.log2 - 52) := Nat.pow_le_pow_right Nat.two_pos hshift
    have hnum : binade * 2 ^ (s + 2) ≤ num :=
      Nat.le_trans (Nat.mul_le_mul_left _ hscale)
        ((Nat.le_div_iff_mul_le (Nat.pow_pos Nat.two_pos)).1 hle)
    have hmul := Nat.mul_le_mul_right binade hshift
    rw [Nat.pow_add, ← Nat.mul_assoc] at hnum
    rw [nearest_eq, Nat.div_one, Nat.one_mul]
    exact iff_of_false (by omega) (by omega)

theorem isFinite_ofUnits (negative : Bool) (num den : Nat) :
    (ofUnits negative num den).isFinite = true ↔ nearest num den < (2044 + 3) * binade := by
  unfold ofUnits ofMagnitude
  split
  next h => exact iff_of_true rfl h
  next h => exact iff_of_false Bool.false_ne_true h

theorem ofUnits_eq_infinite {negative : Bool} {num den : Nat}
    (h : (ofUnits negative num den).isFinite = false) :
    ofUnits negative num den = infinite negative :=
  dif_neg (mt (isFinite_ofUnits negative num den).2 (Bool.eq_false_iff.1 h))

def overflowUnits : Nat := (4 * binade - 1) * 2 ^ 2044

/-- The exact product of a number and `k` is so large that no finite number is near it. -/
def Overflows (k : Nat) : Binary64 → Prop
  | finite _ magnitude => overflowUnits ≤ units magnitude.val * k
  | infinite _ => True
  | nan => False

instance (k : Nat) : DecidablePred (Overflows k)
  | finite _ magnitude => inferInstanceAs (Decidable (overflowUnits ≤ units magnitude.val * k))
  | infinite _ => .isTrue trivial
  | nan => .isFalse id

theorem isFinite_mulNat_finite (negative : Bool) (magnitude : Fin limit) (k : Nat) :
    ((finite negative magnitude).mulNat k).isFinite = true ↔
      ¬ (finite negative magnitude).Overflows k := by
  refine (isFinite_ofUnits _ _ _).trans ?_
  rw [nearest_one_lt_iff]
  exact Nat.not_le.symm

private theorem units_lt_mul {magnitude k s : Nat} (hk : 2 ≤ k) (h : magnitude < (s + 3) * binade) :
    units magnitude < k * (2 * binade * 2 ^ s) := by
  have hunits : units magnitude < 2 * binade * 2 ^ (s + 1) := units_lt h
  rw [Nat.pow_succ, Nat.mul_comm (2 ^ s), Nat.mul_left_comm] at hunits
  exact Nat.lt_of_lt_of_le hunits (Nat.mul_le_mul_right _ hk)

theorem isFinite_divNat {x : Binary64} {k : Nat} (hk : 2 ≤ k) (hx : x.isFinite = true) :
    (x.divNat k).isFinite = true := by
  cases x with
  | finite negative magnitude =>
    have hpos : 0 < k := Nat.lt_of_lt_of_le Nat.two_pos hk
    have hnearest := nearest_le hpos (units_lt_mul hk magnitude.isLt)
    refine (isFinite_ofUnits _ _ _).2 (Nat.lt_of_le_of_lt hnearest ?_)
    exact Nat.mul_lt_mul_of_pos_right (Nat.lt_succ_self _) binade_pos
  | infinite negative => contradiction
  | nan => contradiction

end NodePanel.Binary64
