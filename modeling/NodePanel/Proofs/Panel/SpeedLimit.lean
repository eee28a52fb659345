import NodePanel.Panel.Projection
import NodePanel.Proofs.Number.Binary64

/-!
When a limit of speed in megabits has a value in octets. Of the limits that are accepted only those
have none whose product with a million is infinite.
-/
namespace NodePanel

open Binary64

private theorem truncate_of_isFinite {x : Binary64} (h : x.isFinite = true) :
    ∃ n, x.truncate = .ok n := by
  cases x with
  | finite negative magnitude => exact ⟨_, rfl⟩
  | infinite negative => contradiction
  | nan => contradiction

theorem speedLimitBytes_of_infinite {x : Binary64} {negative : Bool}
    (h : x.mulNat 1000000 = .infinite negative) : speedLimitBytes x = .error .infinite := by
  unfold speedLimitBytes
  rw [h]
  rfl

private theorem speedLimitBytes_of_isFinite {x : Binary64}
    (h : (x.mulNat 1000000).isFinite = true) :
    ∃ n, speedLimitBytes x = .ok n := by
  obtain ⟨n, hn⟩ := truncate_of_isFinite (isFinite_divNat (k := 8) (by decide) h)
  refine ⟨n.toNat, ?_⟩
  unfold speedLimitBytes
  rw [hn]
  rfl

/-- A limit that is no negative number has no value in octets exactly if it overflows. -/
theorem speedLimitBytes_eq_error_iff {x : Binary64} (hx : x.isNonneg = true) {e : IntegerError} :
    speedLimitBytes x = .error e ↔ e = .infinite ∧ x.Overflows 1000000 := by
  cases x with
  | finite negative magnitude =>
    by_cases hfinite : ((finite negative magnitude).mulNat 1000000).isFinite = true
    · obtain ⟨n, hn⟩ := speedLimitBytes_of_isFinite hfinite
      rw [hn]
      exact iff_of_false nofun fun h => (isFinite_mulNat_finite _ _ _).1 hfinite h.2
    · have hoverflow := Decidable.not_not.1 (mt (isFinite_mulNat_finite _ _ _).2 hfinite)
      have hinfinite : (finite negative magnitude).mulNat 1000000 = .infinite negative :=
        ofUnits_eq_infinite (Bool.eq_false_iff.2 hfinite)
      rw [speedLimitBytes_of_infinite hinfinite]
      constructor
      · intro h
        exact ⟨(Except.error.inj h).symm, hoverflow⟩
      · rintro ⟨rfl, -⟩
        rfl
  | infinite negative =>
    rw [speedLimitBytes_of_infinite rfl]
    constructor
    · intro h
      exact ⟨(Except.error.inj h).symm, trivial⟩
    · rintro ⟨rfl, -⟩
      rfl
  | nan => contradiction

end NodePanel
