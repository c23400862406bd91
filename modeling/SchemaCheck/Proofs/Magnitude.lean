import SchemaCheck.Proofs.Rounding
/-!
# Magnitude — places and the magnitudes at them

A place further on has a greater magnitude (`Place.units_lt_units_iff`), so the rank of a number orders numbers as
their exact values are ordered (`Double.signedUnits_le_iff`, `Double.signedUnits_eq_iff`).  A quotient that is exactly
a magnitude of the format is rounded to this magnitude (`Place.nearest_of_exact`), and rounding keeps the order of
quotients with signs (`Double.rank_nearest_mono`).
-/
namespace SchemaCheck

namespace Place

theorem unitsPerOne_pos : 0 < unitsPerOne := by
  obtain ⟨k, hk⟩ : ∃ k, k = 1074 := ⟨_, rfl⟩
  rw [unitsPerOne_eq hk]
  exact Nat.two_pow_pos k

/-- **A place further on has a greater magnitude.** -/
theorem units_lt_units_iff (p q : Place) : p.units < q.units ↔ p.val < q.val := by
  rw [units_eq_unitsAt, units_eq_unitsAt]
  exact unitsAt_strictMono.lt_iff_lt

theorem units_zero : zero.units = 0 := rfl

/-- **A quotient that is a magnitude of the format is not changed by rounding.** -/
theorem nearest_of_exact {num den : Nat} {p : Place} (hden : 0 < den) (h : num * unitsPerOne = p.units * den) :
    nearest num den = p := by
  have hexact : 2 * (num * unitsPerOne) = 2 * unitsAt p.val * den := by rw [h, units_eq_unitsAt, Nat.mul_assoc]
  have hnext : unitsAt p.val < unitsAt (p.val + 1) := unitsAt_strictMono (Nat.lt_succ_self _)
  refine nearest_of_reaches hden (fun _ => .inl ?_) fun n hn hreach => ?_
  · rw [hexact]
    exact Nat.mul_lt_mul_of_pos_right (by omega) hden
  · have hthis : unitsAt n < unitsAt (n + 1) := unitsAt_strictMono (Nat.lt_succ_self n)
    have hmiddle : (unitsAt n + unitsAt (n + 1)) * den < 2 * (num * unitsPerOne) := by
      rw [hexact, hn]
      exact Nat.mul_lt_mul_of_pos_right (by omega) hden
    unfold Reaches at hreach
    omega

theorem nearest_of_eq_zero {num den : Nat} (hden : 0 < den) (h : num = 0) : nearest num den = zero :=
  nearest_of_exact hden (by rw [units_zero, h, Nat.zero_mul, Nat.zero_mul])

end Place

/-! ## Signed magnitudes -/

namespace Double

/-- The exact value of a number in units of 2^-1074, if it is finite. -/
def signedUnits (negative : Bool) (p : Place) : Int := if negative then -(p.units : Int) else p.units

theorem units?_number (s : Bool) {p : Place} (h : p ≠ Place.infinity) : units? (.number s p) = some (signedUnits s p) :=
  if_neg h

theorem signedUnits_lt_iff (s t : Bool) (p q : Place) : signedUnits s p < signedUnits t q ↔ rank s p < rank t q := by
  have hpq := Place.units_lt_units_iff p q
  have hqp := Place.units_lt_units_iff q p
  have hp := Place.units_lt_units_iff Place.zero p
  have hq := Place.units_lt_units_iff Place.zero q
  rw [Place.units_zero, show Place.zero.val = 0 from rfl] at hp hq
  unfold signedUnits rank
  cases s <;> cases t <;> simp only [if_true, if_false, Bool.false_eq_true] <;> omega

theorem signedUnits_le_iff (s t : Bool) (p q : Place) : signedUnits s p ≤ signedUnits t q ↔ rank s p ≤ rank t q := by
  rw [← Int.not_lt, signedUnits_lt_iff, Int.not_lt]

theorem signedUnits_eq_iff (s t : Bool) (p q : Place) : signedUnits s p = signedUnits t q ↔ rank s p = rank t q := by
  rw [Int.le_antisymm_iff, signedUnits_le_iff, signedUnits_le_iff, ← Int.le_antisymm_iff]

/-- **Rounding keeps the order of signed quotients.** -/
theorem rank_nearest_mono {i j : Int} {den den' : Nat} (hden : 0 < den) (hden' : 0 < den') (h : i * den' ≤ j * den) :
    rank (decide (i < 0)) (Place.nearest i.natAbs den) ≤ rank (decide (j < 0)) (Place.nearest j.natAbs den') := by
  have hmono {m n d d' : Nat} (hd : 0 < d) (hd' : 0 < d') (hmn : (m : Int) * d' ≤ n * d) :
      (Place.nearest m d).val ≤ (Place.nearest n d').val :=
    Place.nearest_le_nearest hd hd' (by exact_mod_cast hmn)
  unfold rank
  by_cases hi : i < 0
  · by_cases hj : j < 0
    · have habs : (j.natAbs : Int) * den ≤ i.natAbs * den' := by
        rw [Int.ofNat_natAbs_of_nonpos (Int.le_of_lt hi), Int.ofNat_natAbs_of_nonpos (Int.le_of_lt hj), Int.neg_mul,
          Int.neg_mul]
        exact Int.neg_le_neg h
      have := hmono hden' hden habs
      simp only [hi, hj, decide_true, if_true]
      omega
    · simp only [hi, hj, decide_true, decide_false, if_true, Bool.false_eq_true, if_false]
      omega
  · have hj : ¬ j < 0 := by
      intro hj
      have hleft : 0 ≤ i * (den' : Int) := Int.mul_nonneg (Int.not_lt.1 hi) (Int.natCast_nonneg den')
      have hright : j * (den : Int) < 0 := Int.mul_neg_of_neg_of_pos hj (Int.natCast_pos.2 hden)
      omega
    have habs : (i.natAbs : Int) * den' ≤ j.natAbs * den := by
      rw [Int.natAbs_of_nonneg (Int.not_lt.1 hi), Int.natAbs_of_nonneg (Int.not_lt.1 hj)]
      exact h
    have := hmono hden hden' habs
    simp only [hi, hj, decide_false, Bool.false_eq_true, if_false]
    omega

end Double
end SchemaCheck
