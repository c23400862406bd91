import Mathlib.Algebra.Order.Field.Rat
import Mathlib.Data.Int.Cast.Lemmas
import SchemaCheck.Proofs.Magnitude
/-!
# ExactNumber — the exact values of numbers

`Double.rational?` is the rational number that a finite number is.  Two finite numbers are one number exactly when they
are one rational (`Double.same_iff_rational?`), a number equals a 64-bit integer exactly when it is this integer
(`Double.equalsInt_iff_rational?`), and an integer that some number is exactly is rounded to this number
(`Double.ofInt_same_of_rational?`).
-/
namespace SchemaCheck
namespace Double

/-- The exact value; none when it is no finite number. -/
def rational? (x : Double) : Option ℚ := x.units?.map fun u : Int => (u : ℚ) / (Place.unitsPerOne : ℚ)

theorem unitsPerOne_ne_zero : (Place.unitsPerOne : ℚ) ≠ 0 := Nat.cast_ne_zero.2 (Nat.ne_of_gt Place.unitsPerOne_pos)

theorem rational?_eq_intCast_iff (x : Double) (i : Int) :
    x.rational? = some (i : ℚ) ↔ x.units? = some (i * Place.unitsPerOne) := by
  rw [rational?, Option.map_eq_some_iff]
  constructor
  · rintro ⟨u, hu, hi⟩
    rw [div_eq_iff unitsPerOne_ne_zero] at hi
    have hunits : u = i * Place.unitsPerOne := by exact_mod_cast hi
    rw [hu, hunits]
  · intro h
    refine ⟨_, h, ?_⟩
    push_cast
    exact mul_div_cancel_right₀ _ unitsPerOne_ne_zero

/-! ## Units -/

theorem units?_eq_some_iff (s : Bool) (p : Place) (u : Int) :
    units? (.number s p) = some u ↔ p ≠ Place.infinity ∧ signedUnits s p = u := by
  by_cases h : p = Place.infinity
  · simp [units?, h]
  · simp [units?_number s h, h]

theorem signedUnits_dvd_iff (s : Bool) (p : Place) :
    (Place.unitsPerOne : Int) ∣ signedUnits s p ↔ p.units % Place.unitsPerOne = 0 := by
  rw [← Nat.dvd_iff_mod_eq_zero, ← Int.natCast_dvd_natCast]
  cases s with
  | false => exact Iff.rfl
  | true => exact Int.dvd_neg

theorem isWhole_iff (s : Bool) (p : Place) :
    isWhole (.number s p) = true ↔ ∃ j : Int, signedUnits s p = j * Place.unitsPerOne := by
  rw [isWhole, beq_iff_eq, ← signedUnits_dvd_iff s p]
  exact exists_congr fun j => by rw [Int.mul_comm]

/-! ## 64-bit integers -/

/-- Cutting off what stands after the point does nothing to a whole number. -/
theorem trunc_of_whole {s : Bool} {p : Place} {j : Int} (h : signedUnits s p = j * Place.unitsPerOne) :
    (if s then -((p.units / Place.unitsPerOne : Nat) : Int) else (p.units / Place.unitsPerOne : Nat)) = j := by
  have hone : (Place.unitsPerOne : Int) ≠ 0 := Int.natCast_ne_zero.2 (Nat.ne_of_gt Place.unitsPerOne_pos)
  rw [Int.natCast_ediv]
  cases s with
  | false => exact Int.ediv_eq_of_eq_mul_left hone h
  | true =>
    have hneg : (p.units : Int) = -j * Place.unitsPerOne := by rw [Int.neg_mul, ← h]; exact (Int.neg_neg _).symm
    exact (congrArg Neg.neg (Int.ediv_eq_of_eq_mul_left hone hneg)).trans (Int.neg_neg j)

theorem toInt64_of_whole {s : Bool} {p : Place} {j : Int} (h : signedUnits s p = j * Place.unitsPerOne)
    (hlow : -2 ^ 63 ≤ j) (hhigh : j < 2 ^ 63) : toInt64 (.number s p) = Int64.ofInt j := by
  have hmin : ¬ j < Int64.minValue.toInt := by rw [Int64.toInt_minValue]; omega
  have hmax : ¬ Int64.maxValue.toInt < j := by rw [Int64.toInt_maxValue]; omega
  simp only [toInt64]
  rw [trunc_of_whole h, if_neg hmin, if_neg hmax]

theorem signedUnits_int64Limit (s : Bool) :
    signedUnits s ⟨1086 * binade, by decide⟩ = (if s then -2 ^ 63 else 2 ^ 63) * Place.unitsPerOne := by
  cases s <;> decide +kernel

theorem mem_range_iff {s : Bool} {p : Place} {j : Int} (h : signedUnits s p = j * Place.unitsPerOne) :
    (int64Limit.negate.le (.number s p) && lt (.number s p) int64Limit) = true ↔ -2 ^ 63 ≤ j ∧ j < 2 ^ 63 := by
  have hone : (0 : Int) < Place.unitsPerOne := Int.natCast_pos.2 Place.unitsPerOne_pos
  simp only [int64Limit, negate, le, lt, Bool.and_eq_true, decide_eq_true_eq, Bool.not_false]
  rw [← signedUnits_le_iff, ← signedUnits_lt_iff, signedUnits_int64Limit, signedUnits_int64Limit, h]
  exact and_congr (Int.mul_le_mul_right hone) (Int.mul_lt_mul_right hone)

theorem equalsInt_iff_units? (x : Double) (i : Int64) :
    x.equalsInt i = true ↔ x.units? = some (i.toInt * Place.unitsPerOne) := by
  cases x with
  | nan => exact ⟨nofun, nofun⟩
  | number s p =>
    rw [units?_eq_some_iff, equalsInt, Bool.and_eq_true, Bool.and_eq_true, Bool.and_eq_true, isFinite,
      decide_eq_true_eq, beq_iff_eq]
    constructor
    · rintro ⟨⟨⟨hfin, hwhole⟩, hrange⟩, hi⟩
      obtain ⟨j, hj⟩ := (isWhole_iff s p).1 hwhole
      obtain ⟨hlow, hhigh⟩ := (mem_range_iff hj).1 hrange
      refine ⟨hfin, ?_⟩
      rw [← hi, toInt64_of_whole hj hlow hhigh, Int64.toInt_ofInt_of_le hlow hhigh, hj]
    · rintro ⟨hfin, hu⟩
      refine ⟨⟨⟨hfin, (isWhole_iff s p).2 ⟨_, hu⟩⟩, (mem_range_iff hu).2 ⟨i.le_toInt, i.toInt_lt⟩⟩, ?_⟩
      rw [toInt64_of_whole hu i.le_toInt i.toInt_lt, Int64.ofInt_toInt]

/-- **A number equals a 64-bit integer exactly when it is this integer.** -/
theorem equalsInt_iff_rational? (x : Double) (i : Int64) :
    x.equalsInt i = true ↔ x.rational? = some (i.toInt : ℚ) := by
  rw [equalsInt_iff_units?, rational?_eq_intCast_iff]

/-! ## Rounding an integer -/

theorem natAbs_signedUnits (s : Bool) (p : Place) : (signedUnits s p).natAbs = p.units := by
  cases s with
  | false => exact Int.natAbs_natCast p.units
  | true => exact (Int.natAbs_neg _).trans (Int.natAbs_natCast p.units)

theorem signedUnits_of_natAbs {p : Place} {i : Int} (h : p.units = i.natAbs * Place.unitsPerOne) :
    signedUnits (decide (i < 0)) p = i * Place.unitsPerOne := by
  unfold signedUnits
  rw [h, Int.natCast_mul]
  by_cases hi : i < 0
  · rw [decide_eq_true hi, if_pos rfl, Int.ofNat_natAbs_of_nonpos (Int.le_of_lt hi), Int.neg_mul, Int.neg_neg]
  · rw [decide_eq_false hi, if_neg Bool.false_ne_true, Int.natAbs_of_nonneg (Int.not_lt.1 hi)]

/-- **An integer that some number is exactly is rounded to this number.** -/
theorem ofInt_same_of_rational? {x : Double} {i : Int} (h : x.rational? = some (i : ℚ)) : (ofInt i).same x = true := by
  rw [rational?_eq_intCast_iff] at h
  cases x with
  | nan => cases h
  | number s p =>
    have hu := ((units?_eq_some_iff s p _).1 h).2
    have habs : p.units = i.natAbs * Place.unitsPerOne := by
      rw [← natAbs_signedUnits s p, hu, Int.natAbs_mul, Int.natAbs_natCast]
    rw [ofInt, Place.nearest_of_exact Nat.one_pos (by rw [habs, Nat.mul_one]), same, decide_eq_true_eq,
      ← signedUnits_eq_iff, hu, signedUnits_of_natAbs habs]

/-! ## One number -/

theorem rational?_number (s : Bool) {p : Place} (h : p ≠ Place.infinity) :
    rational? (.number s p) = some ((signedUnits s p : ℚ) / (Place.unitsPerOne : ℚ)) := by
  rw [rational?, units?_number s h, Option.map_some]

theorem rational?_infinity (s : Bool) : rational? (.number s Place.infinity) = none := rfl

theorem rank_ne_infinity (s t : Bool) {p : Place} (h : p ≠ Place.infinity) : rank s p ≠ rank t Place.infinity := by
  rw [Ne, rank_eq_rank_iff]
  rintro (⟨-, hp⟩ | ⟨-, hz⟩)
  · exact h hp
  · exact absurd hz (by decide)

theorem rank_infinity_eq_iff (s t : Bool) : rank s Place.infinity = rank t Place.infinity ↔ s = t := by
  rw [rank_eq_rank_iff]
  exact ⟨fun h => h.elim And.left fun hz => absurd hz.1 (by decide), fun h => .inl ⟨h, rfl⟩⟩

/-- **What is one number with a finite number is the same rational.** -/
theorem same_iff_rational? {x y : Double} {q : ℚ} (h : x.rational? = some q) :
    x.same y = true ↔ y.rational? = some q := by
  cases x with
  | nan => cases h
  | number s p =>
    have hp : p ≠ Place.infinity := fun hp => by rw [hp, rational?_infinity] at h; cases h
    rw [rational?_number s hp, Option.some.injEq] at h
    cases y with
    | nan => constructor <;> rintro ⟨⟩
    | number t r =>
      rw [same, decide_eq_true_eq]
      by_cases hr : r = Place.infinity
      · rw [hr, rational?_infinity]
        exact ⟨fun he => absurd he (rank_ne_infinity s t hp), fun he => by cases he⟩
      · rw [rational?_number t hr, Option.some.injEq, ← h, div_left_inj' unitsPerOne_ne_zero, Int.cast_inj,
          ← signedUnits_eq_iff, eq_comm]

end Double
end SchemaCheck
