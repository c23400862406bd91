import SchemaCheck.Interval
import SchemaCheck.Proofs.ExactNumber
import SchemaCheck.Proofs.Rounding
/-!
# IntegerRanges — integers in intervals of integers

Membership rounds the bounds and the integer to numbers, and rounding keeps their order (`rankOf_mono`).  So an
integer is in an interval of integers as its order with the bounds says, unless it and a bound are rounded to one number
(`contains_int_iff`).  That needs both of them to be 2^53 or more away from zero, since an integer up to there is a
number of its own (`rankOf_le_iff_of_small`); `not_contains_int_iff` has two such integers on the wrong side of a bound.
-/
namespace SchemaCheck

/-- Up to 2^53, an integer is a magnitude of the format. -/
theorem Place.exists_units_eq {n : Nat} (h : n ≤ 2 ^ 53) : ∃ p : Place, p ≠ infinity ∧ p.units = n * unitsPerOne := by
  rcases Nat.eq_zero_or_pos n with rfl | hn
  · exact ⟨zero, by decide, by rw [units_zero, Nat.zero_mul]⟩
  obtain ⟨l, hl, hle, hlt⟩ : ∃ l ≤ 52, 2 ^ l ≤ n ∧ n ≤ 2 ^ (l + 1) := by
    by_cases hmax : n = 2 ^ 53
    · exact ⟨52, Nat.le_refl _, by omega, by omega⟩
    · have hlog : Nat.log2 n < 53 := (Nat.log2_lt (by omega)).2 (by omega)
      exact ⟨Nat.log2 n, by omega, Nat.log2_self_le (by omega), Nat.le_of_lt Nat.lt_log2_self⟩
  have hlow : binade ≤ n * 2 ^ (52 - l) :=
    calc binade = 2 ^ (l + (52 - l)) := by rw [show l + (52 - l) = 52 by omega]; rfl
      _ = 2 ^ l * 2 ^ (52 - l) := Nat.pow_add 2 l _
      _ ≤ n * 2 ^ (52 - l) := Nat.mul_le_mul_right _ hle
  have hhigh : n * 2 ^ (52 - l) ≤ 2 * binade :=
    calc n * 2 ^ (52 - l) ≤ 2 ^ (l + 1) * 2 ^ (52 - l) := Nat.mul_le_mul_right _ hlt
      _ = 2 ^ (l + 1 + (52 - l)) := (Nat.pow_add 2 _ _).symm
      _ = 2 * binade := by rw [show l + 1 + (52 - l) = 53 by omega]; rfl
  have hval : (l + 1022) * binade + n * 2 ^ (52 - l) < 2047 * binade := by
    have : (l + 1022) * binade ≤ 1074 * binade := Nat.mul_le_mul_right binade (by omega)
    have : 0 < binade := by decide
    omega
  refine ⟨⟨_, Nat.lt_succ_of_lt hval⟩, fun he => Nat.ne_of_lt hval (congrArg Fin.val he), ?_⟩
  rw [units_eq_unitsAt]
  dsimp only
  rw [unitsAt_step hhigh (.inr hlow), Nat.mul_assoc, ← Nat.pow_add,
    unitsPerOne_eq (show 52 - l + (l + 1022) = 1074 by omega)]

namespace Double

/-- Two integers that are rounded to one number. -/
def RoundAlike (i j : Int) : Prop := (ofInt i).same (ofInt j) = true

/-- The place of an integer among numbers. -/
def rankOf (i : Int) : Int := rank (decide (i < 0)) (Place.nearest i.natAbs 1)

theorem le_ofInt_iff_rank (i j : Int) : (ofInt i).le (ofInt j) = true ↔ rankOf i ≤ rankOf j := decide_eq_true_iff

theorem lt_ofInt_iff_rank (i j : Int) : (ofInt i).lt (ofInt j) = true ↔ rankOf i < rankOf j := decide_eq_true_iff

theorem roundAlike_iff_rank (i j : Int) : RoundAlike i j ↔ rankOf i = rankOf j := decide_eq_true_iff

/-- **Rounding keeps the order of integers.** -/
theorem rankOf_mono {i j : Int} (h : i ≤ j) : rankOf i ≤ rankOf j :=
  rank_nearest_mono Nat.one_pos Nat.one_pos (Int.mul_le_mul_of_nonneg_right h Int.one_nonneg)

theorem le_ofInt_iff (i j : Int) : (ofInt i).le (ofInt j) = true ↔ i ≤ j ∨ RoundAlike i j := by
  rw [le_ofInt_iff_rank, roundAlike_iff_rank]
  by_cases h : i ≤ j
  · have := rankOf_mono h
    simp only [h, this, true_or]
  · have := rankOf_mono (show j ≤ i by omega)
    simp only [h, false_or]
    omega

theorem lt_ofInt_iff (i j : Int) : (ofInt i).lt (ofInt j) = true ↔ i < j ∧ ¬ RoundAlike i j := by
  rw [lt_ofInt_iff_rank, roundAlike_iff_rank]
  by_cases h : i < j
  · have := rankOf_mono (show i ≤ j by omega)
    simp only [h, true_and]
    omega
  · have := rankOf_mono (show j ≤ i by omega)
    simp only [h, false_and, iff_false]
    omega

/-- **Up to 2^53, rounding changes no integer.** -/
theorem rankOf_le_iff_of_small {i j : Int} (hi : i.natAbs ≤ 2 ^ 53) (hj : j.natAbs ≤ 2 ^ 53) :
    rankOf i ≤ rankOf j ↔ i ≤ j := by
  obtain ⟨p, -, hp⟩ := Place.exists_units_eq hi
  obtain ⟨q, -, hq⟩ := Place.exists_units_eq hj
  have hone : (0 : Int) < Place.unitsPerOne := Int.natCast_pos.2 Place.unitsPerOne_pos
  have hnear {n : Nat} {p : Place} (hp : p.units = n * Place.unitsPerOne) : Place.nearest n 1 = p :=
    Place.nearest_of_exact Nat.one_pos (by rw [hp, Nat.mul_one])
  unfold rankOf
  rw [hnear hp, hnear hq, ← signedUnits_le_iff, signedUnits_of_natAbs hp, signedUnits_of_natAbs hq]
  exact Int.mul_le_mul_right hone

theorem eq_of_roundAlike {i j : Int} (hi : i.natAbs < 2 ^ 53) (h : RoundAlike i j) : i = j := by
  rw [roundAlike_iff_rank] at h
  by_cases hj : j.natAbs ≤ 2 ^ 53
  · have hij := rankOf_le_iff_of_small (Nat.le_of_lt hi) hj
    have hji := rankOf_le_iff_of_small hj (Nat.le_of_lt hi)
    omega
  · -- what lies past 2^53 is rounded to 2^53 or past it
    have htop := rankOf_le_iff_of_small (i := 2 ^ 53) (by decide) (Nat.le_of_lt hi)
    have hbottom := rankOf_le_iff_of_small (j := -2 ^ 53) (Nat.le_of_lt hi) (by decide)
    by_cases hneg : j < 0
    · have := rankOf_mono (show j ≤ -2 ^ 53 by omega)
      omega
    · have := rankOf_mono (show 2 ^ 53 ≤ j by omega)
      omega

end Double

open Double (RoundAlike)

/-- **An integer is in an interval of integers** as its order with the bounds says, unless it and a bound are rounded to
one number: then it counts as this bound.  Two different integers are rounded to one number only if both are 2^53 or
more away from zero. -/
theorem contains_int_iff (a b i : Int64) :
    ((Interval.ofInts a b true).contains (.int i) = true ↔
      (a ≤ i ∨ RoundAlike a.toInt i.toInt) ∧ (i ≤ b ∨ RoundAlike i.toInt b.toInt)) ∧
    ((Interval.ofInts a b false).contains (.int i) = true ↔
      (a ≤ i ∨ RoundAlike a.toInt i.toInt) ∧ (i < b ∧ ¬ RoundAlike i.toInt b.toInt)) ∧
    ((Interval.atLeastInt a).contains (.int i) = true ↔ a ≤ i ∨ RoundAlike a.toInt i.toInt) ∧
    ((Interval.belowInt b).contains (.int i) = true ↔ i < b ∧ ¬ RoundAlike i.toInt b.toInt) ∧
    ((Interval.atMostInt b).contains (.int i) = true ↔ i ≤ b ∨ RoundAlike i.toInt b.toInt) ∧
    (RoundAlike a.toInt i.toInt → a = i ∨ 2 ^ 53 ≤ a.toInt.natAbs ∧ 2 ^ 53 ≤ i.toInt.natAbs) := by
  have hle (i j : Int64) : (Double.ofInt i.toInt).le (Double.ofInt j.toInt) = true ↔
      i ≤ j ∨ RoundAlike i.toInt j.toInt := by
    rw [Double.le_ofInt_iff, Int64.le_iff_toInt_le]
  have hlt (i j : Int64) : (Double.ofInt i.toInt).lt (Double.ofInt j.toInt) = true ↔
      i < j ∧ ¬ RoundAlike i.toInt j.toInt := by
    rw [Double.lt_ofInt_iff, Int64.lt_iff_toInt_lt]
  refine ⟨?_, ?_, ?_, ?_, ?_, fun h => ?_⟩
  · have : (Interval.ofInts a b true).contains (.int i) =
        ((Double.ofInt a.toInt).le (Double.ofInt i.toInt) && (Double.ofInt i.toInt).le (Double.ofInt b.toInt)) := rfl
    rw [this, Bool.and_eq_true, hle, hle]
  · have : (Interval.ofInts a b false).contains (.int i) =
        ((Double.ofInt a.toInt).le (Double.ofInt i.toInt) && (Double.ofInt i.toInt).lt (Double.ofInt b.toInt)) := rfl
    rw [this, Bool.and_eq_true, hle, hlt]
  · have : (Interval.atLeastInt a).contains (.int i) =
        ((Double.ofInt a.toInt).le (Double.ofInt i.toInt) && true) := rfl
    rw [this, Bool.and_true, hle]
  · exact hlt i b
  · exact hle i b
  · by_cases ha : a.toInt.natAbs < 2 ^ 53
    · exact .inl (Int64.toInt_inj.1 (Double.eq_of_roundAlike ha h))
    by_cases hi : i.toInt.natAbs < 2 ^ 53
    · exact .inl (Int64.toInt_inj.1 (Double.eq_of_roundAlike hi (Double.same_symm h)).symm)
    · exact .inr ⟨Nat.not_lt.1 ha, Nat.not_lt.1 hi⟩

/-- 2^53 and the integer after it are rounded to one number, so the latter is in the interval up to the former, and the
former is not in the interval that ends before the latter. -/
theorem not_contains_int_iff :
    (¬ ∀ a b i : Int64, (Interval.ofInts a b true).contains (.int i) = true ↔ a ≤ i ∧ i ≤ b) ∧
    ¬ ∀ a b i : Int64, (Interval.ofInts a b false).contains (.int i) = true ↔ a ≤ i ∧ i < b := by
  have haccepts : (Interval.ofInts 0 9007199254740992 true).contains (.int 9007199254740993) = true := by
    decide +kernel
  have hrejects : (Interval.ofInts 0 9007199254740993 false).contains (.int 9007199254740992) = false := by
    decide +kernel
  constructor
  · intro h
    exact absurd ((h 0 9007199254740992 9007199254740993).1 haccepts) (by decide)
  · intro h
    have := (h 0 9007199254740993 9007199254740992).2 (by decide)
    rw [hrejects] at this
    cases this

end SchemaCheck
