/-!
# Double — binary64 numbers as places on a line

The finite magnitudes of the format and infinity are numbered in increasing order (`Place`), zero being place 0.  A
number is a sign and a place, or not a number at all.  So the order of numbers is the order of whole numbers
(`Double.rank`), equality with integers is exact (`Double.equalsInt`), and rounding to the nearest number is rounding
to the nearest place (`Place.nearest`), where a tie goes to the even place.  `same_iff` says when two numbers are
one number.
-/
namespace SchemaCheck

/-! ## Places -/

/-- How many magnitudes there are from one power of two to the next, in number 2^52. -/
abbrev binade : Nat := 0x10000000000000

/-- A magnitude of the format, counted from zero; the last one is infinity. -/
abbrev Place := Fin (2047 * binade + 1)

namespace Place

def zero : Place := ⟨0, by decide⟩

def infinity : Place := ⟨2047 * binade, by decide⟩

/-- Whatever lies past the finite magnitudes is infinity. -/
def ofNat (n : Nat) : Place := ⟨min n (2047 * binade), by omega⟩

/-- The whole number that a power of two is multiplied with. -/
def significand (p : Place) : Nat := if p.val < binade then p.val else binade + p.val % binade

/-- The power of two, counted from that of the smallest magnitude. -/
def scale (p : Place) : Nat := p.val / binade - 1

/-- The finite magnitude in units of 2^-1074, the smallest one. -/
def units (p : Place) : Nat := p.significand * Nat.pow 2 p.scale

/-- How many of these units make one. -/
def unitsPerOne : Nat := Nat.pow 2 1074

/-- The whole number nearest to a quotient; a tie goes to the even one. -/
def roundEven (num den : Nat) : Nat :=
  let q := num / den
  let r := num % den
  if 2 * r < den then q else if den < 2 * r then q + 1 else q + q % 2

/-- The place nearest to a quotient; a tie goes to the even place. -/
def nearest (num den : Nat) : Place :=
  let step := Nat.log2 (num * unitsPerOne / den) - 52
  ofNat (step * binade + roundEven (num * unitsPerOne) (den * Nat.pow 2 step))

/-- The rounded product of two finite magnitudes. -/
def mul (p q : Place) : Place := nearest (p.units * q.units) (unitsPerOne * unitsPerOne)

/-- The rounded quotient of two finite magnitudes, the second one not zero. -/
def div (p q : Place) : Place := nearest p.units q.units

/-- The magnitude nearest to a power of ten. -/
def tenTo (k : Nat) : Place := nearest (Nat.pow 10 k) 1

end Place

/-! ## Numbers -/

inductive Double where
  | nan
  | number (negative : Bool) (place : Place)
  deriving DecidableEq, Inhabited

namespace Double

/-- The whole number nearest to it that the format has, or infinity. -/
def ofInt (i : Int) : Double := .number (decide (i < 0)) (Place.nearest i.natAbs 1)

def isNaN : Double → Bool
  | .nan => true
  | .number _ _ => false

/-- Numbers are ordered as their ranks are; both zeros have rank 0. -/
def rank (negative : Bool) (place : Place) : Int := if negative then -(place.val : Int) else place.val

def le : Double → Double → Bool
  | .number s p, .number t q => decide (rank s p ≤ rank t q)
  | _, _ => false

def lt : Double → Double → Bool
  | .number s p, .number t q => decide (rank s p < rank t q)
  | _, _ => false

/-- One number: equal in rank, or both not a number. -/
def same : Double → Double → Bool
  | .nan, .nan => true
  | .number s p, .number t q => decide (rank s p = rank t q)
  | _, _ => false

/-- The exact value in units of 2^-1074; none when it is no finite number. -/
def units? : Double → Option Int
  | .nan => none
  | .number s p => if p = Place.infinity then none else some (if s then -(p.units : Int) else p.units)

/-- The same magnitude with the other sign. -/
def negate : Double → Double
  | .nan => .nan
  | .number s p => .number (!s) p

/-! ## Numbers and 64-bit integers -/

def isFinite : Double → Bool
  | .nan => false
  | .number _ p => decide (p ≠ Place.infinity)

/-- Nothing stands after the point. -/
def isWhole : Double → Bool
  | .nan => false
  | .number _ p => p.units % Place.unitsPerOne == 0

/-- 2^63, the least number that is past all 64-bit integers; the negative one of its magnitude is the least of them. -/
def int64Limit : Double := .number false ⟨1086 * binade, by decide⟩

/-- What is left of a number when all after the point is cut off.  A number past the 64-bit integers becomes the last
one of them on its side, and what is not a number becomes zero. -/
def toInt64 : Double → Int64
  | .nan => 0
  | .number s p =>
    let whole := p.units / Place.unitsPerOne
    let i := if s then -(whole : Int) else whole
    if i < Int64.minValue.toInt then Int64.minValue
    else if Int64.maxValue.toInt < i then Int64.maxValue
    else Int64.ofInt i

/-- A whole number among the 64-bit integers that becomes this one.  The limit itself is left out, since it becomes the
greatest of them. -/
def equalsInt (x : Double) (i : Int64) : Bool :=
  x.isFinite && x.isWhole && (int64Limit.negate.le x && x.lt int64Limit) && x.toInt64 == i

/-! ## One number -/

theorem rank_eq_rank_iff (s t : Bool) (p q : Place) :
    rank s p = rank t q ↔ (s = t ∧ p = q) ∨ (p = Place.zero ∧ q = Place.zero) := by
  have hz : Place.zero.val = 0 := rfl
  rw [Fin.ext_iff, Fin.ext_iff (a := p) (b := Place.zero), Fin.ext_iff (a := q) (b := Place.zero), hz]
  unfold rank
  cases s <;> cases t <;>
    simp only [if_true, if_false, Bool.false_eq_true, reduceCtorEq, true_and, false_and, false_or] <;> omega

theorem same_iff (x y : Double) :
    x.same y = true ↔ x = y ∨ ∃ s t, x = .number s Place.zero ∧ y = .number t Place.zero := by
  cases x with
  | nan => cases y <;> simp [same]
  | number s p =>
    cases y with
    | nan => simp [same]
    | number t q =>
      simp only [same, decide_eq_true_eq, rank_eq_rank_iff, number.injEq]
      constructor
      · rintro (h | ⟨h, k⟩)
        · exact .inl h
        · exact .inr ⟨s, t, ⟨rfl, h⟩, rfl, k⟩
      · rintro (h | ⟨_, _, ⟨_, h⟩, _, k⟩)
        · exact .inl h
        · exact .inr ⟨h, k⟩

theorem same_refl (x : Double) : x.same x = true := (same_iff x x).2 (.inl rfl)

theorem same_symm {x y : Double} (h : x.same y = true) : y.same x = true := by
  cases x <;> cases y <;> simp_all [same]

end Double
end SchemaCheck
