import SchemaCheck.Number.Double
/-!
# Shortest — the fewest decimal digits that read back

`Place.shortest` gives a finite magnitude the shortest digits that lie in the interval of quotients rounding to it,
and of those the nearest to it; of two equally near ones it takes the larger or the even one, as it is told.  All
arithmetic is exact, in quarters of 2^-1074, because the interval around the least significand of a scale reaches
down by a quarter of its step only.
-/
namespace SchemaCheck

/-- Digits `d₁d₂…dₙ` with the decimal point after the first `point` of them: `0.d₁d₂…dₙ · 10^point`. -/
structure Decimal where
  digits : List Char
  point : Int
  deriving DecidableEq

/-- The numerator of a power of ten. -/
def tenUp (exponent : Int) : Nat := Nat.pow 10 exponent.toNat

/-- The denominator of a power of ten. -/
def tenDown (exponent : Int) : Nat := Nat.pow 10 (-exponent).toNat

/-! ## The interval that rounds to a magnitude -/

/-- Bounds in quarters of 2^-1074 around the magnitude `value`; the bounds belong to it when `closed`. -/
structure Vicinity where
  low : Nat
  value : Nat
  high : Nat
  closed : Bool

namespace Vicinity

def ofPlace (p : Place) : Vicinity :=
  let step := Nat.pow 2 p.scale
  let below := if p.significand = binade ∧ 0 < p.scale then step else 2 * step
  ⟨4 * p.units - below, 4 * p.units, 4 * p.units + 2 * step, p.val % 2 == 0⟩

/-- One, in quarters of 2^-1074. -/
def one : Nat := 4 * Place.unitsPerOne

/-- The multiple `c` of the power of ten `grid` rounds to the magnitude. -/
def contains (v : Vicinity) (grid : Int) (c : Nat) : Bool :=
  let t := c * tenUp grid * one
  if v.closed then decide (v.low * tenDown grid ≤ t ∧ t ≤ v.high * tenDown grid)
  else decide (v.low * tenDown grid < t ∧ t < v.high * tenDown grid)

/-- The greatest multiple of the power of ten `grid` up to the magnitude. -/
def floor (v : Vicinity) (grid : Int) : Nat := v.value * tenDown grid / (tenUp grid * one)

/-- The middle between `c` and `c + 1` times the power of ten `grid`, compared with the magnitude, leaves `c` the
nearer one; a tie is for `c` when it is even and ties go to even. -/
def isNearer (v : Vicinity) (tiesToEven : Bool) (grid : Int) (c : Nat) : Bool :=
  let twice := 2 * (v.value * tenDown grid)
  let middle := (2 * c + 1) * (tenUp grid * one)
  decide (twice < middle) || (tiesToEven && twice == middle && c % 2 == 0)

/-- The multiple of the power of ten `grid` that is chosen for the magnitude, if one of its two neighbours is near
enough. -/
def hit (v : Vicinity) (tiesToEven : Bool) (grid : Int) : Option Nat :=
  let c := v.floor grid
  match v.contains grid c, v.contains grid (c + 1) with
  | true, true => some (if v.isNearer tiesToEven grid c then c else c + 1)
  | true, false => some c
  | false, true => some (c + 1)
  | false, false => none

/-- The exponent of the leading decimal digit. -/
def lead (v : Vicinity) : Int :=
  if one ≤ v.value then ((Nat.toDigits 10 (v.value / one)).length : Int) - 1
  else -((Nat.toDigits 10 ((one + v.value - 1) / v.value - 1)).length : Int)

end Vicinity

/-! ## The digits -/

/-- The digits of `c · 10^grid`, without the zeros at their end. -/
def Decimal.ofGrid (c : Nat) (grid : Int) : Decimal :=
  let all := Nat.toDigits 10 c
  ⟨(all.reverse.dropWhile (· == '0')).reverse, grid + all.length⟩

/-- The decimal that is exactly a magnitude. -/
def Place.exact (p : Place) : Decimal := Decimal.ofGrid (p.units * Nat.pow 5 1074) (-1074)

/-- Up to seventeen digits are tried, which is enough for every magnitude; past them only the exact digits would
do. -/
def Place.shortest (p : Place) (tiesToEven : Bool) : Decimal :=
  let v := Vicinity.ofPlace p
  let found := (List.range 17).findSome? fun (n : Nat) =>
    (v.hit tiesToEven (v.lead - n)).map (Decimal.ofGrid · (v.lead - n))
  found.getD p.exact

end SchemaCheck
