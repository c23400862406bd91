import SchemaCheck.Value
/-!
# Interval — ranges of numbers

An interval has at most two bounds; its start always belongs to it, its end where `inclusive` says so.  Membership
is decided on floats, an integer being rounded to the nearest one (`Interval.contains`).
-/
namespace SchemaCheck

structure Interval where
  start : Option Double
  stop : Option Double
  /-- The end belongs to the interval. -/
  inclusive : Bool
  deriving DecidableEq, Inhabited

namespace Interval

def closed (a b : Double) : Interval := ⟨some a, some b, true⟩

def halfOpen (a b : Double) : Interval := ⟨some a, some b, false⟩

def atLeast (a : Double) : Interval := ⟨some a, none, true⟩

def atMost (b : Double) : Interval := ⟨none, some b, true⟩

def below (b : Double) : Interval := ⟨none, some b, false⟩

/-- The interval of the floats nearest to two integers, the second one included or not. -/
def ofInts (a b : Int64) (inclusive : Bool) : Interval :=
  ⟨some (Double.ofInt a.toInt), some (Double.ofInt b.toInt), inclusive⟩

/-- From the float nearest to an integer on. -/
def atLeastInt (a : Int64) : Interval := atLeast (Double.ofInt a.toInt)

/-- Up to the float nearest to an integer. -/
def atMostInt (b : Int64) : Interval := atMost (Double.ofInt b.toInt)

/-- Up to the float nearest to an integer, without it. -/
def belowInt (b : Int64) : Interval := below (Double.ofInt b.toInt)

/-- Both bounds leave the number in.  What is not a number is in no interval. -/
def containsDouble (r : Interval) (x : Double) : Bool :=
  !x.isNaN && r.start.all (·.le x) && r.stop.all (fun b => if r.inclusive then x.le b else x.lt b)

/-- Only numbers are members. -/
def contains (r : Interval) (v : Value) : Bool := v.asDouble?.any r.containsDouble

def sameBound : Option Double → Option Double → Bool
  | none, none => true
  | some x, some y => x.same y
  | _, _ => false

/-- Equal bounds, each as numbers are equal. -/
def same (r s : Interval) : Bool :=
  sameBound r.start s.start && sameBound r.stop s.stop && r.inclusive == s.inclusive

def chars (r : Interval) : List Char :=
  let bound (b : Option Double) : List Char := (b.map Layout.bound.chars).getD []
  bound r.start ++ (if r.inclusive && r.stop.isSome then "..=".toList else "..".toList) ++ bound r.stop

def render (r : Interval) : String := String.ofList r.chars

end Interval
end SchemaCheck
