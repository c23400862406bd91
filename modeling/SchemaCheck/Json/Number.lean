import SchemaCheck.Number.Layout
import SchemaCheck.Json.Problem
/-!
# Number — the value of a number in a JSON text

A whole number of 64 bits keeps its exact value.  Any other number is a float, found in two roundings: the digits
that fit into 64 bits are gathered (`gather`), what is left of them only counts as powers of ten, and the gathered
number is rounded and then multiplied with or divided by a rounded power of ten (`scaled?`).
-/
namespace SchemaCheck.Json

/-- A number as it is written; the digits of a part that is not there are absent. -/
structure NumberText where
  negative : Bool
  whole : List Char
  fraction : Option (List Char)
  /-- The sign of the exponent, negative or not, its width in the text with the letter before it, and the digits. -/
  exponent : Option (Bool × Nat × List Char)
  deriving DecidableEq, Inhabited

inductive Number where
  | whole (n : Int)
  | float (x : Double)
  deriving DecidableEq, Inhabited

def Number.toDouble : Number → Double
  | .whole n => Double.ofInt n
  | .float x => x

namespace NumberText

def digitValue (c : Char) : Nat := c.toNat - 48

/-- Gathers digits as long as the number fits into 64 bits: the number and the digits left over. -/
def gather (n : Nat) : List Char → Nat × List Char
  | [] => (n, [])
  | c :: rest =>
    if UInt64.size ≤ 10 * n + digitValue c then (n, c :: rest) else gather (10 * n + digitValue c) rest

/-- Divides by a power of ten, by 10^308 first as long as the power is greater. -/
def scaleDown (p : Place) (k : Nat) : Place :=
  if k ≤ 308 then p.div (Place.tenTo k)
  else if p = Place.zero then p
  else scaleDown (p.div (Place.tenTo 308)) (k - 308)
termination_by k

/-- The number times a power of ten; none if that is out of range. -/
def scaled? (n : Nat) (e : Int) : Option Place :=
  let p := Place.nearest n 1
  if 0 ≤ e then
    if 308 < e then (if p = Place.zero then some p else none)
    else
      let q := p.mul (Place.tenTo e.toNat)
      if q = Place.infinity then none else some q
  else some (scaleDown p (-e).toNat)

/-- The exponent as far as it fits into 31 bits, and the digits left over. -/
def gatherExponent (n : Nat) : List Char → Nat × List Char
  | [] => (n, [])
  | c :: rest =>
    if 0x80000000 ≤ 10 * n + digitValue c then (n, c :: rest) else gatherExponent (10 * n + digitValue c) rest

/-- The length of the text before the digits of the exponent. -/
def lengthBeforeExponent (t : NumberText) : Nat :=
  (if t.negative then 1 else 0) + t.whole.length + (t.fraction.map fun ds => ds.length + 1).getD 0 +
    (t.exponent.map fun x => x.2.1).getD 0

/-- The length of the whole text. -/
def length (t : NumberText) : Nat :=
  t.lengthBeforeExponent + (t.exponent.map fun x => x.2.2.length).getD 0

/-- The gathered digits of the whole part and the fraction, and the power of ten they are to be multiplied with. -/
def significand (t : NumberText) : Nat × Int :=
  let (n, excess) := gather 0 t.whole
  let (m, dropped) := gather n (t.fraction.getD [])
  (m, (excess.length : Int) - ((t.fraction.getD []).length - dropped.length))

/-- The float that the text stands for, or how much of the text shows that it is out of range. -/
def float (t : NumberText) : Except Nat Double :=
  let (n, e) := t.significand
  let scaled (e : Int) : Except Nat Double :=
    match scaled? n e with
    | some p => .ok (.number t.negative p)
    | none => .error t.length
  match t.exponent with
  | none => scaled e
  | some (negative, _, digits) =>
    match gatherExponent 0 digits with
    | (k, []) => scaled (if negative then e - k else e + k)
    | (_, left) =>
      if n ≠ 0 ∧ !negative then .error (t.lengthBeforeExponent + digits.length - left.length + 1)
      else .ok (.number t.negative Place.zero)

/-- The value of the text, or how much of the text shows that it is out of range. -/
def value (t : NumberText) : Except Nat Number :=
  match t.fraction, t.exponent, gather 0 t.whole with
  | none, none, (n, []) =>
    if !t.negative then .ok (.whole n)
    else if n = 0 ∨ -Int64.minValue.toInt < n then .ok (.float (.number true (Place.nearest n 1)))
    else .ok (.whole (-(n : Int)))
  | _, _, _ => t.float.map .float

end NumberText
end SchemaCheck.Json
