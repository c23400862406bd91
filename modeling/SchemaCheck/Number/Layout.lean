import SchemaCheck.Number.Shortest
/-!
# Layout — the text of a number, and numbers read from text

A layout says for which decimal points a number is written out in place, and whether a whole number ends in `.0`;
any other number is written with an exponent.  `Layout.value`, `Layout.bound` and `Layout.report` are the three
layouts in use.  `Double.ofText?` reads decimal text, rounding it to the nearest number.
-/
namespace SchemaCheck

/-- How a number is written. -/
structure Layout where
  /-- The decimal points for which no exponent is written. -/
  plain : Int → Bool
  /-- A whole number written out in place ends in `.0`. -/
  fraction : Bool
  /-- Of two shortest texts equally near the one with the even last digit is taken, not the larger one. -/
  tiesToEven : Bool

namespace Layout

/-- The text of a value: written out from 10^-4 up to 10^16, with at least one decimal. -/
def value : Layout := ⟨fun point => decide (-4 < point ∧ point ≤ 16), true, false⟩

/-- The text of a bound: always written out, a whole number without decimals. -/
def bound : Layout := ⟨fun _ => true, false, false⟩

/-- The text of a number in a report of a wrong type: written out from 10^-5 up to 10^16. -/
def report : Layout := ⟨fun point => decide (-5 < point ∧ point ≤ 16), true, true⟩

/-- Digits with a point among them, zeros filling up to it. -/
def place (l : Layout) (d : Decimal) : List Char :=
  if d.point ≤ 0 then '0' :: '.' :: List.replicate (-d.point).toNat '0' ++ d.digits
  else
    let n := d.point.toNat
    if d.digits.length ≤ n then
      d.digits ++ List.replicate (n - d.digits.length) '0' ++ (if l.fraction then ['.', '0'] else [])
    else d.digits.take n ++ '.' :: d.digits.drop n

/-- One digit before the point, the others after it, and the exponent. -/
def scientific (d : Decimal) : List Char :=
  let rest := match d.digits with
    | [] => []
    | [c] => [c]
    | c :: more => c :: '.' :: more
  rest ++ 'e' :: (toString (d.point - 1)).toList

def magnitude (l : Layout) (p : Place) : List Char :=
  if p = Place.infinity then "inf".toList
  else if p = Place.zero then '0' :: (if l.fraction then ['.', '0'] else [])
  else
    let d := p.shortest l.tiesToEven
    if l.plain d.point then l.place d else scientific d

def chars (l : Layout) : Double → List Char
  | .nan => "NaN".toList
  | .number s p => (if s then ['-'] else []) ++ l.magnitude p

def text (l : Layout) (x : Double) : String := String.ofList (l.chars x)

end Layout

/-! ## Reading -/

namespace Double

/-- The number nearest to `digits · 10^exponent`. -/
def ofDecimal (negative : Bool) (digits : Nat) (exponent : Int) : Double :=
  let size := exponent + (Nat.toDigits 10 digits).length
  .number negative (
    if digits = 0 ∨ size < -400 then Place.zero
    else if 400 < size then Place.infinity
    else Place.nearest (digits * tenUp exponent) (tenDown exponent))

def digitsValue (ds : List Char) : Nat := ds.foldl (fun n c => 10 * n + (c.toNat - 48)) 0

/-- A whole number written in decimal digits, perhaps with a sign. -/
def readInt? (cs : List Char) : Option Int :=
  let body (ds : List Char) : Option Nat :=
    if ds.isEmpty || !ds.all Char.isDigit then none else some (digitsValue ds)
  match cs with
  | '-' :: ds => (body ds).map fun n => -(n : Int)
  | '+' :: ds => (body ds).map fun n => (n : Int)
  | ds => (body ds).map fun n => (n : Int)

/-- Decimal text without a sign: digits, perhaps a point and more digits, perhaps an exponent. -/
def readMagnitude? (negative : Bool) (cs : List Char) : Option Double :=
  let whole := cs.takeWhile Char.isDigit
  let afterWhole := cs.dropWhile Char.isDigit
  let (fraction, rest) := match afterWhole with
    | '.' :: r => (r.takeWhile Char.isDigit, r.dropWhile Char.isDigit)
    | r => ([], r)
  let make (e : Int) : Option Double :=
    if whole.isEmpty && fraction.isEmpty then none
    else some (ofDecimal negative (digitsValue (whole ++ fraction)) (e - fraction.length))
  match rest with
  | [] => make 0
  | c :: r => if c = 'e' ∨ c = 'E' then (readInt? r).bind make else none

/-- Decimal text, `inf` or `nan`, perhaps with a sign. -/
def ofText? (s : String) : Option Double :=
  let unsigned (negative : Bool) (cs : List Char) : Option Double :=
    match String.ofList (cs.map Char.toLower) with
    | "nan" => some .nan
    | "inf" => some (.number negative Place.infinity)
    | "infinity" => some (.number negative Place.infinity)
    | _ => readMagnitude? negative cs
  match s.toList with
  | '-' :: cs => unsigned true cs
  | '+' :: cs => unsigned false cs
  | cs => unsigned false cs

end Double
end SchemaCheck
