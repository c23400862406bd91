/-!
# CharSet — sets of characters as ranges of code points

A set is a list of closed ranges.  The operations work on increasing lists of ranges that neither meet nor touch,
which `CharSet.ofRanges` makes of any list; `CharSet.complement` takes the gaps between them.  `CharSet.ofText`
reads the written form of the tables: hexadecimal code points and ranges `first-last`, separated by blanks and line
ends.
-/
namespace SchemaCheck

structure CharSet where
  ranges : List (Nat × Nat)
  deriving DecidableEq, Inhabited

namespace CharSet

/-- The last code point. -/
def last : Nat := 0x10FFFF

def empty : CharSet := ⟨[]⟩

def all : CharSet := ⟨[(0, last)]⟩

/-- Looks for the first range that reaches up to `n`. -/
def hasCode (n : Nat) : List (Nat × Nat) → Bool
  | [] => false
  | (a, b) :: rest => if n ≤ b then decide (a ≤ n) else hasCode n rest

def contains (s : CharSet) (c : Char) : Bool := hasCode c.toNat s.ranges

/-- Joins the range in hand with the ranges after it that meet or touch it. -/
def joinFrom (a b : Nat) : List (Nat × Nat) → List (Nat × Nat)
  | [] => [(a, b)]
  | (c, d) :: rest => if c ≤ b + 1 then joinFrom a (max b d) rest else (a, b) :: joinFrom c d rest

/-- The set of all code points in any of the ranges. -/
def ofRanges (rs : List (Nat × Nat)) : CharSet :=
  match rs.mergeSort (fun r s => decide (r.1 ≤ s.1)) with
  | [] => empty
  | (a, b) :: rest => ⟨joinFrom a b rest⟩

def single (c : Char) : CharSet := ⟨[(c.toNat, c.toNat)]⟩

def range (a b : Char) : CharSet := ⟨[(a.toNat, b.toNat)]⟩

def union (s t : CharSet) : CharSet := ofRanges (s.ranges ++ t.ranges)

/-- The gaps from code point `n` on. -/
def gapsFrom (n : Nat) : List (Nat × Nat) → List (Nat × Nat)
  | [] => if n ≤ last then [(n, last)] else []
  | (a, b) :: rest => if n < a then (n, a - 1) :: gapsFrom (b + 1) rest else gapsFrom (b + 1) rest

def complement (s : CharSet) : CharSet := ⟨gapsFrom 0 s.ranges⟩

def inter (s t : CharSet) : CharSet := (s.complement.union t.complement).complement

def diff (s t : CharSet) : CharSet := s.inter t.complement

def symmDiff (s t : CharSet) : CharSet := (s.diff t).union (t.diff s)

/-! ## Written form -/

def hexValue (c : Char) : Nat := if c.isDigit then c.toNat - 48 else c.toNat - 55

/-- The number written in hexadecimal digits. -/
def hexNumber (ds : List Char) : Nat := ds.foldl (fun n c => 16 * n + hexValue c) 0

/-- The range that has been read, if any number has been read. -/
def rangeRead (first n : Option Nat) : List (Nat × Nat) := (n.map fun n => (first.getD n, n)).toList

/-- Reads ranges; `first` is the start of a range whose end is being read, `n` the number read so far. -/
def readRanges (first n : Option Nat) : List Char → List (Nat × Nat)
  | [] => rangeRead first n
  | c :: rest =>
    if c = ' ' ∨ c = '\n' then rangeRead first n ++ readRanges none none rest
    else if c = '-' then readRanges n none rest
    else readRanges first (some (16 * n.getD 0 + hexValue c)) rest

def ofText (s : String) : CharSet := ⟨readRanges none none s.toList⟩

end CharSet
end SchemaCheck
