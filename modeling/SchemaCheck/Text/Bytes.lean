import SchemaCheck.Text.CharSet
/-!
# Bytes — sets of characters as sequences of byte ranges

In UTF-8 a character takes up to four bytes, of which all but the first carry six bits.  A range of characters of
one length is a row of sequences, each with a range for every byte (`byteRanges`); `CharSet.byteSequences` lists
them for a set, those of one length together.
-/
namespace SchemaCheck

namespace Text

/-- A range for each byte of a character, first byte first. -/
abbrev ByteSequence := List (Nat × Nat)

/-- The sequences for the numbers from `first` to `last` when `count` bytes of six bits follow the first byte. -/
def byteRanges : Nat → Nat → Nat → List ByteSequence
  | 0, first, last => [[(first, last)]]
  | count + 1, first, last =>
    let m := 1 <<< (6 * (count + 1))
    let (a, b) := (first / m, last / m)
    let part (head low high : Nat) : List ByteSequence := (byteRanges count low high).map ((head, head) :: ·)
    if a = b then part a (first % m) (last % m)
    else
      let start := if first % m = 0 then a else a + 1
      let stop := if last % m = m - 1 then b + 1 else b
      (if start = a then [] else part a (first % m) (m - 1)) ++
        (if start < stop then [(start, stop - 1) :: List.replicate (count + 1) (0, 63)] else []) ++
        (if stop = b then part b 0 (last % m) else [])

/-- The code points of one length: the number of bytes after the first, and the range.  Surrogates are left out. -/
def lengthRanges : List (Nat × Nat × Nat) :=
  [(0, 0, 0x7F), (1, 0x80, 0x7FF), (2, 0x800, 0xD7FF), (2, 0xE000, 0xFFFF), (3, 0x10000, 0x10FFFF)]

end Text

open Text

/-- The sequences for the characters of a set that lie in a range of one length. -/
def CharSet.byteSequencesIn (s : CharSet) (count first last : Nat) : List ByteSequence :=
  s.ranges.flatMap fun r =>
    let (a, b) := (max r.1 first, min r.2 last)
    if a ≤ b then byteRanges count a b else []

def CharSet.byteSequences (s : CharSet) : List (List ByteSequence) :=
  lengthRanges.map fun r => s.byteSequencesIn r.1 r.2.1 r.2.2

end SchemaCheck
