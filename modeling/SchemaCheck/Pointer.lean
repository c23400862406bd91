import SchemaCheck.Text.Slashes
import SchemaCheck.Value
/-!
# Pointer — selecting a part of a value by a path

A pointer is empty or starts with a slash; the parts between slashes are looked up one after the other, in maps as
string keys and in sequences as indices.  In a part `~1` stands for a slash and `~0` for a tilde.
-/
namespace SchemaCheck.Pointer

/-- Replaces each tilde with a digit after it by a character. -/
def unescape (digit char : Char) : List Char → List Char
  | [] => []
  | [c] => [c]
  | c :: d :: rest =>
    if c = '~' ∧ d = digit then char :: unescape digit char rest else c :: unescape digit char (d :: rest)

/-- An index in decimal digits, without zeros in front. -/
def index? (token : List Char) : Option Nat :=
  match token with
  | [] => none
  | c :: rest =>
    if !token.all Char.isDigit || (c == '0' && !rest.isEmpty) then none
    else
      let n := Double.digitsValue token
      if n < UInt64.size then some n else none

/-- The part of a value under one token. -/
def step (token : List Char) : Value → Option Value
  | .map fields => Entries.get? (.str (String.ofList token)) fields
  | .seq items => (index? token).bind fun i => items[i]?
  | _ => none

def select : List (List Char) → Value → Option Value
  | [], v => some v
  | t :: rest, v => (step t v).bind (select rest)

/-- The tokens of a pointer; none if it does not start with a slash. -/
def tokens? (pointer : String) : Option (List (List Char)) :=
  match pointer.toList with
  | [] => some []
  | '/' :: rest => some ((Text.slashParts rest).map fun p => unescape '0' '~' (unescape '1' '/' p))
  | _ => none

/-- The part of a value that a pointer selects. -/
def find? (pointer : String) (v : Value) : Option Value := (tokens? pointer).bind (select · v)

end SchemaCheck.Pointer
