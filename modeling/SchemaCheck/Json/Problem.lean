/-!
# Problem — what is wrong with a JSON text, and where

A position is a line and the number of bytes read on it.  `Flaw` says what is wrong with the form of a text; how it
is worded depends on whether the value concerned is read (`whenRead`), passed over (`whenSkipped`) or expected to
end after a fixed number of elements (`whenFull`).
-/
namespace SchemaCheck.Json

/-- A line, counted from 1, and the bytes read on it. -/
structure Position where
  line : Nat
  column : Nat
  deriving DecidableEq, Inhabited

namespace Position

def start : Position := ⟨1, 0⟩

/-- After a character, which may take several bytes. -/
def after (p : Position) (c : Char) : Position :=
  if c = '\n' then ⟨p.line + 1, 0⟩ else ⟨p.line, p.column + c.utf8Size⟩

/-- After the first byte of a character. -/
def afterByte (p : Position) (c : Char) : Position :=
  if c = '\n' then ⟨p.line + 1, 0⟩ else ⟨p.line, p.column + 1⟩

/-- After the first byte of what follows, if anything does. -/
def peek (p : Position) : List Char → Position
  | [] => p
  | c :: _ => p.afterByte c

/-- After a number of bytes of what follows. -/
def afterBytes (p : Position) : Nat → List Char → Position
  | _, [] => p
  | n, c :: rest =>
    if n = 0 then p
    else if c.utf8Size ≤ n then afterBytes (p.after c) (n - c.utf8Size) rest
    else ⟨p.line, p.column + n⟩

/-- After a number of characters of one byte each, none of them a line feed. -/
def right (p : Position) (n : Nat) : Position := ⟨p.line, p.column + n⟩

end Position

/-- What is wrong with the form of a text. -/
inductive Flaw where
  | valueMissing | valueStray
  | wordMisspelt | wordUnended
  | numberMalformed | numberUnended
  | stringUnended | stringControl | escapeUnknown | escapeUnpaired | surrogateAlone
  | listUnended | listNoComma | listComma | listCommaUnended
  | objectUnended | objectNoComma | objectComma | objectCommaUnended
  | nameNoString | colonMissing | colonUnended
  deriving DecidableEq, Inhabited

namespace Flaw

/-- The wording when the value is read. -/
def whenRead : Flaw → String
  | .valueMissing | .wordUnended | .numberUnended | .listCommaUnended | .objectCommaUnended =>
    "EOF while parsing a value"
  | .valueStray => "expected value"
  | .wordMisspelt => "expected ident"
  | .numberMalformed => "invalid number"
  | .stringUnended => "EOF while parsing a string"
  | .stringControl => "control character (\\u0000-\\u001F) found while parsing a string"
  | .escapeUnknown => "invalid escape"
  | .escapeUnpaired => "unexpected end of hex escape"
  | .surrogateAlone => "lone leading surrogate in hex escape"
  | .listUnended => "EOF while parsing a list"
  | .listNoComma => "expected `,` or `]`"
  | .listComma | .objectComma => "trailing comma"
  | .objectUnended | .colonUnended => "EOF while parsing an object"
  | .objectNoComma => "expected `,` or `\x7d`"
  | .nameNoString => "key must be a string"
  | .colonMissing => "expected `:`"

/-- The wording when the value is passed over. -/
def whenSkipped : Flaw → String
  | .numberUnended => "invalid number"
  | .listComma => "expected value"
  | .objectComma => "key must be a string"
  | .objectCommaUnended => "EOF while parsing an object"
  | f => f.whenRead

/-- The wording where a list should end because no further element is expected. -/
def whenFull : Flaw → String
  | .listNoComma | .listCommaUnended => "trailing characters"
  | f => f.whenRead

end Flaw

structure Problem where
  flaw : Flaw
  position : Position
  deriving DecidableEq, Inhabited

end SchemaCheck.Json
