import SchemaCheck.Pattern.Tree
/-!
# Cursor — a place in a pattern with the characters after it

The steps over a pattern: over one character (`bump`), over blanks and comments where they do not count (`pass`),
over the characters that satisfy a test (`collect`), over a fixed number of hexadecimal digits (`fixedHex`).
-/
namespace SchemaCheck.Regular

structure Cursor where
  rest : List Char
  mark : Mark
  deriving Inhabited

namespace Cursor

def atEnd (k : Cursor) : Bool := k.rest.isEmpty

/-- The empty span at the cursor. -/
def here (k : Cursor) : Span := ⟨k.mark, k.mark⟩

/-- The span of the character at the cursor. -/
def charSpan (k : Cursor) : Span :=
  match k.rest with
  | [] => k.here
  | c :: _ => ⟨k.mark, k.mark.after c⟩

def bump (k : Cursor) : Cursor :=
  match k.rest with
  | [] => k
  | c :: r => ⟨r, k.mark.after c⟩

/-- Steps over blanks and over comments, which reach to the end of their line. -/
def passFrom (comment : Bool) (m : Mark) : List Char → Cursor
  | [] => ⟨[], m⟩
  | c :: r =>
    if comment then passFrom (c != '\n') (m.after c) r
    else if Text.isWhiteSpace c then passFrom false (m.after c) r
    else if c = '#' then passFrom true (m.after c) r
    else ⟨c :: r, m⟩

/-- Steps over blanks and comments where blanks are ignored. -/
def pass (blanks : Bool) (k : Cursor) : Cursor := if blanks then passFrom false k.mark k.rest else k

/-- Steps over a character and what is ignored after it. -/
def next (blanks : Bool) (k : Cursor) : Cursor := k.bump.pass blanks

/-- The characters from here on that satisfy a test, without ignored ones between them. -/
def collectFrom (blanks : Bool) (ok : Char → Bool) (comment : Bool) (m : Mark) : List Char → List Char × Cursor
  | [] => ([], ⟨[], m⟩)
  | c :: r =>
    if comment then collectFrom blanks ok (c != '\n') (m.after c) r
    else if blanks && Text.isWhiteSpace c then collectFrom blanks ok false (m.after c) r
    else if blanks && c == '#' then collectFrom blanks ok true (m.after c) r
    else if ok c then
      let (cs, k) := collectFrom blanks ok false (m.after c) r
      (c :: cs, k)
    else ([], ⟨c :: r, m⟩)

def collect (blanks : Bool) (ok : Char → Bool) (k : Cursor) : List Char × Cursor :=
  collectFrom blanks ok false k.mark k.rest

/-- Steps over text if it stands at the cursor. -/
def skip? (text : List Char) (k : Cursor) : Option Cursor :=
  match text with
  | [] => some k
  | c :: more => if k.rest.head? = some c then skip? more k.bump else none

/-- The first visible character, a single comment sign passed over. -/
def visibleFrom (comment : Bool) : List Char → Option Char
  | [] => none
  | c :: r =>
    if Text.isWhiteSpace c then visibleFrom comment r
    else if !comment && c == '#' then visibleFrom true r
    else some c

/-- The character after the one at the cursor, or the first visible one where blanks are ignored. -/
def peek (blanks : Bool) (k : Cursor) : Option Char :=
  let after := k.rest.tail
  if blanks then (visibleFrom false after).or after.head? else after.head?

def isHex (c : Char) : Bool := c.isDigit || ('a' ≤ c && c ≤ 'f') || ('A' ≤ c && c ≤ 'F')

/-- The given number of hexadecimal digits. -/
def fixedHex (blanks : Bool) : Nat → Cursor → Except Fault (List Char × Cursor)
  | 0, k => .ok ([], k)
  | n + 1, k =>
    match k.rest with
    | [] => .error ⟨.escapeUnended, k.here, none⟩
    | c :: _ =>
      if isHex c then (fixedHex blanks n (k.next blanks)).map fun p => (c :: p.1, p.2)
      else .error ⟨.hexDigit, k.charSpan, none⟩

end Cursor
end SchemaCheck.Regular
