import SchemaCheck.Pattern.Cursor
/-!
# Escape — what a backslash makes of the characters after it

An escape is a literal, an assertion, a shorthand class or a property.  Characters with a meaning of their own, and
all other ASCII characters but letters, digits and angle brackets, stand for themselves (`isEscapable`).
-/
namespace SchemaCheck.Regular

def isMeta (c : Char) : Bool := "\\.+*?()|[]\x7b\x7d^$#&-~".toList.contains c

/-- An ASCII character that a backslash may stand before without giving it a meaning. -/
def isEscapable (c : Char) : Bool :=
  isMeta c || (c.toNat < 128 && !c.isAlphanum && c != '<' && c != '>')

/-- The character with the code that hexadecimal digits write. -/
def charOfHex? (digits : List Char) : Option Char :=
  let n := CharSet.hexNumber (digits.map Char.toUpper)
  if n.isValidChar then some (Char.ofNat n) else none

/-- The escape of a character code, from the letter after the backslash at `start`. -/
def readHex (blanks : Bool) (start : Mark) (digits : Nat) (k : Cursor) : Except Fault (Tree × Cursor) :=
  let k := k.next blanks
  match k.rest with
  | [] => .error ⟨.escapeUnended, k.here, none⟩
  | '\x7b' :: _ =>
    let (cs, stop) := k.bump.collect blanks Cursor.isHex
    match stop.rest with
    | [] => .error ⟨.escapeUnended, ⟨k.mark, stop.mark⟩, none⟩
    | c :: _ =>
      if c ≠ '\x7d' then .error ⟨.hexDigit, stop.charSpan, none⟩
      else
        let after := stop.next blanks
        if cs.isEmpty then .error ⟨.hexEmpty, ⟨k.mark, after.mark⟩, none⟩
        else
          match charOfHex? cs with
          | none => .error ⟨.hexInvalid, ⟨k.charSpan.stop, stop.mark⟩, none⟩
          | some c => .ok (.literal ⟨⟨start, after.mark⟩, c, false⟩, after)
  | _ =>
    match Cursor.fixedHex blanks digits k with
    | .error f => .error f
    | .ok (cs, after) =>
      match charOfHex? cs with
      | none => .error ⟨.hexInvalid, ⟨k.mark, after.mark⟩, none⟩
      | some c => .ok (.literal ⟨⟨start, after.mark⟩, c, digits == 2⟩, after)

/-- Splits text at the first occurrence of a mark. -/
def splitAt? (mark : List Char) : List Char → Option (List Char × List Char)
  | [] => none
  | c :: r =>
    if mark.isPrefixOf (c :: r) then some ([], (c :: r).drop mark.length)
    else (splitAt? mark r).map fun p => (c :: p.1, p.2)

/-- A property between braces: a name, or a name and a value; an inequality sign negates. -/
def queryOf (text : List Char) : Query × Bool :=
  match splitAt? ['!', '='] text with
  | some (p, v) => (.value p v, true)
  | none =>
    match splitAt? [':'] text with
    | some (p, v) => (.value p v, false)
    | none =>
      match splitAt? ['='] text with
      | some (p, v) => (.value p v, false)
      | none => (.name text, false)

/-- The escape of a property, from the letter after the backslash at `start`. -/
def readProperty (blanks : Bool) (start : Mark) (negated : Bool) (k : Cursor) : Except Fault (Tree × Cursor) :=
  let k := k.next blanks
  match k.rest with
  | [] => .error ⟨.escapeUnended, k.here, none⟩
  | '\x7b' :: _ =>
    let (cs, stop) := k.bump.collect blanks (· != '\x7d')
    if stop.atEnd then .error ⟨.escapeUnended, stop.here, none⟩
    else
      let after := stop.bump
      let (query, unequal) := queryOf cs
      .ok (.property ⟨start, after.mark⟩ (negated != unequal) query, after)
  | '\\' :: _ => .error ⟨.propertyLetter, k.charSpan, none⟩
  | c :: _ =>
    let after := k.next blanks
    .ok (.property ⟨start, after.mark⟩ negated (.name [c]), after)

def isBoundaryChar (c : Char) : Bool := c.isAlpha || c == '-'

/-- A boundary between braces after the escape at `start`; none if the braces hold something else. -/
def readBoundary? (blanks : Bool) (start : Mark) (k : Cursor) : Except Fault (Option (Assertion × Cursor)) :=
  let inner := k.next blanks
  match inner.rest with
  | [] => .error ⟨.boundaryUnended, ⟨start, inner.mark⟩, none⟩
  | c :: _ =>
    if !isBoundaryChar c then .ok none
    else
      let (cs, stop) := inner.collect blanks isBoundaryChar
      if stop.rest.head? ≠ some '\x7d' then .error ⟨.boundaryUnclosed, ⟨k.mark, stop.mark⟩, none⟩
      else
        match String.ofList cs with
        | "start" => .ok (some (.wordStart, stop.bump))
        | "end" => .ok (some (.wordEnd, stop.bump))
        | "start-half" => .ok (some (.wordStartHalf, stop.bump))
        | "end-half" => .ok (some (.wordEndHalf, stop.bump))
        | _ => .error ⟨.boundaryUnknown, ⟨inner.mark, stop.mark⟩, none⟩

/-- The escape whose backslash is at the cursor. -/
def readEscape (blanks : Bool) (k : Cursor) : Except Fault (Tree × Cursor) :=
  let start := k.mark
  let k := k.bump
  match k.rest with
  | [] => .error ⟨.escapeUnended, ⟨start, k.mark⟩, none⟩
  | c :: _ =>
    let after := k.bump
    let span : Span := ⟨start, after.mark⟩
    let literal (d : Char) : Except Fault (Tree × Cursor) := .ok (.literal ⟨span, d, false⟩, after)
    let assertion (a : Assertion) : Except Fault (Tree × Cursor) := .ok (.assertion span a, after)
    if c.isDigit then .error ⟨.backreference, span, none⟩
    else if isEscapable c then literal c
    else
      match c with
      | 'x' => readHex blanks start 2 k
      | 'u' => readHex blanks start 4 k
      | 'U' => readHex blanks start 8 k
      | 'p' => readProperty blanks start false k
      | 'P' => readProperty blanks start true k
      | 'd' => .ok (.shorthand span false .digit, after)
      | 'D' => .ok (.shorthand span true .digit, after)
      | 's' => .ok (.shorthand span false .space, after)
      | 'S' => .ok (.shorthand span true .space, after)
      | 'w' => .ok (.shorthand span false .word, after)
      | 'W' => .ok (.shorthand span true .word, after)
      | 'a' => literal '\x07'
      | 'f' => literal '\x0C'
      | 't' => literal '\t'
      | 'n' => literal '\n'
      | 'r' => literal '\r'
      | 'v' => literal '\x0B'
      | 'A' => assertion .textStart
      | 'z' => assertion .textEnd
      | 'B' => assertion .noBoundary
      | '<' => assertion .wordStart
      | '>' => assertion .wordEnd
      | 'b' =>
        if after.rest.head? ≠ some '\x7b' then assertion .boundary
        else
          match readBoundary? blanks start after with
          | .error f => .error f
          | .ok none => assertion .boundary
          | .ok (some (a, stop)) => .ok (.assertion ⟨start, stop.mark⟩ a, stop)
      | _ => .error ⟨.escapeUnknown, span, none⟩

end SchemaCheck.Regular
