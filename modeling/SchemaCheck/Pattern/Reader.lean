import SchemaCheck.Number.Layout
import SchemaCheck.Pattern.ClassReader
/-!
# Reader — from the text of a pattern to its tree

A pattern is read from left to right with the groups and alternations that are still open on a stack (`Frame`).
Each turn of `readFrom` steps over at least one character.  `Tree.ofPattern` reads a whole pattern and refuses one
whose parts stand too deep inside each other.
-/
namespace SchemaCheck.Regular

/-- What is open while a pattern is read. -/
inductive Frame where
  /-- A group: the parts before it, last one first, where they start, its opening bracket, its flags, and whether
  blanks are ignored outside. -/
  | group (before : List Tree) (start : Mark) (bracket : Span) (flags : Flags) (blanks : Bool)
  /-- An alternation: its members so far, last one first, and where it starts. -/
  | alternation (members : List Tree) (start : Mark)
  deriving Inhabited

structure Reading where
  cursor : Cursor
  /-- Blanks and comments are ignored. -/
  blanks : Bool
  /-- The parts read since the last bracket or bar, last one first. -/
  parts : List Tree
  /-- Where these parts start. -/
  start : Mark
  stack : List Frame
  /-- The names of groups so far. -/
  names : List (List Char × Span)
  deriving Inhabited

namespace Reading

/-- The parts read since the last bracket or bar as one tree. -/
def concatenated (r : Reading) : Tree :=
  match r.parts with
  | [] => .empty ⟨r.start, r.cursor.mark⟩
  | [t] => t
  | ts => .concatenation ⟨r.start, r.cursor.mark⟩ ts.reverse

/-! ## Groups -/

def isNameChar (first : Bool) (c : Char) : Bool :=
  if first then c == '_' || Text.isLetter c else "_.[]".toList.contains c || Text.isLetter c || Text.isNumeral c

/-- The name of a group up to its closing angle bracket. -/
def readNameFrom (first : Bool) (m : Mark) : List Char → Except Fault (List Char × Cursor)
  | [] => .error ⟨.groupNameUnclosed, ⟨m, m⟩, none⟩
  | c :: r =>
    if c = '>' then .ok ([], ⟨c :: r, m⟩)
    else if isNameChar first c then (readNameFrom false (m.after c) r).map fun p => (c :: p.1, p.2)
    else .error ⟨.groupNameCharacter, ⟨m, m.after c⟩, none⟩

def flag? (c : Char) : Option Flag :=
  match c with
  | 'i' => some .caseless
  | 'm' => some .lines
  | 's' => some .dotAll
  | 'U' => some .swapGreed
  | 'u' => some .unicode
  | 'R' => some .carriage
  | 'x' => some .blanks
  | _ => none

/-- Flags up to a colon or a closing bracket: each flag, or none for the negation sign, with its span.  `dangling`
is the span of a negation sign that no flag has followed yet. -/
def readFlagsFrom (seen : List (Option Flag × Span)) (dangling : Option Span) (m : Mark) :
    List Char → Except Fault (List (Option Flag × Span) × Cursor)
  | [] => .error ⟨.flagUnended, ⟨m, m⟩, none⟩
  | c :: r =>
    let span : Span := ⟨m, m.after c⟩
    if c = ':' ∨ c = ')' then
      match dangling with
      | some s => .error ⟨.flagDangling, s, none⟩
      | none => .ok (seen.reverse, ⟨c :: r, m⟩)
    else
      let item := flag? c
      if c ≠ '-' ∧ item = none then .error ⟨.flagUnknown, span, none⟩
      else
        match seen.find? fun p => p.1 == item with
        | some p => .error ⟨if item = none then .negationRepeated else .flagRepeated, span, some p.2⟩
        | none => readFlagsFrom ((item, span) :: seen) (if item = none then some span else none) (m.after c) r

/-- Flags before the negation sign are set, those after it are cleared. -/
def flagsOf (on : Bool) : List (Option Flag × Span) → Flags
  | [] => []
  | (none, _) :: rest => flagsOf false rest
  | (some f, _) :: rest => (f, on) :: flagsOf on rest

def isLookAround (k : Cursor) : Option Cursor :=
  [['?', '='], ['?', '!'], ['?', '<', '='], ['?', '<', '!']].findSome? fun t => k.skip? t

/-- Opens a group whose content starts at `inner`. -/
def enter (r : Reading) (bracket : Span) (flags : Flags) (inner : Cursor) : Reading :=
  { r with
    cursor := inner
    blanks := (flags.value? .blanks).getD r.blanks
    parts := []
    start := inner.mark
    stack := .group r.parts r.start bracket flags r.blanks :: r.stack }

/-- At an opening bracket: a group, or flags for the rest of the group around. -/
def openGroup (r : Reading) : Except Fault Reading :=
  let bracket := r.cursor.charSpan
  let k := r.cursor.next r.blanks
  match isLookAround k with
  | some after => .error ⟨.lookAround, ⟨bracket.start, after.mark⟩, none⟩
  | none =>
    match (k.skip? ['?', 'P', '<']).or (k.skip? ['?', '<']) with
    | some name =>
      match readNameFrom true name.mark name.rest with
      | .error f => .error f
      | .ok (text, stop) =>
        let span : Span := ⟨name.mark, stop.mark⟩
        if text.isEmpty then .error ⟨.groupNameEmpty, ⟨name.mark, name.mark⟩, none⟩
        else
          match r.names.find? fun p => p.1 == text with
          | some p => .error ⟨.groupNameRepeated, span, some p.2⟩
          | none => .ok ({ r with names := (text, span) :: r.names }.enter bracket [] stop.bump)
    | none =>
      match k.skip? ['?'] with
      | none => .ok (r.enter bracket [] k)
      | some inner =>
        if inner.atEnd then .error ⟨.groupUnclosed, bracket, none⟩
        else
          match readFlagsFrom [] none inner.mark inner.rest with
          | .error f => .error f
          | .ok (items, stop) =>
            let flags := flagsOf true items
            let after := stop.bump
            if stop.rest.head? = some ')' then
              if items.isEmpty then .error ⟨.operandMissing, k.here, none⟩
              else
                .ok { r with
                  cursor := after
                  blanks := (flags.value? .blanks).getD r.blanks
                  parts := .flags ⟨bracket.start, after.mark⟩ flags :: r.parts }
            else .ok (r.enter bracket flags after)

/-- The alternation on top of the stack with one more member, or the member alone, and the stack below. -/
def completeAlternation (r : Reading) : Tree × List Frame :=
  match r.stack with
  | .alternation members start :: rest =>
    (.alternation ⟨start, r.cursor.mark⟩ (r.concatenated :: members).reverse, rest)
  | stack => (r.concatenated, stack)

/-- At a closing bracket. -/
def closeGroup (r : Reading) : Except Fault Reading :=
  let (content, below) := r.completeAlternation
  match below with
  | .group before start bracket flags blanks :: rest =>
    let after := r.cursor.bump
    .ok { r with
      cursor := after
      blanks := blanks
      parts := .group ⟨bracket.start, after.mark⟩ flags content :: before
      start := start
      stack := rest }
  | _ => .error ⟨.groupUnopened, r.cursor.charSpan, none⟩

/-- At a bar. -/
def nextMember (r : Reading) : Reading :=
  let after := r.cursor.bump
  let stack :=
    match r.stack with
    | .alternation members start :: rest => .alternation (r.concatenated :: members) start :: rest
    | stack => .alternation [r.concatenated] r.start :: stack
  { r with cursor := after, parts := [], start := after.mark, stack := stack }

/-- At the end of the pattern. -/
def finish (r : Reading) : Except Fault Tree :=
  let (content, below) := r.completeAlternation
  match below with
  | [] => .ok content
  | .group _ _ bracket _ _ :: _ => .error ⟨.groupUnclosed, bracket, none⟩
  | .alternation _ start :: _ => .error ⟨.groupUnclosed, ⟨start, start⟩, none⟩

/-! ## Repetitions -/

/-- The part that an operator at the cursor repeats, and the parts before it. -/
def operand (r : Reading) : Except Fault (Tree × List Tree) :=
  match r.parts with
  | [] => .error ⟨.operandMissing, r.cursor.here, none⟩
  | .empty _ :: _ => .error ⟨.operandMissing, r.cursor.here, none⟩
  | .flags _ _ :: _ => .error ⟨.operandMissing, r.cursor.here, none⟩
  | t :: rest => .ok (t, rest)

def skipLazy (k : Cursor) : Cursor := if k.rest.head? = some '?' then k.bump else k

/-- At an operator of one sign. -/
def repeatLast (r : Reading) (least : Nat) (most : Option Nat) : Except Fault Reading :=
  match r.operand with
  | .error f => .error f
  | .ok (t, before) =>
    let after := skipLazy r.cursor.bump
    .ok { r with cursor := after, parts := .repetition ⟨t.span.start, after.mark⟩ least most t :: before }

/-- The decimal number at the cursor, with the blanks around it. -/
def readDecimal (blanks : Bool) (k : Cursor) : Except Fault Nat × Cursor :=
  let (_, first) := k.collect false Text.isWhiteSpace
  let (digits, stop) := first.collect blanks Char.isDigit
  let after := (stop.collect blanks Text.isWhiteSpace).2
  let n := Double.digitsValue digits
  if digits.isEmpty then (.error ⟨.countMissing, ⟨first.mark, stop.mark⟩, none⟩, after)
  else if UInt32.size ≤ n then (.error ⟨.decimalInvalid, ⟨first.mark, stop.mark⟩, none⟩, after)
  else (.ok n, after)

/-- The bounds between braces, from the opening brace on, and the place of the closing one. -/
def readCounts (blanks : Bool) (k : Cursor) : Except Fault (Nat × Option Nat × Cursor) := do
  let unclosed (at_ : Cursor) : Fault := ⟨.countUnclosed, ⟨k.mark, at_.mark⟩, none⟩
  let inner := k.next blanks
  if inner.atEnd then throw (unclosed inner)
  let (least, after) := readDecimal blanks inner
  if after.atEnd then throw (unclosed after)
  let (low, high, stop) ←
    if after.rest.head? = some ',' then do
      let second := after.next blanks
      if second.atEnd then throw (unclosed second)
      let low ← least
      if second.rest.head? = some '\x7d' then pure (low, none, second)
      else
        let (most, stop) := readDecimal blanks second
        let high ← most
        pure (low, some high, stop)
    else do
      let n ← least
      pure (n, some n, after)
  if stop.rest.head? ≠ some '\x7d' then throw (unclosed stop)
  return (low, high, stop)

/-- At an opening brace. -/
def repeatCounted (r : Reading) : Except Fault Reading := do
  let (t, before) ← r.operand
  let (least, most, stop) ← readCounts r.blanks r.cursor
  let after := skipLazy (stop.next r.blanks)
  if most.any (· < least) then throw ⟨.countOrder, ⟨r.cursor.mark, after.mark⟩, none⟩
  return { r with cursor := after, parts := .repetition ⟨t.span.start, after.mark⟩ least most t :: before }

/-! ## The whole pattern -/

/-- One more part that ends at `after`. -/
def push (r : Reading) (part : Tree × Cursor) : Reading :=
  { r with cursor := part.2, parts := part.1 :: r.parts }

/-- One turn at the character `c`. -/
def step (r : Reading) (c : Char) : Except Fault Reading :=
  let k := r.cursor
  match c with
  | '(' => r.openGroup
  | ')' => r.closeGroup
  | '|' => .ok r.nextMember
  | '[' => (readClass r.blanks k).map r.push
  | '?' => r.repeatLast 0 (some 1)
  | '*' => r.repeatLast 0 none
  | '+' => r.repeatLast 1 none
  | '\x7b' => r.repeatCounted
  | '\\' => (readEscape r.blanks k).map r.push
  | '.' => .ok (r.push (.dot k.charSpan, k.bump))
  | '^' => .ok (r.push (.assertion k.charSpan .lineStart, k.bump))
  | '$' => .ok (r.push (.assertion k.charSpan .lineEnd, k.bump))
  | c => .ok (r.push (.literal ⟨k.charSpan, c, false⟩, k.bump))

/-- Takes turns until the pattern ends; the characters left bound their number. -/
def readFrom : Nat → Reading → Except Fault Tree
  | 0, r => r.finish
  | n + 1, r =>
    let r := { r with cursor := r.cursor.pass r.blanks }
    match r.cursor.rest with
    | [] => r.finish
    | c :: _ =>
      match r.step c with
      | .error f => .error f
      | .ok next => readFrom n next

end Reading

def Tree.ofPattern (pattern : String) : Except Fault Tree :=
  let cs := pattern.toList
  match Reading.readFrom (cs.length + 1) ⟨⟨cs, ⟨1, 1⟩⟩, false, [], ⟨1, 1⟩, [], []⟩ with
  | .error f => .error f
  | .ok t =>
    match t.tooDeep? nestLimit with
    | some span => .error ⟨.nestedTooDeep, span, none⟩
    | none => .ok t

end SchemaCheck.Regular
