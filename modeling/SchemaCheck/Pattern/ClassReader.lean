import SchemaCheck.Pattern.Escape
/-!
# ClassReader — reading what stands between brackets

A class is read from left to right with the classes and operations that are still open on a stack.  An operation
takes everything to its left in its class as its left side.
-/
namespace SchemaCheck.Regular

/-- What is open while a class is read. -/
inductive ClassFrame where
  /-- A class, with the items before it in the class around it. -/
  | opened (outer : List ClassTree) (outerStart : Mark) (span : Span) (negated : Bool)
  /-- An operation that waits for its right side. -/
  | operand (op : SetOperator) (left : ClassTree)
  deriving Inhabited

/-- One item, or the union of several, given last one first. -/
def unionOf (start : Mark) (items : List ClassTree) : ClassTree :=
  match items with
  | [] => .union ⟨start, start⟩ []
  | [t] => t
  | t :: rest => .union ⟨((t :: rest).getLast?.getD t).span.start, t.span.stop⟩ (t :: rest).reverse

/-- Completes the operation on top of the stack, if one is there. -/
def completeOperation (right : ClassTree) : List ClassFrame → ClassTree × List ClassFrame
  | .operand op left :: stack => (.operation ⟨left.span.start, right.span.stop⟩ op left right, stack)
  | stack => (right, stack)

/-- The span of the innermost open class. -/
def openClassSpan (default : Span) : List ClassFrame → Span
  | [] => default
  | .opened _ _ span _ :: _ => span
  | .operand _ _ :: rest => openClassSpan default rest

/-- Leading dashes stand for themselves. -/
def leadingDashes (blanks : Bool) (start : Mark) :
    Nat → List ClassTree → Cursor → Except Fault (List ClassTree × Cursor)
  | 0, items, k => .ok (items, k)
  | n + 1, items, k =>
    if k.rest.head? ≠ some '-' then .ok (items, k)
    else
      let after := k.next blanks
      if after.atEnd then .error ⟨.classUnclosed, ⟨start, start⟩, none⟩
      else leadingDashes blanks start n (.literal ⟨k.charSpan, '-', false⟩ :: items) after

/-- The bracket at the cursor, a negation, leading dashes and a leading closing bracket: the items among these,
last one first, the span up to here and whether the class is negated. -/
def openClass (blanks : Bool) (k : Cursor) : Except Fault (List ClassTree × Mark × Span × Bool × Cursor) :=
  let start := k.mark
  let inner := k.next blanks
  if inner.atEnd then .error ⟨.classUnclosed, ⟨start, inner.mark⟩, none⟩
  else
    let negated := inner.rest.head? == some '^'
    let inner := if negated then inner.next blanks else inner
    if inner.atEnd then .error ⟨.classUnclosed, ⟨start, inner.mark⟩, none⟩
    else
      match leadingDashes blanks start inner.rest.length [] inner with
      | .error f => .error f
      | .ok (items, after) =>
        if items.isEmpty && after.rest.head? == some ']' then
          let last := after.next blanks
          if last.atEnd then .error ⟨.classUnclosed, ⟨start, last.mark⟩, none⟩
          else .ok ([.literal ⟨after.charSpan, ']', false⟩], inner.mark, ⟨start, last.mark⟩, negated, last)
        else .ok (items, inner.mark, ⟨start, after.mark⟩, negated, after)

/-- The classes that go by a name between colons, all within ASCII. -/
def namedClass? (name : String) : Option (List (Char × Char)) :=
  match name with
  | "alnum" => some [('0', '9'), ('A', 'Z'), ('a', 'z')]
  | "alpha" => some [('A', 'Z'), ('a', 'z')]
  | "ascii" => some [('\x00', '\x7F')]
  | "blank" => some [('\t', '\t'), (' ', ' ')]
  | "cntrl" => some [('\x00', '\x1F'), ('\x7F', '\x7F')]
  | "digit" => some [('0', '9')]
  | "graph" => some [('!', '~')]
  | "lower" => some [('a', 'z')]
  | "print" => some [(' ', '~')]
  | "punct" => some [('!', '/'), (':', '@'), ('[', '\x60'), ('\x7b', '~')]
  | "space" => some [('\t', '\r'), (' ', ' ')]
  | "upper" => some [('A', 'Z')]
  | "word" => some [('0', '9'), ('A', 'Z'), ('_', '_'), ('a', 'z')]
  | "xdigit" => some [('0', '9'), ('A', 'F'), ('a', 'f')]
  | _ => none

/-- A named class whose bracket is at the cursor, if one stands there. -/
def readNamed? (k : Cursor) : Option (ClassTree × Cursor) :=
  match k.skip? ['[', ':'] with
  | none => none
  | some inner =>
    let negated := inner.rest.head? == some '^'
    let inner := if negated then inner.bump else inner
    let (name, stop) := inner.collect false (· != ':')
    match stop.skip? [':', ']'], namedClass? (String.ofList name) with
    | some after, some ranges => some (.named ⟨k.mark, after.mark⟩ negated ranges, after)
    | _, _ => none

/-- The escape or character at the cursor. -/
def readClassItem (blanks : Bool) (k : Cursor) : Except Fault (Tree × Cursor) :=
  match k.rest with
  | '\\' :: _ => readEscape blanks k
  | c :: _ => .ok (.literal ⟨k.charSpan, c, false⟩, k.bump)
  | [] => .ok (.empty k.here, k)

/-- What an escape may be as an item of a class. -/
def itemOf (t : Tree) : Except Fault ClassTree :=
  match t with
  | .literal l => .ok (.literal l)
  | .shorthand s negated kind => .ok (.shorthand s negated kind)
  | .property s negated query => .ok (.property s negated query)
  | t => .error ⟨.classEscape, t.span, none⟩

/-- What an escape may be as a bound of a range. -/
def boundOf (t : Tree) : Except Fault Literal :=
  match t with
  | .literal l => .ok l
  | t => .error ⟨.classRangeBound, t.span, none⟩

/-- The item or range at the cursor; `around` is the span of the class it stands in. -/
def readClassRange (blanks : Bool) (around : Span) (k : Cursor) : Except Fault (ClassTree × Cursor) := do
  let (first, after) ← readClassItem blanks k
  let dash := after.pass blanks
  if dash.atEnd then throw ⟨.classUnclosed, around, none⟩
  let ahead := dash.peek blanks
  if dash.rest.head? ≠ some '-' ∨ ahead = some ']' ∨ ahead = some '-' then
    let item ← itemOf first
    return (item, dash)
  let second := dash.next blanks
  if second.atEnd then throw ⟨.classUnclosed, around, none⟩
  let (last, stop) ← readClassItem blanks second
  let low ← boundOf first
  let high ← boundOf last
  let span : Span := ⟨low.span.start, high.span.stop⟩
  if high.char < low.char then throw ⟨.classRangeOrder, span, none⟩
  return (.range span low high, stop)

/-- The operation whose sign stands at the cursor twice. -/
def operatorAt? (k : Cursor) : Option SetOperator :=
  match k.rest with
  | '&' :: '&' :: _ => some .intersection
  | '-' :: '-' :: _ => some .difference
  | '~' :: '~' :: _ => some .symmetricDifference
  | _ => none

/-- Reads on in a class: `items` are those of the innermost union, last one first, `stack` what is open around it.
Each turn steps over a character, so the characters left bound the turns. -/
def readClassFrom (blanks : Bool) (whole : Span) :
    Nat → List ClassTree → Mark → List ClassFrame → Cursor → Except Fault (Tree × Cursor)
  | 0, _, _, stack, _ => .error ⟨.classUnclosed, openClassSpan whole stack, none⟩
  | n + 1, items, start, stack, k =>
    let k := k.pass blanks
    let around := openClassSpan whole stack
    match k.rest with
    | [] => .error ⟨.classUnclosed, around, none⟩
    | '[' :: _ =>
      match readNamed? k with
      | some (item, after) => readClassFrom blanks whole n (item :: items) start stack after
      | none =>
        match openClass blanks k with
        | .error f => .error f
        | .ok (inner, innerStart, span, negated, after) =>
          readClassFrom blanks whole n inner innerStart (.opened items start span negated :: stack) after
    | ']' :: _ =>
      let (set, below) := completeOperation (unionOf start items) stack
      let after := k.bump
      match below with
      | [.opened _ _ span negated] => .ok (.bracketed ⟨span.start, after.mark⟩ negated set, after)
      | .opened outer outerStart span negated :: rest =>
        let nested := .bracketed ⟨span.start, after.mark⟩ negated set
        readClassFrom blanks whole n (nested :: outer) outerStart rest after
      | _ => .error ⟨.classUnclosed, whole, none⟩
    | _ =>
      match operatorAt? k with
      | some op =>
        let (left, below) := completeOperation (unionOf start items) stack
        let after := k.bump.bump
        readClassFrom blanks whole n [] after.mark (.operand op left :: below) after
      | none =>
        match readClassRange blanks around k with
        | .error f => .error f
        | .ok (item, after) => readClassFrom blanks whole n (item :: items) start stack after

/-- The class whose bracket is at the cursor. -/
def readClass (blanks : Bool) (k : Cursor) : Except Fault (Tree × Cursor) :=
  match openClass blanks k with
  | .error f => .error f
  | .ok (items, start, span, negated, after) =>
    readClassFrom blanks span (after.rest.length + 1) items start [.opened [] k.mark span negated] after

end SchemaCheck.Regular
