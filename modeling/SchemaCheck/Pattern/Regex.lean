import SchemaCheck.Pattern.Reader
import SchemaCheck.Unicode.Script
import SchemaCheck.Unicode.Folding
/-!
# Regex — what a pattern means

A regular expression matches characters of a set, looks at the characters around a place, or combines others.
`Tree.meaning` gives the meaning of a pattern under the flags in force, which hold from where they stand to the end
of the group around them.  `Regex.ofPattern` reads a pattern and takes its meaning; the parts that have none, such
as an unknown property, are refused with their span.
-/
namespace SchemaCheck.Regular

/-- What is asked of the characters around a place. -/
inductive Look where
  | start
  | finish
  | lineStart (carriage : Bool)
  | lineEnd (carriage : Bool)
  | boundary (unicode : Bool)
  | noBoundary (unicode : Bool)
  | wordStart (unicode : Bool)
  | wordEnd (unicode : Bool)
  | noWordBefore (unicode : Bool)
  | noWordAfter (unicode : Bool)
  deriving DecidableEq, Inhabited

inductive Regex where
  | empty
  | chars (set : CharSet)
  | look (l : Look)
  | iterate (least : Nat) (most : Option Nat) (sub : Regex)
  | concat (parts : List Regex)
  | choice (members : List Regex)
  deriving Inhabited

/-! ## Looking around -/

def isAsciiWord (c : Char) : Bool := c.isAlphanum || c == '_'

/-- A character of a word stands there. -/
def wordAt (unicode : Bool) (c : Option Char) : Bool := c.any (if unicode then Text.isWord else isAsciiWord)

/-- Whether a look holds between two characters; at an end of the text there is none. -/
def Look.holds (before after : Option Char) : Look → Bool
  | .start => before.isNone
  | .finish => after.isNone
  | .lineStart false => before.isNone || before == some '\n'
  | .lineStart true => before.isNone || before == some '\n' || (before == some '\r' && after != some '\n')
  | .lineEnd false => after.isNone || after == some '\n'
  | .lineEnd true => after.isNone || after == some '\r' || (after == some '\n' && before != some '\r')
  | .boundary u => wordAt u before != wordAt u after
  | .noBoundary u => wordAt u before == wordAt u after
  | .wordStart u => !wordAt u before && wordAt u after
  | .wordEnd u => wordAt u before && !wordAt u after
  | .noWordBefore u => !wordAt u before
  | .noWordAfter u => !wordAt u after

/-! ## Flags in force -/

structure Settings where
  caseless : Bool
  lines : Bool
  dotAll : Bool
  unicode : Bool
  carriage : Bool
  deriving DecidableEq, Inhabited

namespace Settings

def initial : Settings := ⟨false, false, false, true, false⟩

def apply (s : Settings) (fs : Flags) : Settings where
  caseless := (fs.value? .caseless).getD s.caseless
  lines := (fs.value? .lines).getD s.lines
  dotAll := (fs.value? .dotAll).getD s.dotAll
  unicode := (fs.value? .unicode).getD s.unicode
  carriage := (fs.value? .carriage).getD s.carriage

end Settings

/-! ## Sets of characters -/

/-- The characters of a property, or of a property and a value of it. -/
def Query.set : Query → Except Cause CharSet
  | .name text =>
    let name := Unicode.plainName text
    let ofCategory := ["cf", "sc", "lc"].contains name
    match if ofCategory then none else Unicode.property? name with
    | some s => .ok s
    | none =>
      if !ofCategory && Unicode.valuedProperties.contains name then .error .propertyUnknown
      else
        match (Unicode.category? name).or (Unicode.script? name) with
        | some s => .ok s
        | none =>
          if Unicode.namesWithoutSet.contains name then .error .propertyValueUnknown else .error .propertyUnknown
  | .value property text =>
    let value := Unicode.plainName text
    let found (s : Option CharSet) : Except Cause CharSet :=
      match s with
      | some s => .ok s
      | none => .error .propertyValueUnknown
    match Unicode.plainName property with
    | "gc" | "generalcategory" => found (Unicode.category? value)
    | "sc" | "script" => found (Unicode.script? value)
    | "scx" | "scriptextensions" => found (Unicode.usedInScript? value)
    | other =>
      if Unicode.valuedProperties.contains other || (Unicode.property? other).isSome then
        .error .propertyValueUnknown
      else .error .propertyUnknown

def Query.setAt (span : Span) (q : Query) : Except Fault CharSet :=
  match q.set with
  | .ok s => .ok s
  | .error cause => .error ⟨cause, span, none⟩

def asciiSpace : CharSet := ⟨[(9, 13), (32, 32)]⟩

def asciiWord : CharSet := ⟨[(48, 57), (65, 90), (95, 95), (97, 122)]⟩

def Shorthand.set (unicode : Bool) : Shorthand → CharSet
  | .digit => if unicode then Text.decimalDigits else CharSet.range '0' '9'
  | .space => if unicode then Text.whiteSpace else asciiSpace
  | .word => if unicode then Text.wordCharacters else asciiWord

def isAsciiSet (s : CharSet) : Bool := s.ranges.all fun r => decide (r.2 < 128)

/-- A set with the letters of ASCII in both cases. -/
def foldAscii (s : CharSet) : CharSet :=
  let shifted (r : CharSet) (f : Nat → Nat) : List (Nat × Nat) := (s.inter r).ranges.map fun p => (f p.1, f p.2)
  CharSet.ofRanges
    (s.ranges ++ shifted (CharSet.range 'A' 'Z') (· + 32) ++ shifted (CharSet.range 'a' 'z') (· - 32))

namespace Settings

/-- The set as case is or is not ignored. -/
def fold (s : Settings) (cs : CharSet) : CharSet :=
  if !s.caseless then cs else if s.unicode then cs.foldCase else foldAscii cs

/-- The other characters; without Unicode, the other bytes, which must all be ASCII. -/
def finishSet (s : Settings) (span : Span) (negated : Bool) (cs : CharSet) : Except Fault CharSet :=
  if s.unicode then .ok (if negated then cs.complement else cs)
  else
    let bytes := if negated then cs.complement.inter ⟨[(0, 255)]⟩ else cs
    if isAsciiSet bytes then .ok bytes else .error ⟨.invalidBytes, span, none⟩

/-- The character of a literal, unless it is a byte that no text holds alone. -/
def literalChar (s : Settings) (l : Literal) : Except Fault Char :=
  if !s.unicode && l.byte && decide (128 ≤ l.char.toNat) then .error ⟨.invalidBytes, l.span, none⟩
  else .ok l.char

/-- The character of a literal in a class; without Unicode it must be ASCII. -/
def classChar (s : Settings) (l : Literal) : Except Fault Char :=
  match s.literalChar l with
  | .error f => .error f
  | .ok c => if !s.unicode && decide (128 ≤ c.toNat) then .error ⟨.unicodeOff, l.span, none⟩ else .ok c

def propertySet (s : Settings) (span : Span) (negated : Bool) (q : Query) : Except Fault CharSet :=
  if !s.unicode then .error ⟨.unicodeOff, span, none⟩
  else (q.setAt span).bind fun cs => s.finishSet span negated (s.fold cs)

def shorthandSet (s : Settings) (span : Span) (negated : Bool) (kind : Shorthand) : Except Fault CharSet :=
  s.finishSet span negated (kind.set s.unicode)

end Settings

mutual

/-- The characters that a class stands for. -/
def ClassTree.set (s : Settings) : ClassTree → Except Fault CharSet
  | .literal l => (s.classChar l).map CharSet.single
  | .range _ first last => do
    let a ← s.classChar first
    let b ← s.classChar last
    return CharSet.range a b
  | .named span negated ranges =>
    s.finishSet span negated (s.fold (CharSet.ofRanges (ranges.map fun r => (r.1.toNat, r.2.toNat))))
  | .property span negated query => s.propertySet span negated query
  | .shorthand span negated kind => s.shorthandSet span negated kind
  | .bracketed span negated inner => (inner.set s).bind fun cs => s.finishSet span negated (s.fold cs)
  | .union _ items => (ClassTree.rangesOf s items).map CharSet.ofRanges
  | .operation _ op left right => do
    let a ← left.set s
    let b ← right.set s
    let a := s.fold a
    let b := s.fold b
    return match op with
      | .intersection => a.inter b
      | .difference => a.diff b
      | .symmetricDifference => a.symmDiff b

/-- The ranges of all items of a union. -/
def ClassTree.rangesOf (s : Settings) : List ClassTree → Except Fault (List (Nat × Nat))
  | [] => .ok []
  | t :: rest => do
    let cs ← t.set s
    let more ← ClassTree.rangesOf s rest
    return cs.ranges ++ more

end

/-! ## Meaning -/

def Settings.look (s : Settings) : Assertion → Look
  | .lineStart => if s.lines then .lineStart s.carriage else .start
  | .lineEnd => if s.lines then .lineEnd s.carriage else .finish
  | .textStart => .start
  | .textEnd => .finish
  | .boundary => .boundary s.unicode
  | .noBoundary => .noBoundary s.unicode
  | .wordStart => .wordStart s.unicode
  | .wordEnd => .wordEnd s.unicode
  | .wordStartHalf => .noWordBefore s.unicode
  | .wordEndHalf => .noWordAfter s.unicode

/-- The characters that a dot stands for. -/
def Settings.dot (s : Settings) (span : Span) : Except Fault CharSet :=
  if !s.unicode then .error ⟨.invalidBytes, span, none⟩
  else if s.dotAll then .ok CharSet.all
  else if s.carriage then .ok (CharSet.union (CharSet.single '\r') (CharSet.single '\n')).complement
  else .ok (CharSet.single '\n').complement

mutual

/-- The meaning of a tree, and the flags in force after it. -/
def Tree.meaning (s : Settings) : Tree → Except Fault (Regex × Settings)
  | .empty _ => .ok (.empty, s)
  | .flags _ fs => .ok (.empty, s.apply fs)
  | .literal l => (s.literalChar l).map fun c => (.chars (s.fold (CharSet.single c)), s)
  | .dot span => (s.dot span).map fun cs => (.chars cs, s)
  | .assertion _ a => .ok (.look (s.look a), s)
  | .property span negated query => (s.propertySet span negated query).map fun cs => (.chars cs, s)
  | .shorthand span negated kind => (s.shorthandSet span negated kind).map fun cs => (.chars cs, s)
  | .bracketed span negated inner =>
    ((inner.set s).bind fun cs => s.finishSet span negated (s.fold cs)).map fun cs => (.chars cs, s)
  | .repetition _ least most sub => (sub.meaning s).map fun p => (.iterate least most p.1, p.2)
  | .group _ fs sub => (sub.meaning (s.apply fs)).map fun p => (p.1, s)
  | .alternation _ members => (Tree.meanings s members).map fun p => (.choice p.1, p.2)
  | .concatenation _ parts => (Tree.meanings s parts).map fun p => (.concat p.1, p.2)

/-- The meanings of trees that follow each other, each under the flags in force after the one before. -/
def Tree.meanings (s : Settings) : List Tree → Except Fault (List Regex × Settings)
  | [] => .ok ([], s)
  | t :: rest => do
    let (r, s) ← t.meaning s
    let (rs, s) ← Tree.meanings s rest
    return (r :: rs, s)

end

def Regex.ofPattern (pattern : String) : Except Fault Regex :=
  match Tree.ofPattern pattern with
  | .error f => .error f
  | .ok t => (t.meaning Settings.initial).map Prod.fst

end SchemaCheck.Regular
