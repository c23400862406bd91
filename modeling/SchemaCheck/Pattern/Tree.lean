import SchemaCheck.Pattern.Fault
/-!
# Tree — regular expressions as they are written

The tree of a pattern keeps the spans that a later fault may have to show: an escape may name a property that does
not exist, and only its meaning tells.  `Tree.tooDeep?` finds the first part that stands inside too many others.
-/
namespace SchemaCheck.Regular

/-- A character of a pattern; `byte` when it is written as two hexadecimal digits. -/
structure Literal where
  span : Span
  char : Char
  byte : Bool
  deriving Inhabited

/-- The classes of digits, white space and word characters. -/
inductive Shorthand where
  | digit | space | word
  deriving DecidableEq, Inhabited

/-- What a property escape asks for. -/
inductive Query where
  | name (text : List Char)
  | value (property text : List Char)
  deriving Inhabited

inductive SetOperator where
  | intersection | difference | symmetricDifference
  deriving DecidableEq, Inhabited

inductive Assertion where
  | lineStart | lineEnd | textStart | textEnd
  | boundary | noBoundary | wordStart | wordEnd | wordStartHalf | wordEndHalf
  deriving DecidableEq, Inhabited

/-- Flags: ignore case, several lines, dot for all, swap greed, Unicode, carriage returns, ignore blanks. -/
inductive Flag where
  | caseless | lines | dotAll | swapGreed | unicode | carriage | blanks
  deriving DecidableEq, Inhabited

/-- Flags with the value that each is given. -/
abbrev Flags := List (Flag × Bool)

def Flags.value? (fs : Flags) (f : Flag) : Option Bool := (fs.find? fun p => p.1 == f).map Prod.snd

/-- What stands between the brackets of a class. -/
inductive ClassTree where
  | literal (l : Literal)
  | range (span : Span) (first last : Literal)
  | named (span : Span) (negated : Bool) (ranges : List (Char × Char))
  | property (span : Span) (negated : Bool) (query : Query)
  | shorthand (span : Span) (negated : Bool) (kind : Shorthand)
  | bracketed (span : Span) (negated : Bool) (inner : ClassTree)
  | union (span : Span) (items : List ClassTree)
  | operation (span : Span) (op : SetOperator) (left right : ClassTree)
  deriving Inhabited

inductive Tree where
  | empty (span : Span)
  | flags (span : Span) (flags : Flags)
  | literal (l : Literal)
  | dot (span : Span)
  | assertion (span : Span) (kind : Assertion)
  | property (span : Span) (negated : Bool) (query : Query)
  | shorthand (span : Span) (negated : Bool) (kind : Shorthand)
  | bracketed (span : Span) (negated : Bool) (inner : ClassTree)
  | repetition (span : Span) (least : Nat) (most : Option Nat) (sub : Tree)
  | group (span : Span) (flags : Flags) (sub : Tree)
  | alternation (span : Span) (members : List Tree)
  | concatenation (span : Span) (parts : List Tree)
  deriving Inhabited

def ClassTree.span : ClassTree → Span
  | .literal l => l.span
  | .range s _ _ => s
  | .named s _ _ => s
  | .property s _ _ => s
  | .shorthand s _ _ => s
  | .bracketed s _ _ => s
  | .union s _ => s
  | .operation s _ _ _ => s

def Tree.span : Tree → Span
  | .empty s => s
  | .flags s _ => s
  | .literal l => l.span
  | .dot s => s
  | .assertion s _ => s
  | .property s _ _ => s
  | .shorthand s _ _ => s
  | .bracketed s _ _ => s
  | .repetition s _ _ _ => s
  | .group s _ _ => s
  | .alternation s _ => s
  | .concatenation s _ => s

/-! ## Depth -/

mutual

/-- The first part of a class that stands inside more than the remaining number of others. -/
def ClassTree.tooDeep? : Nat → ClassTree → Option Span
  | 0, .bracketed s _ _ => some s
  | n + 1, .bracketed _ _ inner => inner.tooDeep? n
  | _, .union _ [] => none
  | 0, .union s _ => some s
  | n + 1, .union _ items => ClassTree.firstTooDeep? n items
  | 0, .operation s _ _ _ => some s
  | n + 1, .operation _ _ left right => (left.tooDeep? n).or (right.tooDeep? n)
  | _, _ => none

def ClassTree.firstTooDeep? : Nat → List ClassTree → Option Span
  | _, [] => none
  | n, t :: rest => (t.tooDeep? n).or (ClassTree.firstTooDeep? n rest)

end

mutual

/-- The first part of a pattern that stands inside more than the remaining number of others. -/
def Tree.tooDeep? : Nat → Tree → Option Span
  | 0, .bracketed s _ _ => some s
  | n + 1, .bracketed _ _ inner => inner.tooDeep? n
  | 0, .repetition s _ _ _ => some s
  | n + 1, .repetition _ _ _ sub => sub.tooDeep? n
  | 0, .group s _ _ => some s
  | n + 1, .group _ _ sub => sub.tooDeep? n
  | 0, .alternation s _ => some s
  | n + 1, .alternation _ members => Tree.firstTooDeep? n members
  | 0, .concatenation s _ => some s
  | n + 1, .concatenation _ parts => Tree.firstTooDeep? n parts
  | _, _ => none

def Tree.firstTooDeep? : Nat → List Tree → Option Span
  | _, [] => none
  | n, t :: rest => (t.tooDeep? n).or (Tree.firstTooDeep? n rest)

end

end SchemaCheck.Regular
