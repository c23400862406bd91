import SchemaCheck.Node
/-!
# Mismatch — one place where a value differs from its schema

A mismatch tells where it is, what stands there, what was expected there, and in which way they differ (`Reason`).
`Mismatch.message` puts it into words; a reason without words of its own shows both sides.
-/
namespace SchemaCheck

/-- One step into a value. -/
inductive Step where
  | key (k : Key)
  | index (i : Nat)
  deriving DecidableEq, Inhabited

def Step.text : Step → String
  | .key k => k.text
  | .index i => toString i

/-- In which way a value differs. -/
inductive Reason where
  | unlike
  | wrongKind (wanted found : Kind)
  | wrongKeys (missing extra : List Key)
  | stated (verb : String)
  deriving DecidableEq, Inhabited

namespace Reason

/-- A heading and one key a line. -/
def keyList (heading : String) (keys : List Key) : List Char :=
  if keys.isEmpty then []
  else heading.toList ++ keys.flatMap fun k => '\n' :: '\t' :: k.chars

/-- The words that a reason has of its own. -/
def verb? : Reason → Option String
  | .unlike => none
  | .wrongKind wanted found => some ("be " ++ wanted.described ++ ", but got " ++ found.described)
  | .wrongKeys missing extra =>
    some (String.ofList ("have a different set of keys".toList ++
      keyList "\nmissing keys were:" missing ++ keyList "\nextra keys were:" extra))
  | .stated verb => some verb

end Reason

structure Mismatch where
  location : List Step
  actual : Value
  expected : Node
  reason : Reason
  deriving Inhabited

namespace Mismatch

/-- A mismatch right where a comparison starts. -/
def atRoot (actual : Value) (expected : Node) (reason : Reason) : Mismatch := ⟨[], actual, expected, reason⟩

/-- The mismatch of a part, seen from the whole. -/
def under (s : Step) (m : Mismatch) : Mismatch := { m with location := s :: m.location }

/-- The location as a path from the root. -/
def pointer (m : Mismatch) : String := "/" ++ String.intercalate "/" (m.location.map Step.text)

def verb (m : Mismatch) : String :=
  match m.reason.verb? with
  | some v => v
  | none => "match\n\t" ++ m.expected.render ++ "\nbut got\n\t" ++ m.actual.render

def message (m : Mismatch) : String := "expected " ++ m.pointer ++ " to " ++ m.verb

/-- Equal in every respect: values and nodes as they are compared, reasons by the words that they have of their own. -/
def same (m n : Mismatch) : Bool :=
  m.location == n.location && m.actual.same n.actual && m.expected.same n.expected &&
    m.reason.verb? == n.reason.verb?

end Mismatch

/-- Mismatches equal one by one. -/
def sameMismatches : List Mismatch → List Mismatch → Bool
  | [], [] => true
  | m :: ms, n :: ns => m.same n && sameMismatches ms ns
  | _, _ => false

end SchemaCheck
