import SchemaCheck.Validation
/-!
# Matcher — a schema that remembers the last value it was asked about

A matcher answers whether values conform and explains the last answer.  A change of options leaves that explanation
as it was.  `complaint?` and `negatedComplaint?` are the failures of the assertions that a value conforms, or does
not.
-/
namespace SchemaCheck

structure Matcher where
  schema : Schema
  options : Options
  last : Option (Value × Validation)

namespace Matcher

def ofSchema (s : Schema) : Matcher := ⟨s, Options.default, none⟩

def withIndifferentAccess (m : Matcher) : Matcher := { m with options := m.options.withIndifferentAccess }

/-- The answer for a value, and the matcher that remembers it. -/
def ask (m : Matcher) (v : Value) : Bool × Matcher :=
  let r := Validation.of (compile m.options m.schema) v
  (r.isValid, { m with last := some (v, r) })

def nothingMatched (m : Matcher) : String := "no value was matched against schema\n" ++ m.schema.render

/-- Why the last value does not conform; empty if it does. -/
def failureMessage (m : Matcher) : String :=
  match m.last with
  | some (_, r) => r.failureMessage?.getD ""
  | none => m.nothingMatched

def failureMessageWhenNegated (m : Matcher) : String :=
  match m.last with
  | some (v, _) => "expected\n" ++ v.render ++ "\nnot to match schema\n" ++ m.schema.render
  | none => m.nothingMatched

def description (m : Matcher) : String := "conform to schema\n" ++ m.schema.render

/-- The failure of the assertion that a value conforms. -/
def complaint? (m : Matcher) (v : Value) : Option String :=
  let (ok, m) := m.ask v
  if ok then none else some m.failureMessage

/-- The failure of the assertion that a value does not conform. -/
def negatedComplaint? (m : Matcher) (v : Value) : Option String :=
  let (ok, m) := m.ask v
  if ok then some m.failureMessageWhenNegated else none

end Matcher
end SchemaCheck
