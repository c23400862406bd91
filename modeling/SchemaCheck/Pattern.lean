import SchemaCheck.Pattern.Walk
import SchemaCheck.Pattern.Size
import SchemaCheck.Value
/-!
# Pattern — regular expressions that strings and symbols match

A pattern is its source with the regular expression that it stands for.  Since the source determines the
expression, patterns with the same source are the same (`Pattern.ext_source`).  No value but a string or a symbol
matches a pattern.
-/
namespace SchemaCheck

structure Pattern where
  source : String
  regex : Regular.Regex
  compiles : Regular.Regex.admit source = .ok regex

namespace Pattern

theorem ext_source {p q : Pattern} (h : p.source = q.source) : p = q := by
  obtain ⟨s, r, hr⟩ := p
  obtain ⟨t, u, hu⟩ := q
  subst h
  have : r = u := by
    have := hr.symm.trans hu
    simpa using this
  subst this
  rfl

instance : DecidableEq Pattern := fun p q =>
  if h : p.source = q.source then isTrue (ext_source h) else isFalse fun e => h (congrArg source e)

/-- A source that is no regular expression, or too big a one. -/
structure Refused where
  source : String
  cause : Regular.Refusal

def Refused.message (r : Refused) : String :=
  "invalid pattern `" ++ r.source ++ "`: " ++ r.cause.render r.source

def ofSource (source : String) : Except Refused Pattern :=
  match h : Regular.Regex.admit source with
  | .ok regex => .ok ⟨source, regex, h⟩
  | .error cause => .error ⟨source, cause⟩

def isMatch (p : Pattern) (v : Value) : Bool := v.asText?.any fun s => p.regex.isMatch s.toList

def chars (p : Pattern) : List Char := '/' :: p.source.toList ++ ['/']

def render (p : Pattern) : String := String.ofList p.chars

end Pattern
end SchemaCheck
