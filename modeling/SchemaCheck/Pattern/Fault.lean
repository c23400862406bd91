import SchemaCheck.Text.Lines
/-!
# Fault — why a regular expression is refused, and where

A fault has a cause, the span of the pattern that it concerns and, for a repetition of something, the span of the
first occurrence.  `Fault.render` shows the pattern with carets under the spans; a pattern of several lines is
shown between rulers, with numbered lines.
-/
namespace SchemaCheck.Regular

/-- A place in a pattern; lines and columns are counted from 1. -/
structure Mark where
  line : Nat
  column : Nat
  deriving DecidableEq, Inhabited

/-- The place after a character. -/
def Mark.after (m : Mark) (c : Char) : Mark := if c = '\n' then ⟨m.line + 1, 1⟩ else ⟨m.line, m.column + 1⟩

structure Span where
  start : Mark
  stop : Mark
  deriving DecidableEq, Inhabited

def Span.isOneLine (s : Span) : Bool := s.start.line == s.stop.line

inductive Cause where
  | classEscape | classRangeOrder | classRangeBound | classUnclosed
  | decimalInvalid
  | hexEmpty | hexInvalid | hexDigit | escapeUnended | escapeUnknown
  | flagDangling | flagRepeated | negationRepeated | flagUnended | flagUnknown
  | groupNameRepeated | groupNameEmpty | groupNameCharacter | groupNameUnclosed | groupUnclosed | groupUnopened
  | nestedTooDeep
  | countOrder | countMissing | countUnclosed | operandMissing
  | boundaryUnclosed | boundaryUnknown | boundaryUnended
  | propertyLetter | propertyUnknown | propertyValueUnknown
  | backreference | lookAround
  | invalidBytes | unicodeOff
  deriving DecidableEq, Inhabited

/-- How many groups, classes and operators may stand inside each other. -/
def nestLimit : Nat := 250

def Cause.wording : Cause → String
  | .classEscape => "invalid escape sequence found in character class"
  | .classRangeOrder => "invalid character class range, the start must be <= the end"
  | .classRangeBound => "invalid range boundary, must be a literal"
  | .classUnclosed => "unclosed character class"
  | .decimalInvalid => "decimal literal invalid"
  | .hexEmpty => "hexadecimal literal empty"
  | .hexInvalid => "hexadecimal literal is not a Unicode scalar value"
  | .hexDigit => "invalid hexadecimal digit"
  | .escapeUnended => "incomplete escape sequence, reached end of pattern prematurely"
  | .escapeUnknown => "unrecognized escape sequence"
  | .flagDangling => "dangling flag negation operator"
  | .flagRepeated => "duplicate flag"
  | .negationRepeated => "flag negation operator repeated"
  | .flagUnended => "expected flag but got end of regex"
  | .flagUnknown => "unrecognized flag"
  | .groupNameRepeated => "duplicate capture group name"
  | .groupNameEmpty => "empty capture group name"
  | .groupNameCharacter => "invalid capture group character"
  | .groupNameUnclosed => "unclosed capture group name"
  | .groupUnclosed => "unclosed group"
  | .groupUnopened => "unopened group"
  | .nestedTooDeep => "exceed the maximum number of nested parentheses/brackets (" ++ toString nestLimit ++ ")"
  | .countOrder => "invalid repetition count range, the start must be <= the end"
  | .countMissing => "repetition quantifier expects a valid decimal"
  | .countUnclosed => "unclosed counted repetition"
  | .operandMissing => "repetition operator missing expression"
  | .boundaryUnclosed => "special word boundary assertion is either unclosed or contains an invalid character"
  | .boundaryUnknown =>
    "unrecognized special word boundary assertion, valid choices are: start, end, start-half or end-half"
  | .boundaryUnended =>
    "found either the beginning of a special word boundary or a bounded repetition " ++
    "on a \\b with an opening brace, but no closing brace"
  | .propertyLetter => "invalid Unicode character class"
  | .propertyUnknown => "Unicode property not found"
  | .propertyValueUnknown => "Unicode property value not found"
  | .backreference => "backreferences are not supported"
  | .lookAround => "look-around, including look-ahead and look-behind, is not supported"
  | .invalidBytes => "pattern can match invalid UTF-8"
  | .unicodeOff => "Unicode not allowed here"

structure Fault where
  cause : Cause
  span : Span
  /-- Where the thing repeated was first. -/
  first : Option Span
  deriving DecidableEq, Inhabited

namespace Fault

def spans (f : Fault) : List Span :=
  match f.first with
  | none => [f.span]
  | some s => [f.span, s].mergeSort fun a b =>
    decide (a.start.line < b.start.line ∨ (a.start.line = b.start.line ∧ a.start.column ≤ b.start.column))

/-- Carets under spans of one line, given in order; `done` columns are filled already. -/
def carets (done : Nat) : List Span → List Char
  | [] => []
  | s :: rest =>
    let gap := s.start.column - 1 - done
    let width := max 1 (s.stop.column - s.start.column)
    List.replicate gap ' ' ++ List.replicate width '^' ++ carets (done + gap + width) rest

/-- A line of the pattern after its margin, and below it the carets of the spans on it. -/
def noted (margin : List Char) (number : Nat) (spans : List Span) (line : List Char) : List Char :=
  let here := spans.filter fun s => s.isOneLine && s.start.line == number
  let marks := if here.isEmpty then [] else List.replicate margin.length ' ' ++ carets 0 here ++ ['\n']
  margin ++ line ++ '\n' :: marks

/-- How many lines the pattern has, an empty last one counted too. -/
def lineCount (pattern : List Char) : Nat :=
  (Text.lines pattern).length + (if pattern.getLast? = some '\n' then 1 else 0)

/-- Line numbers stand to the right in a margin as wide as the greatest needs; a single line has none. -/
def margin (count number : Nat) : List Char :=
  if count ≤ 1 then [' ', ' ', ' ', ' ']
  else
    let digits := (toString number).toList
    List.replicate ((toString count).length - digits.length) ' ' ++ digits ++ [':', ' ']

def ruler : List Char := List.replicate 79 '~' ++ ['\n']

/-- What is said about a span that does not end on the line it starts on. -/
def acrossLines (s : Span) : String :=
  "on line " ++ toString s.start.line ++ " (column " ++ toString s.start.column ++ ") through line " ++
    toString s.stop.line ++ " (column " ++ toString (s.stop.column - 1) ++ ")\n"

def render (pattern : String) (f : Fault) : String :=
  let text := pattern.toList
  let count := lineCount text
  let shown := ((Text.lines text).zipIdx 1).flatMap fun p => noted (margin count p.2) p.2 f.spans p.1
  let across := String.join ((f.spans.filter fun s => !s.isOneLine).map acrossLines)
  let body :=
    if text.contains '\n' then String.ofList (ruler ++ shown ++ ruler) ++ across else String.ofList shown
  "regex parse error:\n" ++ body ++ "error: " ++ f.cause.wording

end Fault
end SchemaCheck.Regular
