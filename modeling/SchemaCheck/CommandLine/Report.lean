import SchemaCheck.Document
import SchemaCheck.Validation
import SchemaCheck.Text.Lines
/-!
# Report — what a run of the program shows

A run ends with a code and has written to two channels.  A check shows one block for each document, in order
(`checkLines`): a heading, and under it the lines of the failure message behind a margin.  A fault is shown with
its causes, each indented (`complaint`).
-/
namespace SchemaCheck

/-- What a run leaves behind. -/
structure Outcome where
  code : Nat
  out : String
  err : String
  deriving DecidableEq, Inhabited

namespace Report

/-! ## Colours -/

inductive Style where
  | green
  | red
  | bold
  deriving DecidableEq, Inhabited

def Style.code : Style → String
  | .green => "32"
  | .red => "31"
  | .bold => "1"

/-- The control sequence that begins a style. -/
def Style.start (s : Style) : List Char := '\x1b' :: '[' :: s.code.toList ++ ['m']

/-- The control sequence that ends every style. -/
def styleEnd : List Char := ['\x1b', '[', '0', 'm']

/-- A text in a style: where the text ends every style, the style begins again. -/
def resumed (start : List Char) : List Char → List Char
  | '\x1b' :: '[' :: '0' :: 'm' :: rest => styleEnd ++ start ++ resumed start rest
  | c :: rest => c :: resumed start rest
  | [] => []

/-- A text between the control sequences of a style, where colours are shown. -/
def styled (color : Bool) (s : Style) (text : String) : String :=
  if color then String.ofList (s.start ++ resumed s.start text.toList ++ styleEnd) else text

/-- Whether colours are shown, by three settings and whether the output goes to a terminal: what forces them comes
first, then what forbids them. -/
def showsColor (force forbid allow : Option String) (terminal : Bool) : Bool :=
  if force.any (· ≠ "0") then true
  else if forbid.isSome then false
  else allow.all (· ≠ "0") && terminal

/-! ## Checks -/

/-- The outcome for one document. -/
structure Entry where
  origin : String
  failure : Option String
  deriving DecidableEq, Inhabited

def Entry.of (n : Node) (d : Document) : Entry := ⟨d.origin, (Validation.of n d.value).failureMessage?⟩

/-- What stands before the lines of a message. -/
def margin : List Char := [' ', ' ', ' ', ' ']

/-- The lines for one document; none if it conforms and only failures are wanted. -/
def block (color quiet : Bool) (e : Entry) : List (List Char) :=
  match e.failure with
  | none => if quiet then [] else [(styled color .green "✓" ++ " " ++ e.origin).toList]
  | some message =>
    (styled color .red "✗" ++ " " ++ styled color .bold e.origin).toList ::
      (Text.lines message.toList).map (margin ++ ·)

def checkLines (color quiet : Bool) (es : List Entry) : List (List Char) := es.flatMap (block color quiet)

/-- Lines, each with its end. -/
def unlines (ls : List (List Char)) : String := String.ofList (ls.flatMap (· ++ ['\n']))

def failures (es : List Entry) : Nat := (es.filter (·.failure.isSome)).length

/-- The outcome of a check: the blocks of all documents, and a count where some do not conform. -/
def ofCheck (color quiet : Bool) (es : List Entry) : Outcome :=
  let out := unlines (checkLines color quiet es)
  if failures es = 0 then ⟨0, out, ""⟩
  else
    let count := toString (failures es) ++ " of " ++ toString es.length ++ " documents failed"
    ⟨1, out, styled color .red count ++ "\n"⟩

/-! ## Faults -/

/-- A text with an indentation after each end of a line. -/
def indented (indentation : List Char) (text : String) : List Char :=
  text.toList.flatMap fun c => if c = '\n' then '\n' :: indentation else [c]

/-- The causes of a fault; they are numbered if there are several. -/
def causeChars : List String → List Char
  | [] => []
  | [cause] => "\n\nCaused by:\n    ".toList ++ indented margin cause
  | causes =>
    "\n\nCaused by:".toList ++ causes.zipIdx.flatMap fun cause =>
      let number := (toString cause.2).toList
      '\n' :: List.replicate (5 - number.length) ' ' ++ number ++ [':', ' '] ++
        indented (List.replicate 7 ' ') cause.1

/-- The outcome of a run that fails: a text and its causes, from the nearest on. -/
def complaint (text : String) (causes : List String) : Outcome :=
  ⟨1, "", "Error: " ++ text ++ String.ofList (causeChars causes) ++ "\n"⟩

/-- The messages of a fault and its cause. -/
def chain (f : LoadFault) : List String := f.message :: (f.cause?.map SystemFault.message).toList

def ofInputFault (f : LoadFault) : Outcome := complaint f.message ((f.cause?.map SystemFault.message).toList)

def ofSchemaFault (path : String) (f : LoadFault) : Outcome := complaint ("loading schema " ++ path) (chain f)

end Report
end SchemaCheck
