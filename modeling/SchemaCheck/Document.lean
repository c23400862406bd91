import SchemaCheck.Decode.SchemaText
import SchemaCheck.LoadFault
import SchemaCheck.Pointer
/-!
# Document — the values of a source and where they come from

A source is one JSON text, or one on each line that is not blank; a line is then named by its number among all
lines.  Every text is decoded before a pointer narrows any of them.
-/
namespace SchemaCheck

/-- Decodes with the origin in the fault. -/
def decodeAs {α : Type} (origin : String) (r : Decode.Result α) : Except LoadFault α :=
  match r with
  | .ok a => .ok a
  | .error f => .error (.undecoded origin f)

def Schema.ofText (origin text : String) : Except LoadFault Schema := decodeAs origin (Schema.ofJsonText text)

structure Document where
  origin : String
  value : Value
  deriving Inhabited

namespace Document

def ofText (origin text : String) : Except LoadFault Document :=
  (decodeAs origin (Value.ofJsonText text)).map (⟨origin, ·⟩)

/-- The part of a document that a pointer selects, if there is a pointer. -/
def narrow (pointer : Option String) (d : Document) : Except LoadFault Document :=
  match pointer with
  | none => .ok d
  | some p =>
    match Pointer.find? p d.value with
    | some v => .ok { d with value := v }
    | none => .error (.nothingSelected d.origin p)

/-- The lines of a source that are not blank, each with its number among all lines. -/
def sourceLines (text : String) : List (String × Nat) :=
  (((Text.lines text.toList).zipIdx 1).filter fun p => !Text.isBlankLine p.1).map fun p => (String.ofList p.1, p.2)

def lineOrigin (origin : String) (number : Nat) : String := origin ++ ":" ++ toString number

/-- The documents of a source, not narrowed. -/
def wholes (origin text : String) (byLine : Bool) : Except LoadFault (List Document) :=
  if byLine then (sourceLines text).mapM fun p => ofText (lineOrigin origin p.2) p.1
  else (ofText origin text).map fun d => [d]

/-- The documents of a source. -/
def allOfText (origin text : String) (byLine : Bool) (pointer : Option String) : Except LoadFault (List Document) :=
  match wholes origin text byLine with
  | .error f => .error f
  | .ok ds => ds.mapM (narrow pointer)

end Document
end SchemaCheck
