import SchemaCheck.Json.Tree
import SchemaCheck.Pattern
/-!
# Fault — why a JSON text does not decode, and where

A fault has the path to the part concerned, a complaint and a position in the text.  The path is built on the way
out: a decoder reports the fault of its own part, and `under` puts it into the part around.
-/
namespace SchemaCheck.Decode

open Json (Position Flaw Problem Number)

/-! ## Paths -/

inductive PathStep where
  | key (text : String)
  | index (i : Nat)
  /-- A part that cannot be named. -/
  | unknown
  deriving DecidableEq, Inhabited

/-- Keys after the first step follow a dot; indices stand in brackets. -/
def pathFrom (first : Bool) : List PathStep → String
  | [] => ""
  | .key s :: rest => (if first then "" else ".") ++ s ++ pathFrom false rest
  | .index i :: rest => "[" ++ toString i ++ "]" ++ pathFrom false rest
  | .unknown :: rest => (if first then "" else ".") ++ "?" ++ pathFrom false rest

/-- The root is a dot. -/
def renderPath (path : List PathStep) : String := if path.isEmpty then "." else pathFrom true path

/-! ## Complaints -/

/-- What stands in the text. -/
inductive Found where
  | null
  | bool (b : Bool)
  | number (n : Number)
  | string (s : String)
  | sequence
  | map
  deriving Inhabited

def Found.wording : Found → String
  | .null => "null"
  | .bool b => "boolean `" ++ toString b ++ "`"
  | .number (.whole n) => "integer `" ++ toString n ++ "`"
  | .number (.float x) => "floating point `" ++ Layout.report.text x ++ "`"
  | .string s => "string " ++ String.ofList (Text.quoted s)
  | .sequence => "sequence"
  | .map => "map"

/-- What should stand there. -/
inductive Wanted where
  | string | boolean | float | unit | kindName | bounds | options
  deriving DecidableEq, Inhabited

def Wanted.wording : Wanted → String
  | .string => "a string"
  | .boolean => "a boolean"
  | .float => "f64"
  | .unit => "unit"
  | .kindName => "variant identifier"
  | .bounds => "struct RangeDirective"
  | .options => "struct Options"

/-- The names that schema texts know. -/
def directiveNames : List String := ["$type", "$pattern", "$range", "$optional", "$literal"]

def boundNames : List String := ["min", "max", "exclusive"]

inductive Complaint where
  | flaw (f : Flaw)
  | flawSkipped (f : Flaw)
  | flawFull (f : Flaw)
  | moreElements
  | tooDeep
  | outOfRange
  | wrongType (found : Found) (wanted : Wanted)
  | tooFew (count : Nat)
  | unknownKind (name : String)
  | unknownDirective (name : String)
  | unknownBound (name : String)
  | repeatedField (name : String)
  | notAlone (name : String)
  | badPattern (r : Pattern.Refused)
  deriving Inhabited

def oneOf (names : List String) : String :=
  "one of " ++ String.intercalate ", " (names.map fun n => "`" ++ n ++ "`")

def Complaint.wording : Complaint → String
  | .flaw f => f.whenRead
  | .flawSkipped f => f.whenSkipped
  | .flawFull f => f.whenFull
  | .moreElements => "trailing characters"
  | .tooDeep => "recursion limit exceeded"
  | .outOfRange => "number out of range"
  | .wrongType found wanted => "invalid type: " ++ found.wording ++ ", expected " ++ wanted.wording
  | .tooFew count => "invalid length " ++ toString count ++ ", expected struct RangeDirective with 3 elements"
  | .unknownKind name => "unknown variant `" ++ name ++ "`, expected " ++ oneOf (Kind.all.map Kind.word)
  | .unknownDirective name => "unknown variant `" ++ name ++ "`, expected " ++ oneOf directiveNames
  | .unknownBound name => "unknown field `" ++ name ++ "`, expected " ++ oneOf boundNames
  | .repeatedField name => "duplicate field `" ++ name ++ "`"
  | .notAlone name => "directive `$" ++ name ++ "` must be the only entry of its object"
  | .badPattern r => r.message

structure Fault where
  path : List PathStep
  complaint : Complaint
  position : Position
  deriving Inhabited

namespace Fault

/-- The complaint with its position. -/
def detail (f : Fault) : String :=
  f.complaint.wording ++ " at line " ++ toString f.position.line ++ " column " ++ toString f.position.column

end Fault

/-- The result of decoding a part. -/
abbrev Result (α : Type) := Except Fault α

/-- The result for the whole, when a part of it is reached by a step. -/
def under {α : Type} (s : PathStep) : Result α → Result α
  | .ok a => .ok a
  | .error f => .error { f with path := s :: f.path }

def fail {α : Type} (c : Complaint) (p : Position) : Result α := .error ⟨[], c, p⟩

/-- A flaw of the text, met when it is read. -/
def failAt {α : Type} (p : Problem) : Result α := fail (.flaw p.flaw) p.position

/-- A fault of a part that cannot be named. -/
def failUnnamed {α : Type} (p : Problem) : Result α := under .unknown (failAt p)

theorem under_ok {α : Type} (s : PathStep) (a : α) : under s (.ok a) = .ok a := rfl

theorem under_eq_ok {α : Type} {s : PathStep} {r : Result α} {a : α} (h : under s r = .ok a) : r = .ok a := by
  cases r with
  | ok b => exact h
  | error f => cases h

end SchemaCheck.Decode
