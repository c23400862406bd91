import SchemaCheck.Decode.Fault
/-!
# Document — values from JSON texts

An integer that fits into 64 bits with sign is an integer, any other number a float; names become strings, and a
repeated name keeps its first place and takes its last value.  Lists and objects may stand inside each other to a
fixed depth (`depthLimit`); a value is decoded together with the room that is left (`Value.ofJson`).
-/
namespace SchemaCheck

namespace Decode

open Json (Token Tree Name Ending Position Problem Number)

/-- How many lists and objects may stand inside each other. -/
def depthLimit : Nat := 127

/-- What a token is when it stands where a value should. -/
def found (t : Token) : Result Found :=
  match t.lexeme with
  | .null => .ok .null
  | .bool b => .ok (.bool b)
  | .number n =>
    match n.value with
    | .ok v => .ok (.number v)
    | .error read => fail .outOfRange (t.start.right read)
  | .string content =>
    match content.text with
    | .ok s => .ok (.string s)
    | .error p => failAt p
  | .flawed p => failAt p
  | _ => failAt (Json.flawAt .value t)

/-- The fault of a value of a wrong type: a list or an object is not entered. -/
def wrongType {α : Type} (wanted : Wanted) : Tree → Result α
  | .leaf t =>
    match found t with
    | .ok f => fail (.wrongType f wanted) t.stop
    | .error f => .error f
  | .list opening _ _ => fail (.wrongType .sequence wanted) opening.start
  | .object opening _ _ => fail (.wrongType .map wanted) opening.start

/-- The end of a list all of whose elements have been read. -/
def closeList {α : Type} (a : α) : Ending → Result α
  | .closed _ => .ok a
  | .flawed flaw position _ => fail (.flaw flaw) position
  | .badName reading _ => failAt reading
  | .noColon _ flaw position => fail (.flaw flaw) position

/-- The end of an object all of whose members have been read.  After a name without a colon, `named` is asked about
the name first. -/
def closeObject {α : Type} (a : α) (named : Name → String → Result Unit) : Ending → Result α
  | .closed _ => .ok a
  | .flawed flaw position _ => failUnnamed ⟨flaw, position⟩
  | .badName reading _ => failUnnamed reading
  | .noColon name flaw position =>
    match name.text with
    | .error p => failUnnamed p
    | .ok s =>
      match named name s with
      | .error f => .error f
      | .ok _ => fail (.flaw flaw) position

end Decode

open Decode (Result under fail failUnnamed found)

def Json.Number.toValue : Json.Number → Value
  | .whole n => if n ≤ Int64.maxValue.toInt then .int (Int64.ofInt n) else .float (Double.ofInt n)
  | .float x => .float x

/-- The value of what is neither a list nor an object. -/
def Decode.Found.toValue : Decode.Found → Value
  | .null => .null
  | .bool b => .bool b
  | .number n => n.toValue
  | .string s => .str s
  | .sequence => .seq []
  | .map => .map []

mutual

/-- The value of a tree that stands so deep that a given number of lists and objects may still be entered. -/
def Value.ofJson (room : Nat) : Json.Tree → Result Value
  | .leaf t => (found t).map Decode.Found.toValue
  | .list opening items ending =>
    match room with
    | 0 => fail .tooDeep opening.peek
    | room + 1 =>
      match Value.itemsOfJson room 0 items with
      | .error f => .error f
      | .ok vs => Decode.closeList (.seq vs) ending
  | .object opening members ending =>
    match room with
    | 0 => fail .tooDeep opening.peek
    | room + 1 =>
      match Value.fieldsOfJson room [] members with
      | .error f => .error f
      | .ok fields => Decode.closeObject (.map fields) (fun _ _ => .ok ()) ending

/-- The values of the elements of a list from an index on. -/
def Value.itemsOfJson (room i : Nat) : List Json.Tree → Result (List Value)
  | [] => .ok []
  | t :: rest =>
    match under (.index i) (Value.ofJson room t) with
    | .error f => .error f
    | .ok v => (Value.itemsOfJson room (i + 1) rest).map (v :: ·)

/-- The fields of an object, after those of its first members. -/
def Value.fieldsOfJson (room : Nat) (done : Entries Value) :
    List (Json.Name × Json.Tree) → Result (Entries Value)
  | [] => .ok done
  | (name, t) :: rest =>
    match name.text with
    | .error p => failUnnamed p
    | .ok s =>
      match under (.key s) (Value.ofJson room t) with
      | .error f => .error f
      | .ok v => Value.fieldsOfJson room (Entries.insert (.str s) v done) rest

end

def Value.ofJsonText (text : String) : Result Value := Value.ofJson Decode.depthLimit (Json.Tree.ofText text)

end SchemaCheck
