import SchemaCheck.Decode.Document
import SchemaCheck.Schema
/-!
# SchemaText — schemas from JSON texts

Scalars stand for themselves, arrays are sequences, objects are maps.  An object whose only member has a name that
starts with one dollar sign is a directive: a kind, a pattern, a range, something optional, or a literal value.  A
name that really starts with a dollar sign is written with two (`memberName`).
-/
namespace SchemaCheck

namespace Decode

open Json (Token Tree Name Ending Position Problem Number)

inductive Directive where
  | type | pattern | range | optional | literal
  deriving DecidableEq, Inhabited

namespace Directive

def name : Directive → String
  | .type => "type"
  | .pattern => "pattern"
  | .range => "range"
  | .optional => "optional"
  | .literal => "literal"

def all : List Directive := [.type, .pattern, .range, .optional, .literal]

def ofName? (s : String) : Option Directive := all.find? (·.name == s)

theorem ofName?_name (d : Directive) : ofName? d.name = some d := by cases d <;> decide

end Directive

/-- What the name of a member is. -/
inductive MemberName where
  | entry (key : String)
  | directive (name : String)
  deriving DecidableEq, Inhabited

/-- One dollar sign marks a directive, two stand for one. -/
def memberName (s : String) : MemberName :=
  match s.toList with
  | '$' :: '$' :: rest => .entry (String.ofList ('$' :: rest))
  | '$' :: rest => .directive (String.ofList rest)
  | _ => .entry s

/-- The directive of a name that is not alone in its object or unknown. -/
def directiveFault (alone : Bool) (settled : Position) (name : String) : Result Directive :=
  if !alone then fail (.notAlone name) settled
  else
    match Directive.ofName? name with
    | some d => .ok d
    | none => fail (.unknownDirective name) settled

/-- Nothing may follow the member of a directive. -/
def checkAlone (directive : String) (rest : List (Name × Tree)) (ending : Ending) : Result Unit :=
  let second (n : Name) : Result Unit :=
    match n.text with
    | .error p => failUnnamed p
    | .ok _ => fail (.notAlone directive) n.settled
  match rest with
  | (n, _) :: _ => second n
  | [] => closeObject () (fun n _ => second n) ending

/-! ## Kinds -/

/-- A kind by its word, or as an object with the word as its only name and null as its value. -/
def kindOfJson (room : Nat) : Tree → Result Kind
  | .leaf t =>
    match t.lexeme with
    | .string content =>
      match content.text with
      | .error p => failAt p
      | .ok s => named s t.stop
    | .finish => failAt (Json.flawAt .value t)
    | _ => fail (.flaw .valueStray) t.peek
  | .list opening _ _ => fail (.flaw .valueStray) opening.peek
  | .object opening members ending =>
    if room = 0 then fail .tooDeep opening.peek
    else
      match members with
      | [] =>
        match ending with
        | .closed bracket => fail (.flaw .valueStray) bracket.peek
        | .badName reading _ => failAt reading
        | .flawed _ _ t => unnamed t
        | .noColon name flaw position =>
          match name.text with
          | .error p => failAt p
          | .ok s => (named s name.token.stop).bind fun _ => fail (.flaw flaw) position
      | (name, value) :: rest =>
        match name.text with
        | .error p => failAt p
        | .ok s =>
          match named s name.token.stop with
          | .error f => .error f
          | .ok k =>
            match under (.key s) (nothing value) with
            | .error f => .error f
            | .ok _ =>
              match rest, ending with
              | [], .closed _ => .ok k
              | [], .flawed .objectUnended _ _ => fail (.flaw .objectUnended) name.valueSettled
              | _, _ => fail (.flaw .valueStray) name.valueSettled
where
  named (s : String) (p : Position) : Result Kind :=
    match Kind.ofWord? s with
    | some k => .ok k
    | none => fail (.unknownKind s) p
  /-- Something else than a string where the word should be. -/
  unnamed (t : Token) : Result Kind :=
    match t.lexeme with
    | .mark '[' => fail (.wrongType .sequence .kindName) t.start
    | .mark '\x7b' => fail (.wrongType .map .kindName) t.start
    | _ => wrongType .kindName (.leaf t)
  nothing (t : Tree) : Result Unit :=
    match t with
    | .leaf ⟨.null, _, _, _⟩ => .ok ()
    | t => wrongType .unit t

/-! ## Patterns -/

/-- A pattern by its source; a refused one is a fault of the object around. -/
def patternOfJson (key : String) (settled : Position) (t : Tree) : Result Pattern :=
  let source : Result String :=
    match t with
    | .leaf ⟨.string content, _, _, _⟩ =>
      match content.text with
      | .error p => failAt p
      | .ok s => .ok s
    | t => wrongType .string t
  match under (.key key) source with
  | .error f => .error f
  | .ok s =>
    match Pattern.ofSource s with
    | .ok p => .ok p
    | .error r => fail (.badPattern r) settled

/-! ## Ranges -/

/-- A number, or null for none. -/
def boundOfJson : Tree → Result (Option Double)
  | .leaf t =>
    match found t with
    | .error f => .error f
    | .ok .null => .ok none
    | .ok (.number n) => .ok (some n.toDouble)
    | .ok f => fail (.wrongType f .float) t.stop
  | t => wrongType .float t

def boolOfJson : Tree → Result Bool
  | .leaf t =>
    match found t with
    | .error f => .error f
    | .ok (.bool b) => .ok b
    | .ok f => fail (.wrongType f .boolean) t.stop
  | t => wrongType .boolean t

/-- The bounds read so far; a name may come once. -/
structure Bounds where
  min : Option (Option Double)
  max : Option (Option Double)
  exclusive : Option Bool
  deriving Inhabited

namespace Bounds

def none : Bounds := ⟨.none, .none, .none⟩

def has (b : Bounds) (name : String) : Bool :=
  match name with
  | "min" => b.min.isSome
  | "max" => b.max.isSome
  | _ => b.exclusive.isSome

def interval (b : Bounds) : Interval :=
  ⟨b.min.getD .none, b.max.getD .none, !b.exclusive.getD false⟩

/-- An unknown or repeated name. -/
def checkName (b : Bounds) (n : Name) (name : String) : Result Unit :=
  if !boundNames.contains name then under (.key name) (fail (.unknownBound name) n.settled)
  else if b.has name then fail (.repeatedField name) n.settled
  else .ok ()

/-- The bounds with one more. -/
def put (b : Bounds) (name : String) (t : Tree) : Result Bounds :=
  match name with
  | "min" => (boundOfJson t).map fun x => { b with min := some x }
  | "max" => (boundOfJson t).map fun x => { b with max := some x }
  | _ => (boolOfJson t).map fun x => { b with exclusive := some x }

def ofMembers (b : Bounds) (ending : Ending) : List (Name × Tree) → Result Bounds
  | [] => closeObject b (b.checkName · ·) ending
  | (n, t) :: rest =>
    match n.text with
    | .error p => failUnnamed p
    | .ok name =>
      match b.checkName n name with
      | .error f => .error f
      | .ok _ =>
        match under (.key name) (b.put name t) with
        | .error f => .error f
        | .ok b => b.ofMembers ending rest

end Bounds

/-- The end of a list that may have no more elements. -/
def closeFullList {α : Type} (a : α) (rest : List Tree) (ending : Ending) : Result α :=
  match rest with
  | t :: _ => fail .moreElements t.first.peek
  | [] =>
    match ending with
    | .closed _ => .ok a
    | .flawed flaw position _ => fail (.flawFull flaw) position
    | .badName reading _ => failAt reading
    | .noColon _ flaw position => fail (.flawFull flaw) position

/-- The end of a list that needs more elements. -/
def closeShortList {α : Type} (count : Nat) (ending : Ending) : Result α :=
  match ending with
  | .closed bracket => fail (.tooFew count) bracket.stop
  | ending => (closeList () ending).bind fun _ => fail (.tooFew count) Position.start

/-- A range by the names of its bounds, or by their places in a list. -/
def rangeOfJson (room : Nat) : Tree → Result Interval
  | .leaf t => wrongType .bounds (.leaf t)
  | .object opening members ending =>
    if room = 0 then fail .tooDeep opening.peek else (Bounds.none.ofMembers ending members).map Bounds.interval
  | .list opening items ending =>
    if room = 0 then fail .tooDeep opening.peek
    else
      match items with
      | [] => closeShortList 0 ending
      | a :: rest =>
        match under (.index 0) (boundOfJson a) with
        | .error f => .error f
        | .ok min =>
          match rest with
          | [] => closeShortList 1 ending
          | b :: rest =>
            match under (.index 1) (boundOfJson b) with
            | .error f => .error f
            | .ok max =>
              match rest with
              | [] => closeList ⟨min, max, true⟩ ending
              | c :: rest =>
                match under (.index 2) (boolOfJson c) with
                | .error f => .error f
                | .ok exclusive => closeFullList ⟨min, max, !exclusive⟩ rest ending

end Decode

open Decode (Result under fail failUnnamed found)

/-! ## Schemas -/

/-- The literal of a number.  Numbers below zero, other whole numbers and floats are handed over apart, and a whole number
that is not below zero may be too large for an integer. -/
def Schema.ofNumber : Json.Number → Schema
  | .whole (.negSucc n) => .value (.int (Int64.ofInt (.negSucc n)))
  | .whole (.ofNat n) =>
    if (n : Int) ≤ Int64.maxValue.toInt then .value (.int (Int64.ofInt n)) else .value (.float (Double.ofInt n))
  | .float x => .value (.float x)

/-- The literal of what is neither a list nor an object. -/
def Schema.ofFound : Decode.Found → Schema
  | .number n => Schema.ofNumber n
  | f => .value f.toValue

mutual

/-- The schema of a tree that stands so deep that a given number of lists and objects may still be entered. -/
def Schema.ofJson (room : Nat) : Json.Tree → Result Schema
  | .leaf t => (found t).map Schema.ofFound
  | .list opening items ending =>
    match room with
    | 0 => fail .tooDeep opening.peek
    | room + 1 =>
      match Schema.itemsOfJson room 0 items with
      | .error f => .error f
      | .ok ss => Decode.closeList (.seq ss) ending
  | .object opening members ending =>
    match room with
    | 0 => fail .tooDeep opening.peek
    | room + 1 => Schema.ofMembers room [] ending members

/-- The schemas of the elements of a list from an index on. -/
def Schema.itemsOfJson (room i : Nat) : List Json.Tree → Result (List Schema)
  | [] => .ok []
  | t :: rest =>
    match under (.index i) (Schema.ofJson room t) with
    | .error f => .error f
    | .ok s => (Schema.itemsOfJson room (i + 1) rest).map (s :: ·)

/-- The schema of an object, after the entries of its first members. -/
def Schema.ofMembers (room : Nat) (done : Entries Schema) (ending : Json.Ending) :
    List (Json.Name × Json.Tree) → Result Schema
  | [] =>
    Decode.closeObject (.map done) (fun n s =>
      match Decode.memberName s with
      | .entry _ => .ok ()
      | .directive name => (Decode.directiveFault done.isEmpty n.settled name).map fun _ => ()) ending
  | (name, t) :: rest =>
    match name.text with
    | .error p => failUnnamed p
    | .ok s =>
      match Decode.memberName s with
      | .entry key =>
        match under (.key s) (Schema.ofJson room t) with
        | .error f => .error f
        | .ok schema => Schema.ofMembers room (Entries.insert (.str key) schema done) ending rest
      | .directive directive =>
        match Decode.directiveFault done.isEmpty name.settled directive with
        | .error f => .error f
        | .ok d =>
          let payload : Result Schema :=
            match d with
            | .type => under (.key s) ((Decode.kindOfJson room t).map .kind)
            | .pattern => (Decode.patternOfJson s name.valueSettled t).map .pattern
            | .range => under (.key s) ((Decode.rangeOfJson room t).map .range)
            | .optional => under (.key s) ((Schema.ofJson room t).map .optional)
            | .literal => under (.key s) ((Value.ofJson room t).map .value)
          match payload with
          | .error f => .error f
          | .ok schema =>
            match Decode.checkAlone directive rest ending with
            | .error f => .error f
            | .ok _ => .ok schema

end

def Schema.ofJsonText (text : String) : Result Schema := Schema.ofJson Decode.depthLimit (Json.Tree.ofText text)

end SchemaCheck
