import SchemaCheck.Schema
/-!
# Node — schemas as they are compared

A node makes the shapes of a schema explicit: one test (`Predicate`), the same for every element, entries under a
key policy, a choice, or something that may be absent.  `compile` takes a schema to its node, and a sequence to one of
three by the number of its members (`Node.ofMembers`).
-/
namespace SchemaCheck

/-- A single test of a value. -/
inductive Predicate where
  | equal (v : Value)
  | kind (k : Kind)
  | pattern (p : Pattern)
  | range (r : Interval)

namespace Predicate

def test : Predicate → Value → Bool
  | .equal v, w => v.same w
  | .kind k, w => w.ofKind k
  | .pattern p, w => p.isMatch w
  | .range r, w => r.contains w

def same : Predicate → Predicate → Bool
  | .equal v, .equal w => v.same w
  | .kind a, .kind b => a == b
  | .pattern p, .pattern q => p.source == q.source
  | .range r, .range s => r.same s
  | _, _ => false

def chars : Predicate → List Char
  | .equal v => v.chars
  | .kind k => k.name.toList
  | .pattern p => p.chars
  | .range r => r.chars

end Predicate

inductive Node where
  | atom (test : Predicate)
  | arrayOf (element : Node)
  | mapOf (entries : List (Key × Node)) (policy : KeyPolicy)
  | alternatives (members : List Node)
  /-- Has a meaning only as what stands under a key. -/
  | optional (inner : Node)

instance : Inhabited Node := ⟨.atom (.kind .any)⟩

namespace Node

def isOptional : Node → Bool
  | .optional _ => true
  | _ => false

/-- What a value that is present is compared with. -/
def unwrapOptional : Node → Node
  | .optional n => n
  | n => n

end Node

/-! ## Equality -/

mutual

def Node.same : Node → Node → Bool
  | .atom p, .atom q => p.same q
  | .arrayOf a, .arrayOf b => a.same b
  | .mapOf a p, .mapOf b q => p == q && a.length == b.length && Node.sameEntries a b
  | .alternatives a, .alternatives b => Node.sameMembers a b
  | .optional a, .optional b => a.same b
  | _, _ => false

def Node.sameMembers : List Node → List Node → Bool
  | [], [] => true
  | m :: ms, n :: ns => m.same n && Node.sameMembers ms ns
  | _, _ => false

/-- Every entry of the first list has an equal node under its key in the second one. -/
def Node.sameEntries : List (Key × Node) → List (Key × Node) → Bool
  | [], _ => true
  | (k, m) :: rest, entries =>
    (match Entries.get? k entries with
      | some n => m.same n
      | none => false) && Node.sameEntries rest entries

end

theorem Node.same_mapOf (a b : List (Key × Node)) (p q : KeyPolicy) :
    (Node.mapOf a p).same (.mapOf b q) = (p == q && a.length == b.length && Node.sameEntries a b) := rfl

theorem Node.sameMembers_cons (m n : Node) (ms ns : List Node) :
    Node.sameMembers (m :: ms) (n :: ns) = (m.same n && Node.sameMembers ms ns) := rfl

theorem Node.sameEntries_cons (k : Key) (m : Node) (rest entries : List (Key × Node)) :
    Node.sameEntries ((k, m) :: rest) entries =
      ((match Entries.get? k entries with
        | some n => m.same n
        | none => false) && Node.sameEntries rest entries) := rfl

/-! ## Text -/

mutual

def Node.chars : Node → List Char
  | .atom p => p.chars
  | .arrayOf element => bracketed [element.chars]
  | .mapOf entries _ => braced (Node.entryChars entries)
  | .alternatives members => bracketed (Node.memberChars members)
  | .optional inner => optionalChars inner.chars

def Node.memberChars : List Node → List (List Char)
  | [] => []
  | n :: rest => n.chars :: Node.memberChars rest

def Node.entryChars : List (Key × Node) → List (List Char)
  | [] => []
  | (k, n) :: rest => arrow k n.chars :: Node.entryChars rest

end

def Node.render (n : Node) : String := String.ofList n.chars

theorem Node.memberChars_eq_map (members : List Node) : Node.memberChars members = members.map Node.chars := by
  induction members with
  | nil => rfl
  | cons n rest ih => rw [Node.memberChars, ih, List.map_cons]

theorem Node.entryChars_eq_map (entries : List (Key × Node)) :
    Node.entryChars entries = entries.map fun e => arrow e.1 e.2.chars := by
  induction entries with
  | nil => rfl
  | cons e rest ih => rw [Node.entryChars, ih, List.map_cons]

/-! ## Compilation -/

/-- How schemas are compared. -/
structure Options where
  /-- A string and a symbol of one text are the same key. -/
  indifferentAccess : Bool
  deriving DecidableEq, Inhabited

namespace Options

def default : Options := ⟨false⟩

def withIndifferentAccess (_ : Options) : Options := ⟨true⟩

def keyPolicy (o : Options) : KeyPolicy := if o.indifferentAccess then .indifferent else .strict

end Options

/-- What a sequence of schemas means, given their nodes: itself when it is empty, every element for one, a choice
for more. -/
def Node.ofMembers : List Node → Node
  | [] => .atom (.equal (.seq []))
  | [n] => .arrayOf n
  | ns => .alternatives ns

mutual

def compile (o : Options) : Schema → Node
  | .value v => .atom (.equal v)
  | .kind k => .atom (.kind k)
  | .pattern p => .atom (.pattern p)
  | .range r => .atom (.range r)
  | .seq items => Node.ofMembers (compileItems o items)
  | .map entries => .mapOf (compileEntries o entries) o.keyPolicy
  | .optional inner => .optional (compile o inner)

def compileItems (o : Options) : List Schema → List Node
  | [] => []
  | s :: rest => compile o s :: compileItems o rest

def compileEntries (o : Options) : List (Key × Schema) → List (Key × Node)
  | [] => []
  | (k, s) :: rest => (k, compile o s) :: compileEntries o rest

end

theorem compileItems_eq_map (o : Options) (ss : List Schema) : compileItems o ss = ss.map (compile o) := by
  induction ss with
  | nil => rfl
  | cons s rest ih => simp [compileItems, ih]

theorem compileEntries_eq_map (o : Options) (es : List (Key × Schema)) :
    compileEntries o es = es.map fun e => (e.1, compile o e.2) := by
  induction es with
  | nil => rfl
  | cons e rest ih => simp [compileEntries, ih]

theorem compile_seq_single (o : Options) (s : Schema) : compile o (.seq [s]) = .arrayOf (compile o s) := rfl

theorem compile_seq_many (o : Options) (s t : Schema) (rest : List Schema) :
    compile o (.seq (s :: t :: rest)) = .alternatives ((s :: t :: rest).map (compile o)) := by
  simp [compile, compileItems, Node.ofMembers, compileItems_eq_map]

end SchemaCheck
