import SchemaCheck.Mismatch
/-!
# Compare — where a value differs from a node

`compare` walks through a node and a value at once and lists all mismatches, in depth-first order: elements by
index, entries as the node declares them.  A value of the wrong structural kind, and a map with the wrong keys, is
one mismatch and is not looked into; so is a value that is like none of several alternatives, whatever they would
have found.  A `Walk` carries the steps down to where it stands and all it has found; an alternative is probed by a
walk of its own.
-/
namespace SchemaCheck

/-! ## Keys -/

/-- Files something under a key, after what is there already. -/
def Entries.file {α : Type} (k : Key) (a : α) (groups : Entries (List α)) : Entries (List α) :=
  Entries.insert k ((Entries.get? k groups).getD [] ++ [a]) groups

/-- The values of a map, filed under their keys as a policy compares them. -/
def filed (policy : KeyPolicy) (fields : List (Key × Value)) : Entries (List Value) :=
  fields.foldl (fun groups f => Entries.file (policy.normalize f.1) f.2 groups) []

/-- The keys of entries as a policy compares them. -/
def declaredKeys (policy : KeyPolicy) (entries : List (Key × Node)) : List Key :=
  entries.map fun e => policy.normalize e.1

/-- The keys that entries require and under which nothing is filed. -/
def missingKeys (policy : KeyPolicy) (entries : List (Key × Node)) (present : Entries (List Value)) : List Key :=
  (entries.filter fun e =>
    !e.2.isOptional && (Entries.get? (policy.normalize e.1) present).isNone).map Prod.fst

/-- The keys of fields that are not declared. -/
def extraKeys (policy : KeyPolicy) (declared : List Key) (fields : List (Key × Value)) : List Key :=
  (fields.filter fun f => !declared.contains (policy.normalize f.1)).map Prod.fst

/-! ## The walk -/

/-- A comparison on its way: the steps from the root down to where it stands, and what it has found. -/
structure Walk where
  path : Array Step
  found : Array Mismatch

namespace Walk

def start : Walk := ⟨#[], #[]⟩

def enter (w : Walk) (s : Step) : Walk := { w with path := w.path.push s }

def leave (w : Walk) : Walk := { w with path := w.path.pop }

/-- Takes a step down, does something there and comes back. -/
def inside (w : Walk) (s : Step) (look : Walk → Walk) : Walk := (look (w.enter s)).leave

/-- Notes a mismatch where the walk stands. -/
def report (w : Walk) (actual : Value) (expected : Node) (reason : Reason) : Walk :=
  { w with found := w.found.push ⟨w.path.toList, actual, expected, reason⟩ }

def reportKind (w : Walk) (actual : Value) (wanted : Kind) : Walk :=
  w.report actual (.atom (.kind wanted)) (.wrongKind wanted actual.kind)

end Walk

mutual

/-- Notes where a value differs from a node, going down into the parts of both. -/
def visit : Node → Value → Walk → Walk
  | .atom p, v, w => if p.test v then w else w.report v (.atom p) .unlike
  | .arrayOf element, .seq items, w =>
    items.zipIdx.foldl (fun w item => w.inside (.index item.2) (visit element item.1)) w
  | .arrayOf _, v, w => w.reportKind v .sequence
  | .mapOf entries policy, .map fields, w =>
    let present := filed policy fields
    let missing := missingKeys policy entries present
    let extra := extraKeys policy (declaredKeys policy entries) fields
    if missing.isEmpty && extra.isEmpty then visitEntries policy present entries w
    else w.report (.map fields) (.mapOf entries policy) (.wrongKeys missing extra)
  | .mapOf _ _, v, w => w.reportKind v .map
  | .alternatives members, v, w => if likeAny v members then w else w.report v (.alternatives members) .unlike
  | .optional inner, v, w => w.report v (.optional inner) .unlike

/-- Visits, entry by entry, all values that are filed under its key; there are none for an entry that is absent. -/
def visitEntries (policy : KeyPolicy) (present : Entries (List Value)) : List (Key × Node) → Walk → Walk
  | [], w => w
  | (k, .optional n) :: rest, w =>
    visitEntries policy present rest
      (((Entries.get? (policy.normalize k) present).getD []).foldl (fun w v => w.inside (.key k) (visit n v)) w)
  | (k, n) :: rest, w =>
    visitEntries policy present rest
      (((Entries.get? (policy.normalize k) present).getD []).foldl (fun w v => w.inside (.key k) (visit n v)) w)

/-- A walk of its own through some member finds nothing. -/
def likeAny (v : Value) : List Node → Bool
  | [] => false
  | n :: rest => (visit n v .start).found.isEmpty || likeAny v rest

end

/-- All mismatches of a value with a node. -/
def compare (n : Node) (v : Value) : List Mismatch := (visit n v .start).found.toList

/-- The value has no mismatch. -/
def conforms (n : Node) (v : Value) : Bool := (compare n v).isEmpty

theorem visitEntries_cons (policy : KeyPolicy) (present : Entries (List Value)) (k : Key) (n : Node)
    (rest : List (Key × Node)) (w : Walk) :
    visitEntries policy present ((k, n) :: rest) w =
      visitEntries policy present rest (((Entries.get? (policy.normalize k) present).getD []).foldl
        (fun w v => w.inside (.key k) (visit n.unwrapOptional v)) w) := by
  cases n <;> rfl

theorem likeAny_eq_any (v : Value) (members : List Node) :
    likeAny v members = members.any fun n => conforms n v := by
  induction members with
  | nil => simp [likeAny]
  | cons n rest ih => simp [likeAny, conforms, compare, ih]

end SchemaCheck
