import SchemaCheck.Node
/-!
# Tree — values and nodes as trees

`Value.descent` is induction down a value.  `Node.descent` is induction along the way that a comparison takes: what
stands under a key counts without its optional layer.  `Value.everywhere` and `Node.everywhere` ask something of a tree
and of all trees in it.
-/
namespace SchemaCheck

/-! ## Induction -/

/-- **Induction down a value.** -/
theorem Value.descent {motive : Value → Prop} (null : motive .null) (bool : ∀ b, motive (.bool b))
    (int : ∀ i, motive (.int i)) (float : ∀ x, motive (.float x)) (str : ∀ s, motive (.str s))
    (sym : ∀ s, motive (.sym s)) (seq : ∀ items, (∀ v ∈ items, motive v) → motive (.seq items))
    (map : ∀ fields, (∀ f ∈ fields, motive f.2) → motive (.map fields)) (v : Value) : motive v :=
  Value.rec (motive_1 := motive) (motive_2 := fun items => ∀ v ∈ items, motive v)
    (motive_3 := fun fields => ∀ f ∈ fields, motive f.2) (motive_4 := fun f => motive f.2)
    null bool int float str sym seq map
    (fun _ hv => nomatch hv)
    (fun _ _ ihv ihrest => List.forall_mem_cons.2 ⟨ihv, ihrest⟩)
    (fun _ hf => nomatch hf)
    (fun _ _ ihf ihrest => List.forall_mem_cons.2 ⟨ihf, ihrest⟩)
    (fun _ _ ih => ih)
    v

/-- **Induction down a node**, past the optional layer of an entry. -/
theorem Node.descent {motive : Node → Prop} (atom : ∀ p, motive (.atom p))
    (arrayOf : ∀ element, motive element → motive (.arrayOf element))
    (mapOf : ∀ entries policy, (∀ e ∈ entries, motive e.2.unwrapOptional) → motive (.mapOf entries policy))
    (alternatives : ∀ members, (∀ n ∈ members, motive n) → motive (.alternatives members))
    (optional : ∀ inner, motive inner → motive (.optional inner)) (n : Node) : motive n := by
  -- an entry's node is smaller than the map, and the node without its optional layer may be smaller still
  have both : motive n ∧ motive n.unwrapOptional :=
    Node.rec (motive_1 := fun n => motive n ∧ motive n.unwrapOptional)
      (motive_2 := fun entries => ∀ e ∈ entries, motive e.2.unwrapOptional)
      (motive_3 := fun members => ∀ n ∈ members, motive n)
      (motive_4 := fun e => motive e.2.unwrapOptional)
      (fun p => ⟨atom p, atom p⟩)
      (fun element ih => ⟨arrayOf element ih.1, arrayOf element ih.1⟩)
      (fun entries policy ih => ⟨mapOf entries policy ih, mapOf entries policy ih⟩)
      (fun members ih => ⟨alternatives members ih, alternatives members ih⟩)
      (fun inner ih => ⟨optional inner ih.1, ih.1⟩)
      (fun e he => nomatch he)
      (fun e rest ihe ihrest => List.forall_mem_cons.2 ⟨ihe, ihrest⟩)
      (fun n hn => nomatch hn)
      (fun n rest ihn ihrest => List.forall_mem_cons.2 ⟨ihn.1, ihrest⟩)
      (fun k n ih => ih.2)
      n
  exact both.1

/-- What may not be absent has no optional layer. -/
theorem Node.unwrapOptional_of_required {n : Node} (h : n.isOptional = false) : n.unwrapOptional = n := by
  cases n with
  | optional inner => cases h
  | _ => rfl

/-! ## All values of a tree -/

mutual

/-- Something holds of a value and of every value in it. -/
def Value.everywhere (p : Value → Bool) : Value → Bool
  | .seq items => p (.seq items) && Value.everywhereItems p items
  | .map fields => p (.map fields) && Value.everywhereFields p fields
  | v => p v

def Value.everywhereItems (p : Value → Bool) : List Value → Bool
  | [] => true
  | v :: rest => v.everywhere p && Value.everywhereItems p rest

def Value.everywhereFields (p : Value → Bool) : List (Key × Value) → Bool
  | [] => true
  | (_, v) :: rest => v.everywhere p && Value.everywhereFields p rest

end

theorem Value.everywhereItems_iff (p : Value → Bool) : ∀ items : List Value,
    Value.everywhereItems p items = true ↔ ∀ v ∈ items, v.everywhere p = true
  | [] => by simp [Value.everywhereItems]
  | v :: rest => by
    rw [Value.everywhereItems, Bool.and_eq_true, Value.everywhereItems_iff p rest, List.forall_mem_cons]

theorem Value.everywhereFields_iff (p : Value → Bool) : ∀ fields : List (Key × Value),
    Value.everywhereFields p fields = true ↔ ∀ f ∈ fields, f.2.everywhere p = true
  | [] => by simp [Value.everywhereFields]
  | (k, v) :: rest => by
    rw [Value.everywhereFields, Bool.and_eq_true, Value.everywhereFields_iff p rest, List.forall_mem_cons]

theorem Value.everywhere_seq (p : Value → Bool) (items : List Value) :
    (Value.seq items).everywhere p = true ↔ p (.seq items) = true ∧ ∀ v ∈ items, v.everywhere p = true := by
  rw [Value.everywhere, Bool.and_eq_true, Value.everywhereItems_iff]

theorem Value.everywhere_map (p : Value → Bool) (fields : List (Key × Value)) :
    (Value.map fields).everywhere p = true ↔ p (.map fields) = true ∧ ∀ f ∈ fields, f.2.everywhere p = true := by
  rw [Value.everywhere, Bool.and_eq_true, Value.everywhereFields_iff]

/-! ## All nodes of a tree -/

mutual

/-- Something holds of a node and of every node in it. -/
def Node.everywhere (p : Node → Bool) : Node → Bool
  | .atom test => p (.atom test)
  | .arrayOf element => p (.arrayOf element) && element.everywhere p
  | .mapOf entries policy => p (.mapOf entries policy) && Node.everywhereEntries p entries
  | .alternatives members => p (.alternatives members) && Node.everywhereMembers p members
  | .optional inner => p (.optional inner) && inner.everywhere p

def Node.everywhereEntries (p : Node → Bool) : List (Key × Node) → Bool
  | [] => true
  | (_, n) :: rest => n.everywhere p && Node.everywhereEntries p rest

def Node.everywhereMembers (p : Node → Bool) : List Node → Bool
  | [] => true
  | n :: rest => n.everywhere p && Node.everywhereMembers p rest

end

theorem Node.everywhereEntries_iff (p : Node → Bool) : ∀ entries : List (Key × Node),
    Node.everywhereEntries p entries = true ↔ ∀ e ∈ entries, e.2.everywhere p = true
  | [] => by simp [Node.everywhereEntries]
  | (k, n) :: rest => by
    rw [Node.everywhereEntries, Bool.and_eq_true, Node.everywhereEntries_iff p rest, List.forall_mem_cons]

theorem Node.everywhereMembers_iff (p : Node → Bool) : ∀ members : List Node,
    Node.everywhereMembers p members = true ↔ ∀ n ∈ members, n.everywhere p = true
  | [] => by simp [Node.everywhereMembers]
  | n :: rest => by
    rw [Node.everywhereMembers, Bool.and_eq_true, Node.everywhereMembers_iff p rest, List.forall_mem_cons]

theorem Node.everywhere_arrayOf (p : Node → Bool) (element : Node) :
    (Node.arrayOf element).everywhere p = true ↔ p (.arrayOf element) = true ∧ element.everywhere p = true := by
  rw [Node.everywhere, Bool.and_eq_true]

theorem Node.everywhere_mapOf (p : Node → Bool) (entries : List (Key × Node)) (policy : KeyPolicy) :
    (Node.mapOf entries policy).everywhere p = true ↔
      p (.mapOf entries policy) = true ∧ ∀ e ∈ entries, e.2.everywhere p = true := by
  rw [Node.everywhere, Bool.and_eq_true, Node.everywhereEntries_iff]

theorem Node.everywhere_alternatives (p : Node → Bool) (members : List Node) :
    (Node.alternatives members).everywhere p = true ↔
      p (.alternatives members) = true ∧ ∀ n ∈ members, n.everywhere p = true := by
  rw [Node.everywhere, Bool.and_eq_true, Node.everywhereMembers_iff]

theorem Node.everywhere_optional (p : Node → Bool) (inner : Node) :
    (Node.optional inner).everywhere p = true ↔ p (.optional inner) = true ∧ inner.everywhere p = true := by
  rw [Node.everywhere, Bool.and_eq_true]

theorem Node.everywhere_unwrapOptional {p : Node → Bool} {n : Node} (h : n.everywhere p = true) :
    n.unwrapOptional.everywhere p = true := by
  cases n with
  | optional inner =>
    rw [Node.everywhere, Bool.and_eq_true] at h
    exact h.2
  | _ => exact h

/-! ## Conditions on values and nodes -/

/-- A map holds no key twice. -/
def Value.hasDistinctKeys : Value → Bool
  | .map fields => decide (Entries.keys fields).Nodup
  | _ => true

/-- No map in it holds a key twice, as inserting entries ensures (`Entries.nodup_keys_ofPairs`). -/
def Value.isDistinct (v : Value) : Bool := v.everywhere Value.hasDistinctKeys

/-- A map node compares keys by this policy. -/
def Node.hasPolicy (policy : KeyPolicy) : Node → Bool
  | .mapOf _ q => q == policy
  | _ => true

/-- A map node declares no key twice. -/
def Node.hasDistinctKeys : Node → Bool
  | .mapOf entries _ => decide (Entries.keys entries).Nodup
  | _ => true

/-- No map in the value that an atom may ask for holds a key twice. -/
def Node.hasDistinctLiteral : Node → Bool
  | .atom (.equal v) => v.isDistinct
  | _ => true

/-- All keys are compared as they are written. -/
def Node.isStrict (n : Node) : Bool := n.everywhere (Node.hasPolicy .strict)

/-- No map in it declares a key twice, as inserting entries ensures (`Entries.nodup_keys_ofPairs`). -/
def Node.isDistinct (n : Node) : Bool := n.everywhere Node.hasDistinctKeys

/-- No map in a literal holds a key twice. -/
def Node.hasDistinctLiterals (n : Node) : Bool := n.everywhere Node.hasDistinctLiteral

theorem Value.isDistinct_seq (items : List Value) :
    (Value.seq items).isDistinct = true ↔ ∀ v ∈ items, v.isDistinct = true := by
  rw [Value.isDistinct, Value.everywhere_seq]
  exact and_iff_right rfl

theorem Value.isDistinct_map (fields : List (Key × Value)) :
    (Value.map fields).isDistinct = true ↔ (Entries.keys fields).Nodup ∧ ∀ f ∈ fields, f.2.isDistinct = true := by
  rw [Value.isDistinct, Value.everywhere_map, Value.hasDistinctKeys, decide_eq_true_eq]
  exact Iff.rfl

end SchemaCheck
