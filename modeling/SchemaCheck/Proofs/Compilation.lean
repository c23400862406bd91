import SchemaCheck.Proofs.Tree
/-!
# Compilation — schemas as trees, and their nodes

`Schema.descent` is induction along the way that a comparison with the compiled schema takes: what stands under a key
counts without its optional layer, which compiling keeps (`compile_unwrapOptional`).  `Schema.everywhere` asks something
of a schema and of all schemas in it.
-/
namespace SchemaCheck

namespace Schema

def isOptional : Schema → Bool
  | .optional _ => true
  | _ => false

/-- What describes a value that is present. -/
def unwrapOptional : Schema → Schema
  | .optional s => s
  | s => s

/-- **Induction down a schema**, past the optional layer of an entry. -/
theorem descent {motive : Schema → Prop} (value : ∀ v, motive (.value v)) (kind : ∀ k, motive (.kind k))
    (pattern : ∀ p, motive (.pattern p)) (range : ∀ r, motive (.range r))
    (seq : ∀ items, (∀ s ∈ items, motive s) → motive (.seq items))
    (map : ∀ entries, (∀ e ∈ entries, motive e.2.unwrapOptional) → motive (.map entries))
    (optional : ∀ inner, motive inner → motive (.optional inner)) (s : Schema) : motive s := by
  -- an entry's schema is smaller than the map, and the schema without its optional layer may be smaller still
  have both : motive s ∧ motive s.unwrapOptional :=
    Schema.rec (motive_1 := fun s => motive s ∧ motive s.unwrapOptional)
      (motive_2 := fun items => ∀ s ∈ items, motive s)
      (motive_3 := fun entries => ∀ e ∈ entries, motive e.2.unwrapOptional)
      (motive_4 := fun e => motive e.2.unwrapOptional)
      (fun v => ⟨value v, value v⟩)
      (fun k => ⟨kind k, kind k⟩)
      (fun p => ⟨pattern p, pattern p⟩)
      (fun r => ⟨range r, range r⟩)
      (fun items ih => ⟨seq items ih, seq items ih⟩)
      (fun entries ih => ⟨map entries ih, map entries ih⟩)
      (fun inner ih => ⟨optional inner ih.1, ih.1⟩)
      (fun _ hs => nomatch hs)
      (fun _ _ ihs ihrest => List.forall_mem_cons.2 ⟨ihs.1, ihrest⟩)
      (fun _ he => nomatch he)
      (fun _ _ ihe ihrest => List.forall_mem_cons.2 ⟨ihe, ihrest⟩)
      (fun _ _ ih => ih.2)
      s
  exact both.1

/-! ## All schemas of a tree -/

mutual

/-- Something holds of a schema and of every schema in it. -/
def everywhere (p : Schema → Bool) : Schema → Bool
  | .seq items => p (.seq items) && everywhereItems p items
  | .map entries => p (.map entries) && everywhereEntries p entries
  | .optional inner => p (.optional inner) && inner.everywhere p
  | s => p s

def everywhereItems (p : Schema → Bool) : List Schema → Bool
  | [] => true
  | s :: rest => s.everywhere p && everywhereItems p rest

def everywhereEntries (p : Schema → Bool) : List (Key × Schema) → Bool
  | [] => true
  | (_, s) :: rest => s.everywhere p && everywhereEntries p rest

end

theorem everywhereItems_iff (p : Schema → Bool) : ∀ items : List Schema,
    everywhereItems p items = true ↔ ∀ s ∈ items, s.everywhere p = true
  | [] => by simp [everywhereItems]
  | s :: rest => by
    rw [everywhereItems, Bool.and_eq_true, everywhereItems_iff p rest, List.forall_mem_cons]

theorem everywhereEntries_iff (p : Schema → Bool) : ∀ entries : List (Key × Schema),
    everywhereEntries p entries = true ↔ ∀ e ∈ entries, e.2.everywhere p = true
  | [] => by simp [everywhereEntries]
  | (k, s) :: rest => by
    rw [everywhereEntries, Bool.and_eq_true, everywhereEntries_iff p rest, List.forall_mem_cons]

theorem everywhere_seq (p : Schema → Bool) (items : List Schema) :
    (Schema.seq items).everywhere p = true ↔ p (.seq items) = true ∧ ∀ s ∈ items, s.everywhere p = true := by
  rw [everywhere, Bool.and_eq_true, everywhereItems_iff]

theorem everywhere_map (p : Schema → Bool) (entries : List (Key × Schema)) :
    (Schema.map entries).everywhere p = true ↔ p (.map entries) = true ∧ ∀ e ∈ entries, e.2.everywhere p = true := by
  rw [everywhere, Bool.and_eq_true, everywhereEntries_iff]

theorem everywhere_unwrapOptional {p : Schema → Bool} {s : Schema} (h : s.everywhere p = true) :
    s.unwrapOptional.everywhere p = true := by
  cases s with
  | optional inner =>
    rw [everywhere, Bool.and_eq_true] at h
    exact h.2
  | _ => exact h

/-! ## Conditions on schemas -/

/-- A map declares no key twice. -/
def hasDistinctKeys : Schema → Bool
  | .map entries => decide (Entries.keys entries).Nodup
  | _ => true

/-- No map in it declares a key twice, as inserting entries ensures (`Entries.nodup_keys_ofPairs`). -/
def isDistinct (s : Schema) : Bool := s.everywhere hasDistinctKeys

end Schema

/-! ## The optional layer of a node -/

theorem isOptional_ofMembers (members : List Node) : (Node.ofMembers members).isOptional = false := by
  rcases members with _ | ⟨m, _ | ⟨n, rest⟩⟩ <;> rfl

theorem isOptional_compile (o : Options) (s : Schema) : (compile o s).isOptional = s.isOptional := by
  cases s with
  | seq items => exact isOptional_ofMembers _
  | _ => rfl

theorem compile_unwrapOptional (o : Options) (s : Schema) :
    (compile o s).unwrapOptional = compile o s.unwrapOptional := by
  cases s with
  | optional inner => rfl
  | _ => exact Node.unwrapOptional_of_required (isOptional_compile o _)

theorem compile_map (o : Options) (entries : List (Key × Schema)) :
    compile o (.map entries) = .mapOf (entries.map fun e => (e.1, compile o e.2)) o.keyPolicy := by
  rw [compile, compileEntries_eq_map]

end SchemaCheck
