import SchemaCheck.Proofs.Acceptance
import SchemaCheck.Proofs.Compilation
import SchemaCheck.Proofs.Equality
/-!
# Shapes — a value as a schema of its maps

The shape of a value spells out its maps as maps of schemas and takes everything else as it stands.  Comparing with it
goes through the keys of every map and through what stands under them, entry by entry, and comes to the same as the
equality of values, which asks for as many entries and looks each of them up (`conforms_shape_iff`).
-/
namespace SchemaCheck

/-! ## Shapes -/

mutual

/-- The schema that spells out the maps of a value and takes everything else as it stands. -/
def Value.shape : Value → Schema
  | .map fields => .map (Value.shapeFields fields)
  | v => .value v

def Value.shapeFields : List (Key × Value) → List (Key × Schema)
  | [] => []
  | (k, v) :: rest => (k, v.shape) :: Value.shapeFields rest

end

theorem Value.shapeFields_eq_map (fields : List (Key × Value)) :
    Value.shapeFields fields = fields.map fun f => (f.1, f.2.shape) := by
  induction fields with
  | nil => rfl
  | cons f rest ih => rw [Value.shapeFields, ih, List.map_cons]

/-- No shape may be absent. -/
theorem Value.isOptional_shape (v : Value) : v.shape.isOptional = false := by
  cases v <;> rfl

/-! ## Keys -/

/-- Of entries none of which may be absent, keys that are compared as written agree with exactly the same keys. -/
theorem keysAgree_strict_iff {entries : List (Key × Node)} {fields : List (Key × Value)}
    (h : ∀ e ∈ entries, e.2.isOptional = false) :
    KeysAgree .strict entries fields ↔ ∀ k, k ∈ Entries.keys entries ↔ k ∈ Entries.keys fields := by
  constructor
  · intro hagree k
    constructor
    · intro hk
      obtain ⟨e, he, rfl⟩ := List.mem_map.1 hk
      obtain ⟨f, hf, hkey⟩ := hagree.required e he (h e he)
      exact List.mem_map.2 ⟨f, hf, hkey⟩
    · intro hk
      obtain ⟨f, hf, rfl⟩ := List.mem_map.1 hk
      obtain ⟨e, he, hkey⟩ := hagree.declared f hf
      exact List.mem_map.2 ⟨e, he, hkey⟩
  · intro hkeys
    refine ⟨fun e he _ => ?_, fun f hf => ?_⟩
    · obtain ⟨f, hf, hkey⟩ := List.mem_map.1 ((hkeys e.1).1 (List.mem_map_of_mem he))
      exact ⟨f, hf, hkey⟩
    · obtain ⟨e, he, hkey⟩ := List.mem_map.1 ((hkeys f.1).2 (List.mem_map_of_mem hf))
      exact ⟨e, he, hkey⟩

/-! ## Comparing with a shape -/

theorem compile_shape_map (o : Options) (fields : List (Key × Value)) :
    compile o (Value.map fields).shape =
      .mapOf (fields.map fun f => (f.1, compile o f.2.shape)) o.keyPolicy := by
  rw [Value.shape, compile_map, Value.shapeFields_eq_map, List.map_map]
  rfl

/-- Two maps are equal when they have the same keys and equal values under them. -/
theorem Value.same_map_iff {a b : List (Key × Value)} (ha : (Entries.keys a).Nodup) (hb : (Entries.keys b).Nodup) :
    (Value.map a).same (.map b) = true ↔ (∀ k, k ∈ Entries.keys a ↔ k ∈ Entries.keys b) ∧
      ∀ f ∈ a, ∀ g ∈ b, g.1 = f.1 → f.2.same g.2 = true := by
  constructor
  · intro h
    refine ⟨Value.mem_keys_iff_of_same_map ha h, fun f hf g hg hkey => ?_⟩
    rw [Value.same_map, Bool.and_eq_true, Value.sameFields_iff] at h
    obtain ⟨w, hw, hsame⟩ := h.2 f hf
    have hg' : Entries.get? f.1 b = some g.2 := hkey ▸ Entries.get?_of_mem hb hg
    rw [hg', Option.some.injEq] at hw
    exact hw ▸ hsame
  · rintro ⟨hkeys, hvalues⟩
    rw [Value.same_map, Bool.and_eq_true, beq_iff_eq, Value.sameFields_iff]
    refine ⟨Entries.length_eq_of_mem_keys_iff ha hb hkeys, fun f hf => ?_⟩
    obtain ⟨g, hg, hkey⟩ := List.mem_map.1 ((hkeys f.1).1 (List.mem_map_of_mem hf))
    exact ⟨g.2, hkey ▸ Entries.get?_of_mem hb hg, hvalues f hf g hg hkey⟩

/-- The shape of a value asks for an equal value, if all keys are compared as they are written. -/
theorem compare_shape_eq_nil_iff {o : Options} (ho : o.keyPolicy = .strict) (v : Value) : ∀ {w : Value},
    v.isDistinct = true → w.isDistinct = true → (compare (compile o v.shape) w = [] ↔ v.same w = true) := by
  -- only maps are spelt out; for every other value the schema is the literal
  induction v using Value.descent with
  | map fields ih =>
    intro w hv hw
    rw [compile_shape_map, ho, compare_mapOf_eq_nil_iff]
    rw [Value.isDistinct_map] at hv
    have hrequired : ∀ e ∈ fields.map (fun f => (f.1, compile o f.2.shape)), e.2.isOptional = false := by
      intro e he
      obtain ⟨f, -, rfl⟩ := List.mem_map.1 he
      exact (isOptional_compile o f.2.shape).trans f.2.isOptional_shape
    cases w with
    | map others =>
      rw [Value.isDistinct_map] at hw
      have hkeys : Entries.keys (fields.map fun f => (f.1, compile o f.2.shape)) = Entries.keys fields := by
        rw [Entries.keys, List.map_map]
        rfl
      have hbelow : ∀ f ∈ fields, ∀ g ∈ others,
          (compare (compile o f.2.shape).unwrapOptional g.2 = [] ↔ f.2.same g.2 = true) := by
        intro f hf g hg
        rw [Node.unwrapOptional_of_required (hrequired _ (List.mem_map_of_mem hf))]
        exact ih f hf (hv.2 f hf) (hw.2 g hg)
      rw [Value.same_map_iff hv.1 hw.1]
      constructor
      · rintro ⟨_, ⟨⟩, hagree, hvalues⟩
        rw [keysAgree_strict_iff hrequired, hkeys] at hagree
        exact ⟨hagree, fun f hf g hg hkey =>
          (hbelow f hf g hg).1 (hvalues _ (List.mem_map_of_mem hf) g hg hkey)⟩
      · rintro ⟨hagree, hvalues⟩
        refine ⟨others, rfl, (keysAgree_strict_iff hrequired).2 (hkeys ▸ hagree), fun e he g hg hkey => ?_⟩
        obtain ⟨f, hf, rfl⟩ := List.mem_map.1 he
        exact (hbelow f hf g hg).2 (hvalues f hf g hg hkey)
    | _ =>
      constructor
      · rintro ⟨_, ⟨⟩, _⟩
      · intro h
        cases h
  | _ =>
    intro w _ _
    exact compare_atom_eq_nil_iff _ w

/-- **A value conforms to the shape of another one exactly when the two are equal.** -/
theorem conforms_shape_iff {v w : Value} (hv : v.isDistinct = true) (hw : w.isDistinct = true) :
    conforms (compile Options.default v.shape) w = true ↔ v.same w = true := by
  rw [conforms, List.isEmpty_iff]
  exact compare_shape_eq_nil_iff rfl v hv hw

/-- Entries in another order and a number held in another way, below two maps. -/
theorem conforms_shape_of_rearranged :
    let v : Value := .map [(.str "a", .map [(.int 1, .int 2), (.sym "a", .seq [.null])]), (.sym "a", .null)]
    let w : Value := .map [(.sym "a", .null),
      (.str "a", .map [(.sym "a", .seq [.null]), (.int 1, .float (Double.ofInt 2))])]
    v.isDistinct = true ∧ w.isDistinct = true ∧ v.same w = true ∧
      conforms (compile Options.default v.shape) w = true := by
  intro v w
  have hsame : v.same w = true := by decide +kernel
  exact ⟨rfl, rfl, hsame, (conforms_shape_iff rfl rfl).2 hsame⟩

end SchemaCheck
