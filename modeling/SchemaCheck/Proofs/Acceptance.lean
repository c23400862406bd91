import SchemaCheck.Proofs.Walk
/-!
# Acceptance — what conforms to a node

`Accepts` says what a node asks of a value, without a word on how the two are compared.  Node by node, a comparison
that finds nothing asks the same (`compare_arrayOf_eq_nil_iff`, `compare_mapOf_eq_nil_iff` and their like), so a
value conforms exactly when it is accepted (`conforms_iff_accepts`).
-/
namespace SchemaCheck

/-- A node accepts a value.  Nothing is accepted as something that may be absent. -/
inductive Accepts : Node → Value → Prop where
  | atom {p : Predicate} {v : Value} : p.test v = true → Accepts (.atom p) v
  | arrayOf {element : Node} {items : List Value} :
      (∀ v ∈ items, Accepts element v) → Accepts (.arrayOf element) (.seq items)
  | mapOf {entries : List (Key × Node)} {policy : KeyPolicy} {fields : List (Key × Value)} :
      KeysAgree policy entries fields →
      (∀ e ∈ entries, ∀ f ∈ fields, policy.normalize f.1 = policy.normalize e.1 →
        Accepts e.2.unwrapOptional f.2) →
      Accepts (.mapOf entries policy) (.map fields)
  | alternatives {members : List Node} {n : Node} {v : Value} :
      n ∈ members → Accepts n v → Accepts (.alternatives members) v

/-! ## What each node accepts -/

theorem accepts_atom_iff (p : Predicate) (v : Value) : Accepts (.atom p) v ↔ p.test v = true :=
  ⟨fun h => by cases h with | atom h => exact h, .atom⟩

theorem accepts_arrayOf_iff (element : Node) (v : Value) :
    Accepts (.arrayOf element) v ↔ ∃ items, v = .seq items ∧ ∀ x ∈ items, Accepts element x := by
  constructor
  · intro h
    cases h with
    | arrayOf h => exact ⟨_, rfl, h⟩
  · rintro ⟨items, rfl, h⟩
    exact .arrayOf h

theorem accepts_mapOf_iff (entries : List (Key × Node)) (policy : KeyPolicy) (v : Value) :
    Accepts (.mapOf entries policy) v ↔ ∃ fields, v = .map fields ∧ KeysAgree policy entries fields ∧
      ∀ e ∈ entries, ∀ f ∈ fields, policy.normalize f.1 = policy.normalize e.1 →
        Accepts e.2.unwrapOptional f.2 := by
  constructor
  · intro h
    cases h with
    | mapOf hk h => exact ⟨_, rfl, hk, h⟩
  · rintro ⟨fields, rfl, hk, h⟩
    exact .mapOf hk h

theorem accepts_alternatives_iff (members : List Node) (v : Value) :
    Accepts (.alternatives members) v ↔ ∃ n ∈ members, Accepts n v :=
  ⟨fun h => by cases h with | alternatives hn h => exact ⟨_, hn, h⟩, fun ⟨_, hn, h⟩ => .alternatives hn h⟩

theorem not_accepts_optional (inner : Node) (v : Value) : ¬ Accepts (.optional inner) v := nofun

/-! ## Where a comparison finds nothing -/

theorem elementMismatches_eq_nil_iff (element : Node) (items : List Value) :
    elementMismatches element items = [] ↔ ∀ x ∈ items, compare element x = [] := by
  rw [List.eq_nil_iff_forall_not_mem]
  constructor
  · intro h x hx
    obtain ⟨i, hi⟩ := List.mem_iff_getElem?.1 hx
    exact List.eq_nil_iff_forall_not_mem.2 fun part hp => h _ (mem_elementMismatches.2 ⟨i, x, hi, part, hp, rfl⟩)
  · intro h m hm
    obtain ⟨i, x, hi, part, hp, -⟩ := mem_elementMismatches.1 hm
    rw [h x (List.mem_of_getElem? hi)] at hp
    cases hp

theorem entryMismatches_eq_nil_iff (policy : KeyPolicy) (fields : List (Key × Value)) (e : Key × Node) :
    entryMismatches policy fields e = [] ↔
      ∀ f ∈ fields, policy.normalize f.1 = policy.normalize e.1 → compare e.2.unwrapOptional f.2 = [] := by
  rw [List.eq_nil_iff_forall_not_mem]
  constructor
  · intro h f hf hk
    exact List.eq_nil_iff_forall_not_mem.2 fun part hp => h _ (mem_entryMismatches.2 ⟨f, hf, hk, part, hp, rfl⟩)
  · intro h m hm
    obtain ⟨f, hf, hk, part, hp, -⟩ := mem_entryMismatches.1 hm
    rw [h f hf hk] at hp
    cases hp

theorem compare_atom_eq_nil_iff (p : Predicate) (v : Value) : compare (.atom p) v = [] ↔ p.test v = true := by
  rw [compare_atom]
  cases p.test v <;> simp

theorem compare_arrayOf_eq_nil_iff (element : Node) (v : Value) :
    compare (.arrayOf element) v = [] ↔ ∃ items, v = .seq items ∧ ∀ x ∈ items, compare element x = [] := by
  constructor
  · intro h
    cases v with
    | seq items => exact ⟨items, rfl, (elementMismatches_eq_nil_iff element items).1 (compare_arrayOf_seq .. ▸ h)⟩
    | _ => exact absurd (h.symm.trans (compare_arrayOf_of_kind_ne element nofun)) nofun
  · rintro ⟨items, rfl, h⟩
    rw [compare_arrayOf_seq]
    exact (elementMismatches_eq_nil_iff element items).2 h

theorem compare_mapOf_eq_nil_iff (entries : List (Key × Node)) (policy : KeyPolicy) (v : Value) :
    compare (.mapOf entries policy) v = [] ↔ ∃ fields, v = .map fields ∧ KeysAgree policy entries fields ∧
      ∀ e ∈ entries, ∀ f ∈ fields, policy.normalize f.1 = policy.normalize e.1 →
        compare e.2.unwrapOptional f.2 = [] := by
  constructor
  · intro h
    cases v with
    | map fields =>
      by_cases hk : KeysAgree policy entries fields
      · rw [compare_mapOf_map hk, List.flatMap_eq_nil_iff] at h
        exact ⟨fields, rfl, hk, fun e he => (entryMismatches_eq_nil_iff policy fields e).1 (h e he)⟩
      · rw [compare_mapOf_map_of_not_agree hk] at h
        cases h
    | _ => exact absurd (h.symm.trans (compare_mapOf_of_kind_ne entries policy nofun)) nofun
  · rintro ⟨fields, rfl, hk, h⟩
    rw [compare_mapOf_map hk, List.flatMap_eq_nil_iff]
    exact fun e he => (entryMismatches_eq_nil_iff policy fields e).2 (h e he)

theorem kind_eq_of_compare_arrayOf {element : Node} {v : Value} (h : compare (.arrayOf element) v = []) :
    v.kind = .sequence := by
  obtain ⟨items, rfl, -⟩ := (compare_arrayOf_eq_nil_iff element v).1 h
  rfl

theorem kind_eq_of_compare_mapOf {entries : List (Key × Node)} {policy : KeyPolicy} {v : Value}
    (h : compare (.mapOf entries policy) v = []) : v.kind = .map := by
  obtain ⟨fields, rfl, -⟩ := (compare_mapOf_eq_nil_iff entries policy v).1 h
  rfl

theorem compare_alternatives_eq_nil_iff (members : List Node) (v : Value) :
    compare (.alternatives members) v = [] ↔ ∃ n ∈ members, compare n v = [] := by
  have hany : (members.any fun n => conforms n v) = true ↔ ∃ n ∈ members, compare n v = [] := by
    rw [List.any_eq_true]
    exact exists_congr fun n => and_congr_right fun _ => List.isEmpty_iff
  rw [compare_alternatives, ← hany]
  cases members.any fun n => conforms n v <;> simp

/-- A comparison finds nothing exactly where the node accepts the value. -/
theorem compare_eq_nil_iff_accepts (n : Node) : ∀ v : Value, compare n v = [] ↔ Accepts n v := by
  induction n using Node.descent with
  | atom p =>
    intro v
    rw [compare_atom_eq_nil_iff, accepts_atom_iff]
  | arrayOf element ih =>
    intro v
    rw [compare_arrayOf_eq_nil_iff, accepts_arrayOf_iff]
    exact exists_congr fun items => and_congr_right fun _ => forall₂_congr fun x _ => ih x
  | mapOf entries policy ih =>
    intro v
    rw [compare_mapOf_eq_nil_iff, accepts_mapOf_iff]
    refine exists_congr fun fields => and_congr_right fun _ => and_congr_right fun _ => ?_
    exact forall₂_congr fun e he => forall₂_congr fun f _ => imp_congr_right fun _ => ih e he f.2
  | alternatives members ih =>
    intro v
    rw [compare_alternatives_eq_nil_iff, accepts_alternatives_iff]
    exact exists_congr fun n => and_congr_right fun hn => ih n hn v
  | optional inner _ =>
    intro v
    rw [compare_optional]
    exact ⟨nofun, fun h => absurd h (not_accepts_optional inner v)⟩

/-- **A value conforms to a node exactly when the node accepts it.** -/
theorem conforms_iff_accepts (n : Node) (v : Value) : conforms n v = true ↔ Accepts n v := by
  rw [conforms, List.isEmpty_iff, compare_eq_nil_iff_accepts]

end SchemaCheck
