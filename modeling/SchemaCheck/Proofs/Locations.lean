import SchemaCheck.Proofs.Walk
/-!
# Locations — where a comparison reports

`locations` lists where the mismatches of a comparison are.  Node by node it is said by the locations in the parts
(`locations_arrayOf_seq`, `locations_mapOf_map`), or it is the root alone, or nothing.  A value conforms when there is
no location, so comparisons with as many locations agree on the verdict (`conforms_eq_of_perm`).  Two comparisons are
related when their parts are (`locations_arrayOf_related`, `locations_mapOf_related`).
-/
namespace SchemaCheck

/-- Where the mismatches of a value with a node are, in their order. -/
def locations (n : Node) (v : Value) : List (List Step) := (compare n v).map Mismatch.location

theorem conforms_eq_isEmpty_locations (n : Node) (v : Value) : conforms n v = (locations n v).isEmpty := by
  rw [conforms, locations, List.isEmpty_map]

theorem conforms_eq_of_perm {m n : Node} {v w : Value} (h : (locations m v).Perm (locations n w)) :
    conforms m v = conforms n w := by
  rw [conforms_eq_isEmpty_locations, conforms_eq_isEmpty_locations, Bool.eq_iff_iff, List.isEmpty_iff,
    List.isEmpty_iff]
  exact ⟨fun hm => (hm ▸ h).nil_eq.symm, fun hn => (hn ▸ h).eq_nil⟩

theorem conforms_eq_of_map {m n : Node} {v w : Value} {f : List Step → List Step}
    (h : (locations m v).map f = locations n w) : conforms m v = conforms n w := by
  rw [conforms_eq_isEmpty_locations, conforms_eq_isEmpty_locations, ← h, List.isEmpty_map]

/-! ## Values by their kinds -/

theorem Value.exists_seq_of_kind {v : Value} (h : v.kind = .sequence) : ∃ items, v = .seq items := by
  cases v with
  | seq items => exact ⟨items, rfl⟩
  | _ => cases h

theorem Value.exists_map_of_kind {v : Value} (h : v.kind = .map) : ∃ fields, v = .map fields := by
  cases v with
  | map fields => exact ⟨fields, rfl⟩
  | _ => cases h

/-! ## Below a step -/

theorem map_location_under (s : Step) (ms : List Mismatch) :
    (ms.map (·.under s)).map Mismatch.location = (ms.map Mismatch.location).map (s :: ·) := by
  rw [List.map_map, List.map_map]
  rfl

/-- The locations in an element, seen from the sequence. -/
def elementLocations (element : Node) (item : Value × Nat) : List (List Step) :=
  (locations element item.1).map (.index item.2 :: ·)

/-- The locations in the fields of an entry, seen from the map. -/
def entryLocations (policy : KeyPolicy) (fields : List (Key × Value)) (e : Key × Node) : List (List Step) :=
  (fieldsUnder policy e.1 fields).flatMap fun f => (locations e.2.unwrapOptional f.2).map (.key e.1 :: ·)

/-! ## Node by node -/

theorem locations_atom (p : Predicate) (v : Value) : locations (.atom p) v = if p.test v then [] else [[]] := by
  rw [locations, compare_atom]
  cases p.test v <;> rfl

theorem locations_arrayOf_seq (element : Node) (items : List Value) :
    locations (.arrayOf element) (.seq items) = items.zipIdx.flatMap (elementLocations element) := by
  rw [locations, compare_arrayOf_seq, elementMismatches]
  simp only [List.map_flatMap, map_location_under]
  rfl

theorem locations_arrayOf_of_kind_ne (element : Node) {v : Value} (h : v.kind ≠ .sequence) :
    locations (.arrayOf element) v = [[]] := by
  rw [locations, compare_arrayOf_of_kind_ne element h]
  rfl

theorem locations_mapOf_map {entries : List (Key × Node)} {policy : KeyPolicy} {fields : List (Key × Value)}
    (h : KeysAgree policy entries fields) :
    locations (.mapOf entries policy) (.map fields) = entries.flatMap (entryLocations policy fields) := by
  rw [locations, compare_mapOf_map h]
  simp only [entryMismatches, List.map_flatMap, map_location_under]
  rfl

theorem locations_mapOf_map_of_not_agree {entries : List (Key × Node)} {policy : KeyPolicy}
    {fields : List (Key × Value)} (h : ¬ KeysAgree policy entries fields) :
    locations (.mapOf entries policy) (.map fields) = [[]] := by
  rw [locations, compare_mapOf_map_of_not_agree h]
  rfl

theorem locations_mapOf_of_kind_ne (entries : List (Key × Node)) (policy : KeyPolicy) {v : Value} (h : v.kind ≠ .map) :
    locations (.mapOf entries policy) v = [[]] := by
  rw [locations, compare_mapOf_of_kind_ne entries policy h]
  rfl

theorem locations_alternatives (members : List Node) (v : Value) :
    locations (.alternatives members) v = if members.any fun n => conforms n v then [] else [[]] := by
  rw [locations, compare_alternatives]
  cases members.any fun n => conforms n v <;> rfl

theorem conforms_alternatives_iff (members : List Node) (v : Value) :
    conforms (.alternatives members) v = true ↔ ∃ n ∈ members, conforms n v = true := by
  rw [conforms_eq_isEmpty_locations, locations_alternatives, ← List.any_eq_true]
  cases members.any fun n => conforms n v <;> decide

/-- A choice reports by nothing but whether some member takes the value. -/
theorem locations_alternatives_eq {ms ns : List Node} {v w : Value}
    (h : (∃ n ∈ ms, conforms n v = true) ↔ ∃ n ∈ ns, conforms n w = true) :
    locations (.alternatives ms) v = locations (.alternatives ns) w := by
  have hany : (ms.any fun n => conforms n v) = ns.any fun n => conforms n w := by
    rw [Bool.eq_iff_iff, List.any_eq_true, List.any_eq_true, h]
  rw [locations_alternatives, locations_alternatives, hany]

theorem locations_optional (inner : Node) (v : Value) : locations (.optional inner) v = [[]] := by
  rw [locations, compare_optional]
  rfl

/-! ## Two comparisons side by side -/

section Related

variable {R : List (List Step) → List (List Step) → Prop} {v w : Value}

/-- Two array nodes, each with a value of its own, are related when what they find in sequences is: besides this there
is only the report at the root. -/
theorem locations_arrayOf_related (hroot : R [[]] [[]]) {m n : Node} (hkind : v.kind = .sequence ↔ w.kind = .sequence)
    (hseq : ∀ vs ws, v = .seq vs → w = .seq ws →
      R (vs.zipIdx.flatMap (elementLocations m)) (ws.zipIdx.flatMap (elementLocations n))) :
    R (locations (.arrayOf m) v) (locations (.arrayOf n) w) := by
  by_cases hv : v.kind = .sequence
  · obtain ⟨vs, rfl⟩ := Value.exists_seq_of_kind hv
    obtain ⟨ws, rfl⟩ := Value.exists_seq_of_kind (hkind.1 hv)
    rw [locations_arrayOf_seq, locations_arrayOf_seq]
    exact hseq vs ws rfl rfl
  · rw [locations_arrayOf_of_kind_ne m hv, locations_arrayOf_of_kind_ne n (mt hkind.2 hv)]
    exact hroot

/-- Two map nodes, each with a value of its own, are related when their keys agree with the same maps and what they find
under agreeing keys is related. -/
theorem locations_mapOf_related (hroot : R [[]] [[]]) {as bs : List (Key × Node)} {p q : KeyPolicy}
    (hkind : v.kind = .map ↔ w.kind = .map)
    (hkeys : ∀ a b, v = .map a → w = .map b → (KeysAgree p as a ↔ KeysAgree q bs b))
    (hmap : ∀ a b, v = .map a → w = .map b →
      R (as.flatMap (entryLocations p a)) (bs.flatMap (entryLocations q b))) :
    R (locations (.mapOf as p) v) (locations (.mapOf bs q) w) := by
  by_cases hv : v.kind = .map
  · obtain ⟨a, rfl⟩ := Value.exists_map_of_kind hv
    obtain ⟨b, rfl⟩ := Value.exists_map_of_kind (hkind.1 hv)
    by_cases ha : KeysAgree p as a
    · rw [locations_mapOf_map ha, locations_mapOf_map ((hkeys a b rfl rfl).1 ha)]
      exact hmap a b rfl rfl
    · rw [locations_mapOf_map_of_not_agree ha, locations_mapOf_map_of_not_agree (mt (hkeys a b rfl rfl).2 ha)]
      exact hroot
  · rw [locations_mapOf_of_kind_ne as p hv, locations_mapOf_of_kind_ne bs q (mt hkind.2 hv)]
    exact hroot

end Related

end SchemaCheck
