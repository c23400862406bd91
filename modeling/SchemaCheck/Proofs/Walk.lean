import SchemaCheck.Proofs.KeySets
import SchemaCheck.Proofs.Tree
/-!
# Walk — a walk finds what comparing the parts finds

Wherever a walk stands and whatever it has found, a visit adds the mismatches of comparing the node alone, put below
the steps down to there, and comes back to where it was (`visit_eq_add`).  So the mismatches of elements and of
fields are those of comparing each alone, under the step that leads to it (`compare_arrayOf_seq`,
`compare_mapOf_map`), and a comparison that does not go down has at most one mismatch, at its root
(`compare_of_not_descends`).
-/
namespace SchemaCheck

/-- The mismatch of a part, seen from where some steps down to the part begin. -/
def Mismatch.beneath (path : List Step) (m : Mismatch) : Mismatch := { m with location := path ++ m.location }

theorem Mismatch.beneath_nil (m : Mismatch) : m.beneath [] = m := rfl

theorem Mismatch.beneath_under (path : List Step) (s : Step) (m : Mismatch) :
    (m.under s).beneath path = m.beneath (path ++ [s]) := by
  simp only [beneath, under, List.append_assoc, List.singleton_append]

/-! ## What a walk adds -/

namespace Walk

/-- The walk once it has found these mismatches below where it stands. -/
def add (w : Walk) (ms : List Mismatch) : Walk :=
  { w with found := w.found ++ (ms.map (·.beneath w.path.toList)).toArray }

theorem add_nil (w : Walk) : w.add [] = w := by
  rw [add, List.map_nil, Array.append_empty]

theorem add_add (w : Walk) (ms ns : List Mismatch) : (w.add ms).add ns = w.add (ms ++ ns) := by
  simp only [add, Array.append_assoc, List.append_toArray, List.map_append]

theorem report_eq_add (w : Walk) (actual : Value) (expected : Node) (reason : Reason) :
    w.report actual expected reason = w.add [.atRoot actual expected reason] := by
  simp only [report, add, List.map_cons, List.map_nil, Mismatch.beneath, Mismatch.atRoot, List.append_nil,
    Array.push_eq_append]

theorem report_unless_eq_add (w : Walk) (passes : Bool) (actual : Value) (expected : Node) (reason : Reason) :
    (if passes then w else w.report actual expected reason) =
      w.add (if passes then [] else [.atRoot actual expected reason]) := by
  cases passes with
  | true => exact w.add_nil.symm
  | false => exact w.report_eq_add actual expected reason

/-- What is found inside is found under the step down, and the walk is back. -/
theorem inside_eq_add {look : Walk → Walk} {ms : List Mismatch} (h : ∀ w, look w = w.add ms) (w : Walk) (s : Step) :
    w.inside s look = w.add (ms.map (·.under s)) := by
  rw [inside, h]
  simp only [enter, leave, add, Array.pop_push, List.map_map, Array.toList_push, Function.comp_def,
    Mismatch.beneath_under]

/-- One look after the other adds one list of mismatches after the other. -/
theorem foldl_eq_add {α : Type} {look : α → Walk → Walk} {found : α → List Mismatch} : ∀ {as : List α},
    (∀ a ∈ as, ∀ w, look a w = w.add (found a)) → ∀ w : Walk,
      as.foldl (fun w a => look a w) w = w.add (as.flatMap found)
  | [], _, w => by rw [List.foldl_nil, List.flatMap_nil, add_nil]
  | a :: as, h, w => by
    have hrest : ∀ b ∈ as, ∀ w, look b w = w.add (found b) := fun b hb => h b (List.mem_cons_of_mem a hb)
    rw [List.foldl_cons, h a List.mem_cons_self, foldl_eq_add hrest, add_add, List.flatMap_cons]

theorem found_start_add (ms : List Mismatch) : (start.add ms).found.toList = ms := by
  simp only [add, start, Array.empty_append, Mismatch.beneath_nil, List.map_id']

end Walk

/-- What every walk adds at a node is what comparing it finds. -/
theorem compare_eq_of_visit {n : Node} {v : Value} {ms : List Mismatch} (h : ∀ w, visit n v w = w.add ms) :
    compare n v = ms := by
  rw [compare, h, Walk.found_start_add]

/-! ## Visits that do not go down -/

theorem visit_atom (p : Predicate) (v : Value) (w : Walk) :
    visit (.atom p) v w = w.add (if p.test v then [] else [.atRoot v (.atom p) .unlike]) :=
  Walk.report_unless_eq_add w ..

theorem visit_alternatives (members : List Node) (v : Value) (w : Walk) :
    visit (.alternatives members) v w =
      w.add (if likeAny v members then [] else [.atRoot v (.alternatives members) .unlike]) :=
  Walk.report_unless_eq_add w ..

theorem visit_optional (inner : Node) (v : Value) (w : Walk) :
    visit (.optional inner) v w = w.add [.atRoot v (.optional inner) .unlike] :=
  Walk.report_eq_add w ..

theorem visit_arrayOf_of_kind_ne (element : Node) {v : Value} (h : v.kind ≠ .sequence) (w : Walk) :
    visit (.arrayOf element) v w =
      w.add [.atRoot v (.atom (.kind .sequence)) (.wrongKind .sequence v.kind)] := by
  cases v with
  | seq items => exact absurd rfl h
  | _ => exact Walk.report_eq_add w ..

theorem visit_mapOf_of_kind_ne (entries : List (Key × Node)) (policy : KeyPolicy) {v : Value} (h : v.kind ≠ .map)
    (w : Walk) :
    visit (.mapOf entries policy) v w = w.add [.atRoot v (.atom (.kind .map)) (.wrongKind .map v.kind)] := by
  cases v with
  | map fields => exact absurd rfl h
  | _ => exact Walk.report_eq_add w ..

theorem visit_mapOf_map_of_not_agree {entries : List (Key × Node)} {policy : KeyPolicy}
    {fields : List (Key × Value)} (h : ¬ KeysAgree policy entries fields) (w : Walk) :
    visit (.mapOf entries policy) (.map fields) w =
      w.add [.atRoot (.map fields) (.mapOf entries policy)
        (.wrongKeys (missingKeys policy entries (filed policy fields))
          (extraKeys policy (declaredKeys policy entries) fields))] := by
  have hkeys := mt (missing_and_extra_isEmpty_iff policy entries fields).1 h
  exact (if_neg hkeys).trans (Walk.report_eq_add w ..)

/-! ## Visits that go down -/

/-- The mismatches of the fields of an entry, each compared alone. -/
def entryMismatches (policy : KeyPolicy) (fields : List (Key × Value)) (e : Key × Node) : List Mismatch :=
  (fieldsUnder policy e.1 fields).flatMap fun f => (compare e.2.unwrapOptional f.2).map (·.under (.key e.1))

/-- The mismatches of the elements of a sequence, each compared alone. -/
def elementMismatches (element : Node) (items : List Value) : List Mismatch :=
  items.zipIdx.flatMap fun item => (compare element item.1).map (·.under (.index item.2))

theorem mem_elementMismatches {element : Node} {items : List Value} {m : Mismatch} :
    m ∈ elementMismatches element items ↔
      ∃ i x, items[i]? = some x ∧ ∃ part ∈ compare element x, part.under (.index i) = m := by
  rw [elementMismatches, List.mem_flatMap]
  constructor
  · rintro ⟨⟨x, i⟩, hx, hm⟩
    exact ⟨i, x, List.mk_mem_zipIdx_iff_getElem?.1 hx, List.mem_map.1 hm⟩
  · rintro ⟨i, x, hx, hm⟩
    exact ⟨(x, i), List.mk_mem_zipIdx_iff_getElem?.2 hx, List.mem_map.2 hm⟩

theorem mem_entryMismatches {policy : KeyPolicy} {fields : List (Key × Value)} {e : Key × Node} {m : Mismatch} :
    m ∈ entryMismatches policy fields e ↔ ∃ f ∈ fields, policy.normalize f.1 = policy.normalize e.1 ∧
      ∃ part ∈ compare e.2.unwrapOptional f.2, part.under (.key e.1) = m := by
  rw [entryMismatches, List.mem_flatMap]
  constructor
  · rintro ⟨f, hf, hm⟩
    obtain ⟨hf, hk⟩ := mem_fieldsUnder.1 hf
    exact ⟨f, hf, hk, List.mem_map.1 hm⟩
  · rintro ⟨f, hf, hk, hm⟩
    exact ⟨f, mem_fieldsUnder.2 ⟨hf, hk⟩, List.mem_map.2 hm⟩

theorem visit_arrayOf_seq {element : Node} (h : ∀ v w, visit element v w = w.add (compare element v))
    (items : List Value) (w : Walk) :
    visit (.arrayOf element) (.seq items) w = w.add (elementMismatches element items) :=
  Walk.foldl_eq_add (fun item _ w => Walk.inside_eq_add (h item.1) w (.index item.2)) w

theorem visitEntries_eq_add (policy : KeyPolicy) (fields : List (Key × Value)) : ∀ {entries : List (Key × Node)},
    (∀ e ∈ entries, ∀ v w, visit e.2.unwrapOptional v w = w.add (compare e.2.unwrapOptional v)) → ∀ w : Walk,
      visitEntries policy (filed policy fields) entries w = w.add (entries.flatMap (entryMismatches policy fields))
  | [], _, w => (Walk.add_nil w).symm
  | (k, n) :: rest, h, w => by
    have hrest := fun e he => h e (List.mem_cons_of_mem (k, n) he)
    have hn : ∀ v w, visit n.unwrapOptional v w = w.add (compare n.unwrapOptional v) := h (k, n) List.mem_cons_self
    have hfields : ∀ w : Walk, ((fieldsUnder policy k fields).map Prod.snd).foldl
        (fun w v => w.inside (.key k) (visit n.unwrapOptional v)) w = w.add (entryMismatches policy fields (k, n)) := by
      intro w
      rw [List.foldl_map]
      exact Walk.foldl_eq_add (fun f _ w => Walk.inside_eq_add (hn f.2) w (.key k)) w
    rw [visitEntries_cons, getD_get?_filed, hfields, visitEntries_eq_add policy fields hrest, Walk.add_add,
      List.flatMap_cons]

theorem visit_mapOf_map {entries : List (Key × Node)} {policy : KeyPolicy} {fields : List (Key × Value)}
    (h : ∀ e ∈ entries, ∀ v w, visit e.2.unwrapOptional v w = w.add (compare e.2.unwrapOptional v))
    (hk : KeysAgree policy entries fields) (w : Walk) :
    visit (.mapOf entries policy) (.map fields) w = w.add (entries.flatMap (entryMismatches policy fields)) := by
  have hkeys := (missing_and_extra_isEmpty_iff policy entries fields).2 hk
  exact (if_pos hkeys).trans (visitEntries_eq_add policy fields h w)

theorem visit_eq_add_of {n : Node} {v : Value} {ms : List Mismatch} (h : ∀ w, visit n v w = w.add ms) (w : Walk) :
    visit n v w = w.add (compare n v) := by
  rw [compare_eq_of_visit h, h]

/-- **A visit adds what comparing the node alone finds, below the place of the walk, and comes back there.** -/
theorem visit_eq_add (n : Node) : ∀ (v : Value) (w : Walk), visit n v w = w.add (compare n v) := by
  -- each case names one list that every walk adds, so comparing, which is a walk too, finds this list
  induction n using Node.descent with
  | atom p => exact fun v => visit_eq_add_of (visit_atom p v)
  | arrayOf element ih =>
    intro v
    cases v with
    | seq items => exact visit_eq_add_of (visit_arrayOf_seq ih items)
    | _ => exact visit_eq_add_of (visit_arrayOf_of_kind_ne element nofun)
  | mapOf entries policy ih =>
    intro v
    cases v with
    | map fields =>
      by_cases hk : KeysAgree policy entries fields
      · exact visit_eq_add_of (visit_mapOf_map ih hk)
      · exact visit_eq_add_of (visit_mapOf_map_of_not_agree hk)
    | _ => exact visit_eq_add_of (visit_mapOf_of_kind_ne entries policy nofun)
  | alternatives members _ => exact fun v => visit_eq_add_of (visit_alternatives members v)
  | optional inner _ => exact fun v => visit_eq_add_of (visit_optional inner v)

/-! ## What a comparison finds -/

theorem compare_atom (p : Predicate) (v : Value) :
    compare (.atom p) v = if p.test v then [] else [.atRoot v (.atom p) .unlike] :=
  compare_eq_of_visit (visit_atom p v)

theorem compare_arrayOf_seq (element : Node) (items : List Value) :
    compare (.arrayOf element) (.seq items) = elementMismatches element items :=
  compare_eq_of_visit (visit_arrayOf_seq (visit_eq_add element) items)

theorem compare_arrayOf_of_kind_ne (element : Node) {v : Value} (h : v.kind ≠ .sequence) :
    compare (.arrayOf element) v = [.atRoot v (.atom (.kind .sequence)) (.wrongKind .sequence v.kind)] :=
  compare_eq_of_visit (visit_arrayOf_of_kind_ne element h)

theorem compare_mapOf_map {entries : List (Key × Node)} {policy : KeyPolicy} {fields : List (Key × Value)}
    (h : KeysAgree policy entries fields) :
    compare (.mapOf entries policy) (.map fields) = entries.flatMap (entryMismatches policy fields) :=
  compare_eq_of_visit (visit_mapOf_map (fun e _ => visit_eq_add e.2.unwrapOptional) h)

theorem compare_mapOf_map_of_not_agree {entries : List (Key × Node)} {policy : KeyPolicy}
    {fields : List (Key × Value)} (h : ¬ KeysAgree policy entries fields) :
    compare (.mapOf entries policy) (.map fields) =
      [.atRoot (.map fields) (.mapOf entries policy)
        (.wrongKeys (missingKeys policy entries (filed policy fields))
          (extraKeys policy (declaredKeys policy entries) fields))] :=
  compare_eq_of_visit (visit_mapOf_map_of_not_agree h)

theorem compare_mapOf_of_kind_ne (entries : List (Key × Node)) (policy : KeyPolicy) {v : Value}
    (h : v.kind ≠ .map) :
    compare (.mapOf entries policy) v = [.atRoot v (.atom (.kind .map)) (.wrongKind .map v.kind)] :=
  compare_eq_of_visit (visit_mapOf_of_kind_ne entries policy h)

theorem compare_alternatives (members : List Node) (v : Value) :
    compare (.alternatives members) v =
      if members.any fun n => conforms n v then [] else [.atRoot v (.alternatives members) .unlike] := by
  rw [compare_eq_of_visit (visit_alternatives members v), likeAny_eq_any]

theorem compare_optional (inner : Node) (v : Value) :
    compare (.optional inner) v = [.atRoot v (.optional inner) .unlike] :=
  compare_eq_of_visit (visit_optional inner v)

/-! ## Going down or stopping -/

/-- A comparison goes down into the parts of the value: the elements of a sequence, or the fields of a map with the
right keys. -/
def Descends : Node → Value → Prop
  | .arrayOf _, .seq _ => True
  | .mapOf entries policy, .map fields => KeysAgree policy entries fields
  | _, _ => False

/-- What a comparison that stops names as expected: the node, or only its kind when already the kind is wrong. -/
def Node.demand : Node → Value → Node
  | .arrayOf element, v => if v.kind = .sequence then .arrayOf element else .atom (.kind .sequence)
  | .mapOf entries policy, v => if v.kind = .map then .mapOf entries policy else .atom (.kind .map)
  | n, _ => n

/-- **A comparison that stops finds nothing, or one mismatch at its root.** -/
theorem compare_of_not_descends {n : Node} {v : Value} (h : ¬ Descends n v) :
    compare n v = [] ∨ ∃ reason, compare n v = [.atRoot v (n.demand v) reason] := by
  cases n with
  | atom p =>
    rw [compare_atom]
    split
    · exact .inl rfl
    · exact .inr ⟨_, rfl⟩
  | arrayOf element =>
    have hv : v.kind ≠ .sequence := fun hv => by
      cases v with
      | seq items => exact h trivial
      | _ => cases hv
    rw [compare_arrayOf_of_kind_ne element hv, Node.demand, if_neg hv]
    exact .inr ⟨_, rfl⟩
  | mapOf entries policy =>
    by_cases hv : v.kind = .map
    · cases v with
      | map fields =>
        rw [compare_mapOf_map_of_not_agree h, Node.demand, if_pos hv]
        exact .inr ⟨_, rfl⟩
      | _ => cases hv
    · rw [compare_mapOf_of_kind_ne entries policy hv, Node.demand, if_neg hv]
      exact .inr ⟨_, rfl⟩
  | alternatives members =>
    rw [compare_alternatives]
    split
    · exact .inl rfl
    · exact .inr ⟨_, rfl⟩
  | optional inner =>
    rw [compare_optional]
    exact .inr ⟨_, rfl⟩

/-- **A walk finds what comparing the parts finds.**  A visit adds to what was found the mismatches of comparing the
node alone, each behind the path of the walk, and keeps that path.  The mismatches of a sequence are those of its
elements in order, each under its index; those of a map with the right keys are those of its fields, entry by entry
and in the order of the map under each entry, each under the key as the entry spells it.  In every other case there is
at most one, at the root. -/
theorem walk_finds_mismatches_of_parts :
    (∀ (n : Node) (v : Value) (w : Walk), visit n v w =
      ⟨w.path, w.found ++ ((compare n v).map fun m =>
        { m with location := w.path.toList ++ m.location }).toArray⟩) ∧
    (∀ (element : Node) (items : List Value), compare (.arrayOf element) (.seq items) =
      items.zipIdx.flatMap fun item => (compare element item.1).map fun m =>
        { m with location := .index item.2 :: m.location }) ∧
    (∀ (entries : List (Key × Node)) (policy : KeyPolicy) (fields : List (Key × Value)),
      KeysAgree policy entries fields →
      compare (.mapOf entries policy) (.map fields) =
        entries.flatMap fun e =>
          (fields.filter fun f => policy.normalize f.1 == policy.normalize e.1).flatMap fun f =>
            (compare e.2.unwrapOptional f.2).map fun m => { m with location := .key e.1 :: m.location }) ∧
    ∀ (n : Node) (v : Value), ¬ Descends n v →
      compare n v = [] ∨ ∃ m, compare n v = [m] ∧ m.location = [] := by
  refine ⟨fun n v w => visit_eq_add n v w, fun element items => compare_arrayOf_seq element items,
    fun entries policy fields h => compare_mapOf_map h, fun n v h => ?_⟩
  rcases compare_of_not_descends h with hnil | ⟨reason, hone⟩
  · exact .inl hnil
  · exact .inr ⟨_, hone, rfl⟩

/-- Two fields that the policy takes to be under one key are each compared, past the optional layer of the entry. -/
theorem walk_finds_mismatches_under_one_key :
    KeysAgree .indifferent [(.sym "a", .optional (.atom (.kind .string)))]
      [(.str "a", .null), (.sym "a", .bool true)] ∧
    compare (.mapOf [(.sym "a", .optional (.atom (.kind .string)))] .indifferent)
        (.map [(.str "a", .null), (.sym "a", .bool true)]) =
      [⟨[.key (.sym "a")], .null, .atom (.kind .string), .unlike⟩,
        ⟨[.key (.sym "a")], .bool true, .atom (.kind .string), .unlike⟩] := by
  have h : KeysAgree .indifferent [(.sym "a", .optional (.atom (.kind .string)))]
      [(.str "a", .null), (.sym "a", .bool true)] := (missing_and_extra_isEmpty_iff _ _ _).1 rfl
  exact ⟨h, (walk_finds_mismatches_of_parts.2.2.1 _ _ _ h).trans rfl⟩

end SchemaCheck
