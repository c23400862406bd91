import Mathlib.Data.List.Nodup
import Mathlib.Data.List.Flatten
import SchemaCheck.Proofs.Compilation
import SchemaCheck.Proofs.EqualValues
/-!
# Spelling — indifferent comparison is comparison with all keys spelled as strings

`stringify` turns the symbol keys of a value or of a schema into strings.  Where no map has a string and a symbol of one
text as keys, a value differs from a schema under indifferent access just where, all keys turned, it differs from it
strictly (`compare_stringify`).
-/
namespace SchemaCheck

/-! ## Turning keys into strings -/

mutual

/-- The value with strings in place of the symbols among its keys.  Keys that become one key are one entry. -/
def Value.stringify : Value → Value
  | .seq items => .seq (Value.stringifyItems items)
  | .map fields => .map (Entries.ofPairs (Value.stringifyFields fields))
  | v => v

def Value.stringifyItems : List Value → List Value
  | [] => []
  | v :: rest => v.stringify :: Value.stringifyItems rest

def Value.stringifyFields : List (Key × Value) → List (Key × Value)
  | [] => []
  | (k, v) :: rest => (k.indifferent, v.stringify) :: Value.stringifyFields rest

end

mutual

/-- The schema with strings in place of the symbols among the keys that its maps declare; literals stay as they are. -/
def Schema.stringify : Schema → Schema
  | .seq items => .seq (Schema.stringifyItems items)
  | .map entries => .map (Entries.ofPairs (Schema.stringifyEntries entries))
  | .optional inner => .optional inner.stringify
  | s => s

def Schema.stringifyItems : List Schema → List Schema
  | [] => []
  | s :: rest => s.stringify :: Schema.stringifyItems rest

def Schema.stringifyEntries : List (Key × Schema) → List (Key × Schema)
  | [] => []
  | (k, s) :: rest => (k.indifferent, s.stringify) :: Schema.stringifyEntries rest

end

def Step.stringify : Step → Step
  | .key k => .key k.indifferent
  | .index i => .index i

theorem Value.stringifyItems_eq_map (items : List Value) :
    Value.stringifyItems items = items.map Value.stringify := by
  induction items with
  | nil => rfl
  | cons v rest ih => rw [Value.stringifyItems, ih, List.map_cons]

theorem Value.stringifyFields_eq_map (fields : List (Key × Value)) :
    Value.stringifyFields fields = fields.map fun f => (f.1.indifferent, f.2.stringify) := by
  induction fields with
  | nil => rfl
  | cons f rest ih => rw [Value.stringifyFields, ih, List.map_cons]

theorem Schema.stringifyItems_eq_map (items : List Schema) :
    Schema.stringifyItems items = items.map Schema.stringify := by
  induction items with
  | nil => rfl
  | cons s rest ih => rw [Schema.stringifyItems, ih, List.map_cons]

theorem Schema.stringifyEntries_eq_map (entries : List (Key × Schema)) :
    Schema.stringifyEntries entries = entries.map fun e => (e.1.indifferent, e.2.stringify) := by
  induction entries with
  | nil => rfl
  | cons e rest ih => rw [Schema.stringifyEntries, ih, List.map_cons]

theorem Schema.isOptional_stringify (s : Schema) : s.stringify.isOptional = s.isOptional := by
  cases s <;> rfl

theorem Schema.unwrapOptional_stringify (s : Schema) : s.stringify.unwrapOptional = s.unwrapOptional.stringify := by
  cases s <;> rfl

theorem Value.kind_stringify (v : Value) : v.stringify.kind = v.kind := by
  cases v <;> rfl

theorem Value.kind_iff_stringify (v : Value) (k : Kind) : v.kind = k ↔ v.stringify.kind = k := by
  rw [v.kind_stringify]

/-! ## Keys that stay apart -/

/-- A string of the same text is among the keys with this symbol. -/
def Key.hasTwinIn (keys : List Key) : Key → Bool
  | .sym s => keys.contains (.str s)
  | _ => false

/-- No string and symbol of one text are both among the keys. -/
def Key.areTwinFree (keys : List Key) : Bool := keys.all fun k => !k.hasTwinIn keys

def Value.hasTwinFreeKeys : Value → Bool
  | .map fields => Key.areTwinFree (Entries.keys fields)
  | _ => true

/-- No map in it holds a string and a symbol of one text as keys. -/
def Value.isTwinFree (v : Value) : Bool := v.everywhere Value.hasTwinFreeKeys

def Schema.hasTwinFreeKeys : Schema → Bool
  | .map entries => Key.areTwinFree (Entries.keys entries)
  | _ => true

/-- No map in it declares a string and a symbol of one text. -/
def Schema.isTwinFree (s : Schema) : Bool := s.everywhere Schema.hasTwinFreeKeys

def Value.isNoMap : Value → Bool
  | .map _ => false
  | _ => true

def Schema.hasMapFreeLiteral : Schema → Bool
  | .value v => v.everywhere Value.isNoMap
  | _ => true

/-- No literal in it is or contains a map. -/
def Schema.hasMapFreeLiterals (s : Schema) : Bool := s.everywhere Schema.hasMapFreeLiteral

/-- Keys without twins that become one key are one key. -/
theorem Key.eq_of_indifferent_eq {keys : List Key} (ht : Key.areTwinFree keys = true) {k l : Key} (hk : k ∈ keys)
    (hl : l ∈ keys) (h : k.indifferent = l.indifferent) : k = l := by
  have htwin : ∀ s, Key.sym s ∈ keys → Key.str s ∉ keys := fun s hs hstr => by
    have hno := List.all_eq_true.1 ht _ hs
    rw [Key.hasTwinIn, Bool.not_eq_true', List.contains_eq_mem, decide_eq_false_iff_not] at hno
    exact hno hstr
  cases k with
  | str s =>
    cases l with
    | sym t =>
      cases h
      exact absurd hk (htwin _ hl)
    | _ => exact h
  | sym s =>
    cases l with
    | str t =>
      cases h
      exact absurd hl (htwin _ hk)
    | sym t =>
      cases h
      rfl
    | int i => cases h
  | int i =>
    cases l with
    | sym t => cases h
    | _ => exact h

theorem Key.nodup_map_indifferent {keys : List Key} (hd : keys.Nodup) (ht : Key.areTwinFree keys = true) :
    (keys.map Key.indifferent).Nodup :=
  hd.map_on fun _ hk _ hl h => Key.eq_of_indifferent_eq ht hk hl h

/-- **Entries without twins are turned as they stand.** -/
theorem Entries.ofPairs_indifferent {α β : Type} {es : Entries α} (g : Key × α → β) (hd : (Entries.keys es).Nodup)
    (ht : Key.areTwinFree (Entries.keys es) = true) :
    Entries.ofPairs (es.map fun e => (e.1.indifferent, g e)) = es.map fun e => (e.1.indifferent, g e) := by
  refine Entries.ofPairs_of_nodup ?_
  have hkeys := Key.nodup_map_indifferent hd ht
  rw [Entries.keys, List.map_map] at hkeys ⊢
  exact hkeys

/-! ## Tests -/

theorem Value.sameItems_stringify : ∀ {us : List Value}, (∀ u ∈ us, ∀ v : Value, u.same v.stringify = u.same v) →
    ∀ vs : List Value, Value.sameItems us (Value.stringifyItems vs) = Value.sameItems us vs
  | [], _, [] => rfl
  | [], _, _ :: _ => rfl
  | _ :: _, _, [] => rfl
  | u :: us, h, v :: vs => by
    have hrest : ∀ x ∈ us, ∀ w : Value, x.same w.stringify = x.same w := fun x hx => h x (List.mem_cons_of_mem u hx)
    rw [Value.stringifyItems, Value.sameItems_cons, Value.sameItems_cons, h u List.mem_cons_self,
      Value.sameItems_stringify hrest]

/-- The keys of a value do not matter to a literal without maps. -/
theorem Value.same_stringify (u : Value) : u.everywhere Value.isNoMap = true → ∀ v : Value,
    u.same v.stringify = u.same v := by
  induction u using Value.descent with
  | seq us ih =>
    intro hu v
    cases v with
    | seq vs => exact Value.sameItems_stringify (fun u hm => ih u hm (((Value.everywhere_seq _ _).1 hu).2 u hm)) vs
    | _ => rfl
  | map fields _ =>
    intro hu
    cases ((Value.everywhere_map _ _).1 hu).1
  | _ =>
    intro _ v
    cases v <;> rfl

/-- **A test is passed whatever the keys**, when there is no map in the literal that it may ask for. -/
theorem Predicate.test_stringify {p : Predicate} (hp : ∀ u, p = .equal u → u.everywhere Value.isNoMap = true)
    (v : Value) : p.test v.stringify = p.test v := by
  cases p with
  | equal u => exact u.same_stringify (hp u rfl) v
  | kind k => exact Value.ofKind_eq_of_kind_eq v.kind_stringify k
  | pattern p => cases v <;> rfl
  | range r => cases v <;> rfl

/-! ## What keeps keys apart -/

/-- Turning keys makes no two of them one: no map declares a key twice or a string and a symbol of one text.  Nor does
turning the keys of a value change what a literal equals, as none is or contains a map. -/
structure Schema.KeepsApart (s : Schema) : Prop where
  distinct : s.isDistinct = true
  twinFree : s.isTwinFree = true
  literals : s.hasMapFreeLiterals = true

/-- Turning keys makes no two of them one: no map has a key twice or a string and a symbol of one text. -/
structure Value.KeepsApart (v : Value) : Prop where
  distinct : v.isDistinct = true
  twinFree : v.isTwinFree = true

theorem Schema.KeepsApart.item {items : List Schema} (h : (Schema.seq items).KeepsApart) {s : Schema} (hs : s ∈ items) :
    s.KeepsApart :=
  ⟨((Schema.everywhere_seq _ _).1 h.distinct).2 s hs, ((Schema.everywhere_seq _ _).1 h.twinFree).2 s hs,
    ((Schema.everywhere_seq _ _).1 h.literals).2 s hs⟩

theorem Schema.KeepsApart.entry {entries : List (Key × Schema)} (h : (Schema.map entries).KeepsApart)
    {e : Key × Schema} (he : e ∈ entries) : e.2.unwrapOptional.KeepsApart :=
  ⟨Schema.everywhere_unwrapOptional (((Schema.everywhere_map _ _).1 h.distinct).2 e he),
    Schema.everywhere_unwrapOptional (((Schema.everywhere_map _ _).1 h.twinFree).2 e he),
    Schema.everywhere_unwrapOptional (((Schema.everywhere_map _ _).1 h.literals).2 e he)⟩

theorem Schema.KeepsApart.stringify_map {entries : List (Key × Schema)} (h : (Schema.map entries).KeepsApart) :
    (Schema.map entries).stringify = .map (entries.map fun e => (e.1.indifferent, e.2.stringify)) := by
  rw [Schema.stringify, Schema.stringifyEntries_eq_map, Entries.ofPairs_indifferent]
  · exact of_decide_eq_true ((Schema.everywhere_map _ _).1 h.distinct).1
  · exact ((Schema.everywhere_map _ _).1 h.twinFree).1

theorem Value.KeepsApart.item {items : List Value} (h : (Value.seq items).KeepsApart) {v : Value} (hv : v ∈ items) :
    v.KeepsApart :=
  ⟨((Value.everywhere_seq _ _).1 h.distinct).2 v hv, ((Value.everywhere_seq _ _).1 h.twinFree).2 v hv⟩

theorem Value.KeepsApart.field {fields : List (Key × Value)} (h : (Value.map fields).KeepsApart) {f : Key × Value}
    (hf : f ∈ fields) : f.2.KeepsApart :=
  ⟨((Value.everywhere_map _ _).1 h.distinct).2 f hf, ((Value.everywhere_map _ _).1 h.twinFree).2 f hf⟩

theorem Value.KeepsApart.stringify_map {fields : List (Key × Value)} (h : (Value.map fields).KeepsApart) :
    (Value.map fields).stringify = .map (fields.map fun f => (f.1.indifferent, f.2.stringify)) := by
  rw [Value.stringify, Value.stringifyFields_eq_map, Entries.ofPairs_indifferent]
  · exact of_decide_eq_true ((Value.everywhere_map _ _).1 h.distinct).1
  · exact ((Value.everywhere_map _ _).1 h.twinFree).1

/-! ## Node by node -/

/-- A location with all keys spelled as strings. -/
def stringified (l : List Step) : List Step := l.map Step.stringify

theorem map_atomLocations_stringify {p : Predicate} (hp : ∀ u, p = .equal u → u.everywhere Value.isNoMap = true)
    (v : Value) : (locations (.atom p) v).map stringified = locations (.atom p) v.stringify := by
  rw [locations_atom, locations_atom, Predicate.test_stringify hp]
  cases p.test v <;> rfl

theorem map_elementLocations_stringify {m n : Node} {v : Value}
    (h : ∀ items, v = .seq items → ∀ x ∈ items, (locations m x).map stringified = locations n x.stringify) :
    (locations (.arrayOf m) v).map stringified = locations (.arrayOf n) v.stringify := by
  refine locations_arrayOf_related (R := fun a b => a.map stringified = b) rfl (v.kind_iff_stringify _) ?_
  rintro items _ rfl hitems
  rw [Value.stringify, Value.stringifyItems_eq_map, Value.seq.injEq] at hitems
  rw [← hitems, List.zipIdx_map, List.flatMap_map, List.map_flatMap]
  refine List.flatMap_congr fun item hitem => ?_
  have hx := h items rfl item.1 (List.fst_mem_of_mem_zipIdx hitem)
  change _ = (locations n item.1.stringify).map (.index item.2 :: ·)
  rw [elementLocations, ← hx, List.map_map, List.map_map]
  rfl

/-- A choice reports at its root, which is spelled without keys. -/
theorem map_alternativesLocations_stringify {items : List Schema} {v : Value} {l r : Schema → Node}
    (h : ∀ s ∈ items, conforms (l s) v = conforms (r s) v.stringify) :
    (locations (.alternatives (items.map l)) v).map stringified =
      locations (.alternatives (items.map r)) v.stringify := by
  have hroot : (locations (.alternatives (items.map l)) v).map stringified =
      locations (.alternatives (items.map l)) v := by
    rw [locations_alternatives]
    split <;> rfl
  rw [hroot]
  refine locations_alternatives_eq ?_
  simp only [List.mem_map, exists_exists_and_eq_and]
  exact exists_congr fun s => and_congr_right fun hs => by rw [h s hs]

section Maps

variable {α : Type} {es : List (Key × α)} {l r : α → Node} {fields : List (Key × Value)}

/-- Keys agree under indifferent access when, spelled as strings, they agree strictly. -/
theorem keysAgree_indifferent_iff (hopt : ∀ e ∈ es, (l e.2).isOptional = (r e.2).isOptional)
    (new : Key × Value → Value) :
    KeysAgree .indifferent (es.map fun e => (e.1, l e.2)) fields ↔
      KeysAgree .strict (es.map fun e => (e.1.indifferent, r e.2)) (fields.map fun f => (f.1.indifferent, new f)) := by
  constructor
  · intro h
    refine ⟨List.forall_mem_map.2 fun e he ho => ?_, List.forall_mem_map.2 fun f hf => ?_⟩
    · obtain ⟨f, hf, hk⟩ := h.required _ (List.mem_map_of_mem he) ((hopt e he).trans ho)
      exact ⟨_, List.mem_map_of_mem hf, hk⟩
    · obtain ⟨_, hmem, hk⟩ := h.declared f hf
      obtain ⟨e, he, rfl⟩ := List.mem_map.1 hmem
      exact ⟨_, List.mem_map_of_mem he, hk⟩
  · intro h
    refine ⟨List.forall_mem_map.2 fun e he ho => ?_, fun f hf => ?_⟩
    · obtain ⟨_, hmem, hk⟩ := h.required _ (List.mem_map_of_mem he) ((hopt e he).symm.trans ho)
      obtain ⟨f, hf, rfl⟩ := List.mem_map.1 hmem
      exact ⟨f, hf, hk⟩
    · obtain ⟨_, hmem, hk⟩ := h.declared _ (List.mem_map_of_mem hf)
      obtain ⟨e, he, rfl⟩ := List.mem_map.1 hmem
      exact ⟨_, List.mem_map_of_mem he, hk⟩

theorem fieldsUnder_indifferent (k : Key) (new : Key × Value → Value) :
    fieldsUnder .strict k.indifferent (fields.map fun f => (f.1.indifferent, new f)) =
      (fieldsUnder .indifferent k fields).map fun f => (f.1.indifferent, new f) := by
  rw [fieldsUnder, fieldsUnder, List.filter_map]
  rfl

theorem map_mapLocations_stringify {v : Value} (hv : v.KeepsApart)
    (hopt : ∀ e ∈ es, (l e.2).isOptional = (r e.2).isOptional)
    (h : ∀ e ∈ es, ∀ fields, v = .map fields → ∀ f ∈ fields,
      (locations (l e.2).unwrapOptional f.2).map stringified = locations (r e.2).unwrapOptional f.2.stringify) :
    (locations (.mapOf (es.map fun e => (e.1, l e.2)) .indifferent) v).map stringified =
      locations (.mapOf (es.map fun e => (e.1.indifferent, r e.2)) .strict) v.stringify := by
  refine locations_mapOf_related (R := fun a b => a.map stringified = b) rfl (v.kind_iff_stringify _) ?_ ?_
  · rintro fields _ rfl hfields
    rw [hv.stringify_map, Value.map.injEq] at hfields
    rw [← hfields]
    exact keysAgree_indifferent_iff hopt _
  · rintro fields _ rfl hfields
    rw [hv.stringify_map, Value.map.injEq] at hfields
    rw [← hfields, List.flatMap_map, List.flatMap_map, List.map_flatMap]
    refine List.flatMap_congr fun e he => ?_
    rw [entryLocations, entryLocations, fieldsUnder_indifferent, List.flatMap_map, List.map_flatMap]
    refine List.flatMap_congr fun f hf => ?_
    rw [← h e he fields rfl f (mem_fieldsUnder.1 hf).1, List.map_map, List.map_map]
    rfl

end Maps

/-! ## Both comparisons -/

theorem compile_stringify_many (o : Options) (s t : Schema) (rest : List Schema) :
    compile o (Schema.seq (s :: t :: rest)).stringify =
      .alternatives ((s :: t :: rest).map fun x => compile o x.stringify) := by
  rw [Schema.stringify, Schema.stringifyItems, Schema.stringifyItems, compile_seq_many, Schema.stringifyItems_eq_map,
    List.map_cons, List.map_cons, List.map_map]
  rfl

/-- Under indifferent access a schema finds where, all keys spelled as strings, it finds strictly. -/
theorem map_locations_stringify (s : Schema) : ∀ v : Value, s.KeepsApart → v.KeepsApart →
    (locations (compile Options.default.withIndifferentAccess s) v).map stringified =
      locations (compile Options.default s.stringify) v.stringify := by
  -- down the schema, not down the node: turning keys is defined on schemas, and a sequence has three readings
  induction s using Schema.descent with
  | value u =>
    intro v hs _
    refine map_atomLocations_stringify (fun w hw => ?_) v
    cases hw
    exact hs.literals
  | kind k => exact fun v _ _ => map_atomLocations_stringify (p := .kind k) nofun v
  | pattern p => exact fun v _ _ => map_atomLocations_stringify (p := .pattern p) nofun v
  | range r => exact fun v _ _ => map_atomLocations_stringify (p := .range r) nofun v
  | seq items ih =>
    intro v hs hv
    match items with
    | [] =>
      refine map_atomLocations_stringify (fun w hw => ?_) v
      cases hw
      rfl
    | [s] =>
      refine map_elementLocations_stringify fun xs hxs x hx => ?_
      exact ih s List.mem_cons_self x (hs.item List.mem_cons_self) ((hxs ▸ hv).item hx)
    | s :: t :: rest =>
      rw [compile_seq_many, compile_stringify_many]
      refine map_alternativesLocations_stringify fun x hx => ?_
      exact conforms_eq_of_map (ih x hx v (hs.item hx) hv)
  | map entries ih =>
    intro v hs hv
    rw [compile_map, hs.stringify_map, compile_map, List.map_map]
    refine map_mapLocations_stringify (r := fun s : Schema => compile _ s.stringify) hv (fun e _ => ?_)
      fun e he fields hfields f hf => ?_
    · rw [isOptional_compile, isOptional_compile, Schema.isOptional_stringify]
    · rw [compile_unwrapOptional, compile_unwrapOptional, Schema.unwrapOptional_stringify]
      exact ih e he f.2 (hs.entry he) ((hfields ▸ hv).field hf)
  | optional inner _ =>
    intro v _ _
    rw [Schema.stringify, compile, compile, locations_optional, locations_optional]
    rfl

/-- **Indifferent comparison is strict comparison with all keys spelled as strings.**  Both reach one verdict, with as
many mismatches, at the same locations in the same order up to the spelling of their keys. -/
theorem compare_stringify {s : Schema} {v : Value} (hs : s.KeepsApart) (hv : v.KeepsApart) :
    conforms (compile Options.default.withIndifferentAccess s) v =
        conforms (compile Options.default s.stringify) v.stringify ∧
      (compare (compile Options.default.withIndifferentAccess s) v).length =
        (compare (compile Options.default s.stringify) v.stringify).length ∧
      (compare (compile Options.default.withIndifferentAccess s) v).map (fun m => m.location.map Step.stringify) =
        (compare (compile Options.default s.stringify) v.stringify).map Mismatch.location := by
  have hmap := map_locations_stringify s v hs hv
  have hlen := congrArg List.length hmap
  rw [locations, locations, List.length_map, List.length_map, List.length_map] at hlen
  rw [locations, locations, List.map_map] at hmap
  exact ⟨conforms_eq_of_map (map_locations_stringify s v hs hv), hlen, hmap⟩

/-- A symbol that is declared and a string that is given, beside a string that is declared, may be absent, and is given
as a symbol: an element of the one and the choice of the other fail. -/
theorem compare_stringify_element_and_choice :
    let s : Schema := .map [(.sym "tags", .seq [.kind .string]),
      (.str "mode", .optional (.seq [.value (.int 1), .map [(.sym "on", .kind .bool)]]))]
    let v : Value := .map [(.sym "mode", .map [(.str "on", .null)]), (.str "tags", .seq [.str "x", .int 3])]
    s.KeepsApart ∧ v.KeepsApart ∧
      conforms (compile Options.default.withIndifferentAccess s) v =
        conforms (compile Options.default s.stringify) v.stringify ∧
      (compare (compile Options.default s.stringify) v.stringify).length = 2 ∧
      [[.key (.str "tags"), .index 1], [.key (.str "mode")]] =
        (compare (compile Options.default s.stringify) v.stringify).map Mismatch.location := by
  intro s v
  have hs : s.KeepsApart := ⟨rfl, rfl, rfl⟩
  have hv : v.KeepsApart := ⟨rfl, rfl⟩
  obtain ⟨hverdict, hlength, hlocations⟩ := compare_stringify hs hv
  exact ⟨hs, hv, hverdict, hlength.symm.trans (by decide +kernel), Eq.trans (by decide +kernel) hlocations⟩

end SchemaCheck
