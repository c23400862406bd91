import SchemaCheck.Compare
/-!
# KeySets — when a map has the keys that a node asks for

What is filed under a key are the values of the fields with this key, in their order (`get?_filed`).  So no key is
missing and none is extra exactly when the keys agree (`missing_and_extra_isEmpty_iff`).
-/
namespace SchemaCheck

/-- Every entry that may not be absent has a field of its key, and every field has an entry, keys taken as the policy
takes them. -/
structure KeysAgree (policy : KeyPolicy) (entries : List (Key × Node)) (fields : List (Key × Value)) : Prop where
  required : ∀ e ∈ entries, e.2.isOptional = false → ∃ f ∈ fields, policy.normalize f.1 = policy.normalize e.1
  declared : ∀ f ∈ fields, ∃ e ∈ entries, policy.normalize e.1 = policy.normalize f.1

/-- Whether the keys agree depends on the keys alone. -/
theorem KeysAgree.of_keys {policy : KeyPolicy} {entries : List (Key × Node)} {a b : List (Key × Value)}
    (h : KeysAgree policy entries a) (hkeys : ∀ k, k ∈ Entries.keys a ↔ k ∈ Entries.keys b) :
    KeysAgree policy entries b where
  required e he ho := by
    obtain ⟨f, hf, hk⟩ := h.required e he ho
    obtain ⟨g, hg, hgf⟩ := List.mem_map.1 ((hkeys f.1).1 (List.mem_map_of_mem hf))
    exact ⟨g, hg, hgf ▸ hk⟩
  declared g hg := by
    obtain ⟨f, hf, hfg⟩ := List.mem_map.1 ((hkeys g.1).2 (List.mem_map_of_mem hg))
    exact hfg ▸ h.declared f hf

theorem keysAgree_iff_of_keys {policy : KeyPolicy} {entries : List (Key × Node)} {a b : List (Key × Value)}
    (hkeys : ∀ k, k ∈ Entries.keys a ↔ k ∈ Entries.keys b) :
    KeysAgree policy entries a ↔ KeysAgree policy entries b :=
  ⟨fun h => h.of_keys hkeys, fun h => h.of_keys fun k => (hkeys k).symm⟩

/-- Of the entries only their keys matter, and which of them may be absent. -/
theorem KeysAgree.of_entries {policy : KeyPolicy} {entries others : List (Key × Node)} {fields : List (Key × Value)}
    (h : KeysAgree policy entries fields)
    (hother : ∀ o ∈ others, ∃ e ∈ entries, e.1 = o.1 ∧ e.2.isOptional = o.2.isOptional)
    (hentry : ∀ e ∈ entries, ∃ o ∈ others, o.1 = e.1) : KeysAgree policy others fields where
  required o ho hopt := by
    obtain ⟨e, he, hk, heo⟩ := hother o ho
    exact hk ▸ h.required e he (heo.trans hopt)
  declared f hf := by
    obtain ⟨e, he, hk⟩ := h.declared f hf
    obtain ⟨o, ho, hoe⟩ := hentry e he
    exact ⟨o, ho, hoe ▸ hk⟩

/-- The fields whose key is, under a policy, the given one. -/
def fieldsUnder (policy : KeyPolicy) (k : Key) (fields : List (Key × Value)) : List (Key × Value) :=
  fields.filter fun f => policy.normalize f.1 == policy.normalize k

theorem mem_fieldsUnder {policy : KeyPolicy} {k : Key} {fields : List (Key × Value)} {f : Key × Value} :
    f ∈ fieldsUnder policy k fields ↔ f ∈ fields ∧ policy.normalize f.1 = policy.normalize k := by
  rw [fieldsUnder, List.mem_filter, beq_iff_eq]

theorem fieldsUnder_map (policy : KeyPolicy) (k : Key) (new : Key × Value → Value) (fields : List (Key × Value)) :
    fieldsUnder policy k (fields.map fun f => (f.1, new f)) =
      (fieldsUnder policy k fields).map fun f => (f.1, new f) := by
  rw [fieldsUnder, fieldsUnder, List.filter_map]
  rfl

/-! ## Filing -/

theorem Entries.get?_file {α : Type} (k k' : Key) (a : α) (groups : Entries (List α)) :
    Entries.get? k' (Entries.file k a groups) =
      if k = k' then some ((Entries.get? k groups).getD [] ++ [a]) else Entries.get? k' groups := by
  rw [Entries.file, Entries.get?_insert]

/-- Filing fields puts the values of those with a key, in their order, after what is under this key already. -/
theorem get?_foldl_file (policy : KeyPolicy) (k : Key) : ∀ (fields : List (Key × Value))
    (groups : Entries (List Value)),
    Entries.get? k (fields.foldl (fun groups f => Entries.file (policy.normalize f.1) f.2 groups) groups) =
      if (fields.filter fun f => policy.normalize f.1 == k) = [] then Entries.get? k groups
      else some ((Entries.get? k groups).getD [] ++
        (fields.filter fun f => policy.normalize f.1 == k).map Prod.snd)
  | [], groups => by rw [List.foldl_nil, List.filter_nil, if_pos rfl]
  | f :: fields, groups => by
    rw [List.foldl_cons, get?_foldl_file policy k fields, Entries.get?_file]
    by_cases h : policy.normalize f.1 = k
    · rw [if_pos h, List.filter_cons_of_pos (by simpa using h), if_neg (List.cons_ne_nil _ _), h, Option.getD_some,
        List.map_cons, List.append_assoc, List.singleton_append]
      split
      · rename_i hnil
        rw [hnil, List.map_nil]
      · rfl
    · rw [if_neg h, List.filter_cons_of_neg (by simpa using h)]

/-- **What is filed under a key**: the values of the fields with this key, if there are any. -/
theorem get?_filed (policy : KeyPolicy) (k : Key) (fields : List (Key × Value)) :
    Entries.get? k (filed policy fields) =
      if (fields.filter fun f => policy.normalize f.1 == k) = [] then none
      else some ((fields.filter fun f => policy.normalize f.1 == k).map Prod.snd) := by
  rw [filed, get?_foldl_file, Entries.get?, Option.getD_none, List.nil_append]

theorem getD_get?_filed (policy : KeyPolicy) (k : Key) (fields : List (Key × Value)) :
    (Entries.get? (policy.normalize k) (filed policy fields)).getD [] =
      (fieldsUnder policy k fields).map Prod.snd := by
  rw [get?_filed, fieldsUnder]
  split
  · rename_i hnil
    rw [hnil, Option.getD_none, List.map_nil]
  · rw [Option.getD_some]

/-- Nothing is filed under a key that no field has. -/
theorem get?_filed_eq_none_iff (policy : KeyPolicy) (k : Key) (fields : List (Key × Value)) :
    Entries.get? k (filed policy fields) = none ↔ ¬ ∃ f ∈ fields, policy.normalize f.1 = k := by
  rw [get?_filed]
  simp

/-! ## Missing and extra keys -/

theorem missingKeys_eq_nil_iff (policy : KeyPolicy) (entries : List (Key × Node)) (fields : List (Key × Value)) :
    missingKeys policy entries (filed policy fields) = [] ↔
      ∀ e ∈ entries, e.2.isOptional = false → ∃ f ∈ fields, policy.normalize f.1 = policy.normalize e.1 := by
  rw [missingKeys, List.map_eq_nil_iff, List.filter_eq_nil_iff]
  refine forall₂_congr fun e _ => ?_
  rw [Bool.and_eq_true, Bool.not_eq_true', not_and, Option.isNone_iff_eq_none, get?_filed_eq_none_iff,
    Decidable.not_not]

theorem extraKeys_eq_nil_iff (policy : KeyPolicy) (entries : List (Key × Node)) (fields : List (Key × Value)) :
    extraKeys policy (declaredKeys policy entries) fields = [] ↔
      ∀ f ∈ fields, ∃ e ∈ entries, policy.normalize e.1 = policy.normalize f.1 := by
  rw [extraKeys, List.map_eq_nil_iff, List.filter_eq_nil_iff]
  refine forall₂_congr fun f _ => ?_
  rw [Bool.not_eq_true', Bool.not_eq_false, List.contains_iff_mem, declaredKeys, List.mem_map]

/-- **Nothing is missing and nothing is extra exactly when the keys agree.** -/
theorem missing_and_extra_isEmpty_iff (policy : KeyPolicy) (entries : List (Key × Node))
    (fields : List (Key × Value)) :
    ((missingKeys policy entries (filed policy fields)).isEmpty &&
      (extraKeys policy (declaredKeys policy entries) fields).isEmpty) = true ↔ KeysAgree policy entries fields := by
  rw [Bool.and_eq_true, List.isEmpty_iff, List.isEmpty_iff, missingKeys_eq_nil_iff, extraKeys_eq_nil_iff]
  exact ⟨fun ⟨h, k⟩ => ⟨h, k⟩, fun h => ⟨h.required, h.declared⟩⟩

end SchemaCheck
