import Mathlib.Data.Finset.Dedup
import Mathlib.Data.Finset.Filter
import Mathlib.Data.Finset.Insert
import Mathlib.Data.List.Nodup
import SchemaCheck.Proofs.Acceptance
/-!
# Presence — an entry that may be absent, as a choice

Which of the entries that may be absent are there can be settled beforehand: the chosen ones are then required, and the
others are not declared (`settledEntries`).  The keys of a map agree with settled entries exactly if they agree with the
entries and the choice is the one that these keys make (`EntriesApart.keysAgree_settledEntries_iff`).  So an entry that
may be absent says no more and no less than the choice between requiring it and leaving it out
(`conforms_iff_settled`).
-/
namespace SchemaCheck

/-! ## Choices -/

/-- The keys of the entries that may be absent. -/
def optionalKeys (entries : List (Key × Node)) : Finset Key :=
  ((entries.filter fun e => e.2.isOptional).map Prod.fst).toFinset

/-- An entry that may be absent is required if it is chosen, and gone if it is not.  A required one stays. -/
def settle? (chosen : Finset Key) : Key × Node → Option (Key × Node)
  | (k, .optional n) => if k ∈ chosen then some (k, n) else none
  | e => some e

/-- The entries once it is settled which of them are there. -/
def settledEntries (chosen : Finset Key) (entries : List (Key × Node)) : List (Key × Node) :=
  entries.filterMap (settle? chosen)

/-- It is a map, and one of its fields has this key as the policy takes keys. -/
def Value.hasKey (policy : KeyPolicy) (k : Key) : Value → Bool
  | .map fields => fields.any fun f => policy.normalize f.1 == policy.normalize k
  | _ => false

/-- The choice that a value makes by its keys. -/
def presentKeys (policy : KeyPolicy) (entries : List (Key × Node)) (v : Value) : Finset Key :=
  (optionalKeys entries).filter fun k => v.hasKey policy k = true

/-- Each entry has a key of its own, and one that is chosen is required: no optional layer is below another. -/
structure EntriesApart (policy : KeyPolicy) (entries : List (Key × Node)) : Prop where
  keys : (declaredKeys policy entries).Nodup
  layers : ∀ e ∈ entries, e.2.unwrapOptional.isOptional = false

theorem mem_optionalKeys {entries : List (Key × Node)} {k : Key} :
    k ∈ optionalKeys entries ↔ ∃ e ∈ entries, e.2.isOptional = true ∧ e.1 = k := by
  simp only [optionalKeys, List.mem_toFinset, List.mem_map, List.mem_filter, and_assoc]

theorem settle?_eq_some_iff {chosen : Finset Key} {e s : Key × Node} :
    settle? chosen e = some s ↔
      (e.2.isOptional = true → e.1 ∈ chosen) ∧ (e.1, e.2.unwrapOptional) = s := by
  obtain ⟨k, n⟩ := e
  cases n <;> simp [settle?, Node.isOptional, Node.unwrapOptional]

theorem mem_settledEntries {chosen : Finset Key} {entries : List (Key × Node)} {s : Key × Node} :
    s ∈ settledEntries chosen entries ↔
      ∃ e ∈ entries, (e.2.isOptional = true → e.1 ∈ chosen) ∧ (e.1, e.2.unwrapOptional) = s := by
  simp only [settledEntries, List.mem_filterMap, settle?_eq_some_iff]

theorem Value.hasKey_map_iff {policy : KeyPolicy} {k : Key} {fields : List (Key × Value)} :
    (Value.map fields).hasKey policy k = true ↔ ∃ f ∈ fields, policy.normalize f.1 = policy.normalize k := by
  simp only [hasKey, List.any_eq_true, beq_iff_eq]

theorem mem_presentKeys_map {policy : KeyPolicy} {entries : List (Key × Node)} {fields : List (Key × Value)} {k : Key} :
    k ∈ presentKeys policy entries (.map fields) ↔
      k ∈ optionalKeys entries ∧ ∃ f ∈ fields, policy.normalize f.1 = policy.normalize k := by
  rw [presentKeys, Finset.mem_filter, Value.hasKey_map_iff]

theorem presentKeys_subset (policy : KeyPolicy) (entries : List (Key × Node)) (v : Value) :
    presentKeys policy entries v ⊆ optionalKeys entries :=
  Finset.filter_subset _ _

/-- An entry with a field is among those settled by the keys that are there. -/
theorem mem_settledEntries_of_field {policy : KeyPolicy} {entries : List (Key × Node)} {fields : List (Key × Value)}
    {e : Key × Node} {f : Key × Value} (he : e ∈ entries) (hf : f ∈ fields)
    (hk : policy.normalize f.1 = policy.normalize e.1) :
    (e.1, e.2.unwrapOptional) ∈ settledEntries (presentKeys policy entries (.map fields)) entries := by
  have hpresent : e.2.isOptional = true → e.1 ∈ presentKeys policy entries (.map fields) := fun hopt =>
    mem_presentKeys_map.2 ⟨mem_optionalKeys.2 ⟨e, he, hopt, rfl⟩, f, hf, hk⟩
  exact mem_settledEntries.2 ⟨e, he, hpresent, rfl⟩

namespace EntriesApart

variable {policy : KeyPolicy} {entries : List (Key × Node)} (h : EntriesApart policy entries)
include h

theorem eq_of_normalize_eq {e d : Key × Node} (he : e ∈ entries) (hd : d ∈ entries)
    (hk : policy.normalize e.1 = policy.normalize d.1) : e = d :=
  List.inj_on_of_nodup_map h.keys he hd hk

/-- An entry that may be absent is declared by settled entries only if it is chosen. -/
theorem mem_of_declared {chosen : Finset Key} {e s : Key × Node} (he : e ∈ entries) (hopt : e.2.isOptional = true)
    (hs : s ∈ settledEntries chosen entries) (hk : policy.normalize s.1 = policy.normalize e.1) : e.1 ∈ chosen := by
  obtain ⟨d, hd, hchosen, rfl⟩ := mem_settledEntries.1 hs
  obtain rfl : d = e := h.eq_of_normalize_eq hd he hk
  exact hchosen hopt

/-! ## Keys -/

/-- The keys that settled entries ask for are there only if the choice is the one that the keys make. -/
theorem eq_presentKeys {chosen : Finset Key} {fields : List (Key × Value)} (hsub : chosen ⊆ optionalKeys entries)
    (hkeys : KeysAgree policy (settledEntries chosen entries) fields) :
    chosen = presentKeys policy entries (.map fields) := by
  ext k
  rw [mem_presentKeys_map]
  constructor
  · intro hk
    obtain ⟨e, he, -, rfl⟩ := mem_optionalKeys.1 (hsub hk)
    have hs : (e.1, e.2.unwrapOptional) ∈ settledEntries chosen entries :=
      mem_settledEntries.2 ⟨e, he, fun _ => hk, rfl⟩
    exact ⟨hsub hk, hkeys.required (e.1, e.2.unwrapOptional) hs (h.layers e he)⟩
  · rintro ⟨hk, f, hf, hfk⟩
    obtain ⟨e, he, hopt, rfl⟩ := mem_optionalKeys.1 hk
    obtain ⟨s, hs, hsf⟩ := hkeys.declared f hf
    exact h.mem_of_declared he hopt hs (hsf.trans hfk)

/-- **Which keys settled entries ask for.** -/
theorem keysAgree_settledEntries_iff {chosen : Finset Key} {fields : List (Key × Value)}
    (hsub : chosen ⊆ optionalKeys entries) :
    KeysAgree policy (settledEntries chosen entries) fields ↔
      KeysAgree policy entries fields ∧ chosen = presentKeys policy entries (.map fields) := by
  constructor
  · intro hkeys
    refine ⟨⟨fun e he hreq => ?_, fun f hf => ?_⟩, h.eq_presentKeys hsub hkeys⟩
    · have hs : (e.1, e.2.unwrapOptional) ∈ settledEntries chosen entries :=
        mem_settledEntries.2 ⟨e, he, fun hopt => absurd (hreq.symm.trans hopt) nofun, rfl⟩
      exact hkeys.required (e.1, e.2.unwrapOptional) hs (h.layers e he)
    · obtain ⟨s, hs, hsf⟩ := hkeys.declared f hf
      obtain ⟨e, he, -, rfl⟩ := mem_settledEntries.1 hs
      exact ⟨e, he, hsf⟩
  · rintro ⟨hkeys, rfl⟩
    refine ⟨fun s hs _ => ?_, fun f hf => ?_⟩
    · obtain ⟨e, he, hpresent, rfl⟩ := mem_settledEntries.1 hs
      cases hopt : e.2.isOptional with
      | false => exact hkeys.required e he hopt
      | true => exact (mem_presentKeys_map.1 (hpresent hopt)).2
    · obtain ⟨e, he, hef⟩ := hkeys.declared f hf
      exact ⟨_, mem_settledEntries_of_field he hf hef.symm, hef⟩

/-! ## Values -/

/-- **What conforms once it is settled which entries are there.** -/
theorem compare_settledEntries_eq_nil_iff {chosen : Finset Key} (hsub : chosen ⊆ optionalKeys entries) (v : Value) :
    compare (.mapOf (settledEntries chosen entries) policy) v = [] ↔
      compare (.mapOf entries policy) v = [] ∧ chosen = presentKeys policy entries v := by
  simp only [compare_mapOf_eq_nil_iff, h.keysAgree_settledEntries_iff hsub]
  constructor
  · rintro ⟨fields, rfl, ⟨hkeys, rfl⟩, hfields⟩
    refine ⟨⟨fields, rfl, hkeys, fun e he f hf hfe => ?_⟩, rfl⟩
    have hfound := hfields _ (mem_settledEntries_of_field he hf hfe) f hf hfe
    rwa [Node.unwrapOptional_of_required (h.layers e he)] at hfound
  · rintro ⟨⟨fields, rfl, hkeys, hfields⟩, rfl⟩
    refine ⟨fields, rfl, ⟨hkeys, rfl⟩, fun s hs f hf hfs => ?_⟩
    obtain ⟨e, he, -, rfl⟩ := mem_settledEntries.1 hs
    rw [Node.unwrapOptional_of_required (h.layers e he)]
    exact hfields e he f hf hfs

end EntriesApart

/-- **An entry that may be absent is a choice between being there and not being there.**  A value conforms to entries
with keys of their own exactly if it conforms to them after some choice among those that may be absent: the chosen ones
are required and the others are not declared.  If it conforms there is one such choice, that of the keys it has. -/
theorem conforms_iff_settled {policy : KeyPolicy} {entries : List (Key × Node)} (h : EntriesApart policy entries)
    (v : Value) :
    (conforms (.mapOf entries policy) v = true ↔
      ∃ chosen ⊆ optionalKeys entries, conforms (.mapOf (settledEntries chosen entries) policy) v = true) ∧
    (conforms (.mapOf entries policy) v = true → ∀ chosen ⊆ optionalKeys entries,
      conforms (.mapOf (settledEntries chosen entries) policy) v = true ↔ chosen = presentKeys policy entries v) := by
  simp only [conforms, List.isEmpty_iff]
  constructor
  · constructor
    · intro hv
      have hsub := presentKeys_subset policy entries v
      exact ⟨_, hsub, (h.compare_settledEntries_eq_nil_iff hsub v).2 ⟨hv, rfl⟩⟩
    · rintro ⟨chosen, hsub, hv⟩
      exact ((h.compare_settledEntries_eq_nil_iff hsub v).1 hv).1
  · intro hv chosen hsub
    rw [h.compare_settledEntries_eq_nil_iff hsub]
    exact and_iff_right hv

/-- Two entries may be absent and one of them is there, under the other spelling of its key: of the four choices only
the one of this key takes the value. -/
theorem conforms_iff_settled_one_of_two :
    let entries : List (Key × Node) := [(.sym "a", .optional (.atom (.kind .string))), (.int 1, .atom (.kind .any)),
      (.str "b", .optional (.arrayOf (.atom (.kind .integer))))]
    let v : Value := .map [(.int 1, .null), (.str "a", .str "x")]
    EntriesApart .indifferent entries ∧ conforms (.mapOf entries .indifferent) v = true ∧
      ∀ chosen ⊆ optionalKeys entries,
        conforms (.mapOf (settledEntries chosen entries) .indifferent) v = true ↔ chosen = {Key.sym "a"} := by
  intro entries v
  have hapart : EntriesApart .indifferent entries := ⟨by decide, by decide⟩
  have hpresent : presentKeys .indifferent entries v = {Key.sym "a"} := by decide
  exact ⟨hapart, rfl, hpresent ▸ (conforms_iff_settled hapart v).2 rfl⟩

end SchemaCheck
