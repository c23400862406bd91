import Mathlib.Data.List.Induction
import Mathlib.Data.List.Nodup
import Mathlib.Data.List.Perm.Subperm
import SchemaCheck.Key
/-!
# Entries — entries as finite functions

Without a key twice, entries are what their keys find, in whatever order they stand (`Entries.get?_perm`).  Entries are
equal up to their order as soon as there are as many of them and each of the one has its like under its key in the other
(`Entries.exists_perm_of_matched`).
-/
namespace SchemaCheck
namespace Entries

variable {α : Type} {a b : Entries α}

theorem mem_of_get? {k : Key} {x : α} : ∀ {es : Entries α}, get? k es = some x → (k, x) ∈ es
  | [], h => nomatch h
  | (k', y) :: rest, h => by
    rw [get?] at h
    split at h
    · rename_i hk
      cases h
      exact hk ▸ List.mem_cons_self
    · exact List.mem_cons_of_mem _ (mem_of_get? h)

theorem mem_insert {k : Key} {x : α} {e : Key × α} : ∀ {es : Entries α}, e ∈ insert k x es → e = (k, x) ∨ e ∈ es
  | [], h => .inl (List.mem_singleton.1 h)
  | f :: rest, h => by
    rw [insert] at h
    split at h
    · exact (List.mem_cons.1 h).imp_right (List.mem_cons_of_mem f)
    · rcases List.mem_cons.1 h with rfl | hrest
      · exact .inr List.mem_cons_self
      · exact (mem_insert hrest).imp_right (List.mem_cons_of_mem f)

theorem mem_ofPairs {e : Key × α} {ps : List (Key × α)} (h : e ∈ ofPairs ps) : e ∈ ps := by
  have hfold : ∀ (ps : List (Key × α)) {es : Entries α}, e ∈ ps.foldl (fun es p => insert p.1 p.2 es) es →
      e ∈ ps ∨ e ∈ es := by
    intro ps
    induction ps with
    | nil => exact .inr
    | cons p rest ih =>
      intro es h
      rcases ih h with hrest | hinsert
      · exact .inl (List.mem_cons_of_mem p hrest)
      · exact (mem_insert hinsert).imp_left fun heq => List.mem_cons.2 (.inl heq)
  exact (hfold ps h).resolve_right List.not_mem_nil

theorem get?_eq_some_iff {k : Key} {x : α} (ha : (keys a).Nodup) : get? k a = some x ↔ (k, x) ∈ a :=
  ⟨mem_of_get?, get?_of_mem ha⟩

theorem get?_eq_none_iff (k : Key) : ∀ es : Entries α, get? k es = none ↔ k ∉ keys es
  | [] => by simp [get?, keys]
  | (k', x) :: rest => by
    have ih := get?_eq_none_iff k rest
    rw [get?, keys, List.map_cons, List.mem_cons, not_or]
    by_cases hk : k' = k
    · rw [if_pos hk]
      exact ⟨fun h => absurd h (Option.some_ne_none x), fun h => absurd hk.symm h.1⟩
    · rw [if_neg hk, ih]
      exact ⟨fun h => ⟨Ne.symm hk, h⟩, fun h => h.2⟩

/-- The order of entries does not matter to what a key finds. -/
theorem get?_perm (h : a.Perm b) (ha : (keys a).Nodup) (k : Key) : get? k a = get? k b := by
  have hb : (keys b).Nodup := (h.map Prod.fst).nodup ha
  refine Option.ext fun x => ?_
  rw [get?_eq_some_iff ha, get?_eq_some_iff hb, h.mem_iff]

theorem keys_map (g : Key × α → α) (es : Entries α) : keys (es.map fun e => (e.1, g e)) = keys es := by
  rw [keys, List.map_map]
  rfl

/-- What a key finds among entries with new values is seen as what it found, if each new value is seen as the old. -/
theorem get?_map_congr {β γ : Type} {g : Key × α → β} {p : β → γ} {q : α → γ} (k : Key) : ∀ {es : Entries α},
    (∀ e ∈ es, p (g e) = q e.2) → (get? k (es.map fun e => (e.1, g e))).map p = (get? k es).map q
  | [], _ => rfl
  | (k', x) :: rest, h => by
    rw [List.map_cons, get?, get?]
    by_cases hk : k' = k
    · rw [if_pos hk, if_pos hk, Option.map_some, Option.map_some, h _ List.mem_cons_self]
    · rw [if_neg hk, if_neg hk, get?_map_congr k fun e he => h e (List.mem_cons_of_mem _ he)]

/-- A key finds among changed values the changed one. -/
theorem get?_map {β : Type} (g : α → β) (k : Key) (es : Entries α) :
    get? k (es.map fun e => (e.1, g e.2)) = (get? k es).map g := by
  have hcongr : (get? k (es.map fun e => (e.1, g e.2))).map id = (get? k es).map g :=
    get?_map_congr k fun _ _ => rfl
  rwa [Option.map_id] at hcongr

theorem nodup_of_nodup_keys (ha : (keys a).Nodup) : a.Nodup := List.Nodup.of_map Prod.fst ha

/-- Entries that have each its like under its key, and are as many, are in some order paired with their likes. -/
theorem exists_perm_of_matched {R : α → α → Prop} (ha : (keys a).Nodup) (hlen : a.length = b.length)
    (h : ∀ e ∈ a, ∃ y, get? e.1 b = some y ∧ R e.2 y) :
    ∃ g : Key × α → α, (∀ e ∈ a, R e.2 (g e)) ∧ (a.map fun e => (e.1, g e)).Perm b := by
  have hfound : ∀ e ∈ a, get? e.1 b = some ((get? e.1 b).getD e.2) ∧ R e.2 ((get? e.1 b).getD e.2) := by
    intro e he
    obtain ⟨y, hy, hr⟩ := h e he
    rw [hy]
    exact ⟨rfl, hr⟩
  refine ⟨fun e => (get? e.1 b).getD e.2, fun e he => (hfound e he).2, ?_⟩
  have hnodup : (keys (a.map fun e => (e.1, (get? e.1 b).getD e.2))).Nodup := by
    rw [keys_map fun e => (get? e.1 b).getD e.2]
    exact ha
  have hsub : (a.map fun e => (e.1, (get? e.1 b).getD e.2)) ⊆ b := by
    intro f hf
    obtain ⟨e, he, rfl⟩ := List.mem_map.1 hf
    exact mem_of_get? (hfound e he).1
  -- all are among the others, none twice, and the others are no more
  refine (List.subperm_of_subset (nodup_of_nodup_keys hnodup) hsub).perm_of_length_le ?_
  rw [List.length_map]
  exact Nat.le_of_eq hlen.symm

theorem insert_of_not_mem {k : Key} {x : α} : ∀ {es : Entries α}, k ∉ keys es → insert k x es = es ++ [(k, x)]
  | [], _ => rfl
  | (k', y) :: rest, h => by
    have hcons : k ≠ k' ∧ k ∉ keys rest := by
      rw [keys, List.map_cons, List.mem_cons, not_or] at h
      exact h
    rw [insert, if_neg (Ne.symm hcons.1), insert_of_not_mem hcons.2, List.cons_append]

/-- Pairs without a key twice are entries as they stand. -/
theorem ofPairs_of_nodup {ps : List (Key × α)} (h : (keys ps).Nodup) : ofPairs ps = ps := by
  have hfold : ∀ (ps : List (Key × α)) (es : Entries α), (keys (es ++ ps)).Nodup →
      ps.foldl (fun es p => insert p.1 p.2 es) es = es ++ ps := by
    intro ps
    induction ps with
    | nil => exact fun es _ => (List.append_nil es).symm
    | cons p rest ih =>
      intro es hd
      have hp : p.1 ∉ keys es := by
        rw [keys, List.map_append, List.nodup_append] at hd
        exact fun hm => hd.2.2 _ hm _ List.mem_cons_self rfl
      rw [List.foldl_cons, insert_of_not_mem hp, ih, List.append_assoc, List.singleton_append]
      rwa [List.append_assoc, List.singleton_append]
  exact hfold ps [] h

/-- Different elements that stay different stay where they came first. -/
theorem eraseDups_map {β γ : Type} [DecidableEq β] [DecidableEq γ] {f : β → γ} (hf : Function.Injective f)
    (l : List β) : (l.map f).eraseDups = l.eraseDups.map f := by
  induction l using List.reverseRecOn with
  | nil => rfl
  | append_singleton l b ih =>
    have hmem : f b ∈ l.map f ↔ b ∈ l := List.mem_map_of_injective hf
    rw [List.map_append, List.map_singleton, List.eraseDups_append, List.eraseDups_append, ih, List.map_append]
    by_cases hb : b ∈ l
    · simp [List.removeAll, hb, hmem.2 hb, -List.mem_map]
    · simp [List.removeAll, hb, mt hmem.1 hb, -List.mem_map, List.eraseDups_cons]

theorem ofPairs_append (ps qs : List (Key × α)) :
    ofPairs (ps ++ qs) = qs.foldl (fun es p => insert p.1 p.2 es) (ofPairs ps) := List.foldl_append

/-- Of pairs inserted one after the other, each key has the place of its first one. -/
theorem keys_ofPairs (ps : List (Key × α)) : keys (ofPairs ps) = (ps.map Prod.fst).eraseDups := by
  induction ps using List.reverseRecOn with
  | nil => rfl
  | append_singleton ps p ih =>
    rw [ofPairs_append, List.foldl_cons, List.foldl_nil, keys_insert, ih, List.map_append, List.map_singleton,
      List.eraseDups_append]
    by_cases hp : p.1 ∈ ps.map Prod.fst
    · rw [if_pos (List.mem_eraseDups.2 hp)]
      simp [List.removeAll, hp]
    · rw [if_neg (mt List.mem_eraseDups.1 hp)]
      simp [List.removeAll, hp, List.eraseDups_cons]

/-- Of pairs inserted one after the other, each key has what its last one has. -/
theorem get?_ofPairs (k : Key) (ps : List (Key × α)) :
    get? k (ofPairs ps) = (ps.reverse.find? fun p => p.1 = k).map Prod.snd := by
  induction ps using List.reverseRecOn with
  | nil => rfl
  | append_singleton ps p ih =>
    have hinsert : ofPairs (ps ++ [p]) = insert p.1 p.2 (ofPairs ps) := ofPairs_append ps [p]
    rw [hinsert, get?_insert, List.reverse_append, List.reverse_singleton, List.singleton_append, List.find?_cons, ih]
    by_cases hp : p.1 = k
    · simp [hp]
    · simp [hp]

theorem get?_ofPairs_of_last {k : Key} {x : α} {ps qs : List (Key × α)} (h : k ∉ qs.map Prod.fst) :
    get? k (ofPairs (ps ++ (k, x) :: qs)) = some x := by
  have hnone : qs.reverse.find? (fun p => p.1 = k) = none := by
    refine List.find?_eq_none.2 fun q hq => ?_
    simpa using fun hk : q.1 = k => h (List.mem_map.2 ⟨q, List.mem_reverse.1 hq, hk⟩)
  simp [get?_ofPairs, List.find?_append, hnone]

theorem insert_map {α β : Type} (g : α → β) (k : Key) (x : α) : ∀ es : Entries α,
    insert k (g x) (es.map fun e => (e.1, g e.2)) = (insert k x es).map fun e => (e.1, g e.2)
  | [] => rfl
  | (k', y) :: rest => by
    rw [List.map_cons, insert, insert]
    by_cases hk : k' = k
    · rw [if_pos hk, if_pos hk, List.map_cons]
    · rw [if_neg hk, if_neg hk, insert_map g k x rest, List.map_cons]

/-- What is changed before it is inserted is changed as if afterwards. -/
theorem ofPairs_map {α β : Type} (g : α → β) (ps : List (Key × α)) :
    ofPairs (ps.map fun p => (p.1, g p.2)) = (ofPairs ps).map fun p => (p.1, g p.2) := by
  induction ps using List.reverseRecOn with
  | nil => rfl
  | append_singleton ps p ih =>
    rw [List.map_append, ofPairs_append, ofPairs_append, ih]
    exact insert_map g p.1 p.2 _

/-- Two lists of entries with the same keys are as many. -/
theorem length_eq_of_mem_keys_iff (ha : (keys a).Nodup) (hb : (keys b).Nodup) (h : ∀ k, k ∈ keys a ↔ k ∈ keys b) :
    a.length = b.length := by
  have hlen := ((List.perm_ext_iff_of_nodup ha hb).2 h).length_eq
  rwa [keys, keys, List.length_map, List.length_map] at hlen

end Entries
end SchemaCheck
