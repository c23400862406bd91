import Mathlib.Data.List.Nodup
import Mathlib.Data.List.Pairwise
import SchemaCheck.Proofs.Locations
/-!
# DepthFirst — mismatches come depth first and apart from each other

`Node.Before` is the order in which a node is gone through: where two locations part, the one with the smaller index or
the key declared earlier comes first.  The locations of a comparison ascend in it (`pairwise_before_locations`), as long
as no two keys of a map are one key to the policy that compares it (`Node.TellsApart`).  Locations that part go on to
different places, so none is the beginning of another one (`locations_ascend`).
-/
namespace SchemaCheck

/-! ## The order -/

/-- One location comes before another one: at the step where they part it has the smaller index, or the key that the
node there declares earlier.  A location does not come before those that go on from it, nor after them. -/
inductive Node.Before : Node → List Step → List Step → Prop where
  | index {element : Node} {i j : Nat} (p q : List Step) : i < j →
      Before (.arrayOf element) (.index i :: p) (.index j :: q)
  | inElement {element : Node} {p q : List Step} (i : Nat) : Before element p q →
      Before (.arrayOf element) (.index i :: p) (.index i :: q)
  | key {entries : List (Key × Node)} {policy : KeyPolicy} {k l : Key} (p q : List Step) :
      [k, l].Sublist (Entries.keys entries) → Before (.mapOf entries policy) (.key k :: p) (.key l :: q)
  | inEntry {entries : List (Key × Node)} {policy : KeyPolicy} {e : Key × Node} {p q : List Step} : e ∈ entries →
      Before e.2.unwrapOptional p q → Before (.mapOf entries policy) (.key e.1 :: p) (.key e.1 :: q)

/-- Of two locations one of which comes before the other, none is the beginning of the other. -/
theorem Node.Before.not_prefix {n : Node} {p q : List Step} (h : n.Before p q) :
    n.isDistinct = true → ¬ p <+: q ∧ ¬ q <+: p := by
  induction h with
  | index p q hij =>
    intro _
    have hne : Step.index _ ≠ Step.index _ := fun heq => Nat.ne_of_lt hij (Step.index.inj heq)
    exact ⟨fun hp => hne (List.cons_prefix_cons.1 hp).1, fun hq => hne (List.cons_prefix_cons.1 hq).1.symm⟩
  | inElement i _ ih =>
    intro hn
    have hparts := ih ((Node.everywhere_arrayOf _ _).1 hn).2
    exact ⟨fun hp => hparts.1 (List.cons_prefix_cons.1 hp).2, fun hq => hparts.2 (List.cons_prefix_cons.1 hq).2⟩
  | key p q hkl =>
    intro hn
    have hkeys := of_decide_eq_true ((Node.everywhere_mapOf _ _ _).1 hn).1
    have hne : Step.key _ ≠ Step.key _ := fun heq =>
      (List.nodup_cons.1 (hkeys.sublist hkl)).1 (List.mem_singleton.2 (Step.key.inj heq))
    exact ⟨fun hp => hne (List.cons_prefix_cons.1 hp).1, fun hq => hne (List.cons_prefix_cons.1 hq).1.symm⟩
  | inEntry he _ ih =>
    intro hn
    have hparts := ih (Node.everywhere_unwrapOptional (((Node.everywhere_mapOf _ _ _).1 hn).2 _ he))
    exact ⟨fun hp => hparts.1 (List.cons_prefix_cons.1 hp).2, fun hq => hparts.2 (List.cons_prefix_cons.1 hq).2⟩

/-! ## Where keys are one -/

/-- On its way the comparison of a value with a node compares that node with that value.  The probes of alternatives,
which leave no mismatch behind, are not on the way. -/
inductive Node.Compares : Node → Value → Node → Value → Prop where
  | here (n : Node) (v : Value) : Compares n v n v
  | element {element n : Node} {items : List Value} {x v : Value} : x ∈ items → Compares element x n v →
      Compares (.arrayOf element) (.seq items) n v
  | entry {entries : List (Key × Node)} {policy : KeyPolicy} {fields : List (Key × Value)} {e : Key × Node}
      {f : Key × Value} {n : Node} {v : Value} : KeysAgree policy entries fields → e ∈ entries → f ∈ fields →
      policy.normalize f.1 = policy.normalize e.1 → Compares e.2.unwrapOptional f.2 n v →
      Compares (.mapOf entries policy) (.map fields) n v

/-- No two keys of a map are one key to the policy of a node that the map is compared with. -/
def Node.TellsApart (n : Node) (v : Value) : Prop :=
  ∀ {entries : List (Key × Node)} {policy : KeyPolicy} {fields : List (Key × Value)},
    n.Compares v (.mapOf entries policy) (.map fields) → (fields.map fun f => policy.normalize f.1).Nodup

/-- Where keys are compared as they are written, no two keys are one. -/
theorem Node.tellsApart_of_isStrict {n : Node} {v : Value} (hn : n.isStrict = true) (hv : v.isDistinct = true) :
    n.TellsApart v := by
  have hall : ∀ {n m : Node} {v w : Value}, n.Compares v m w → n.isStrict = true → v.isDistinct = true →
      m.isStrict = true ∧ w.isDistinct = true := by
    intro n m v w h
    induction h with
    | here n v => exact fun hn hv => ⟨hn, hv⟩
    | element hx _ ih =>
      exact fun hn hv => ih ((Node.everywhere_arrayOf _ _).1 hn).2 ((Value.isDistinct_seq _).1 hv _ hx)
    | entry _ he hf _ _ ih =>
      intro hn hv
      exact ih (Node.everywhere_unwrapOptional (((Node.everywhere_mapOf _ _ _).1 hn).2 _ he))
        (((Value.isDistinct_map _).1 hv).2 _ hf)
  intro entries policy fields h
  obtain ⟨hstrict, hdistinct⟩ := hall h hn hv
  have hpolicy : policy = .strict := beq_iff_eq.1 ((Node.everywhere_mapOf _ _ _).1 hstrict).1
  rw [hpolicy]
  exact ((Value.isDistinct_map fields).1 hdistinct).1

/-! ## Locations in order -/

theorem pairwise_snd_zipIdx {α : Type} (l : List α) : l.zipIdx.Pairwise fun x y => x.2 < y.2 := by
  have h : (l.zipIdx.map Prod.snd).Pairwise (· < ·) := by
    rw [List.zipIdx_map_snd]
    exact List.pairwise_lt_range'
  exact List.pairwise_map.1 h

/-- Entries are declared one after the other. -/
theorem pairwise_key_sublist {α : Type} (entries : Entries α) :
    entries.Pairwise fun d e => [d.1, e.1].Sublist (Entries.keys entries) :=
  List.pairwise_iff_forall_sublist.2 fun h => h.map Prod.fst

/-- If keys differ to a policy, no two fields are under one key. -/
theorem pairwise_fieldsUnder {policy : KeyPolicy} {fields : List (Key × Value)} {k : Key}
    {R : Key × Value → Key × Value → Prop} (h : (fields.map fun f => policy.normalize f.1).Nodup) :
    (fieldsUnder policy k fields).Pairwise R := by
  have hdiffer : (fieldsUnder policy k fields).Pairwise fun f g => policy.normalize f.1 ≠ policy.normalize g.1 :=
    (List.pairwise_map.1 h).filter _
  refine hdiffer.imp_of_mem fun hf hg hne => absurd ?_ hne
  rw [(mem_fieldsUnder.1 hf).2, (mem_fieldsUnder.1 hg).2]

theorem pairwise_before_of_not_descends {n : Node} {v : Value} (h : ¬ Descends n v) :
    (locations n v).Pairwise n.Before := by
  rcases compare_of_not_descends h with hnil | ⟨reason, hone⟩
  · rw [locations, hnil]
    exact .nil
  · rw [locations, hone]
    exact List.pairwise_singleton _ _

/-- **The locations of a comparison ascend**, if no two keys are one. -/
theorem pairwise_before_locations (n : Node) : ∀ {v : Value}, n.TellsApart v →
    (locations n v).Pairwise n.Before := by
  induction n using Node.descent with
  | arrayOf element ih =>
    intro v hv
    by_cases hd : Descends (.arrayOf element) v
    · cases v with
      | seq items =>
        rw [locations_arrayOf_seq, List.pairwise_flatMap]
        refine ⟨fun item hitem => ?_, (pairwise_snd_zipIdx items).imp fun {x y} hxy p hp q hq => ?_⟩
        · have hmem : item.1 ∈ items := List.fst_mem_of_mem_zipIdx hitem
          have hbelow := ih (v := item.1) fun h => hv (.element hmem h)
          rw [elementLocations, List.pairwise_map]
          exact hbelow.imp fun h => .inElement item.2 h
        · obtain ⟨p, -, rfl⟩ := List.mem_map.1 hp
          obtain ⟨q, -, rfl⟩ := List.mem_map.1 hq
          exact .index p q hxy
      | _ => cases hd
    · exact pairwise_before_of_not_descends hd
  | mapOf entries policy ih =>
    intro v hv
    by_cases hd : Descends (.mapOf entries policy) v
    · cases v with
      | map fields =>
        rw [locations_mapOf_map hd, List.pairwise_flatMap]
        refine ⟨fun e he => ?_, (pairwise_key_sublist entries).imp fun {d e} hde p hp q hq => ?_⟩
        · rw [entryLocations, List.pairwise_flatMap]
          refine ⟨fun f hf => ?_, pairwise_fieldsUnder (hv (.here _ _))⟩
          obtain ⟨hf, hk⟩ := mem_fieldsUnder.1 hf
          have hbelow := ih e he (v := f.2) fun h => hv (.entry hd he hf hk h)
          rw [List.pairwise_map]
          exact hbelow.imp fun h => .inEntry he h
        · obtain ⟨f, -, hp⟩ := List.mem_flatMap.1 hp
          obtain ⟨g, -, hq⟩ := List.mem_flatMap.1 hq
          obtain ⟨p, -, rfl⟩ := List.mem_map.1 hp
          obtain ⟨q, -, rfl⟩ := List.mem_map.1 hq
          exact .key p q hde
      | _ => cases hd
    · exact pairwise_before_of_not_descends hd
  | _ => exact fun _ => pairwise_before_of_not_descends not_false

/-- **The mismatches of a comparison come depth first and apart from each other**: their locations ascend, none occurs
twice, and none is the beginning of another one, if no two keys of a map are one key to the policy that compares it; and
so it always is where all keys are compared as they are written. -/
theorem locations_ascend {n : Node} (hn : n.isDistinct = true) :
    (∀ v, n.isStrict = true → v.isDistinct = true → n.TellsApart v) ∧
    ∀ v, n.TellsApart v → (locations n v).Pairwise n.Before ∧ (locations n v).Nodup ∧
      ∀ p ∈ locations n v, ∀ q ∈ locations n v, p <+: q → p = q := by
  refine ⟨fun v hstrict hv => Node.tellsApart_of_isStrict hstrict hv, fun v hv => ?_⟩
  have hascend := pairwise_before_locations n hv
  have hapart : (locations n v).Pairwise fun p q => ¬ p <+: q ∧ ¬ q <+: p := hascend.imp fun h => h.not_prefix hn
  have hnodup : (locations n v).Nodup := by
    refine hapart.imp ?_
    rintro p _ h rfl
    exact h.1 List.prefix_rfl
  have : Std.Symm fun p q : List Step => ¬ p <+: q ∧ ¬ q <+: p := ⟨fun _ _ h => h.symm⟩
  refine ⟨hascend, hnodup, fun p hp q hq hprefix => ?_⟩
  by_contra hne
  exact (hapart.forall hp hq hne).1 hprefix

/-- Two elements under the key that is declared first, though its field comes last and is spelt otherwise. -/
theorem locations_ascend_as_declared :
    let n : Node := .mapOf [(.sym "a", .arrayOf (.atom (.kind .string))), (.str "b", .atom (.kind .number))] .indifferent
    let v : Value := .map [(.str "b", .null), (.str "a", .seq [.null, .str "x", .null])]
    n.isDistinct = true ∧ n.TellsApart v ∧
      locations n v = [[.key (.sym "a"), .index 0], [.key (.sym "a"), .index 2], [.key (.str "b")]] ∧
      (locations n v).Pairwise n.Before ∧ (locations n v).Nodup ∧
      ∀ p ∈ locations n v, ∀ q ∈ locations n v, p <+: q → p = q := by
  intro n v
  have hv : n.TellsApart v := by
    intro entries policy fields h
    change (Node.mapOf _ _).Compares (.map _) _ _ at h
    cases h with
    | here => decide
    | entry _ he hf hk h =>
      -- below the map there are only a sequence and what is no map
      simp only [List.mem_cons, List.not_mem_nil, or_false] at he hf
      rcases he with rfl | rfl <;> rcases hf with rfl | rfl <;> cases h
      rename_i hx h
      simp only [List.mem_cons, List.not_mem_nil, or_false] at hx
      rcases hx with rfl | rfl | rfl <;> cases h
  exact ⟨rfl, hv, rfl, (locations_ascend rfl).2 v hv⟩

end SchemaCheck
