import SchemaCheck.Proofs.Equality
import SchemaCheck.Proofs.Locations
import SchemaCheck.Proofs.Membership
/-!
# EqualValues — equal values get equal verdicts

Only the kinds of integers and of floats look at how a number is held.  A node that asks for neither of them reports the
same locations in equal values, in perhaps another order (`verdict_of_same`): no other test tells equal values apart
(`Predicate.test_eq_of_same`), and maps that are equal have, in some order, equal values under the same keys.
-/
namespace SchemaCheck

/-- An atom does not ask how a number is held. -/
def Node.mixesNumber : Node → Bool
  | .atom (.kind .integer) => false
  | .atom (.kind .float) => false
  | _ => true

/-- Nothing in the node asks how a number is held. -/
def Node.mixesNumbers (n : Node) : Bool := n.everywhere Node.mixesNumber

/-! ## Tests -/

/-- Equal values are of one kind, or both are numbers. -/
theorem Value.kind_eq_of_same {v w : Value} (h : v.same w = true) :
    v.kind = w.kind ∨ (v.ofKind .number = true ∧ w.ofKind .number = true) := by
  cases v with
  | int _ | float _ =>
    cases w with
    | int _ | float _ => exact .inr ⟨rfl, rfl⟩
    | _ => cases h
  | _ =>
    cases w
    all_goals first | exact .inl rfl | cases h

theorem Value.ofKind_eq_of_kind_eq {v w : Value} (h : v.kind = w.kind) (k : Kind) : v.ofKind k = w.ofKind k := by
  cases k <;> simp only [Value.ofKind, h]

/-- A number is of no other kinds than the two that it can be held as, besides those of all numbers. -/
theorem Value.ofKind_of_number {v : Value} (h : v.ofKind .number = true) {k : Kind} (hi : k ≠ .integer)
    (hf : k ≠ .float) : v.ofKind k = (k == .any || k == .number) := by
  cases v with
  | int _ | float _ =>
    cases k
    case integer => exact absurd rfl hi
    case float => exact absurd rfl hf
    all_goals rfl
  | _ => cases h

theorem Value.ofKind_eq_of_same {v w : Value} (h : v.same w = true) {k : Kind} (hi : k ≠ .integer) (hf : k ≠ .float) :
    v.ofKind k = w.ofKind k := by
  rcases Value.kind_eq_of_same h with hk | ⟨hv, hw⟩
  · exact Value.ofKind_eq_of_kind_eq hk k
  · rw [Value.ofKind_of_number hv hi hf, Value.ofKind_of_number hw hi hf]

theorem Value.asText?_eq_of_same {v w : Value} (h : v.same w = true) : v.asText? = w.asText? := by
  cases v with
  | str s =>
    cases w with
    | str t => exact congrArg some (eq_of_beq h)
    | _ => cases h
  | sym s =>
    cases w with
    | sym t => exact congrArg some (eq_of_beq h)
    | _ => cases h
  | _ =>
    cases w
    all_goals first | rfl | cases h

/-- **No test tells equal values apart**, except those for integers and for floats. -/
theorem Predicate.test_eq_of_same {p : Predicate} (hp : (Node.atom p).mixesNumber = true)
    (hl : (Node.atom p).hasDistinctLiteral = true) {v w : Value} (hv : v.isDistinct = true) (hw : w.isDistinct = true)
    (h : v.same w = true) : p.test v = p.test w := by
  cases p with
  | equal u => exact Value.same_congr hl hv hw h
  | kind k =>
    refine Value.ofKind_eq_of_same h ?_ ?_
    · rintro rfl
      cases hp
    · rintro rfl
      cases hp
  | pattern p => rw [Predicate.test, Predicate.test, Pattern.isMatch, Pattern.isMatch, Value.asText?_eq_of_same h]
  | range r => exact Interval.contains_eq_of_same r.same_refl h

/-- Equal tests give equal answers. -/
theorem Predicate.test_eq_of_same_test {p q : Predicate} (hp : (Node.atom p).hasDistinctLiteral = true)
    (hq : (Node.atom q).hasDistinctLiteral = true) (h : p.same q = true) {v : Value} (hv : v.isDistinct = true) :
    p.test v = q.test v := by
  cases p with
  | equal u =>
    cases q with
    | equal w =>
      rw [test, test, Bool.eq_iff_iff, u.same_iff_canon hp hv, w.same_iff_canon hq hv, (u.same_iff_canon hp hq).1 h]
    | _ => cases h
  | kind k =>
    cases q with
    | kind l => rw [eq_of_beq h]
    | _ => cases h
  | pattern p =>
    cases q with
    | pattern q => rw [Pattern.ext_source (eq_of_beq h)]
    | _ => cases h
  | range r =>
    cases q with
    | range s => exact Interval.contains_eq_of_same h (Value.same_refl hv)
    | _ => cases h

/-! ## Comparisons -/

theorem Value.kind_eq_iff_of_same {v w : Value} (h : v.same w = true) {k : Kind} (hk : k = .sequence ∨ k = .map) :
    v.kind = k ↔ w.kind = k := by
  rcases Value.kind_eq_of_same h with heq | ⟨hv, hw⟩
  · rw [heq]
  · cases v with
    | int _ | float _ =>
      cases w with
      | int _ | float _ => rcases hk with rfl | rfl <;> exact ⟨nofun, nofun⟩
      | _ => cases hw
    | _ => cases hv

theorem Value.sameItems_iff_zip : ∀ vs ws : List Value,
    Value.sameItems vs ws = true ↔ vs.length = ws.length ∧ ∀ p ∈ vs.zip ws, p.1.same p.2 = true
  | [], [] => by simp [Value.sameItems]
  | [], _ :: _ => ⟨nofun, nofun⟩
  | _ :: _, [] => ⟨nofun, nofun⟩
  | v :: vs, w :: ws => by
    rw [Value.sameItems_cons, Bool.and_eq_true, Value.sameItems_iff_zip vs ws, List.zip_cons_cons, List.forall_mem_cons,
      List.length_cons, List.length_cons, Nat.succ_inj, and_left_comm]

/-- Sequences whose elements are reported alike, one by one, are reported alike. -/
theorem perm_elementLocations {n : Node} : ∀ {vs ws : List Value} (i : Nat), vs.length = ws.length →
    (∀ p ∈ vs.zip ws, (locations n p.1).Perm (locations n p.2)) →
      ((vs.zipIdx i).flatMap (elementLocations n)).Perm ((ws.zipIdx i).flatMap (elementLocations n))
  | [], [], _, _, _ => .nil
  | v :: vs, w :: ws, i, hlen, h => by
    rw [List.zip_cons_cons, List.forall_mem_cons] at h
    rw [List.zipIdx_cons, List.zipIdx_cons, List.flatMap_cons, List.flatMap_cons]
    exact (h.1.map _).append (perm_elementLocations (i + 1) (Nat.succ.inj hlen) h.2)

/-- Fields with new values, in another order, are reported alike under an entry if each new value is. -/
theorem perm_entryLocations {policy : KeyPolicy} {e : Key × Node} {a b : List (Key × Value)} {g : Key × Value → Value}
    (hperm : (a.map fun f => (f.1, g f)).Perm b)
    (h : ∀ f ∈ a, (locations e.2.unwrapOptional f.2).Perm (locations e.2.unwrapOptional (g f))) :
    (entryLocations policy a e).Perm (entryLocations policy b e) := by
  have hmap : (entryLocations policy a e).Perm (entryLocations policy (a.map fun f => (f.1, g f)) e) := by
    rw [entryLocations, entryLocations, fieldsUnder_map, List.flatMap_map]
    exact List.Perm.flatMap_left _ fun f hf => (h f (mem_fieldsUnder.1 hf).1).map _
  exact hmap.trans ((hperm.filter _).flatMap_right _)

/-- **Equal values are reported alike**, by a node that does not ask how numbers are held. -/
theorem perm_locations_of_same (n : Node) : ∀ {v w : Value}, n.mixesNumbers = true → n.hasDistinctLiterals = true →
    v.isDistinct = true → w.isDistinct = true → v.same w = true → (locations n v).Perm (locations n w) := by
  induction n using Node.descent with
  | atom p =>
    intro v w hn hl hv hw h
    rw [locations_atom, locations_atom, Predicate.test_eq_of_same hn hl hv hw h]
  | arrayOf element ih =>
    intro v w hn hl hv hw h
    refine locations_arrayOf_related (.refl _) (Value.kind_eq_iff_of_same h (.inl rfl)) ?_
    rintro vs ws rfl rfl
    obtain ⟨hlen, hsame⟩ := (Value.sameItems_iff_zip vs ws).1 h
    rw [Value.isDistinct_seq] at hv hw
    refine perm_elementLocations 0 hlen fun p hp => ?_
    exact ih ((Node.everywhere_arrayOf _ _).1 hn).2 ((Node.everywhere_arrayOf _ _).1 hl).2
      (hv _ (List.of_mem_zip hp).1) (hw _ (List.of_mem_zip hp).2) (hsame p hp)
  | mapOf entries policy ih =>
    intro v w hn hl hv hw h
    have hkind := Value.kind_eq_iff_of_same h (.inr rfl)
    refine locations_mapOf_related (.refl _) hkind ?_ ?_
    · rintro a b rfl rfl
      exact keysAgree_iff_of_keys (Value.mem_keys_iff_of_same_map ((Value.isDistinct_map a).1 hv).1 h)
    · rintro a b rfl rfl
      rw [Value.isDistinct_map] at hv hw
      -- fields that share a key under the policy may have changed places, so under an entry there is only a permutation
      obtain ⟨g, hg, hperm⟩ := Value.exists_perm_of_same_map hv.1 h
      refine List.Perm.flatMap_left _ fun e he => perm_entryLocations hperm fun f hf => ?_
      exact ih e he (Node.everywhere_unwrapOptional (((Node.everywhere_mapOf _ _ _).1 hn).2 e he))
        (Node.everywhere_unwrapOptional (((Node.everywhere_mapOf _ _ _).1 hl).2 e he)) (hv.2 f hf)
        (hw.2 _ (hperm.subset (List.mem_map_of_mem hf))) (hg f hf)
  | alternatives members ih =>
    intro v w hn hl hv hw h
    rw [locations_alternatives_eq]
    refine exists_congr fun n => and_congr_right fun hm => ?_
    rw [conforms_eq_of_perm (ih n hm (((Node.everywhere_alternatives _ _).1 hn).2 n hm)
      (((Node.everywhere_alternatives _ _).1 hl).2 n hm) hv hw h)]
  | optional inner _ =>
    intro v w _ _ _ _ _
    rw [locations_optional, locations_optional]

/-- **Equal values get equal verdicts.**  Where a node asks for neither integers nor floats alone, equal values conform
to it alike, and the mismatches of the one are at the locations of the mismatches of the other. -/
theorem verdict_of_same {n : Node} (hn : n.mixesNumbers = true) (hl : n.hasDistinctLiterals = true) {v w : Value}
    (hv : v.isDistinct = true) (hw : w.isDistinct = true) (h : v.same w = true) :
    conforms n v = conforms n w ∧
      ((compare n v).map Mismatch.location).Perm ((compare n w).map Mismatch.location) := by
  have hperm := perm_locations_of_same n hn hl hv hw h
  exact ⟨conforms_eq_of_perm hperm, hperm⟩

/-- Two keys that the node takes for one key, in maps of another order, an integer next to the float that it is. -/
theorem verdict_of_same_under_one_key :
    let n : Node := .mapOf [(.str "a", .alternatives [.atom (.equal (.int 1)),
      .atom (.range (.atLeast (Double.ofInt 2)))])] .indifferent
    let v : Value := .map [(.str "a", .int 1), (.sym "a", .null)]
    let w : Value := .map [(.sym "a", .null), (.str "a", .float (Double.ofInt 1))]
    n.mixesNumbers = true ∧ n.hasDistinctLiterals = true ∧ v.isDistinct = true ∧ w.isDistinct = true ∧
      v.same w = true ∧ conforms n v = conforms n w ∧
      ((compare n v).map Mismatch.location).Perm ((compare n w).map Mismatch.location) := by
  intro n v w
  have hsame : v.same w = true := by decide +kernel
  exact ⟨rfl, rfl, rfl, rfl, hsame, verdict_of_same rfl rfl rfl rfl hsame⟩

end SchemaCheck
