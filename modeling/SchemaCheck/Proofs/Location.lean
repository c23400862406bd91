import SchemaCheck.Proofs.Walk
/-!
# Location — where a mismatch is

`LeadsTo` follows a location in a node and in a value at once: an index goes to an element, a key to what an entry
with this key asks for and to a field that the policy takes to be under it.  The location of a mismatch leads to the
value that the mismatch shows and to a node whose comparison with this value finds this mismatch alone
(`exists_stop_of_mem_compare`), so to a node that the value does not conform to (`mismatch_at_location`).
-/
namespace SchemaCheck

/-- Followed in this node and this value, a location leads to that node and that value.  No step goes into
alternatives, and an entry is entered past its optional layer. -/
inductive LeadsTo : List Step → Node → Value → Node → Value → Prop where
  | here (n : Node) (v : Value) : LeadsTo [] n v n v
  | index {rest : List Step} {i : Nat} {element n : Node} {items : List Value} {x v : Value} :
      items[i]? = some x → LeadsTo rest element x n v →
      LeadsTo (.index i :: rest) (.arrayOf element) (.seq items) n v
  | key {rest : List Step} {k k' : Key} {entries : List (Key × Node)} {policy : KeyPolicy} {e n : Node}
      {fields : List (Key × Value)} {x v : Value} :
      (k, e) ∈ entries → (k', x) ∈ fields → policy.normalize k' = policy.normalize k →
      LeadsTo rest e.unwrapOptional x n v →
      LeadsTo (.key k :: rest) (.mapOf entries policy) (.map fields) n v

/-- A mismatch of a comparison that stops shows the value and what the node demands of it. -/
theorem mismatch_of_not_descends {n : Node} {v : Value} {m : Mismatch} (hd : ¬ Descends n v) (hm : m ∈ compare n v) :
    m.location = [] ∧ m.actual = v ∧ m.expected = n.demand v := by
  rcases compare_of_not_descends hd with hnil | ⟨reason, hone⟩
  · rw [hnil] at hm
    cases hm
  · rw [hone, List.mem_singleton] at hm
    subst hm
    exact ⟨rfl, rfl, rfl⟩

/-- The mismatch is at a node that its location leads to, together with the value that it shows: something is found
in this value there, and what is expected is what the node demands. -/
def Mismatch.IsAt (m : Mismatch) (n : Node) (v : Value) (stop : Node) : Prop :=
  LeadsTo m.location n v stop m.actual ∧ compare stop m.actual ≠ [] ∧ m.expected = stop.demand m.actual

/-- The same mismatch, taken where its location ends. -/
def Mismatch.here (m : Mismatch) : Mismatch := .atRoot m.actual m.expected m.reason

theorem Mismatch.here_eq {m : Mismatch} (h : m.location = []) : m.here = m := by
  obtain ⟨location, actual, expected, reason⟩ := m
  cases h
  rfl

theorem stop_of_not_descends {n : Node} {v : Value} {m : Mismatch} (hd : ¬ Descends n v) (hm : m ∈ compare n v) :
    ∃ stop, LeadsTo m.location n v stop m.actual ∧ ¬ Descends stop m.actual ∧ compare stop m.actual = [m.here] := by
  obtain ⟨hl, ha, -⟩ := mismatch_of_not_descends hd hm
  refine ⟨n, ?_⟩
  rw [hl, ha, Mismatch.here_eq hl]
  refine ⟨.here n v, hd, ?_⟩
  rcases compare_of_not_descends hd with hnil | ⟨reason, hone⟩
  · rw [hnil] at hm
    cases hm
  · rw [hone, List.mem_singleton] at hm
    rw [hone, hm]

/-- **Every mismatch is the only one where its location ends.** -/
theorem exists_stop_of_mem_compare (n : Node) : ∀ {v : Value} {m : Mismatch}, m ∈ compare n v →
    ∃ stop, LeadsTo m.location n v stop m.actual ∧ ¬ Descends stop m.actual ∧ compare stop m.actual = [m.here] := by
  induction n using Node.descent with
  | atom p => exact stop_of_not_descends not_false
  | arrayOf element ih =>
    intro v m hm
    cases v with
    | seq items =>
      rw [compare_arrayOf_seq] at hm
      obtain ⟨i, x, hi, part, hpart, rfl⟩ := mem_elementMismatches.1 hm
      obtain ⟨stop, hlead, hstop⟩ := ih hpart
      exact ⟨stop, .index hi hlead, hstop⟩
    | _ => exact stop_of_not_descends not_false hm
  | mapOf entries policy ih =>
    intro v m hm
    by_cases hd : Descends (.mapOf entries policy) v
    · cases v with
      | map fields =>
        rw [compare_mapOf_map hd] at hm
        obtain ⟨⟨k, e⟩, he, hme⟩ := List.mem_flatMap.1 hm
        obtain ⟨⟨k', x⟩, hf, hk, part, hpart, rfl⟩ := mem_entryMismatches.1 hme
        obtain ⟨stop, hlead, hstop⟩ := ih (k, e) he hpart
        exact ⟨stop, .key he hf hk hlead, hstop⟩
      | _ => cases hd
    · exact stop_of_not_descends hd hm
  | alternatives members _ => exact stop_of_not_descends not_false
  | optional inner _ => exact stop_of_not_descends not_false

/-- **Every mismatch is somewhere.** -/
theorem isAt_of_mem_compare (n : Node) {v : Value} {m : Mismatch} (hm : m ∈ compare n v) :
    ∃ stop, m.IsAt n v stop := by
  obtain ⟨stop, hlead, hd, hone⟩ := exists_stop_of_mem_compare n hm
  have hhere : m.here ∈ compare stop m.actual := hone ▸ List.mem_singleton_self _
  exact ⟨stop, hlead, List.ne_nil_of_mem hhere, (mismatch_of_not_descends hd hhere).2.2⟩

/-- **A mismatch is where it says.**  Its location can be followed in the node and in the value; there stands the
value that it shows, which does not conform to the node there; and what it names as expected is that node, or only the
kind that this node asks for when the value is not of this kind. -/
theorem mismatch_at_location {n : Node} {v : Value} {m : Mismatch} (hm : m ∈ compare n v) :
    ∃ stop, LeadsTo m.location n v stop m.actual ∧ conforms stop m.actual = false ∧
      m.expected = stop.demand m.actual := by
  obtain ⟨stop, hlead, hfound, hdemand⟩ := isAt_of_mem_compare n hm
  refine ⟨stop, hlead, ?_, hdemand⟩
  rw [conforms, List.isEmpty_eq_false_iff]
  exact hfound

/-- The second element under a key that the value spells otherwise. -/
theorem mismatch_at_element_under_key :
    (⟨[.key (.sym "a"), .index 1], .null, .atom (.kind .string), .unlike⟩ : Mismatch) ∈
      compare (.mapOf [(.sym "a", .optional (.arrayOf (.atom (.kind .string))))] .indifferent)
        (.map [(.str "a", .seq [.str "x", .null])]) ∧
    ∃ stop, LeadsTo [.key (.sym "a"), .index 1]
        (.mapOf [(.sym "a", .optional (.arrayOf (.atom (.kind .string))))] .indifferent)
        (.map [(.str "a", .seq [.str "x", .null])]) stop .null ∧
      conforms stop .null = false ∧ .atom (.kind .string) = stop.demand .null := by
  have hm : (⟨[.key (.sym "a"), .index 1], .null, .atom (.kind .string), .unlike⟩ : Mismatch) ∈
      compare (.mapOf [(.sym "a", .optional (.arrayOf (.atom (.kind .string))))] .indifferent)
        (.map [(.str "a", .seq [.str "x", .null])]) := List.mem_singleton_self _
  exact ⟨hm, mismatch_at_location hm⟩

end SchemaCheck
