import SchemaCheck.Proofs.Location
import SchemaCheck.Proofs.Locations
/-!
# Evidence — a mismatch shown again

Comparing what a mismatch expects with what it shows finds this one mismatch at the root (`mismatch_is_evidence`).  The
node that its location leads to stands there as expected, and a comparison of it with the value finds the mismatch
alone (`exists_stop_of_mem_compare`).  A value without the structure that this node asks for is the exception: only the
kind is expected then (`Node.demand`), and a test of the kind finds the same mismatch without words of its own.
-/
namespace SchemaCheck

/-- The value has not the structure that the node asks for: no sequence where there are elements, no map where there
are entries. -/
def Node.LacksStructure : Node → Value → Prop
  | .arrayOf _, v => v.kind ≠ .sequence
  | .mapOf _ _, v => v.kind ≠ .map
  | _, _ => False

/-- The mismatch tells that a value is of the wrong kind. -/
def Mismatch.TellsKind (m : Mismatch) : Prop := ∃ wanted, m.reason = .wrongKind wanted m.actual.kind

theorem demand_of_not_lacksStructure {n : Node} {v : Value} (h : ¬ n.LacksStructure v) : n.demand v = n := by
  cases n with
  | arrayOf element => exact if_pos (Decidable.not_not.1 h)
  | mapOf entries policy => exact if_pos (Decidable.not_not.1 h)
  | _ => rfl

/-- What lacks the structure is told to be of the wrong kind, and a test of that kind fails. -/
theorem compare_of_lacksStructure {n : Node} {v : Value} (h : n.LacksStructure v) :
    ∃ wanted, n.demand v = .atom (.kind wanted) ∧
      compare n v = [.atRoot v (.atom (.kind wanted)) (.wrongKind wanted v.kind)] ∧
      compare (.atom (.kind wanted)) v = [.atRoot v (.atom (.kind wanted)) .unlike] := by
  cases n with
  | arrayOf element =>
    have hv : v.kind ≠ .sequence := h
    have htest : (Predicate.kind .sequence).test v = false := beq_false_of_ne hv
    exact ⟨.sequence, if_neg hv, compare_arrayOf_of_kind_ne element hv, by rw [compare_atom, htest]; rfl⟩
  | mapOf entries policy =>
    have hv : v.kind ≠ .map := h
    have htest : (Predicate.kind .map).test v = false := beq_false_of_ne hv
    exact ⟨.map, if_neg hv, compare_mapOf_of_kind_ne entries policy hv, by rw [compare_atom, htest]; rfl⟩
  | _ => cases h

/-- No other comparison that stops tells of a kind. -/
theorem not_tellsKind_of_stop {n : Node} {m : Mismatch} (h : ¬ n.LacksStructure m.actual)
    (hone : compare n m.actual = [m.here]) (hd : ¬ Descends n m.actual) : ¬ m.TellsKind := by
  rintro ⟨wanted, hreason⟩
  have hhere : m.here = .atRoot m.actual m.expected (.wrongKind wanted m.actual.kind) := by
    rw [Mismatch.here, hreason]
  rw [hhere] at hone
  cases n with
  | atom p =>
    rw [compare_atom] at hone
    split at hone <;> simp [Mismatch.atRoot] at hone
  | arrayOf element =>
    obtain ⟨items, hitems⟩ := Value.exists_seq_of_kind (Decidable.not_not.1 h)
    rw [hitems] at hd
    exact hd trivial
  | mapOf entries policy =>
    obtain ⟨fields, hfields⟩ := Value.exists_map_of_kind (Decidable.not_not.1 h)
    rw [hfields] at hd hone
    rw [compare_mapOf_map_of_not_agree hd] at hone
    simp [Mismatch.atRoot] at hone
  | alternatives members =>
    rw [compare_alternatives] at hone
    split at hone <;> simp [Mismatch.atRoot] at hone
  | optional inner =>
    rw [compare_optional] at hone
    simp [Mismatch.atRoot] at hone

/-- **A mismatch is evidence on its own.**  Comparing what it expects with what it shows finds one mismatch, at the
root, with the same value and the same node.  The words of its own are the same too, unless the mismatch tells that the
value is no sequence for elements, or no map for entries: then it has words of its own and the one found again has
none. -/
theorem mismatch_is_evidence {n : Node} {v : Value} {m : Mismatch} (hm : m ∈ compare n v) :
    ∃ stop, LeadsTo m.location n v stop m.actual ∧ (m.TellsKind ↔ stop.LacksStructure m.actual) ∧
      ∃ again, compare m.expected m.actual = [again] ∧ again.location = [] ∧ again.actual = m.actual ∧
        again.expected = m.expected ∧ (¬ m.TellsKind → again.reason.verb? = m.reason.verb?) ∧
        (m.TellsKind → m.reason.verb? ≠ none ∧ again.reason.verb? = none) := by
  obtain ⟨stop, hlead, hd, hone⟩ := exists_stop_of_mem_compare n hm
  refine ⟨stop, hlead, ?_⟩
  by_cases hlacks : stop.LacksStructure m.actual
  · obtain ⟨wanted, -, hfound, hagain⟩ := compare_of_lacksStructure hlacks
    have hhere : m.here = .atRoot m.actual (.atom (.kind wanted)) (.wrongKind wanted m.actual.kind) :=
      List.singleton_inj.1 (hone.symm.trans hfound)
    have hexpected : m.expected = .atom (.kind wanted) := congrArg Mismatch.expected hhere
    have hreason : m.reason = .wrongKind wanted m.actual.kind := congrArg Mismatch.reason hhere
    have htells : m.TellsKind := ⟨wanted, hreason⟩
    have hverb : m.reason.verb? ≠ none := by rw [hreason]; exact Option.some_ne_none _
    rw [hexpected]
    exact ⟨iff_of_true htells hlacks, _, hagain, rfl, rfl, rfl, fun h => absurd htells h, fun _ => ⟨hverb, rfl⟩⟩
  · have htells : ¬ m.TellsKind := not_tellsKind_of_stop hlacks hone hd
    have hhere : m.here ∈ compare stop m.actual := hone ▸ List.mem_singleton_self _
    have hexpected : m.expected = stop :=
      (mismatch_of_not_descends hd hhere).2.2.trans (demand_of_not_lacksStructure hlacks)
    exact ⟨iff_of_false htells hlacks, m.here, hexpected ▸ hone, rfl, rfl, rfl, fun _ => rfl,
      fun h => absurd h htells⟩

/-- Keys that differ under an optional layer, in the second element of a sequence. -/
theorem mismatch_is_evidence_of_keys_in_element :
    (⟨[.index 1, .key (.sym "a")], .map [(.int 2, .null)], .mapOf [(.int 1, .atom (.kind .any))] .indifferent,
        .wrongKeys [.int 1] [.int 2]⟩ : Mismatch) ∈
      compare (.arrayOf (.mapOf [(.sym "a", .optional (.mapOf [(.int 1, .atom (.kind .any))] .indifferent))]
          .indifferent))
        (.seq [.map [], .map [(.str "a", .map [(.int 2, .null)])]]) ∧
    ∃ again, compare (.mapOf [(.int 1, .atom (.kind .any))] .indifferent) (.map [(.int 2, .null)]) = [again] ∧
      again.reason.verb? = (Reason.wrongKeys [.int 1] [.int 2]).verb? := by
  have hm : (⟨[.index 1, .key (.sym "a")], .map [(.int 2, .null)], .mapOf [(.int 1, .atom (.kind .any))] .indifferent,
        .wrongKeys [.int 1] [.int 2]⟩ : Mismatch) ∈
      compare (.arrayOf (.mapOf [(.sym "a", .optional (.mapOf [(.int 1, .atom (.kind .any))] .indifferent))]
          .indifferent))
        (.seq [.map [], .map [(.str "a", .map [(.int 2, .null)])]]) := List.mem_singleton_self _
  obtain ⟨-, -, -, again, hagain, -, -, -, hverb, -⟩ := mismatch_is_evidence hm
  exact ⟨hm, again, hagain, hverb fun ⟨_, h⟩ => by cases h⟩

end SchemaCheck
