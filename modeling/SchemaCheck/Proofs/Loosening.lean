import Mathlib.Logic.Relation
import SchemaCheck.Proofs.Acceptance
/-!
# Loosening — edits of a node that turn no value away

`Node.Loosening` is one edit, anywhere in a node: one more member of a choice, an entry that may now be absent, one more
entry that may be absent, or a part that takes more values.  Whether a value conforms depends not only on what the parts
accept but also on which entries may be absent, so an edit keeps both in step (`Node.AcceptsMore`), and so do any number
of edits.  What conformed before still conforms (`conforms_of_loosened`).
-/
namespace SchemaCheck

theorem mem_append_cons_iff {α : Type} {x a : α} {before after : List α} :
    x ∈ before ++ a :: after ↔ x = a ∨ x ∈ before ++ after := by
  rw [List.perm_middle.mem_iff, List.mem_cons]

/-- One edit that loosens a node, at its root or in a part of it. -/
inductive Node.Loosening : Node → Node → Prop where
  /-- A choice has one more member, at any place. -/
  | member (before : List Node) (n : Node) (after : List Node) :
      Loosening (.alternatives (before ++ after)) (.alternatives (before ++ n :: after))
  /-- A required entry may be absent. -/
  | absence (before : List (Key × Node)) (k : Key) {n : Node} (after : List (Key × Node)) (policy : KeyPolicy) :
      n.isOptional = false →
      Loosening (.mapOf (before ++ (k, n) :: after) policy) (.mapOf (before ++ (k, .optional n) :: after) policy)
  /-- There is one more entry, which may be absent, under a key that no other entry has. -/
  | entry (before : List (Key × Node)) (k : Key) (n : Node) (after : List (Key × Node)) (policy : KeyPolicy) :
      (∀ e ∈ before ++ after, policy.normalize e.1 ≠ policy.normalize k) →
      Loosening (.mapOf (before ++ after) policy) (.mapOf (before ++ (k, .optional n) :: after) policy)
  /-- A node, which may not be absent before or after, takes all the values that it took. -/
  | replacement {m n : Node} : m.isOptional = false → n.isOptional = false →
      (∀ v : Value, v.isDistinct = true → conforms m v = true → conforms n v = true) → Loosening m n
  | inElement {m n : Node} : Loosening m n → Loosening (.arrayOf m) (.arrayOf n)
  | inEntry (before : List (Key × Node)) (k : Key) {m n : Node} (after : List (Key × Node)) (policy : KeyPolicy) :
      Loosening m n →
      Loosening (.mapOf (before ++ (k, m) :: after) policy) (.mapOf (before ++ (k, n) :: after) policy)
  | inMember (before : List Node) {m n : Node} (after : List Node) : Loosening m n →
      Loosening (.alternatives (before ++ m :: after)) (.alternatives (before ++ n :: after))
  | inOptional {m n : Node} : Loosening m n → Loosening (.optional m) (.optional n)

/-- The second node takes all the values that the first one takes, whether the two stand for themselves or under a key,
where both may be absent or both may not. -/
structure Node.AcceptsMore (m n : Node) : Prop where
  optional : m.isOptional = n.isOptional
  present : ∀ v : Value, v.isDistinct = true → compare m.unwrapOptional v = [] → compare n.unwrapOptional v = []

namespace Node.AcceptsMore

variable {m n : Node}

theorem refl (n : Node) : AcceptsMore n n := ⟨rfl, fun _ _ h => h⟩

theorem trans {l : Node} (h : AcceptsMore l m) (k : AcceptsMore m n) : AcceptsMore l n :=
  ⟨h.optional.trans k.optional, fun v hv hl => k.present v hv (h.present v hv hl)⟩

theorem of_required (hm : m.isOptional = false) (hn : n.isOptional = false)
    (h : ∀ v : Value, v.isDistinct = true → compare m v = [] → compare n v = []) : AcceptsMore m n := by
  refine ⟨hm.trans hn.symm, ?_⟩
  rw [unwrapOptional_of_required hm, unwrapOptional_of_required hn]
  exact h

/-- Standing for itself, a node that may be absent takes nothing. -/
theorem whole (h : AcceptsMore m n) {v : Value} (hv : v.isDistinct = true) (hm : compare m v = []) :
    compare n v = [] := by
  cases hopt : m.isOptional with
  | true =>
    cases m with
    | optional inner =>
      rw [compare_optional] at hm
      cases hm
    | _ => cases hopt
  | false =>
    have hpresent := h.present v hv
    rw [unwrapOptional_of_required hopt, unwrapOptional_of_required (h.optional.symm.trans hopt)] at hpresent
    exact hpresent hm

/-! ## What contains a loosened part -/

theorem arrayOf (h : AcceptsMore m n) : AcceptsMore (.arrayOf m) (.arrayOf n) := by
  refine of_required rfl rfl fun v hv hm => ?_
  obtain ⟨items, rfl, hitems⟩ := (compare_arrayOf_eq_nil_iff m v).1 hm
  rw [Value.isDistinct_seq] at hv
  exact (compare_arrayOf_eq_nil_iff n _).2 ⟨items, rfl, fun x hx => h.whole (hv x hx) (hitems x hx)⟩

theorem optionalOf (h : AcceptsMore m n) : AcceptsMore (.optional m) (.optional n) :=
  ⟨rfl, fun _ hv hm => h.whole hv hm⟩

/-- A choice takes more when each of its members has one among the others that takes more. -/
theorem alternatives_of {ms ns : List Node} (h : ∀ m ∈ ms, ∃ n ∈ ns, AcceptsMore m n) :
    AcceptsMore (.alternatives ms) (.alternatives ns) := by
  refine of_required rfl rfl fun v hv hms => ?_
  obtain ⟨m, hm, hmv⟩ := (compare_alternatives_eq_nil_iff ms v).1 hms
  obtain ⟨n, hn, hmore⟩ := h m hm
  exact (compare_alternatives_eq_nil_iff ns v).2 ⟨n, hn, hmore.whole hv hmv⟩

/-- A map node takes more when every entry keeps its key, and every entry of the other either stands for one that takes
less and is required if it is required itself, or may be absent and has a key of its own. -/
theorem mapOf_of {as bs : List (Key × Node)} {policy : KeyPolicy} (hkept : ∀ a ∈ as, ∃ b ∈ bs, b.1 = a.1)
    (h : ∀ b ∈ bs,
      (∃ a ∈ as, a.1 = b.1 ∧ (b.2.isOptional = false → a.2.isOptional = false) ∧
        ∀ v : Value, v.isDistinct = true → compare a.2.unwrapOptional v = [] → compare b.2.unwrapOptional v = []) ∨
      (b.2.isOptional = true ∧ ∀ a ∈ as, policy.normalize a.1 ≠ policy.normalize b.1)) :
    AcceptsMore (.mapOf as policy) (.mapOf bs policy) := by
  refine of_required rfl rfl fun v hv has => ?_
  obtain ⟨fields, rfl, hkeys, hfields⟩ := (compare_mapOf_eq_nil_iff as policy v).1 has
  rw [Value.isDistinct_map] at hv
  refine (compare_mapOf_eq_nil_iff bs policy _).2 ⟨fields, rfl, ⟨fun b hb hreq => ?_, fun f hf => ?_⟩,
    fun b hb f hf hfb => ?_⟩
  · rcases h b hb with ⟨a, ha, hab, hopt, -⟩ | ⟨hopt, -⟩
    · exact hab ▸ hkeys.required a ha (hopt hreq)
    · rw [hopt] at hreq
      cases hreq
  · obtain ⟨a, ha, haf⟩ := hkeys.declared f hf
    obtain ⟨b, hb, hba⟩ := hkept a ha
    exact ⟨b, hb, hba ▸ haf⟩
  · rcases h b hb with ⟨a, ha, hab, -, hmore⟩ | ⟨-, hfresh⟩
    · exact hmore f.2 (hv.2 f hf) (hfields a ha f hf (hab ▸ hfb))
    · -- the field has an entry already, and that entry does not have the key of the new one
      obtain ⟨a, ha, haf⟩ := hkeys.declared f hf
      exact absurd (haf.trans hfb) (hfresh a ha)

/-- One entry is loosened and the others are as they were. -/
theorem mapOf_at (before : List (Key × Node)) (k : Key) (after : List (Key × Node)) (policy : KeyPolicy)
    (hopt : n.isOptional = false → m.isOptional = false)
    (h : ∀ v : Value, v.isDistinct = true → compare m.unwrapOptional v = [] → compare n.unwrapOptional v = []) :
    AcceptsMore (.mapOf (before ++ (k, m) :: after) policy) (.mapOf (before ++ (k, n) :: after) policy) := by
  refine mapOf_of (fun a ha => ?_) fun b hb => .inl ?_
  · rcases mem_append_cons_iff.1 ha with rfl | ha
    · exact ⟨(k, n), mem_append_cons_iff.2 (.inl rfl), rfl⟩
    · exact ⟨a, mem_append_cons_iff.2 (.inr ha), rfl⟩
  · rcases mem_append_cons_iff.1 hb with rfl | hb
    · exact ⟨(k, m), mem_append_cons_iff.2 (.inl rfl), rfl, hopt, h⟩
    · exact ⟨b, mem_append_cons_iff.2 (.inr hb), rfl, fun h => h, fun _ _ h => h⟩

theorem mapOf_insert (before : List (Key × Node)) (k : Key) (n : Node) (after : List (Key × Node)) {policy : KeyPolicy}
    (hfresh : ∀ e ∈ before ++ after, policy.normalize e.1 ≠ policy.normalize k) :
    AcceptsMore (.mapOf (before ++ after) policy) (.mapOf (before ++ (k, .optional n) :: after) policy) := by
  refine mapOf_of (fun a ha => ⟨a, mem_append_cons_iff.2 (.inr ha), rfl⟩) fun b hb => ?_
  rcases mem_append_cons_iff.1 hb with rfl | hb
  · exact .inr ⟨rfl, hfresh⟩
  · exact .inl ⟨b, hb, rfl, fun h => h, fun _ _ h => h⟩

end Node.AcceptsMore

/-- **One edit keeps every value.** -/
theorem Node.Loosening.acceptsMore {m n : Node} (h : Node.Loosening m n) : Node.AcceptsMore m n := by
  induction h with
  | member before n after =>
    exact .alternatives_of fun m hm => ⟨m, mem_append_cons_iff.2 (.inr hm), .refl m⟩
  | absence before k after policy hreq =>
    refine .mapOf_at before k after policy (fun _ => hreq) fun v _ hv => ?_
    rw [unwrapOptional_of_required hreq] at hv
    exact hv
  | entry before k n after policy hfresh => exact .mapOf_insert before k n after hfresh
  | replacement hm hn h =>
    refine .of_required hm hn fun v hv hmv => ?_
    exact List.isEmpty_iff.1 (h v hv (List.isEmpty_iff.2 hmv))
  | inElement _ ih => exact ih.arrayOf
  | inEntry before k after policy _ ih =>
    exact .mapOf_at before k after policy (fun hn => ih.optional.trans hn) ih.present
  | @inMember before m n after _ ih =>
    refine .alternatives_of fun l hl => ?_
    rcases mem_append_cons_iff.1 hl with rfl | hl
    · exact ⟨n, mem_append_cons_iff.2 (.inl rfl), ih⟩
    · exact ⟨l, mem_append_cons_iff.2 (.inr hl), .refl l⟩
  | inOptional _ ih => exact ih.optionalOf

/-- **So do any number of edits.** -/
theorem Node.acceptsMore_of_loosened {m n : Node} (h : Relation.ReflTransGen Node.Loosening m n) :
    Node.AcceptsMore m n := by
  induction h with
  | refl => exact .refl m
  | tail _ hstep ih => exact ih.trans hstep.acceptsMore

/-- **Loosening a node turns no value away.**  Whatever edits are made one after the other, and however deep, a value
that conformed to the node before them conforms to it after them. -/
theorem conforms_of_loosened {m n : Node} (h : Relation.ReflTransGen Node.Loosening m n) {v : Value}
    (hv : v.isDistinct = true) (hm : conforms m v = true) : conforms n v = true :=
  List.isEmpty_iff.2 ((Node.acceptsMore_of_loosened h).whole hv (List.isEmpty_iff.1 hm))

/-- A required entry that may then be absent and takes numbers in place of integers, a new entry whose optional layer is
a double one, and a first member for a choice without any, below the optional layer of its entry.  The value spells the
one key that it has in the other way. -/
theorem conforms_of_loosened_entries :
    let m : Node := .mapOf [(.sym "a", .atom (.kind .integer)), (.str "b", .optional (.alternatives []))] .indifferent
    let n : Node := .mapOf [(.sym "a", .optional (.atom (.kind .number))),
      (.str "c", .optional (.optional (.atom (.kind .null)))),
      (.str "b", .optional (.alternatives [.atom (.kind .string)]))] .indifferent
    let v : Value := .map [(.str "a", .int 3)]
    Relation.ReflTransGen Node.Loosening m n ∧ v.isDistinct = true ∧ conforms m v = true ∧ conforms n v = true := by
  intro m n v
  let integer : Node := .atom (.kind .integer)
  let number : Node := .atom (.kind .number)
  let choice : Key × Node := (.str "b", .optional (.alternatives []))
  have hnumber : Node.Loosening integer number := .replacement rfl rfl fun x _ hx => by
    cases x with
    | int i => rfl
    | _ => cases hx
  have habsence : Node.Loosening m (.mapOf [(.sym "a", .optional integer), choice] .indifferent) :=
    .absence [] (.sym "a") [choice] .indifferent rfl
  have hreplaced : Node.Loosening (.mapOf [(.sym "a", .optional integer), choice] .indifferent)
      (.mapOf [(.sym "a", .optional number), choice] .indifferent) :=
    .inEntry [] (.sym "a") [choice] .indifferent hnumber.inOptional
  have hentry : Node.Loosening (.mapOf [(.sym "a", .optional number), choice] .indifferent)
      (.mapOf [(.sym "a", .optional number), (.str "c", .optional (.optional (.atom (.kind .null)))), choice]
        .indifferent) :=
    .entry [(.sym "a", .optional number)] (.str "c") (.optional (.atom (.kind .null))) [choice] .indifferent
      (by decide)
  have hmember : Node.Loosening (.mapOf [(.sym "a", .optional number),
      (.str "c", .optional (.optional (.atom (.kind .null)))), choice] .indifferent) n :=
    .inEntry [(.sym "a", .optional number), (.str "c", .optional (.optional (.atom (.kind .null))))] (.str "b") []
      .indifferent (Node.Loosening.member [] (.atom (.kind .string)) []).inOptional
  have hloosened : Relation.ReflTransGen Node.Loosening m n :=
    (((Relation.ReflTransGen.single habsence).tail hreplaced).tail hentry).tail hmember
  exact ⟨hloosened, rfl, rfl, conforms_of_loosened hloosened rfl rfl⟩

end SchemaCheck
