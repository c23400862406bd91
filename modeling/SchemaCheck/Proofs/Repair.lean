import SchemaCheck.Proofs.Acceptance
import SchemaCheck.Proofs.Location
/-!
# Repair — all that has to be repaired is reported at once

`Value.replaceAll` puts new parts at some locations of a value.  When all keys are compared as they are written, it is
enough to put, wherever a comparison reports a mismatch, something that the node accepts which the location is about
(`Node.at?`): the value then conforms (`conforms_replaceAll`).
-/
namespace SchemaCheck

/-- The node that a location is about: an index goes to what every element has to be like, a key to what its entry
asks for, past the optional layer. -/
def Node.at? : Node → List Step → Option Node
  | n, [] => some n
  | .arrayOf element, .index _ :: rest => element.at? rest
  | .mapOf entries _, .key k :: rest => (Entries.get? k entries).bind fun e => e.unwrapOptional.at? rest
  | _, _ :: _ => none

/-- Under distinct keys a location that leads to a node is about this node. -/
theorem LeadsTo.at?_eq {l : List Step} {n stop : Node} {v x : Value} (h : LeadsTo l n v stop x) :
    n.isDistinct = true → n.at? l = some stop := by
  induction h with
  | here n v =>
    intro _
    rw [Node.at?]
  | index _ _ ih =>
    intro hd
    rw [Node.at?, ih ((Node.everywhere_arrayOf _ _).1 hd).2]
  | key he _ _ _ ih =>
    intro hd
    obtain ⟨hkeys, hentries⟩ := (Node.everywhere_mapOf _ _ _).1 hd
    rw [Node.at?, Entries.get?_of_mem (of_decide_eq_true hkeys) he, Option.bind_some,
      ih (Node.everywhere_unwrapOptional (hentries _ he))]

/-! ## New parts of a value -/

mutual

/-- Puts new parts in place, `new` being what is put at a location, if anything. -/
def Value.patch : Value → (List Step → Option Value) → Value
  | .seq items, new => (new []).getD (.seq (Value.patchItems items 0 new))
  | .map fields, new => (new []).getD (.map (Value.patchFields fields new))
  | v, new => (new []).getD v

/-- Patches elements, the first of which has this index. -/
def Value.patchItems : List Value → Nat → (List Step → Option Value) → List Value
  | [], _, _ => []
  | v :: rest, i, new => v.patch (fun l => new (.index i :: l)) :: Value.patchItems rest (i + 1) new

def Value.patchFields : List (Key × Value) → (List Step → Option Value) → List (Key × Value)
  | [], _ => []
  | (k, v) :: rest, new => (k, v.patch fun l => new (.key k :: l)) :: Value.patchFields rest new

end

/-- Replaces the part at each of some locations. -/
def Value.replaceAll (v : Value) (locations : List (List Step)) (part : List Step → Value) : Value :=
  v.patch fun l => if l ∈ locations then some (part l) else none

theorem Value.patch_of_root {new : List Step → Option Value} {w : Value} (h : new [] = some w) (v : Value) :
    v.patch new = w := by
  cases v <;> rw [Value.patch, h, Option.getD_some]
  all_goals nofun

theorem Value.patch_seq {new : List Step → Option Value} (h : new [] = none) (items : List Value) :
    (Value.seq items).patch new = .seq (Value.patchItems items 0 new) := by
  rw [Value.patch, h, Option.getD_none]

theorem Value.patch_map {new : List Step → Option Value} (h : new [] = none) (fields : List (Key × Value)) :
    (Value.map fields).patch new = .map (Value.patchFields fields new) := by
  rw [Value.patch, h, Option.getD_none]

theorem Value.mem_patchItems {new : List Step → Option Value} {y : Value} : ∀ {items : List Value} {i : Nat},
    y ∈ Value.patchItems items i new →
      ∃ (j : Nat) (x : Value), items[j]? = some x ∧ y = x.patch fun l => new (.index (i + j) :: l)
  | [], _, h => nomatch h
  | x :: rest, i, h => by
    rw [Value.patchItems, List.mem_cons] at h
    rcases h with h | h
    · exact ⟨0, x, rfl, h⟩
    · obtain ⟨j, z, hz, hy⟩ := Value.mem_patchItems h
      refine ⟨j + 1, z, hz, ?_⟩
      rw [hy, Nat.add_right_comm, Nat.add_assoc]

theorem Value.patchFields_eq_map (new : List Step → Option Value) : ∀ fields : List (Key × Value),
    Value.patchFields fields new = fields.map fun f => (f.1, f.2.patch fun l => new (.key f.1 :: l))
  | [] => rfl
  | (k, v) :: rest => by
    rw [Value.patchFields, Value.patchFields_eq_map new rest, List.map_cons]

mutual

theorem Value.patch_none : ∀ v : Value, v.patch (fun _ => none) = v
  | .seq items => by rw [Value.patch_seq rfl, Value.patchItems_none]
  | .map fields => by rw [Value.patch_map rfl, Value.patchFields_none]
  | .null | .bool _ | .int _ | .float _ | .str _ | .sym _ => rfl

theorem Value.patchItems_none : ∀ (items : List Value) (i : Nat), Value.patchItems items i (fun _ => none) = items
  | [], _ => rfl
  | v :: rest, i => by rw [Value.patchItems, Value.patch_none v, Value.patchItems_none rest]

theorem Value.patchFields_none : ∀ fields : List (Key × Value), Value.patchFields fields (fun _ => none) = fields
  | [] => rfl
  | (k, v) :: rest => by rw [Value.patchFields, Value.patch_none v, Value.patchFields_none rest]

end

/-- New values in place of the old ones do not change which keys there are. -/
theorem KeysAgree.map {policy : KeyPolicy} {entries : List (Key × Node)} {fields : List (Key × Value)}
    (h : KeysAgree policy entries fields) (new : Key × Value → Value) :
    KeysAgree policy entries (fields.map fun f => (f.1, new f)) where
  required e he ho := by
    obtain ⟨f, hf, hk⟩ := h.required e he ho
    exact ⟨_, List.mem_map_of_mem hf, hk⟩
  declared g hg := by
    obtain ⟨f, hf, rfl⟩ := List.mem_map.1 hg
    exact h.declared f hf

/-! ## Repairing -/

/-- Something is put at every mismatch, and whatever is put somewhere is accepted by the node that the location is
about. -/
structure Repairs (new : List Step → Option Value) (n : Node) (v : Value) : Prop where
  reported : ∀ m ∈ compare n v, (new m.location).isSome = true
  accepted : ∀ l w, new l = some w → ∃ stop, n.at? l = some stop ∧ Accepts stop w

namespace Repairs

variable {new : List Step → Option Value} {n : Node} {v : Value}

/-- What is put at the root is accepted, so it is enough to look at a root that stays as it is. -/
theorem accepts_of_root (h : Repairs new n v) (hstays : new [] = none → Accepts n (v.patch new)) :
    Accepts n (v.patch new) := by
  cases hroot : new [] with
  | none => exact hstays hroot
  | some w =>
    obtain ⟨stop, hat, hacc⟩ := h.accepted [] w hroot
    rw [Node.at?, Option.some.injEq] at hat
    rw [Value.patch_of_root hroot, hat]
    exact hacc

/-- A comparison that stops has found nothing where the root stays as it is. -/
theorem compare_eq_nil (h : Repairs new n v) (hroot : new [] = none) (hd : ¬ Descends n v) : compare n v = [] := by
  refine List.eq_nil_iff_forall_not_mem.2 fun m hm => ?_
  have hsome := h.reported m hm
  rw [(mismatch_of_not_descends hd hm).1, hroot] at hsome
  cases hsome

/-- Nothing is changed at a node below which no location is about anything. -/
theorem accepts_of_stop (h : Repairs new n v) (hd : ¬ Descends n v) (hstop : ∀ s rest, n.at? (s :: rest) = none) :
    Accepts n (v.patch new) := by
  refine h.accepts_of_root fun hroot => ?_
  have hnone : new = fun _ => none := by
    funext l
    cases l with
    | nil => exact hroot
    | cons s rest =>
      refine Option.eq_none_iff_forall_ne_some.2 fun w hw => ?_
      obtain ⟨stop, hat, -⟩ := h.accepted _ w hw
      rw [hstop] at hat
      cases hat
  rw [hnone, Value.patch_none]
  exact (compare_eq_nil_iff_accepts n v).1 (h.compare_eq_nil hroot hd)

/-- What repairs a sequence repairs each element. -/
theorem element {element : Node} {items : List Value} (h : Repairs new (.arrayOf element) (.seq items)) {i : Nat}
    {x : Value} (hi : items[i]? = some x) : Repairs (fun l => new (.index i :: l)) element x where
  reported part hpart := by
    refine h.reported (part.under (.index i)) ?_
    rw [compare_arrayOf_seq]
    exact mem_elementMismatches.2 ⟨i, x, hi, part, hpart, rfl⟩
  accepted l w hw := h.accepted _ w hw

/-- What repairs a map with the right keys repairs what stands under each. -/
theorem field {entries : List (Key × Node)} {policy : KeyPolicy} {fields : List (Key × Value)}
    (h : Repairs new (.mapOf entries policy) (.map fields)) (hagree : KeysAgree policy entries fields)
    (hkeys : (Entries.keys entries).Nodup) {k : Key} {e : Node} {x : Value} (he : (k, e) ∈ entries)
    (hf : (k, x) ∈ fields) : Repairs (fun l => new (.key k :: l)) e.unwrapOptional x where
  reported part hpart := by
    refine h.reported (part.under (.key k)) ?_
    rw [compare_mapOf_map hagree]
    exact List.mem_flatMap.2 ⟨(k, e), he, mem_entryMismatches.2 ⟨(k, x), hf, rfl, part, hpart, rfl⟩⟩
  accepted l w hw := by
    obtain ⟨stop, hat, hacc⟩ := h.accepted _ w hw
    rw [Node.at?, Entries.get?_of_mem hkeys he, Option.bind_some] at hat
    exact ⟨stop, hat, hacc⟩

end Repairs

/-- **What is put at every mismatch repairs the value.** -/
theorem accepts_patch (n : Node) : ∀ {v : Value} {new : List Step → Option Value},
    n.isStrict = true → n.isDistinct = true → Repairs new n v → Accepts n (v.patch new) := by
  induction n using Node.descent with
  | atom p => exact fun _ _ h => h.accepts_of_stop not_false fun s _ => by cases s <;> rfl
  | arrayOf element ih =>
    intro v new hs hd h
    refine h.accepts_of_root fun hroot => ?_
    cases v with
    | seq items =>
      rw [Value.patch_seq hroot]
      refine .arrayOf fun y hy => ?_
      obtain ⟨i, x, hi, rfl⟩ := Value.mem_patchItems hy
      rw [Nat.zero_add]
      exact ih ((Node.everywhere_arrayOf _ _).1 hs).2 ((Node.everywhere_arrayOf _ _).1 hd).2 (h.element hi)
    | _ => cases kind_eq_of_compare_arrayOf (h.compare_eq_nil hroot not_false)
  | mapOf entries policy ih =>
    intro v new hs hd h
    refine h.accepts_of_root fun hroot => ?_
    obtain ⟨hpolicy, hsentries⟩ := (Node.everywhere_mapOf _ _ _).1 hs
    obtain ⟨hkeys, hdentries⟩ := (Node.everywhere_mapOf _ _ _).1 hd
    cases v with
    | map fields =>
      by_cases hagree : KeysAgree policy entries fields
      · rw [Value.patch_map hroot, Value.patchFields_eq_map]
        refine .mapOf (hagree.map _) fun ⟨k, e⟩ he g hg hk => ?_
        obtain ⟨⟨k', x⟩, hf, rfl⟩ := List.mem_map.1 hg
        -- compared as they are written, the two keys are one key
        cases eq_of_beq hpolicy
        cases (show k' = k from hk)
        exact ih (k, e) he (Node.everywhere_unwrapOptional (hsentries _ he))
          (Node.everywhere_unwrapOptional (hdentries _ he)) (h.field hagree (of_decide_eq_true hkeys) he hf)
      · have hnil := h.compare_eq_nil hroot hagree
        rw [compare_mapOf_map_of_not_agree hagree] at hnil
        cases hnil
    | _ => cases kind_eq_of_compare_mapOf (h.compare_eq_nil hroot not_false)
  | alternatives members _ => exact fun _ _ h => h.accepts_of_stop not_false fun s _ => by cases s <;> rfl
  | optional inner _ => exact fun _ _ h => h.accepts_of_stop not_false fun s _ => by cases s <;> rfl

/-- **One comparison reports all that has to be repaired.**  Once the part at the location of every mismatch is
replaced by something that the node accepts which the location is about, the value conforms. -/
theorem conforms_replaceAll {n : Node} (hs : n.isStrict = true) (hd : n.isDistinct = true) {v : Value}
    {part : List Step → Value}
    (hpart : ∀ m ∈ compare n v, ∀ stop, n.at? m.location = some stop → Accepts stop (part m.location)) :
    conforms n (v.replaceAll ((compare n v).map Mismatch.location) part) = true := by
  rw [conforms, List.isEmpty_iff, compare_eq_nil_iff_accepts]
  refine accepts_patch n hs hd ⟨fun m hm => ?_, fun l w hw => ?_⟩
  · rw [if_pos (List.mem_map_of_mem hm), Option.isSome_some]
  · split at hw
    · rename_i hl
      obtain ⟨m, hm, rfl⟩ := List.mem_map.1 hl
      obtain ⟨stop, hlead, -⟩ := isAt_of_mem_compare n hm
      cases hw
      exact ⟨stop, hlead.at?_eq hd, hpart m hm stop (hlead.at?_eq hd)⟩
    · cases hw

/-- An element is repaired next to a value that none of its alternatives accepted. -/
theorem conforms_replaceAll_element_and_field :
    conforms (.mapOf [(.str "a", .arrayOf (.atom (.kind .string))),
        (.str "b", .optional (.alternatives [.atom (.kind .null), .arrayOf (.atom (.kind .null))]))] .strict)
      ((Value.map [(.str "b", .seq [.bool true]), (.str "a", .seq [.str "x", .null])]).replaceAll
        ((compare (.mapOf [(.str "a", .arrayOf (.atom (.kind .string))),
            (.str "b", .optional (.alternatives [.atom (.kind .null), .arrayOf (.atom (.kind .null))]))] .strict)
          (.map [(.str "b", .seq [.bool true]), (.str "a", .seq [.str "x", .null])])).map Mismatch.location)
        fun l => if l = [.key (.str "b")] then .null else .str "y") = true := by
  refine conforms_replaceAll rfl rfl fun m hm stop hstop => ?_
  have hreported : m ∈ [(⟨[.key (.str "a"), .index 1], .null, .atom (.kind .string), .unlike⟩ : Mismatch),
      ⟨[.key (.str "b")], .seq [.bool true],
        .alternatives [.atom (.kind .null), .arrayOf (.atom (.kind .null))], .unlike⟩] := hm
  rw [List.mem_cons, List.mem_singleton] at hreported
  rcases hreported with rfl | rfl
  · cases hstop
    exact .atom rfl
  · cases hstop
    exact .alternatives List.mem_cons_self (.atom rfl)

end SchemaCheck
