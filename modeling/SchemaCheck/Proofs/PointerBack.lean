import SchemaCheck.Proofs.FirstValue
import SchemaCheck.Proofs.Location
import SchemaCheck.Proofs.Selection
import SchemaCheck.Proofs.TextKeys
import SchemaCheck.Proofs.WrittenForm
/-!
# PointerBack — the pointer of a mismatch selects what it shows

The location of a mismatch leads to the value that the mismatch shows (`exists_stop_of_mem_compare`).  In a value that a
text gives, each step of the way has an address: keys are strings, none twice, and no index is past the limit of
indices, for a list has no more items than its text has characters (`Value.isAddressable_of_ofJson`).  So the texts of
the steps select that value (`select_of_leadsTo`), and reading the text again with the pointer of the mismatch gives it
(`allOfText_pointer`).
-/
namespace SchemaCheck

open Json (Tree)

/-! ## Addresses -/

/-- The keys of a map are strings, none twice, and a sequence has no more elements than so many. -/
def Value.hasAddresses (limit : Nat) : Value → Bool
  | .map fields => decide (Entries.keys fields).Nodup && fields.all fun f => f.1.isString
  | .seq items => decide (items.length ≤ limit)
  | _ => true

/-- Each part of it has an address. -/
def Value.isAddressable (limit : Nat) (v : Value) : Bool := v.everywhere (Value.hasAddresses limit)

theorem Value.isAddressable_seq (limit : Nat) (items : List Value) : (Value.seq items).isAddressable limit = true ↔
    items.length ≤ limit ∧ ∀ v ∈ items, v.isAddressable limit = true := by
  rw [Value.isAddressable, Value.everywhere_seq, Value.hasAddresses, decide_eq_true_eq]
  exact Iff.rfl

theorem Value.isAddressable_map (limit : Nat) (fields : List (Key × Value)) :
    (Value.map fields).isAddressable limit = true ↔
      ((Entries.keys fields).Nodup ∧ ∀ f ∈ fields, f.1.isString = true) ∧
        ∀ f ∈ fields, f.2.isAddressable limit = true := by
  rw [Value.isAddressable, Value.everywhere_map, Value.hasAddresses, Bool.and_eq_true, decide_eq_true_eq,
    List.all_eq_true]
  exact Iff.rfl

/-- **Each part of a value that is read has an address.** -/
theorem Value.isAddressable_of_ofJson {limit : Nat} (t : Tree) {room : Nat} {v : Value}
    (h : Value.ofJson room t = .ok v) : t.data.Within limit → v.isAddressable limit = true := by
  refine Value.ofJson_induction (motive := fun t v => t.data.Within limit → v.isAddressable limit = true)
    (fun t f _ _ => ?_) (fun _ items _ vs hvs hwithin => ?_) (fun _ members _ fs hfs hwithin => ?_) t h
  · have hempty : (Value.seq []).hasAddresses limit = true := decide_eq_true (Nat.zero_le limit)
    exact f.everywhere_toValue rfl (fun _ => rfl) (fun _ => rfl) (fun _ => rfl) (fun _ => rfl) hempty rfl
  · rw [Tree.data_list] at hwithin
    cases hwithin with
    | list hlength hitems =>
      rw [List.length_map, hvs.length_eq] at hlength
      refine (Value.isAddressable_seq limit vs).2 ⟨hlength, forall_mem_of_forall₂ hvs fun t ht v hv => ?_⟩
      exact hv (hitems _ (List.mem_map_of_mem ht))
  · rw [Tree.data_object] at hwithin
    cases hwithin with
    | object hmembers =>
      have hparts : ∀ f ∈ fs, f.2.isAddressable limit = true := forall_mem_of_forall₂ hfs fun m hm f hf =>
        hf.2 (hmembers _ (List.mem_map_of_mem hm))
      have hfields : ∀ f ∈ Entries.ofPairs (Entries.named fs), f.1.isString = true ∧ f.2.isAddressable limit = true :=
        fun f hf => by
          obtain ⟨g, hg, rfl⟩ := List.mem_map.1 (Entries.mem_ofPairs hf)
          exact ⟨rfl, hparts g hg⟩
      exact (Value.isAddressable_map limit _).2
        ⟨⟨Entries.nodup_keys_ofPairs _, fun f hf => (hfields f hf).1⟩, fun f hf => (hfields f hf).2⟩

/-! ## Along a location -/

/-- No policy changes the text of a key. -/
theorem KeyPolicy.text_normalize (policy : KeyPolicy) (k : Key) : (policy.normalize k).text = k.text := by
  cases policy <;> cases k <;> rfl

section Steps

variable {limit : Nat}

theorem Pointer.step_index {items : List Value} {i : Nat} {x : Value} (hlimit : limit ≤ UInt64.size)
    (hv : (Value.seq items).isAddressable limit = true) (hi : items[i]? = some x) :
    step (Step.index i).token (.seq items) = some x := by
  have hlength := ((Value.isAddressable_seq limit items).1 hv).1
  have hlt : i < items.length := (List.getElem?_eq_some_iff.1 hi).1
  have hindex : index? (Step.index i).token = some i := index?_toString (by omega)
  rw [step, hindex]
  exact hi

theorem Pointer.step_key {fields : List (Key × Value)} {k : Key} {x : Value}
    (hv : (Value.map fields).isAddressable limit = true) (hf : (k, x) ∈ fields) :
    step (Step.key k).token (.map fields) = some x := by
  obtain ⟨⟨hnodup, hstrings⟩, -⟩ := (Value.isAddressable_map limit fields).1 hv
  cases k with
  | str s =>
    have hkey : Key.str (String.ofList (Step.key (.str s)).token) = .str s := congrArg Key.str String.ofList_toList
    rw [step, hkey]
    exact Entries.get?_of_mem hnodup hf
  | _ => cases hstrings _ hf

/-- **The texts of a location select the value that it leads to.** -/
theorem select_of_leadsTo (hlimit : limit ≤ UInt64.size) {location : List Step} {n stop : Node} {v w : Value}
    (h : LeadsTo location n v stop w) : v.isAddressable limit = true →
      Pointer.select (location.map Step.token) v = some w := by
  induction h with
  | here n v => exact fun _ => rfl
  | @index rest i element n items x v hi _ ih =>
    intro hv
    have hx : x.isAddressable limit = true :=
      ((Value.isAddressable_seq limit items).1 hv).2 x (List.mem_of_getElem? hi)
    rw [List.map_cons, Pointer.select, Pointer.step_index hlimit hv hi]
    exact ih hx
  | @key rest k k' entries policy e n fields x v _ hf hk _ ih =>
    intro hv
    have hx : x.isAddressable limit = true := ((Value.isAddressable_map limit fields).1 hv).2 _ hf
    -- the step names the key of the entry, and the field may be under another one of the same text
    have htoken : (Step.key k).token = (Step.key k').token := by
      have htext : k.text = k'.text := by rw [← policy.text_normalize k, ← hk, policy.text_normalize]
      exact congrArg String.toList htext
    rw [List.map_cons, Pointer.select, htoken, Pointer.step_key hv hf]
    exact ih hx

end Steps

/-! ## Documents -/

namespace Document

variable {origin text : String} {byLine : Bool} {d : Document}

/-- A single document is that of a single part. -/
theorem exists_part_of_single (h : allOfText origin text byLine none = .ok [d]) : ∃ part,
    parts origin text byLine = [part] ∧ part.1 = d.origin ∧ Value.ofJsonText part.2 = .ok d.value := by
  rw [allOfText_eq, bind_eq_ok_iff] at h
  obtain ⟨-, -, hrun⟩ := h
  obtain ⟨part, others, hpart, hnone, hparts⟩ := List.forall₂_cons_right_iff.1 ((mapM_eq_ok_iff _ [d]).1 hrun)
  obtain rfl := List.forall₂_nil_right_iff.1 hnone
  obtain ⟨e, he, hnarrow⟩ := bind_eq_ok_iff.1 hpart
  obtain rfl := Except.ok.inj hnarrow
  obtain ⟨v, hv, rfl⟩ := map_eq_ok_iff.1 he
  exact ⟨part, hparts, rfl, decodeAs_eq_ok_iff.1 hv⟩

/-- What a pointer selects in the value of a single part is the single document. -/
theorem allOfText_of_find? {part : String × String} {p : String} {v w : Value}
    (hparts : parts origin text byLine = [part]) (hv : Value.ofJsonText part.2 = .ok v)
    (hw : Pointer.find? p v = some w) : allOfText origin text byLine (some p) = .ok [⟨part.1, w⟩] := by
  have hwhole : wholeOf part = .ok ⟨part.1, v⟩ := map_eq_ok_iff.2 ⟨v, decodeAs_eq_ok_iff.2 hv, rfl⟩
  have hnarrow : narrow (some p) ⟨part.1, v⟩ = .ok ⟨part.1, w⟩ := by
    simp only [narrow, hw]
  have hpart : ofPart (some p) part = .ok [⟨part.1, w⟩] :=
    ofPart_eq_ok_iff.2 ⟨_, bind_eq_ok_iff.2 ⟨_, hwhole, hnarrow⟩, rfl⟩
  rw [allOfText_eq_ok_iff, hparts]
  exact ⟨[[⟨part.1, w⟩]], .cons hpart .nil, rfl⟩

/-- **The pointer of a mismatch leads back to what it shows.**  Whatever the schema and the options are, a source of one
document that is read again with the pointer of a mismatch gives one document, and its value is the one that the
mismatch shows, unless the mismatch is at the root or a key on the way holds a slash or a tilde.  The same pointer,
followed in the tree of the text before it is decoded, leads to a tree that this value is decoded from.  An index has
64 bits, and so has the length of any text. -/
theorem allOfText_pointer {o : Options} {s : Schema} {m : Mismatch} (h : allOfText origin text byLine none = .ok [d])
    (hsize : text.length ≤ UInt64.size) (hm : m ∈ compare (compile o s) d.value) (hne : m.location ≠ [])
    (hkeys : ∀ k, .key k ∈ m.location → '/' ∉ k.text.toList ∧ '~' ∉ k.text.toList) :
    allOfText origin text byLine (some m.pointer) = .ok [⟨d.origin, m.actual⟩] ∧
      ∃ part tokens tree room, parts origin text byLine = [part] ∧ Pointer.tokens? m.pointer = some tokens ∧
        (Tree.ofText part.2).select tokens = some tree ∧ Value.ofJson room tree = .ok m.actual := by
  obtain ⟨part, hparts, horigin, hv⟩ := exists_part_of_single h
  have hlength : part.2.length ≤ UInt64.size :=
    Nat.le_trans (length_le_of_mem_parts (hparts ▸ List.mem_singleton_self part)) hsize
  have hwithin : (Tree.ofText part.2).data.Within part.2.length := Json.within_ofText (Value.ends_of_ofJson hv)
  have haddressable : d.value.isAddressable part.2.length = true := Value.isAddressable_of_ofJson _ hv hwithin
  obtain ⟨stop, hlead, -⟩ := exists_stop_of_mem_compare _ hm
  have hselect : Pointer.select (m.location.map Step.token) d.value = some m.actual :=
    select_of_leadsTo hlength hlead haddressable
  have hplain : ∀ step ∈ m.location, step.isPlain := fun step hstep => by
    cases step with
    | key k => exact hkeys k hstep
    | index i => exact Step.isPlain_index i
  have htokens : Pointer.tokens? m.pointer = some (m.location.map Step.token) := Pointer.tokens?_pointer hne hplain
  have hfind : Pointer.find? m.pointer d.value = some m.actual := by
    rw [Pointer.find?, htokens]
    exact hselect
  refine ⟨horigin ▸ allOfText_of_find? hparts hv hfind, ?_⟩
  have hdecode := select_ofJson (m.location.map Step.token) hv
  rw [hselect, Option.map_some, Option.map_eq_some_iff] at hdecode
  obtain ⟨tree, htree, hactual⟩ := hdecode
  exact ⟨part, _, tree, _, hparts, htokens, htree, hactual⟩

/-- An element under two keys, one of them empty and the other one like an index, past an optional layer. -/
theorem allOfText_pointer_of_element :
    let s : Schema := .map [(.str "", .optional (.map [(.str "0", .seq [.kind .integer])]))]
    let text := "\x7b\"\":\x7b\"0\":[1,null]\x7d\x7d"
    let d : Document := ⟨"d", .map [(.str "", .map [(.str "0", .seq [.int 1, .null])])]⟩
    let m : Mismatch := ⟨[.key (.str ""), .key (.str "0"), .index 1], .null, .atom (.kind .integer), .unlike⟩
    allOfText "d" text false none = .ok [d] ∧ text.length ≤ UInt64.size ∧
      m ∈ compare (compile .default s) d.value ∧ m.location ≠ [] ∧
      (∀ k, .key k ∈ m.location → '/' ∉ k.text.toList ∧ '~' ∉ k.text.toList) ∧ m.pointer = "//0/1" ∧
      allOfText "d" text false (some "//0/1") = .ok [⟨"d", .null⟩] := by
  intro s text d m
  have hd : allOfText "d" text false none = .ok [d] := toOption_eq_some_iff.1 (by decide +kernel)
  have hsize : text.length ≤ UInt64.size := by decide +kernel
  have hm : m ∈ compare (compile .default s) d.value := List.mem_singleton_self _
  have hne : m.location ≠ [] := List.cons_ne_nil _ _
  have hkeys : ∀ k, .key k ∈ m.location → '/' ∉ k.text.toList ∧ '~' ∉ k.text.toList := by
    intro k hk
    have hcases : k = .str "" ∨ k = .str "0" := by simpa [m] using hk
    rcases hcases with rfl | rfl <;> decide
  have hpointer : m.pointer = "//0/1" := by decide +kernel
  exact ⟨hd, hsize, hm, hne, hkeys, hpointer, hpointer ▸ (allOfText_pointer hd hsize hm hne hkeys).1⟩

end Document
end SchemaCheck
