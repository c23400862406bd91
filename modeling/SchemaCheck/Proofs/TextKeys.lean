import SchemaCheck.Proofs.Decoding
import SchemaCheck.Proofs.Entries
import SchemaCheck.Proofs.PlainKeys
/-!
# TextKeys — texts give no symbol as a key

A JSON text names the fields of a value and the entries of a schema by strings, and a pointer only selects among what a
text gives.  So no policy changes a key of a decoded schema (`Schema.isPlain_of_ofText`) or of a document
(`Document.isPlain_of_allOfText`).  Nor does a map that is read hold a key twice (`Value.isDistinct_of_ofJson`).
-/
namespace SchemaCheck

open Decode (under_eq_ok_iff)

/-! ## Decoded trees -/

/-- What holds of all but sequences and maps, and of empty ones, holds everywhere in what is neither list nor object. -/
theorem Decode.Found.everywhere_toValue {p : Value → Bool} (null : p .null = true) (bool : ∀ b, p (.bool b) = true)
    (int : ∀ i, p (.int i) = true) (float : ∀ x, p (.float x) = true) (str : ∀ s, p (.str s) = true)
    (seq : p (.seq []) = true) (map : p (.map []) = true) (f : Found) : f.toValue.everywhere p = true := by
  cases f with
  | null => exact null
  | bool b => exact bool b
  | number n =>
    rw [toValue]
    obtain ⟨i, h⟩ | ⟨x, h⟩ := n.toValue_cases
    · exact h ▸ int i
    · exact h ▸ float x
  | string s => exact str s
  | sequence => exact (Value.everywhere_seq p []).2 ⟨seq, List.forall_mem_nil _⟩
  | map => exact (Value.everywhere_map p []).2 ⟨map, List.forall_mem_nil _⟩

/-- Entries under names have keys that no policy changes, and under each stands what stood under some name. -/
theorem Entries.forall_mem_ofPairs_named {α : Type} (p : α → Bool) {es : List (String × α)}
    (h : ∀ e ∈ es, p e.2 = true) : ∀ e ∈ ofPairs (named es), e.1.isPlain = true ∧ p e.2 = true := by
  intro e he
  obtain ⟨f, hf, rfl⟩ := List.mem_map.1 (mem_ofPairs he)
  exact ⟨rfl, h f hf⟩

theorem Value.isPlain_of_ofJson (t : Json.Tree) {room : Nat} {v : Value} (h : Value.ofJson room t = .ok v) :
    v.isPlain = true := by
  refine Value.ofJson_induction (motive := fun _ v => v.isPlain = true) (fun t f _ => ?_)
    (fun _ items _ vs hvs => ?_) (fun _ members _ fs hfs => ?_) t h
  · exact f.everywhere_toValue rfl (fun _ => rfl) (fun _ => rfl) (fun _ => rfl) (fun _ => rfl) rfl rfl
  · exact (Value.isPlain_seq vs).2 (forall_mem_of_forall₂ hvs fun _ _ _ hv => hv)
  · have hplain : ∀ f ∈ fs, f.2.isPlain = true := forall_mem_of_forall₂ hfs fun _ _ _ hf => hf.2
    exact (Value.isPlain_map _).2 (Entries.forall_mem_ofPairs_named Value.isPlain hplain)

/-- A field that comes again replaces the one before, so no map that is read holds a key twice. -/
theorem Value.isDistinct_of_ofJson (t : Json.Tree) {room : Nat} {v : Value} (h : Value.ofJson room t = .ok v) :
    v.isDistinct = true := by
  refine Value.ofJson_induction (motive := fun _ v => v.isDistinct = true) (fun t f _ => ?_)
    (fun _ items _ vs hvs => ?_) (fun _ members _ fs hfs => ?_) t h
  · exact f.everywhere_toValue rfl (fun _ => rfl) (fun _ => rfl) (fun _ => rfl) (fun _ => rfl) rfl rfl
  · exact (Value.isDistinct_seq vs).2 (forall_mem_of_forall₂ hvs fun _ _ _ hv => hv)
  · have hdistinct : ∀ f ∈ fs, f.2.isDistinct = true := forall_mem_of_forall₂ hfs fun _ _ _ hf => hf.2
    exact (Value.isDistinct_map _).2 ⟨Entries.nodup_keys_ofPairs _,
      fun f hf => (Entries.forall_mem_ofPairs_named Value.isDistinct hdistinct f hf).2⟩

/-- A directive other than `$optional` has no entries of its own. -/
theorem Schema.isPlain_of_ofPayload {room : Nat} {m : Json.Name × Json.Tree} {raw : String} {d : Decode.Directive}
    {s : Schema} (ih : ∀ {room : Nat} {s : Schema}, Schema.ofJson room m.2 = .ok s → s.isPlain = true)
    (h : Schema.ofPayload room m raw d = .ok s) : s.isPlain = true := by
  cases d with
  | optional =>
    obtain ⟨inner, hinner, rfl⟩ := map_eq_ok_iff.1 (under_eq_ok_iff.1 h)
    rw [isPlain, everywhere, Bool.and_eq_true]
    exact ⟨rfl, ih hinner⟩
  | pattern =>
    obtain ⟨p, -, rfl⟩ := map_eq_ok_iff.1 h
    rfl
  | type | range | literal =>
    obtain ⟨a, -, rfl⟩ := map_eq_ok_iff.1 (under_eq_ok_iff.1 h)
    rfl

theorem Schema.isPlain_of_ofJson (t : Json.Tree) :
    ∀ {room : Nat} {s : Schema}, Schema.ofJson room t = .ok s → s.isPlain = true := by
  induction t using Json.Tree.descent with
  | leaf t =>
    intro room s h
    obtain ⟨f, -, rfl⟩ := Schema.ofJson_leaf_eq_ok_iff.1 h
    rfl
  | list opening items ending ih =>
    intro room s h
    obtain ⟨r, ss, bracket, rfl, rfl, hss, rfl⟩ := Schema.ofJson_list_eq_ok_iff.1 h
    exact (Schema.isPlain_seq ss).2 (forall_mem_of_forall₂ hss fun t ht s hs => ih t ht hs)
  | object opening members ending ih =>
    intro room s h
    obtain ⟨r, bracket, rfl, rfl, ⟨es, hes, rfl⟩ | ⟨m, rfl, hm⟩⟩ := Schema.ofJson_object_eq_ok_iff.1 h
    · have hplain : ∀ e ∈ es, e.2.isPlain = true := forall_mem_of_forall₂ hes fun m hm e he => by
        obtain ⟨raw, -, -, hs⟩ := he
        exact ih m hm hs
      exact (Schema.isPlain_map _).2 (Entries.forall_mem_ofPairs_named Schema.isPlain hplain)
    · obtain ⟨raw, d, -, -, hs⟩ := hm
      exact Schema.isPlain_of_ofPayload (ih m List.mem_cons_self) hs

/-! ## Selected parts -/

namespace Pointer

theorem isPlain_of_step {token : List Char} {v w : Value} (hv : v.isPlain = true) (h : step token v = some w) :
    w.isPlain = true := by
  cases v with
  | map fields => exact ((Value.isPlain_map fields).1 hv _ (Entries.mem_of_get? h)).2
  | seq items =>
    obtain ⟨i, -, hi⟩ := Option.bind_eq_some_iff.1 h
    exact (Value.isPlain_seq items).1 hv w (List.mem_of_getElem? hi)
  | _ => cases h

theorem isPlain_of_select {tokens : List (List Char)} {v w : Value} (hv : v.isPlain = true)
    (h : select tokens v = some w) : w.isPlain = true := by
  induction tokens generalizing v with
  | nil =>
    cases h
    exact hv
  | cons token rest ih =>
    obtain ⟨u, hu, hw⟩ := Option.bind_eq_some_iff.1 h
    exact ih (isPlain_of_step hv hu) hw

theorem isPlain_of_find? {pointer : String} {v w : Value} (hv : v.isPlain = true) (h : find? pointer v = some w) :
    w.isPlain = true := by
  obtain ⟨tokens, -, hw⟩ := Option.bind_eq_some_iff.1 h
  exact isPlain_of_select hv hw

end Pointer

/-! ## Schemas and documents -/

theorem Schema.isPlain_of_ofText {origin text : String} {s : Schema} (h : Schema.ofText origin text = .ok s) :
    s.isPlain = true :=
  Schema.isPlain_of_ofJson _ (decodeAs_eq_ok_iff.1 h)

namespace Document

variable {origin text : String} {byLine : Bool} {pointer : Option String}

theorem isPlain_of_ofText {d : Document} (h : ofText origin text = .ok d) : d.value.isPlain = true := by
  obtain ⟨v, hv, rfl⟩ := map_eq_ok_iff.1 h
  exact Value.isPlain_of_ofJson _ (decodeAs_eq_ok_iff.1 hv)

theorem isPlain_of_wholes {ds : List Document} (h : wholes origin text byLine = .ok ds) :
    ∀ d ∈ ds, d.value.isPlain = true := by
  cases byLine with
  | true => exact forall_mem_of_forall₂ ((mapM_eq_ok_iff _ ds).1 h) fun p _ d hd => isPlain_of_ofText hd
  | false =>
    obtain ⟨d, hd, rfl⟩ := map_eq_ok_iff.1 h
    exact List.forall_mem_singleton.2 (isPlain_of_ofText hd)

theorem isPlain_of_narrow {d e : Document} (hd : d.value.isPlain = true) (h : narrow pointer d = .ok e) :
    e.value.isPlain = true := by
  cases pointer with
  | none =>
    cases h
    exact hd
  | some p =>
    rw [narrow] at h
    cases hv : Pointer.find? p d.value with
    | none => simp [hv] at h
    | some v =>
      simp only [hv, Except.ok.injEq] at h
      exact h ▸ Pointer.isPlain_of_find? hd hv

theorem isPlain_of_allOfText {ds : List Document} (h : allOfText origin text byLine pointer = .ok ds) :
    ∀ d ∈ ds, d.value.isPlain = true := by
  rw [allOfText] at h
  cases hw : wholes origin text byLine with
  | error f => simp [hw] at h
  | ok ws =>
    simp only [hw] at h
    exact forall_mem_of_forall₂ ((mapM_eq_ok_iff _ ds).1 h) fun w hmem d hd =>
      isPlain_of_narrow (isPlain_of_wholes hw w hmem) hd

end Document
end SchemaCheck
