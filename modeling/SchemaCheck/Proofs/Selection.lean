import SchemaCheck.Mismatch
import SchemaCheck.Proofs.DecimalText
import SchemaCheck.Proofs.Decoding
import SchemaCheck.Proofs.Entries
/-!
# Selection — what a pointer selects

A location is written as a pointer, and the pointer is read back as the texts of its steps unless one of them holds a
slash or a tilde (`Pointer.tokens?_pointer`); the text of an index is read back as the index
(`Pointer.index?_toString`).  It does not matter whether a pointer is followed in a tree, before it is decoded, or in
its value: decoding what is selected is selecting in what is decoded (`select_ofJson`).
-/
namespace SchemaCheck

open Json (AllDigits IsWhole Name Tree)

/-! ## Parts and indices -/

theorem Text.slashParts_intercalate {ts : List (List Char)} (hne : ts ≠ []) (h : ∀ t ∈ ts, '/' ∉ t) :
    slashParts (List.intercalate ['/'] ts) = ts := by
  induction ts with
  | nil => exact absurd rfl hne
  | cons t rest ih =>
    obtain ⟨ht, hrest⟩ := List.forall_mem_cons.1 h
    cases rest with
    | nil =>
      rw [List.intercalate_singleton]
      exact slashParts_of_not_mem ht
    | cons u more =>
      rw [List.intercalate_cons_cons, List.append_assoc, List.singleton_append, slashParts_append_slash _ ht,
        ih (List.cons_ne_nil u more) hrest]

theorem head?_toDigits_ne_zero (n : Nat) (hn : n ≠ 0) : (Nat.toDigits 10 n).head? ≠ some '0' := by
  induction n using Nat.strong_induction_on with
  | _ n ih =>
    by_cases hsmall : n < 10
    · have hdigits : ∀ d < 10, d ≠ 0 → d.digitChar ≠ '0' := by decide
      rw [Nat.toDigits_of_lt_base hsmall, List.head?_cons]
      exact fun h => hdigits n hsmall hn (Option.some.inj h)
    · have hquotient : n / 10 ≠ 0 := by omega
      have hsplit := Nat.toDigits_of_base_le (b := 10) (n := n) (by decide) (by omega)
      rw [hsplit, List.head?_append_of_ne_nil _ Nat.toDigits_ne_nil]
      exact ih (n / 10) (by omega) hquotient

/-- A number is written without zeros in front. -/
theorem isWhole_toDigits (n : Nat) : IsWhole (Nat.toDigits 10 n) := by
  refine ⟨Nat.toDigits_ne_nil, Double.allDigits_toDigits n, fun hhead => ?_⟩
  by_cases hn : n = 0
  · rw [hn]
    rfl
  · exact absurd hhead (head?_toDigits_ne_zero n hn)

theorem isWhole_cons_iff {c : Char} {rest : List Char} :
    IsWhole (c :: rest) ↔ (c :: rest).all Char.isDigit = true ∧ (c = '0' → rest = []) := by
  constructor
  · exact fun h => ⟨List.all_eq_true.2 h.digits, fun hc => (List.cons.inj (h.zero (congrArg some hc))).2⟩
  · rintro ⟨hall, hzero⟩
    refine ⟨List.cons_ne_nil c rest, List.all_eq_true.1 hall, fun hhead => ?_⟩
    have hc : c = '0' := Option.some.inj hhead
    rw [hc, hzero hc]

namespace Pointer

/-- **An index is a whole number below the limit**, written as the grammar writes it. -/
theorem index?_eq_some_iff {token : List Char} {i : Nat} :
    index? token = some i ↔ IsWhole token ∧ Double.digitsValue token = i ∧ i < UInt64.size := by
  cases token with
  | nil => exact ⟨fun h => absurd h.symm (Option.some_ne_none i), fun h => absurd rfl h.1.nonempty⟩
  | cons c rest =>
    rw [isWhole_cons_iff, index?]
    by_cases hall : (c :: rest).all Char.isDigit = true
    · by_cases hzero : c = '0' ∧ rest ≠ []
      · simp [hzero]
      · have hfront : c = '0' → rest = [] := fun hc => by
          by_contra hne
          exact hzero ⟨hc, hne⟩
        have hfine : (!(c :: rest).all Char.isDigit || (c == '0' && !rest.isEmpty)) = false := by
          by_cases hc : c = '0' <;> simp [hall, hc, hfront]
        rw [hfine, if_neg Bool.false_ne_true]
        by_cases hsize : Double.digitsValue (c :: rest) < UInt64.size
        · rw [if_pos hsize, Option.some.injEq]
          exact ⟨fun hi => ⟨⟨hall, hfront⟩, hi, hi ▸ hsize⟩, fun h => h.2.1⟩
        · rw [if_neg hsize]
          exact ⟨fun h => absurd h.symm (Option.some_ne_none i), fun h => absurd (h.2.1 ▸ h.2.2) hsize⟩
    · simp [hall]

theorem index?_toString {i : Nat} (h : i < UInt64.size) : index? (toString i).toList = some i := by
  have hdigits : (toString i).toList = Nat.toDigits 10 i := Nat.toList_repr
  rw [hdigits]
  exact index?_eq_some_iff.2 ⟨isWhole_toDigits i, Double.digitsValue_toDigits i, h⟩

/-! ## Tokens -/

theorem unescape_of_not_mem (digit char : Char) : ∀ {cs : List Char}, '~' ∉ cs → unescape digit char cs = cs
  | [], _ => rfl
  | [_], _ => rfl
  | c :: d :: rest, h => by
    have hc : c ≠ '~' := fun hc => h (hc ▸ List.mem_cons_self)
    have hrest : '~' ∉ d :: rest := fun hmem => h (List.mem_cons_of_mem c hmem)
    rw [unescape, if_neg fun hboth => hc hboth.1, unescape_of_not_mem digit char hrest]

end Pointer

/-- The text of a step, as a pointer shows it. -/
def Step.token (s : Step) : List Char := s.text.toList

/-- A pointer shows the step as it is, and does not take it for two. -/
def Step.isPlain (s : Step) : Prop := '/' ∉ s.token ∧ '~' ∉ s.token

theorem Step.isPlain_index (i : Nat) : (Step.index i).isPlain := by
  have hdigits : AllDigits (Step.index i).token := by
    have htoken : (Step.index i).token = Nat.toDigits 10 i := Nat.toList_repr
    rw [htoken]
    exact Double.allDigits_toDigits i
  exact ⟨hdigits.not_mem (by decide), hdigits.not_mem (by decide)⟩

/-- **A pointer is read back as the steps that it shows.** -/
theorem Pointer.tokens?_pointer {m : Mismatch} (hne : m.location ≠ []) (h : ∀ s ∈ m.location, s.isPlain) :
    tokens? m.pointer = some (m.location.map Step.token) := by
  have hchars : m.pointer.toList = '/' :: List.intercalate ['/'] (m.location.map Step.token) := by
    rw [Mismatch.pointer, String.toList_append, String.toList_intercalate, List.map_map]
    rfl
  have hparts : Text.slashParts (List.intercalate ['/'] (m.location.map Step.token)) = m.location.map Step.token := by
    refine Text.slashParts_intercalate (fun hnil => hne (List.map_eq_nil_iff.1 hnil)) ?_
    exact List.forall_mem_map.2 fun s hs => (h s hs).1
  have hplain : ∀ s ∈ m.location, unescape '0' '~' (unescape '1' '/' s.token) = s.token := fun s hs => by
    rw [unescape_of_not_mem _ _ (h s hs).2, unescape_of_not_mem _ _ (h s hs).2]
  simp only [tokens?, hchars, hparts, List.map_map]
  exact congrArg some (List.map_congr_left hplain)

/-! ## Trees -/

namespace Json

/-- The value of the last member of a name. -/
def lastNamed? (name : String) (members : List (Name × Tree)) : Option Tree :=
  (members.reverse.find? fun m => m.1.text.toOption = some name).map Prod.snd

/-- The part of a tree under one token. -/
def Tree.step (token : List Char) : Tree → Option Tree
  | .leaf _ => none
  | .list _ items _ => (Pointer.index? token).bind fun i => items[i]?
  | .object _ members _ => lastNamed? (String.ofList token) members

/-- The part of a tree under tokens one after the other. -/
def Tree.select : List (List Char) → Tree → Option Tree
  | [], t => some t
  | token :: rest, t => (t.step token).bind (Tree.select rest)

end Json

theorem Pointer.step_toValue (token : List Char) (f : Decode.Found) : step token f.toValue = none := by
  cases f with
  | number n =>
    rw [Decode.Found.toValue]
    obtain ⟨i, h⟩ | ⟨x, h⟩ := n.toValue_cases <;> rw [h] <;> rfl
  | sequence =>
    rw [Decode.Found.toValue, step]
    cases index? token <;> rfl
  | _ => rfl

theorem lastNamed?_ofJson {room : Nat} {members : List (Name × Tree)} {fs : List (String × Value)}
    (h : List.Forall₂ (Value.IsMember room) members fs) (name : String) :
    (Json.lastNamed? name members).map (Value.ofJson room) =
      (Entries.get? (.str name) (Entries.ofPairs (Entries.named fs))).map Except.ok := by
  have hnamed : List.Forall₂ (fun m e => ∃ f, Value.IsMember room m f ∧ e = (Key.str f.1, f.2)) members.reverse
      (Entries.named fs).reverse := by
    rw [List.forall₂_reverse_iff, Entries.named, List.forall₂_map_right_iff]
    exact h.imp fun m f hf => ⟨f, hf, rfl⟩
  rw [Json.lastNamed?, Entries.get?_ofPairs, Option.map_map, Option.map_map]
  refine find?_map_of_forall₂ hnamed ?_
  rintro m e ⟨f, hf, he⟩
  constructor
  · simp [he, toOption_eq_some_iff.2 hf.1]
  · rw [he]
    exact hf.2

theorem step_ofJson {room : Nat} {t : Tree} {v : Value} (h : Value.ofJson room t = .ok v) (token : List Char) :
    (t.step token).map (Value.ofJson (room - 1)) = (Pointer.step token v).map Except.ok := by
  cases t with
  | leaf u =>
    obtain ⟨f, -, rfl⟩ := Value.ofJson_leaf_eq_ok_iff.1 h
    rw [Pointer.step_toValue]
    rfl
  | list opening items ending =>
    obtain ⟨r, vs, bracket, rfl, rfl, hvs, rfl⟩ := Value.ofJson_list_eq_ok_iff.1 h
    have hsame : items.map (Value.ofJson r) = vs.map Except.ok := map_eq_of_forall₂ hvs
    have hat : ∀ i : Nat, (items[i]?).map (Value.ofJson r) = (vs[i]?).map Except.ok := fun i => by
      rw [← List.getElem?_map, hsame, List.getElem?_map]
    rw [Json.Tree.step, Pointer.step, Nat.add_sub_cancel]
    cases Pointer.index? token with
    | none => rfl
    | some i => exact hat i
  | object opening members ending =>
    obtain ⟨r, fs, bracket, rfl, rfl, hfs, rfl⟩ := Value.ofJson_object_eq_ok_iff.1 h
    exact lastNamed?_ofJson hfs _

/-- **Decoding what is selected is selecting in what is decoded.** -/
theorem select_ofJson (tokens : List (List Char)) : ∀ {room : Nat} {t : Tree} {v : Value}, Value.ofJson room t = .ok v →
    (t.select tokens).map (Value.ofJson (room - tokens.length)) = (Pointer.select tokens v).map Except.ok := by
  induction tokens with
  | nil => exact fun h => congrArg some h
  | cons token rest ih =>
    intro room t v h
    have hstep := step_ofJson h token
    rw [Json.Tree.select, Pointer.select, List.length_cons, Nat.add_comm, Nat.sub_add_eq]
    cases ht : t.step token with
    | none =>
      rw [ht, Option.map_none, eq_comm, Option.map_eq_none_iff] at hstep
      rw [hstep]
      rfl
    | some u =>
      rw [ht, Option.map_some, eq_comm, Option.map_eq_some_iff] at hstep
      obtain ⟨w, hw, hu⟩ := hstep
      rw [hw]
      exact ih hu.symm

end SchemaCheck
