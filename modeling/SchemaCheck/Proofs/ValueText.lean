import SchemaCheck.Proofs.Equality
import SchemaCheck.Proofs.KeyText
import SchemaCheck.Proofs.Location
import SchemaCheck.Proofs.NumberText
/-!
# ValueText — values told apart by their texts

No two values have the same text (`Value.render_injective`), since the text of a value is delimited
(`Value.delimited_chars`): its first character tells its kind as far as it is no word, the words of numbers and constants
are read back (`Value.readWord_chars`), and lists are rows of delimited parts up to a closing bracket
(`listed_append_inj`).  So a literal that fails is never shown like the value that it is compared with
(`values_are_told_apart_by_text`).
-/
namespace SchemaCheck

open Text

/-! ## Words -/

/-- The character that the text of a value opens with, if it is none of a word. -/
def Value.opening : Value → Option Char
  | .str _ => some '"'
  | .sym _ => some ':'
  | .seq _ => some '['
  | .map _ => some '\x7b'
  | _ => none

/-- The value whose text is a word. -/
def Value.readWord (cs : List Char) : Value :=
  match Double.readInt? cs with
  | some i => .int (Int64.ofInt i)
  | none =>
    match Double.ofText? (String.ofList cs) with
    | some x => .float x
    | none => if cs = "null".toList then .null else .bool (cs == "true".toList)

theorem Double.readInt?_eq_none {cs : List Char} {c : Char} (hc : c ∈ cs) (hdigit : c.isDigit = false) (hminus : c ≠ '-')
    (hplus : c ≠ '+') : readInt? cs = none := by
  have hall (ds : List Char) (hds : c ∈ ds) : ds.all Char.isDigit = false :=
    List.all_eq_false.2 ⟨c, hds, by rw [hdigit]; exact Bool.false_ne_true⟩
  unfold readInt?
  split
  · simp [hall _ ((List.mem_cons.1 hc).resolve_left hminus)]
  · simp [hall _ ((List.mem_cons.1 hc).resolve_left hplus)]
  · simp [hall _ hc]

theorem readInt?_number (x : Double) : Double.readInt? (Layout.value.chars x) = none := by
  obtain ⟨c, hc, hmark⟩ := Double.exists_mark_of_chars x
  simp only [List.mem_cons, List.not_mem_nil, or_false] at hmark
  rcases hmark with rfl | rfl | rfl | rfl <;> exact Double.readInt?_eq_none hc rfl (by decide) (by decide)

theorem Value.readWord_of_no_number {cs : List Char} (hint : Double.readInt? cs = none)
    (hfloat : Double.ofText? (String.ofList cs) = none) :
    readWord cs = if cs = "null".toList then .null else .bool (cs == "true".toList) := by
  rw [readWord, hint, hfloat]

/-- **Constants and numbers are read back from their texts.** -/
theorem Value.readWord_chars {v : Value} (h : v.opening = none) : readWord v.chars = v := by
  cases v with
  | null => exact (readWord_of_no_number rfl (by decide +kernel)).trans rfl
  | bool b =>
    cases b with
    | false => exact (readWord_of_no_number rfl (by decide +kernel)).trans rfl
    | true => exact (readWord_of_no_number rfl (by decide +kernel)).trans rfl
  | int i =>
    rw [readWord, chars, Double.readInt?_toString]
    exact congrArg Value.int (Int64.ofInt_toInt i)
  | float x =>
    have hread := Double.ofText?_text Layout.value x
    rw [Layout.text] at hread
    rw [readWord, chars, readInt?_number, hread]
  | _ => cases h

theorem oneWord_marks : OneWord Double.marks := List.all_eq_true.1 rfl

theorem Value.oneWord_chars {v : Value} (h : v.opening = none) : OneWord v.chars ∧ v.chars ≠ [] := by
  cases v with
  | null => exact ⟨List.all_eq_true.1 rfl, List.cons_ne_nil _ _⟩
  | bool b =>
    cases b with
    | false => exact ⟨List.all_eq_true.1 rfl, List.cons_ne_nil _ _⟩
    | true => exact ⟨List.all_eq_true.1 rfl, List.cons_ne_nil _ _⟩
  | int i => exact ⟨oneWord_toString _, toString_ne_nil _⟩
  | float x =>
    constructor
    · intro c hc
      rcases Double.mem_chars hc with hdigit | hmark
      · exact inWord_of_isDigit hdigit
      · exact oneWord_marks c hmark
    · obtain ⟨c, hc, -⟩ := Double.exists_mark_of_chars x
      exact List.ne_nil_of_mem hc
  | _ => cases h

theorem Value.opener_chars (v : Value) (rest : List Char) : opener (v.chars ++ rest) = v.opening := by
  by_cases h : v.opening = none
  · obtain ⟨hword, hne⟩ := oneWord_chars h
    rw [h, opener_of_oneWord hne hword]
  · cases v with
    | str text => rfl
    | sym name => rfl
    | seq items => rfl
    | map fields => rfl
    | _ => exact absurd rfl h

/-- Texts that start alike are texts of values of one form. -/
theorem Value.opening_eq {v w : Value} {r s : List Char} (h : v.chars ++ r = w.chars ++ s) : v.opening = w.opening := by
  rw [← v.opener_chars r, h, w.opener_chars]

/-! ## Lists -/

theorem commaSeparated_cons (part : List Char) : ∀ parts : List (List Char),
    commaSeparated (part :: parts) = part ++ inRow ',' ' ' id parts
  | [] => (List.append_nil part).symm
  | next :: parts => by
    have hcons : commaSeparated (part :: next :: parts) = part ++ ',' :: ' ' :: commaSeparated (next :: parts) := rfl
    rw [hcons, commaSeparated_cons next parts]
    rfl

section Lists

variable {α : Type} {write : α → List Char} {close : Char} {r s : List Char}

/-- **A list of delimited parts tells these parts**, and where its closing bracket is. -/
theorem listed_append_inj (hclose : inWord close = false) (hcomma : close ≠ ',')
    (hstart : ∀ a rest more, write a ++ rest ≠ close :: more) {as bs : List α} (hd : ∀ a ∈ as, Delimited write a)
    (h : commaSeparated (as.map write) ++ close :: r = commaSeparated (bs.map write) ++ close :: s) :
    as = bs ∧ r = s := by
  have hends (more : List Char) : EndsWord (close :: more) := fun c hc => by cases hc; exact hclose
  have hrow (more cs : List Char) : close :: more ≠ ',' :: ' ' :: cs := fun he => hcomma (List.cons.inj he).1
  -- after the first part, a list is a row of parts each behind a comma and a blank
  have htail (cs : List α) : inRow ',' ' ' id (cs.map write) = inRow ',' ' ' write cs := by
    rw [inRow, inRow, List.flatMap_map]
    rfl
  cases as with
  | nil =>
    cases bs with
    | nil => exact ⟨rfl, (List.cons.inj h).2⟩
    | cons b bs =>
      rw [List.map_cons, commaSeparated_cons, List.append_assoc] at h
      exact absurd h.symm (hstart b _ r)
  | cons a as =>
    rw [List.map_cons, commaSeparated_cons, List.append_assoc, htail] at h
    cases bs with
    | nil => exact absurd h (hstart a _ s)
    | cons b bs =>
      rw [List.map_cons, commaSeparated_cons, List.append_assoc, htail] at h
      obtain ⟨hfirst, hrest⟩ := List.forall_mem_cons.1 hd
      obtain ⟨hab, hrows⟩ := hfirst b _ _ (endsWord_inRow rfl ' ' write as (hends r))
        (endsWord_inRow rfl ' ' write bs (hends s)) h
      obtain ⟨has, hcloses⟩ := inRow_append_inj rfl (hends r) (hends s) (hrow r) (hrow s) hrest hrows
      exact ⟨by rw [hab, has], (List.cons.inj hcloses).2⟩

end Lists

theorem delimited_arrow {f : Key × Value} (h : Delimited Value.chars f.2) :
    Delimited (fun f : Key × Value => arrow f.1 f.2.chars) f := by
  intro g r s hr hs hfields
  have hends (cs : List Char) : EndsWord (" => ".toList ++ cs) := fun c hc => by cases hc; rfl
  simp only [arrow, List.append_assoc] at hfields
  obtain ⟨hkeys, hvalues⟩ := f.1.delimited_chars g.1 _ _ (hends _) (hends _) hfields
  obtain ⟨hvalue, hrs⟩ := h g.2 r s hr hs (List.append_cancel_left hvalues)
  exact ⟨Prod.ext hkeys hvalue, hrs⟩

/-! ## Values -/

theorem Value.chars_append_ne (v : Value) (rest more : List Char) : v.chars ++ rest ≠ ']' :: more := fun h => by
  have hopener := v.opener_chars rest
  rw [h, show opener (']' :: more) = some ']' from rfl] at hopener
  cases v <;> simp [opening] at hopener

theorem arrow_append_ne (k : Key) (cs rest more : List Char) : arrow k cs ++ rest ≠ '\x7d' :: more := fun h => by
  rw [arrow, List.append_assoc, List.append_assoc] at h
  have hopener := k.opener_chars (" => ".toList ++ (cs ++ rest))
  rw [h, show opener ('\x7d' :: more) = some '\x7d' from rfl] at hopener
  cases k <;> simp [Key.opening] at hopener

theorem Value.seq_chars_append (items : List Value) (r : List Char) :
    (seq items).chars ++ r = '[' :: (commaSeparated (items.map chars) ++ ']' :: r) := by
  rw [chars, bracketed, itemChars_eq_map, List.cons_append, List.cons_append, List.append_assoc]
  rfl

theorem Value.map_chars_append (fields : List (Key × Value)) (r : List Char) :
    (map fields).chars ++ r = '\x7b' :: (commaSeparated (fields.map fun f => arrow f.1 f.2.chars) ++ '\x7d' :: r) := by
  rw [chars, braced, fieldChars_eq_map, List.cons_append, List.cons_append, List.append_assoc]
  rfl

theorem Value.delimited_of_opening {v : Value} (hv : v.opening = none) : Delimited Value.chars v := by
  intro w r s hr hs h
  have hw : w.opening = none := (opening_eq h).symm.trans hv
  obtain ⟨htexts, hrs⟩ := append_inj_of_oneWord (oneWord_chars hv).1 (oneWord_chars hw).1 hr hs h
  exact ⟨by rw [← readWord_chars hv, htexts, readWord_chars hw], hrs⟩

/-- **The text of a value is delimited.** -/
theorem Value.delimited_chars (v : Value) : Delimited Value.chars v := by
  -- induction on one of the two values; the first character tells the form of the other one
  induction v using Value.descent with
  | null => exact delimited_of_opening rfl
  | bool b => exact delimited_of_opening rfl
  | int i => exact delimited_of_opening rfl
  | float x => exact delimited_of_opening rfl
  | str text =>
    intro w r s hr hs h
    have hopening : some '"' = w.opening := opening_eq h
    cases w with
    | str other =>
      obtain ⟨htext, hrs⟩ := delimited_quoted text other r s hr hs h
      exact ⟨congrArg Value.str htext, hrs⟩
    | _ => cases hopening
  | sym name =>
    intro w r s hr hs h
    have hopening : some ':' = w.opening := opening_eq h
    cases w with
    | sym other =>
      obtain ⟨hname, hrs⟩ := delimited_symbolChars name other r s hr hs h
      exact ⟨congrArg Value.sym hname, hrs⟩
    | _ => cases hopening
  | seq items ih =>
    intro w r s hr hs h
    have hopening : some '[' = w.opening := opening_eq h
    cases w with
    | seq others =>
      rw [seq_chars_append, seq_chars_append] at h
      obtain ⟨hitems, hrs⟩ := listed_append_inj rfl (by decide) chars_append_ne ih (List.cons_injective h)
      exact ⟨congrArg Value.seq hitems, hrs⟩
    | _ => cases hopening
  | map fields ih =>
    intro w r s hr hs h
    have hopening : some '\x7b' = w.opening := opening_eq h
    cases w with
    | map others =>
      rw [map_chars_append, map_chars_append] at h
      obtain ⟨hfields, hrs⟩ := listed_append_inj rfl (by decide) (fun f => arrow_append_ne f.1 f.2.chars)
        (fun f hf => delimited_arrow (ih f hf)) (List.cons_injective h)
      exact ⟨congrArg Value.map hfields, hrs⟩
    | _ => cases hopening

/-- **No two values have the same text.** -/
theorem Value.render_injective : Function.Injective Value.render := fun v w h => by
  have hends : EndsWord [] := fun c hc => by cases hc
  exact (v.delimited_chars w [] [] hends hends (congrArg (· ++ []) (String.ofList_injective h))).1

/-! ## Literals that fail -/

theorem Node.eq_of_demand_eq {n : Node} {v x : Value} (h : n.demand v = .atom (.equal x)) : n = .atom (.equal x) := by
  cases n with
  | arrayOf element =>
    rw [demand] at h
    split at h <;> cases h
  | mapOf entries policy =>
    rw [demand] at h
    split at h <;> cases h
  | _ => exact h

/-- Where a literal is expected, the value found there is not equal to it, and both are shown. -/
theorem same_of_failed_literal {n : Node} {v x : Value} {m : Mismatch} (hm : m ∈ compare n v)
    (hx : m.expected = .atom (.equal x)) : x.same m.actual = false ∧ m.reason = .unlike := by
  obtain ⟨stop, -, hd, hone⟩ := exists_stop_of_mem_compare n hm
  have hhere : m.here ∈ compare stop m.actual := hone ▸ List.mem_singleton_self _
  have hstop : stop = .atom (.equal x) :=
    Node.eq_of_demand_eq ((mismatch_of_not_descends hd hhere).2.2.symm.trans hx)
  rw [hstop, compare_atom] at hone
  by_cases htest : (Predicate.equal x).test m.actual = true
  · rw [if_pos htest] at hone
    cases hone
  · rw [if_neg htest] at hone
    exact ⟨Bool.eq_false_of_not_eq_true htest, (congrArg Mismatch.reason (List.singleton_inj.1 hone)).symm⟩

/-- **Values are told apart by their texts.**  Values of the same text are the same, constructor by constructor and
entry by entry, so a literal that fails is never shown like the value that was found. -/
theorem values_are_told_apart_by_text :
    (∀ v w : Value, v.render = w.render → v = w) ∧
    ∀ (n : Node) (v x : Value) (m : Mismatch), m ∈ compare n v → m.expected = .atom (.equal x) → x.isDistinct = true →
      m.verb = "match\n\t" ++ m.expected.render ++ "\nbut got\n\t" ++ m.actual.render ∧
      m.expected.render ≠ m.actual.render := by
  refine ⟨fun v w h => Value.render_injective h, fun n v x m hm hx hdistinct => ?_⟩
  obtain ⟨hsame, hreason⟩ := same_of_failed_literal hm hx
  refine ⟨by rw [Mismatch.verb, hreason]; rfl, fun hshown => ?_⟩
  rw [hx] at hshown
  rw [← Value.render_injective hshown, Value.same_refl hdistinct] at hsame
  cases hsame

/-- A string that reads like the integer found in its place, in the second element of a sequence. -/
theorem values_are_told_apart_by_text_of_digit :
    (⟨[.index 1], .int 1, .atom (.equal (.str "1")), .unlike⟩ : Mismatch) ∈
      compare (.arrayOf (.atom (.equal (.str "1")))) (.seq [.str "1", .int 1]) ∧
    (Value.str "1").isDistinct = true ∧ (Value.str "1").render ≠ (Value.int 1).render := by
  have hm : (⟨[.index 1], .int 1, .atom (.equal (.str "1")), .unlike⟩ : Mismatch) ∈
      compare (.arrayOf (.atom (.equal (.str "1")))) (.seq [.str "1", .int 1]) := List.mem_singleton_self _
  exact ⟨hm, rfl, (values_are_told_apart_by_text.2 _ _ _ _ hm rfl rfl).2⟩

end SchemaCheck
