import SchemaCheck.Key
import SchemaCheck.Proofs.DecimalText
/-!
# KeyText — keys told apart by their texts

A text is delimited when it tells what it is the text of and where it ends, whatever follows, as long as this does not
go on with a word (`Delimited`).  Words are: they hold no character that may follow them (`append_inj_of_oneWord`).
Text between quotes is, since its escapes are read back one after the other (`unescape?_escape`).  So are symbols, bare
or quoted, and keys (`delimited_symbolChars`, `Key.delimited_chars`).
-/
namespace SchemaCheck

namespace Text

/-! ## Words -/

/-- The characters of names and of numbers. -/
def inWord (c : Char) : Bool := isNameRest c || ['?', '!', '.', '-'].contains c

def OneWord (cs : List Char) : Prop := ∀ c ∈ cs, inWord c = true

/-- No word goes on here. -/
def EndsWord (rest : List Char) : Prop := ∀ c ∈ rest.head?, inWord c = false

/-- A text that goes on like the text of `a`, and then with no word, goes on so for no other value and in no other way. -/
def Delimited {α : Type} (write : α → List Char) (a : α) : Prop :=
  ∀ (b : α) (r s : List Char), EndsWord r → EndsWord s → write a ++ r = write b ++ s → a = b ∧ r = s

theorem inWord_of_isDigit {c : Char} (h : c.isDigit = true) : inWord c = true := by
  simp [inWord, isNameRest, h]

theorem append_inj_of_oneWord {as bs r s : List Char} (ha : OneWord as) (hb : OneWord bs) (hr : EndsWord r)
    (hs : EndsWord s) (h : as ++ r = bs ++ s) : as = bs ∧ r = s := by
  have hab : as = bs := by
    rw [← Json.takeWhile_append_of_stop ha hr, h, Json.takeWhile_append_of_stop hb hs]
  subst hab
  exact ⟨rfl, List.append_cancel_left h⟩

/-- The character that a text opens with, if it is none of a word. -/
def opener (cs : List Char) : Option Char := cs.head?.filter fun c => !inWord c

theorem opener_of_oneWord {cs : List Char} (hne : cs ≠ []) (h : OneWord cs) (rest : List Char) :
    opener (cs ++ rest) = none := by
  obtain ⟨c, more, rfl⟩ := List.exists_cons_of_ne_nil hne
  simp [opener, h c List.mem_cons_self]

/-! ## Parts in a row -/

/-- Texts in a row, each behind two characters. -/
def inRow {α : Type} (c d : Char) (write : α → List Char) (as : List α) : List Char :=
  as.flatMap fun a => c :: d :: write a

theorem endsWord_inRow {α : Type} {c : Char} (hc : inWord c = false) (d : Char) (write : α → List Char) (as : List α)
    {rest : List Char} (h : EndsWord rest) : EndsWord (inRow c d write as ++ rest) := by
  cases as with
  | nil => exact h
  | cons a as => exact fun e he => by cases he; exact hc

/-- **Delimited texts in a row tell what they are the texts of**, and where the row ends, unless it goes on. -/
theorem inRow_append_inj {α : Type} {c d : Char} (hc : inWord c = false) {write : α → List Char} {r s : List Char}
    (hr : EndsWord r) (hs : EndsWord s) (hr' : ∀ cs, r ≠ c :: d :: cs) (hs' : ∀ cs, s ≠ c :: d :: cs) :
    ∀ {as bs : List α}, (∀ a ∈ as, Delimited write a) → inRow c d write as ++ r = inRow c d write bs ++ s →
      as = bs ∧ r = s
  | [], [], _, h => ⟨rfl, h⟩
  | [], b :: bs, _, h => absurd h (hr' _)
  | a :: as, [], _, h => absurd h.symm (hs' _)
  | a :: as, b :: bs, hd, h => by
    have htexts : write a ++ (inRow c d write as ++ r) = write b ++ (inRow c d write bs ++ s) := by
      rw [← List.append_assoc, ← List.append_assoc]
      exact List.cons_injective (List.cons_injective h)
    obtain ⟨hfirst, hrest⟩ := List.forall_mem_cons.1 hd
    obtain ⟨hab, htail⟩ := hfirst b _ _ (endsWord_inRow hc d write as hr) (endsWord_inRow hc d write bs hs) htexts
    obtain ⟨has, hrs⟩ := inRow_append_inj hc hr hs hr' hs' hrest htail
    exact ⟨by rw [hab, has], hrs⟩

/-! ## Integers -/

theorem oneWord_toString (i : Int) : OneWord (toString i).toList := fun c hc => by
  rcases Double.mem_toString_int hc with hdigit | rfl
  · exact inWord_of_isDigit hdigit
  · rfl

theorem delimited_int (i : Int64) : Delimited (fun i : Int64 => (toString i.toInt).toList) i := by
  intro j r s hr hs h
  obtain ⟨hij, hrs⟩ := append_inj_of_oneWord (oneWord_toString _) (oneWord_toString _) hr hs h
  have hread := Double.readInt?_toString i.toInt
  rw [hij, Double.readInt?_toString] at hread
  exact ⟨Int64.toInt_inj.1 (Option.some.inj hread).symm, hrs⟩

/-! ## Text between quotes -/

/-- The value of a hexadecimal digit that is a decimal digit or a small letter. -/
def hexDigit (c : Char) : Nat := if c.isDigit then c.toNat - 48 else c.toNat - 87

def hexValue (ds : List Char) : Nat := ds.foldl (fun n c => 16 * n + hexDigit c) 0

theorem hexDigit_digitChar : ∀ d < 16, hexDigit d.digitChar = d ∧ d.digitChar ≠ '\x7d' := by decide

theorem hexValue_toDigits (n : Nat) : hexValue (Nat.toDigits 16 n) = n ∧ ∀ c ∈ Nat.toDigits 16 n, c ≠ '\x7d' := by
  induction n using Nat.strongRecOn with
  | ind n ih =>
    by_cases hn : n < 16
    · rw [Nat.toDigits_of_lt_base hn]
      obtain ⟨hvalue, hne⟩ := hexDigit_digitChar n hn
      refine ⟨?_, fun c hc => List.mem_singleton.1 hc ▸ hne⟩
      rw [hexValue, List.foldl_cons, hvalue, List.foldl_nil, Nat.mul_zero, Nat.zero_add]
    · rw [Nat.toDigits_of_base_le (by decide) (Nat.not_lt.1 hn)]
      obtain ⟨hrest, hmem⟩ := ih (n / 16) (by omega)
      obtain ⟨hvalue, hne⟩ := hexDigit_digitChar (n % 16) (by omega)
      constructor
      · unfold hexValue at hrest ⊢
        rw [List.foldl_append, hrest, List.foldl_cons, hvalue, List.foldl_nil]
        omega
      · intro c hc
        rcases List.mem_append.1 hc with hc | hc
        · exact hmem c hc
        · exact List.mem_singleton.1 hc ▸ hne

/-- Reads one character as it is written between quotes, and leaves what follows it. -/
def unescape? : List Char → Option (Char × List Char)
  | '\\' :: 'u' :: '\x7b' :: cs =>
    let digits := cs.takeWhile (· ≠ '\x7d')
    some (Char.ofNat (hexValue digits), cs.drop (digits.length + 1))
  | '\\' :: '0' :: cs => some ('\x00', cs)
  | '\\' :: 't' :: cs => some ('\t', cs)
  | '\\' :: 'r' :: cs => some ('\r', cs)
  | '\\' :: 'n' :: cs => some ('\n', cs)
  | '\\' :: c :: cs => some (c, cs)
  | c :: cs => some (c, cs)
  | [] => none

/-- **The written form of a character is read back**, whatever follows. -/
theorem unescape?_escape (c : Char) (rest : List Char) : unescape? (escape c ++ rest) = some (c, rest) := by
  unfold escape
  split_ifs with hnul htab hreturn hnewline hmark hhidden
  · rw [hnul]
    rfl
  · rw [htab]
    rfl
  · rw [hreturn]
    rfl
  · rw [hnewline]
    rfl
  · rcases hmark with rfl | rfl <;> rfl
  · obtain ⟨hvalue, hmem⟩ := hexValue_toDigits c.toNat
    have htake : (Nat.toDigits 16 c.toNat ++ '\x7d' :: rest).takeWhile (· ≠ '\x7d') = Nat.toDigits 16 c.toNat :=
      Json.takeWhile_append_of_stop (fun d hd => decide_eq_true (hmem d hd)) fun d hd => by cases hd; rfl
    simp only [List.append_assoc, List.cons_append, List.nil_append, unescape?]
    rw [htake, hvalue, Char.ofNat_toNat, List.drop_append]
    simp
  · have hne : c ≠ '\\' := fun h => hmark (.inr h)
    simp [unescape?, hne]

theorem escape_append_inj {c d : Char} {r s : List Char} (h : escape c ++ r = escape d ++ s) : c = d ∧ r = s := by
  have hread := unescape?_escape c r
  rw [h, unescape?_escape, Option.some.injEq, Prod.mk.injEq] at hread
  exact ⟨hread.1.symm, hread.2.symm⟩

/-- No character is written with a quote first, so the next quote ends the text. -/
theorem quote_ne_escape (r s : List Char) (d : Char) : '"' :: r ≠ escape d ++ s := fun h => by
  have hread := unescape?_escape d s
  rw [← h, show unescape? ('"' :: r) = some ('"', r) from rfl, Option.some.injEq, Prod.mk.injEq] at hread
  rw [← hread.1] at h
  cases h

theorem flatMap_escape_inj {r s : List Char} : ∀ {cs ds : List Char},
    cs.flatMap escape ++ '"' :: r = ds.flatMap escape ++ '"' :: s → cs = ds ∧ r = s
  | [], [], h => ⟨rfl, (List.cons.inj h).2⟩
  | [], d :: ds, h => by
    rw [List.flatMap_cons, List.append_assoc] at h
    exact absurd h (quote_ne_escape r _ d)
  | c :: cs, [], h => by
    rw [List.flatMap_cons, List.append_assoc] at h
    exact absurd h.symm (quote_ne_escape s _ c)
  | c :: cs, d :: ds, h => by
    rw [List.flatMap_cons, List.flatMap_cons, List.append_assoc, List.append_assoc] at h
    obtain ⟨hcd, hrest⟩ := escape_append_inj h
    obtain ⟨hcs, hrs⟩ := flatMap_escape_inj hrest
    exact ⟨by rw [hcd, hcs], hrs⟩

/-- **Text between quotes is delimited.** -/
theorem delimited_quoted (text : String) : Delimited quoted text := by
  intro other r s _ _ h
  simp only [quoted, List.cons_append, List.append_assoc, List.nil_append, List.cons.injEq, true_and] at h
  obtain ⟨hchars, hrs⟩ := flatMap_escape_inj h
  exact ⟨String.toList_inj.1 hchars, hrs⟩

/-! ## Symbols -/

theorem inWord_of_isNameRest {c : Char} (h : isNameRest c = true) : inWord c = true := by
  rw [inWord, h, Bool.true_or]

theorem oneWord_of_isBareName {cs : List Char} (h : isBareName cs = true) : OneWord cs := by
  cases cs with
  | nil => cases h
  | cons c rest =>
    rw [isBareName, Bool.and_eq_true] at h
    obtain ⟨hstart, hend⟩ := h
    have hfirst : inWord c = true := inWord_of_isNameRest (by rw [isNameRest, hstart, Bool.true_or])
    have htake : ∀ d ∈ rest.takeWhile isNameRest, inWord d = true := fun d hd =>
      inWord_of_isNameRest (List.all_eq_true.1 List.all_takeWhile d hd)
    have hdrop : ∀ d ∈ rest.dropWhile isNameRest, inWord d = true := by
      split at hend
      · rename_i hnil
        rw [hnil]
        exact fun d hd => by cases hd
      · rename_i d hd
        rw [hd]
        intro e he
        rw [List.mem_singleton.1 he]
        rcases (Bool.or_eq_true _ _).mp hend with hmark | hmark <;> rw [eq_of_beq hmark] <;> rfl
      · cases hend
    have hrest : ∀ d ∈ rest, inWord d = true := by
      rw [← List.takeWhile_append_dropWhile (p := isNameRest) (l := rest)]
      exact List.forall_mem_append.2 ⟨htake, hdrop⟩
    exact List.forall_mem_cons.2 ⟨hfirst, hrest⟩

/-- A bare name is not mistaken for one between quotes. -/
theorem bareName_append_ne_quoted {name other : String} (h : isBareName name.toList = true) (r s : List Char) :
    name.toList ++ r ≠ quoted other ++ s := fun he => by
  have hword := oneWord_of_isBareName h
  have hne : name.toList ≠ [] := fun hnil => by
    rw [hnil] at h
    cases h
  have hopener := opener_of_oneWord hne hword r
  rw [he] at hopener
  cases hopener

/-- **A symbol is delimited**, whether its name is bare or between quotes. -/
theorem delimited_symbolChars (name : String) : Delimited symbolChars name := by
  intro other r s hr hs h
  have hname : (if isBareName name.toList then name.toList else quoted name) ++ r =
      (if isBareName other.toList then other.toList else quoted other) ++ s := List.cons_injective h
  by_cases hbare : isBareName name.toList = true
  · rw [if_pos hbare] at hname
    by_cases hother : isBareName other.toList = true
    · rw [if_pos hother] at hname
      obtain ⟨hchars, hrs⟩ :=
        append_inj_of_oneWord (oneWord_of_isBareName hbare) (oneWord_of_isBareName hother) hr hs hname
      exact ⟨String.toList_inj.1 hchars, hrs⟩
    · rw [if_neg hother] at hname
      exact absurd hname (bareName_append_ne_quoted hbare r s)
  · rw [if_neg hbare] at hname
    by_cases hother : isBareName other.toList = true
    · rw [if_pos hother] at hname
      exact absurd hname.symm (bareName_append_ne_quoted hother s r)
    · rw [if_neg hother] at hname
      exact delimited_quoted name other r s hr hs hname

end Text

/-! ## Keys -/

open Text

/-- The character that the text of a key opens with, if it is none of a word. -/
def Key.opening : Key → Option Char
  | .str _ => some '"'
  | .sym _ => some ':'
  | .int _ => none

theorem Text.toString_ne_nil (i : Int) : (toString i).toList ≠ [] := fun hnil => by
  have hread := Double.readInt?_toString i
  rw [hnil] at hread
  cases hread

theorem Key.opener_chars (k : Key) (rest : List Char) : opener (k.chars ++ rest) = k.opening := by
  cases k with
  | str text => rfl
  | sym name => rfl
  | int i => exact opener_of_oneWord (toString_ne_nil _) (oneWord_toString _) rest

/-- **A key is delimited**: its text tells whether it is a string, a symbol or an integer, and which one. -/
theorem Key.delimited_chars (k : Key) : Delimited Key.chars k := by
  intro l r s hr hs h
  have hopening : k.opening = l.opening := by rw [← k.opener_chars r, h, l.opener_chars]
  cases k with
  | str text =>
    cases l with
    | str other =>
      obtain ⟨htext, hrs⟩ := delimited_quoted text other r s hr hs h
      exact ⟨congrArg Key.str htext, hrs⟩
    | _ => cases hopening
  | sym name =>
    cases l with
    | sym other =>
      obtain ⟨hname, hrs⟩ := delimited_symbolChars name other r s hr hs h
      exact ⟨congrArg Key.sym hname, hrs⟩
    | _ => cases hopening
  | int i =>
    cases l with
    | int j =>
      obtain ⟨hij, hrs⟩ := delimited_int i j r s hr hs h
      exact ⟨congrArg Key.int hij, hrs⟩
    | _ => cases hopening

end SchemaCheck
