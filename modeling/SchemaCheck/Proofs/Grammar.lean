import SchemaCheck.Json.Problem
/-!
# Grammar — what a JSON text is

The grammar of JSON over lists of characters, said without any reader: blanks, numbers, strings, and the forms that
values, lists and objects are made of (`Derives`).  A phrase begins with the blanks before it, so a text is a value and
blanks after it (`IsText`).  Of all values only a number can be the beginning of a longer one; `GoesOn` tells when what
follows it belongs to it.
-/
namespace SchemaCheck.Json

/-! ## Characters -/

def AllBlank (cs : List Char) : Prop := ∀ c ∈ cs, c ∈ [' ', '\n', '\t', '\r']

def AllDigits (cs : List Char) : Prop := ∀ c ∈ cs, c.isDigit = true

/-- A hexadecimal digit. -/
def IsHex (c : Char) : Prop := c.isDigit = true ∨ ('a' ≤ c ∧ c ≤ 'f') ∨ ('A' ≤ c ∧ c ≤ 'F')

theorem AllBlank.cons_iff {c : Char} {cs : List Char} :
    AllBlank (c :: cs) ↔ c ∈ [' ', '\n', '\t', '\r'] ∧ AllBlank cs := List.forall_mem_cons

theorem AllDigits.not_mem {cs : List Char} {c : Char} (h : AllDigits cs) (hc : c.isDigit = false) : c ∉ cs :=
  fun hmem => Bool.false_ne_true (hc.symm.trans (h c hmem))

/-! ## Numbers -/

/-- The digits before the point: a zero stands alone or not in front. -/
structure IsWhole (cs : List Char) : Prop where
  nonempty : cs ≠ []
  digits : AllDigits cs
  zero : cs.head? = some '0' → cs = ['0']

inductive IsFraction : List Char → Prop
  | absent : IsFraction []
  | digits {ds : List Char} (hne : ds ≠ []) (h : AllDigits ds) : IsFraction ('.' :: ds)

inductive IsExponent : List Char → Prop
  | absent : IsExponent []
  | digits {e : Char} {sign ds : List Char} (he : e = 'e' ∨ e = 'E') (hsign : sign ∈ [[], ['+'], ['-']])
      (hne : ds ≠ []) (h : AllDigits ds) : IsExponent (e :: (sign ++ ds))

inductive IsNumber : List Char → Prop
  | parts {sign whole fraction exponent : List Char} (hsign : sign ∈ [[], ['-']]) (hwhole : IsWhole whole)
      (hfraction : IsFraction fraction) (hexponent : IsExponent exponent) :
      IsNumber (sign ++ (whole ++ (fraction ++ exponent)))

/-! ## Strings -/

/-- What may follow a backslash. -/
inductive IsEscape : List Char → Prop
  | simple {c : Char} (h : c ∈ ['"', '\\', '/', 'b', 'f', 'n', 'r', 't']) : IsEscape [c]
  | unicode {a b c d : Char} (ha : IsHex a) (hb : IsHex b) (hc : IsHex c) (hd : IsHex d) : IsEscape ['u', a, b, c, d]

/-- A string after its opening quote. -/
inductive IsStringRest : List Char → Prop
  | close : IsStringRest ['"']
  | char {c : Char} {cs : List Char} (hquote : c ≠ '"') (hslash : c ≠ '\\') (hcontrol : 32 ≤ c.toNat)
      (h : IsStringRest cs) : IsStringRest (c :: cs)
  | escape {e cs : List Char} (he : IsEscape e) (h : IsStringRest cs) : IsStringRest ('\\' :: (e ++ cs))

inductive IsString : List Char → Prop
  | quoted {cs : List Char} (h : IsStringRest cs) : IsString ('"' :: cs)

/-! ## Values -/

/-- A value that is neither a list nor an object. -/
inductive IsScalar : List Char → Prop
  | null : IsScalar ['n', 'u', 'l', 'l']
  | true : IsScalar ['t', 'r', 'u', 'e']
  | false : IsScalar ['f', 'a', 'l', 's', 'e']
  | number {cs : List Char} (h : IsNumber cs) : IsScalar cs
  | string {cs : List Char} (h : IsString cs) : IsScalar cs

inductive Form where
  | value
  /-- What follows the opening bracket of a list. -/
  | items
  /-- What follows an item of a list. -/
  | moreItems
  /-- What follows the opening brace of an object. -/
  | members
  /-- What follows a member of an object. -/
  | moreMembers
  | member

/-- The characters of a form, with the blanks before them. -/
inductive Derives : Form → List Char → Prop
  | scalar {b s : List Char} (hb : AllBlank b) (h : IsScalar s) : Derives .value (b ++ s)
  | list {b w : List Char} (hb : AllBlank b) (h : Derives .items w) : Derives .value (b ++ '[' :: w)
  | object {b w : List Char} (hb : AllBlank b) (h : Derives .members w) : Derives .value (b ++ '\x7b' :: w)
  | noItems {b : List Char} (hb : AllBlank b) : Derives .items (b ++ [']'])
  | items {v w : List Char} (hv : Derives .value v) (hw : Derives .moreItems w) : Derives .items (v ++ w)
  | lastItem {b : List Char} (hb : AllBlank b) : Derives .moreItems (b ++ [']'])
  | nextItem {b v w : List Char} (hb : AllBlank b) (hv : Derives .value v) (hw : Derives .moreItems w) :
      Derives .moreItems (b ++ ',' :: (v ++ w))
  | noMembers {b : List Char} (hb : AllBlank b) : Derives .members (b ++ ['\x7d'])
  | members {m w : List Char} (hm : Derives .member m) (hw : Derives .moreMembers w) : Derives .members (m ++ w)
  | lastMember {b : List Char} (hb : AllBlank b) : Derives .moreMembers (b ++ ['\x7d'])
  | nextMember {b m w : List Char} (hb : AllBlank b) (hm : Derives .member m) (hw : Derives .moreMembers w) :
      Derives .moreMembers (b ++ ',' :: (m ++ w))
  | member {b n c v : List Char} (hb : AllBlank b) (hn : IsString n) (hc : AllBlank c) (hv : Derives .value v) :
      Derives .member (b ++ (n ++ (c ++ ':' :: v)))

/-- One JSON value with nothing but blanks before and after it. -/
def IsText (text : String) : Prop := ∃ v b, text.toList = v ++ b ∧ Derives .value v ∧ AllBlank b

/-! ## What belongs to a number -/

/-- What follows goes on with a number: with a digit, with an exponent if there is none, or with a point if there is
neither a point nor an exponent. -/
def GoesOn (cs rest : List Char) : Prop :=
  (∃ d ∈ cs.getLast?, d.isDigit = true) ∧ ∃ c ∈ rest.head?, c.isDigit = true ∨
    'e' ∉ cs ∧ 'E' ∉ cs ∧ (c = 'e' ∨ c = 'E' ∨ '.' ∉ cs ∧ c = '.')

theorem GoesOn.of_append {u w rest : List Char} (hw : w ≠ []) (h : GoesOn (u ++ w) rest) : GoesOn w rest := by
  obtain ⟨⟨d, hd, hdigit⟩, c, hc, hcase⟩ := h
  rw [List.getLast?_append, List.getLast?_eq_some_getLast hw, Option.some_or] at hd
  refine ⟨⟨d, by rwa [List.getLast?_eq_some_getLast hw], hdigit⟩, c, hc, hcase.imp id fun ⟨he, hE, hcase⟩ => ?_⟩
  simp only [List.mem_append, not_or] at he hE hcase
  exact ⟨he.2, hE.2, hcase.imp id (Or.imp id fun ⟨hpoint, hc⟩ => ⟨hpoint.2, hc⟩)⟩

theorem GoesOn.append_blank {b s rest : List Char} (hb : AllBlank b) (h : GoesOn s rest) : GoesOn (b ++ s) rest := by
  obtain ⟨⟨d, hd, hdigit⟩, c, hc, hcase⟩ := h
  have hnot : ∀ x, x ∉ [' ', '\n', '\t', '\r'] → x ∉ b := fun x hx hmem => hx (hb x hmem)
  have he := hnot 'e' (by decide)
  have hE := hnot 'E' (by decide)
  have hpoint := hnot '.' (by decide)
  refine ⟨⟨d, ?_, hdigit⟩, c, hc, ?_⟩
  · rw [List.getLast?_append, Option.mem_def.1 hd]
    rfl
  · simpa only [List.mem_append, he, hE, hpoint, false_or] using hcase

theorem not_goesOn_of_blank {cs rest : List Char} (hrest : AllBlank rest) : ¬ GoesOn cs rest := by
  rintro ⟨-, c, hc, hcase⟩
  have hblank := hrest c (List.mem_of_mem_head? hc)
  simp only [List.mem_cons, List.not_mem_nil, or_false] at hblank
  rcases hblank with rfl | rfl | rfl | rfl <;> simp at hcase

theorem not_goesOn_of_getLast? {cs rest : List Char} {d : Char} (hd : cs.getLast? = some d) (h : d.isDigit = false) :
    ¬ GoesOn cs rest := by
  rintro ⟨⟨e, he, hdigit⟩, -⟩
  rw [hd, Option.mem_some_iff] at he
  subst he
  exact Bool.false_ne_true (h.symm.trans hdigit)

section Number

variable {sign whole fraction exponent rest : List Char}

theorem IsFraction.not_mem (h : IsFraction fraction) {c : Char} (hc : c.isDigit = false) (hpoint : c ≠ '.') :
    c ∉ fraction := by
  cases h with
  | absent => exact List.not_mem_nil
  | digits _ h => simp [hpoint, h.not_mem hc]

theorem IsFraction.point_mem_iff (h : IsFraction fraction) : '.' ∉ fraction ↔ fraction = [] := by
  cases h <;> simp

theorem IsExponent.letter_mem_iff (h : IsExponent exponent) :
    'e' ∉ exponent ∧ 'E' ∉ exponent ↔ exponent = [] := by
  cases h with
  | absent => simp
  | digits he hsign hne h => rcases he with rfl | rfl <;> simp

/-- Every part of a number that is there ends with a digit. -/
theorem getLast?_number (hwhole : IsWhole whole) (hfraction : IsFraction fraction) (hexponent : IsExponent exponent) :
    ∃ d ∈ (sign ++ (whole ++ (fraction ++ exponent))).getLast?, d.isDigit = true := by
  have hlast : ∀ {u ds : List Char}, ds ≠ [] → AllDigits ds → ∃ d ∈ (u ++ ds).getLast?, d.isDigit = true :=
    fun {u ds} hne hds => ⟨ds.getLast hne, by simp [List.getLast?_append, List.getLast?_eq_some_getLast hne],
      hds _ (List.getLast_mem hne)⟩
  cases hexponent with
  | digits he hsign hne h =>
    rename_i e sign' ds
    have hsplit : sign ++ (whole ++ (fraction ++ e :: (sign' ++ ds))) =
        (sign ++ (whole ++ (fraction ++ e :: sign'))) ++ ds := by simp
    rw [hsplit]
    exact hlast hne h
  | absent =>
    cases hfraction with
    | digits hne h =>
      rename_i ds
      have hsplit : sign ++ (whole ++ ('.' :: ds ++ [])) = (sign ++ (whole ++ ['.'])) ++ ds := by simp
      rw [hsplit]
      exact hlast hne h
    | absent =>
      have hsplit : sign ++ (whole ++ ([] ++ [])) = sign ++ whole := by simp
      rw [hsplit]
      exact hlast hwhole.nonempty hwhole.digits

/-- What goes on with a number, told by its parts. -/
theorem goesOn_number_iff (hsign : sign ∈ [[], ['-']]) (hwhole : IsWhole whole) (hfraction : IsFraction fraction)
    (hexponent : IsExponent exponent) : GoesOn (sign ++ (whole ++ (fraction ++ exponent))) rest ↔
      ∃ c ∈ rest.head?, c.isDigit = true ∨
        exponent = [] ∧ (c = 'e' ∨ c = 'E' ∨ fraction = [] ∧ c = '.') := by
  have hmem : ∀ c : Char, c.isDigit = false → c ≠ '-' →
      (c ∉ sign ++ (whole ++ (fraction ++ exponent)) ↔ c ∉ fraction ∧ c ∉ exponent) := fun c hc hminus => by
    have hnot : c ∉ sign := by
      simp only [List.mem_cons, List.not_mem_nil, or_false] at hsign
      rcases hsign with rfl | rfl <;> simp [hminus]
    simp [hnot, hwhole.digits.not_mem hc]
  have he : 'e' ∉ fraction := hfraction.not_mem rfl (by decide)
  have hE : 'E' ∉ fraction := hfraction.not_mem rfl (by decide)
  have hnone : 'e' ∉ sign ++ (whole ++ (fraction ++ exponent)) ∧ 'E' ∉ sign ++ (whole ++ (fraction ++ exponent)) ↔
      exponent = [] := by
    rw [hmem 'e' rfl (by decide), hmem 'E' rfl (by decide), and_iff_right he, and_iff_right hE]
    exact hexponent.letter_mem_iff
  rw [GoesOn, and_iff_right (getLast?_number hwhole hfraction hexponent)]
  refine exists_congr fun c => and_congr_right fun _ => or_congr_right ?_
  rw [← and_assoc, hnone]
  refine and_congr_right fun hempty => ?_
  rw [hmem '.' rfl (by decide), hempty, hfraction.point_mem_iff, and_iff_left List.not_mem_nil]

end Number

end SchemaCheck.Json
