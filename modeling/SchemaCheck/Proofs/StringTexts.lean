import SchemaCheck.Proofs.Results
import SchemaCheck.Proofs.Strings
/-!
# StringTexts — what strings say

The text of a string does not depend on where the string stands (`text_scanString`), and a character in front of a
string is in front of its text (`textFrom_cons`).
-/
namespace SchemaCheck.Json

/-- What an escape comes to, wherever it stands: its character, if there is one, and its length. -/
def EscapeScan.reading : EscapeScan → Option (Option Char × Nat)
  | .char c n => some (some c, n)
  | .noChar _ n => some (none, n)
  | .failed _ => none

theorem reading_scanPair (high : Nat) (p q : Position) (cs : List Char) :
    (scanPair high p cs).reading = (scanPair high q cs).reading := by
  unfold scanPair
  split
  · rfl
  · rfl
  · split
    · split
      · rfl
      · split <;> rfl
    · rfl
  · rfl
  · rfl

theorem reading_scanEscape (p q : Position) (cs : List Char) :
    (scanEscape p cs).reading = (scanEscape q cs).reading := by
  unfold scanEscape
  split
  · rfl
  · split
    · split
      · rfl
      · split
        · rfl
        · split
          · exact reading_scanPair _ _ _ _
          · rfl
    · rfl
  · split <;> rfl

/-- The text of a string after its opening quote, or after some characters of the escape before. -/
def textFrom (inside : Nat) (cs : List Char) : Option String :=
  (scanString inside [] none 1 Position.start cs).content.text.toOption

/-- What the characters before say stands before what a string says, unless one of them stands for no character. -/
def afterText (done : List Char) (bad : Option Problem) (text : Option String) : Option String :=
  if bad.isSome then none else text.map fun s => String.ofList (done.reverse ++ s.toList)

theorem afterText_nil (text : Option String) : afterText [] none text = text := by
  simp [afterText]

theorem afterText_none (done : List Char) (bad : Option Problem) : afterText done bad none = none := by
  simp [afterText]

theorem afterText_cons (done : List Char) (bad : Option Problem) (x : Char) (text : Option String) :
    afterText (x :: done) bad text = afterText done bad (afterText [x] none text) := by
  cases text <;> simp [afterText]

/-- **The text of a string** is what the characters read before say and then what follows them, wherever they stand. -/
theorem text_scanString (cs : List Char) : ∀ (inside : Nat) (done : List Char) (bad : Option Problem) (count : Nat)
    (p : Position), (scanString inside done bad count p cs).content.text.toOption =
      afterText done bad (textFrom inside cs) := by
  induction cs with
  | nil =>
    intro inside done bad count p
    cases inside <;> cases bad <;> rfl
  | cons c rest ih =>
    intro inside done bad count p
    cases inside with
    | succ n =>
      have hfrom : textFrom (n + 1) (c :: rest) = textFrom n rest := (ih n [] none _ _).trans (afterText_nil _)
      rw [hfrom]
      exact ih n done bad (count + 1) (p.after c)
    | zero =>
      by_cases hquote : c = '"'
      · subst hquote
        cases bad <;> simp [textFrom, scanString, Except.toOption, afterText]
      by_cases hcontrol : c.toNat < 32
      · rw [textFrom, scanString_control hquote hcontrol, scanString_control hquote hcontrol]
        exact (afterText_none done bad).symm
      by_cases hslash : c = '\\'
      · subst hslash
        -- the escape is the same one wherever it stands
        have hstep : ∀ done bad count p, (scanString 0 done bad count p ('\\' :: rest)).content.text.toOption =
            (scanEscape p rest).reading.bind fun r => r.1.bind fun x => afterText (x :: done) bad (textFrom r.2 rest) := by
          intro done bad count p
          rw [scanString.eq_def]
          cases hescape : scanEscape p rest with
          | char x n => simp [hescape, EscapeScan.reading, ih]
          | noChar q n => simp [hescape, EscapeScan.reading, ih, afterText]
          | failed q => simp [hescape, EscapeScan.reading, StringScan.failed, Except.toOption]
        rw [hstep, textFrom, hstep, reading_scanEscape p Position.start]
        cases (scanEscape Position.start rest).reading with
        | none => exact (afterText_none done bad).symm
        | some r =>
          obtain ⟨x, n⟩ := r
          cases x with
          | none => exact (afterText_none done bad).symm
          | some x => exact afterText_cons done bad x _
      · have hfrom : textFrom 0 (c :: rest) = afterText [c] none (textFrom 0 rest) := by
          rw [textFrom, scanString_char hquote hslash (Nat.not_lt.1 hcontrol)]
          exact ih 0 [c] none _ _
        rw [scanString_char hquote hslash (Nat.not_lt.1 hcontrol), ih, hfrom, afterText_cons]

theorem textFrom_cons {c : Char} {cs : List Char} (hquote : c ≠ '"') (hslash : c ≠ '\\') (hcontrol : 32 ≤ c.toNat) :
    textFrom 0 (c :: cs) = (textFrom 0 cs).map fun s => String.ofList (c :: s.toList) := by
  rw [textFrom, scanString_char hquote hslash hcontrol, text_scanString]
  rfl

/-- Characters that stand for themselves are the text of their string. -/
theorem isStringRest_of_plain : ∀ {cs : List Char}, (∀ c ∈ cs, c ≠ '"' ∧ c ≠ '\\' ∧ 32 ≤ c.toNat) →
    IsStringRest (cs ++ ['"']) ∧ textFrom 0 (cs ++ ['"']) = some (String.ofList cs)
  | [], _ => ⟨.close, rfl⟩
  | c :: cs, h => by
    obtain ⟨⟨hquote, hslash, hcontrol⟩, hrest⟩ := List.forall_mem_cons.1 h
    obtain ⟨hstring, htext⟩ := isStringRest_of_plain hrest
    refine ⟨.char hquote hslash hcontrol hstring, ?_⟩
    rw [List.cons_append, textFrom_cons hquote hslash hcontrol, htext, Option.map_some, String.toList_ofList]

/-- The text of a string that starts with an escape, if that stands for a character. -/
theorem textFrom_escape {cs : List Char} {s : String} (hs : textFrom 0 ('\\' :: cs) = some s) :
    ∃ x n rest, scanEscape Position.start cs = .char x n ∧ s.toList = x :: rest := by
  rw [textFrom, scanString.eq_def] at hs
  cases hescape : scanEscape Position.start cs with
  | char x n =>
    simp only [hescape] at hs
    obtain ⟨t, -, rfl⟩ := Option.map_eq_some_iff.1 ((text_scanString _ _ _ _ _ _).symm.trans hs)
    exact ⟨x, n, t.toList, rfl, String.toList_ofList⟩
  | noChar q n => simp [hescape, text_scanString, afterText] at hs
  | failed q => simp [hescape, StringScan.failed, Except.toOption] at hs

/-! ## Dollar signs -/

/-- A string, after its opening quote, writes a dollar sign first. -/
def StartsWithDollar (cs : List Char) : Prop := ['$'] <+: cs ∨ ['\\', 'u', '0', '0', '2', '4'] <+: cs

instance : DecidablePred StartsWithDollar := fun cs =>
  inferInstanceAs (Decidable (['$'] <+: cs ∨ ['\\', 'u', '0', '0', '2', '4'] <+: cs))

theorem ofNat_eq_dollar_iff {n : Nat} : Char.ofNat n = '$' ↔ n = 36 := by
  constructor
  · intro h
    by_cases hvalid : n.isValidChar
    · have hn : (Char.ofNat n).toNat = n := by
        rw [Char.ofNat, dif_pos hvalid]
        rfl
      rw [← hn, h]
      rfl
    · rw [Char.ofNat, dif_neg hvalid] at h
      cases h
  · rintro rfl
    rfl

/-- A hexadecimal digit below ten is a digit. -/
theorem hexDigit?_cases {c : Char} {n : Nat} (h : hexDigit? c = some n) :
    n < 16 ∧ (n < 10 → c = Char.ofNat (48 + n)) := by
  unfold hexDigit? at h
  split at h
  · rename_i hdigit
    simp only [Char.isDigit, Bool.and_eq_true, decide_eq_true_eq] at hdigit
    have hlow : 48 ≤ c.toNat := hdigit.1
    have hhigh : c.toNat ≤ 57 := hdigit.2
    obtain rfl : c.toNat - 48 = n := Option.some.inj h
    refine ⟨by omega, fun _ => ?_⟩
    rw [Nat.add_sub_cancel' hlow, Char.ofNat_toNat]
  · split at h
    · rename_i hletter
      have hlow : 97 ≤ c.toNat := hletter.1
      have hhigh : c.toNat ≤ 102 := hletter.2
      obtain rfl : c.toNat - 87 = n := Option.some.inj h
      omega
    · split at h
      · rename_i hletter
        have hlow : 65 ≤ c.toNat := hletter.1
        have hhigh : c.toNat ≤ 70 := hletter.2
        obtain rfl : c.toNat - 55 = n := Option.some.inj h
        omega
      · cases h

theorem hexUnit?_eq_some_iff {a b c d : Char} {n : Nat} :
    hexUnit? a b c d = some n ↔ ∃ w x y z, hexDigit? a = some w ∧ hexDigit? b = some x ∧ hexDigit? c = some y ∧
      hexDigit? d = some z ∧ ((w * 16 + x) * 16 + y) * 16 + z = n := by
  rw [hexUnit?]
  cases hexDigit? a <;> cases hexDigit? b <;> cases hexDigit? c <;> cases hexDigit? d <;> simp

theorem hexUnit?_eq_dollar_iff {a b c d : Char} :
    hexUnit? a b c d = some 36 ↔ a = '0' ∧ b = '0' ∧ c = '2' ∧ d = '4' := by
  constructor
  · intro h
    obtain ⟨w, x, y, z, ha, hb, hc, hd, hsum⟩ := hexUnit?_eq_some_iff.1 h
    have hw := hexDigit?_cases ha
    have hx := hexDigit?_cases hb
    have hy := hexDigit?_cases hc
    have hz := hexDigit?_cases hd
    obtain ⟨rfl, rfl, rfl, rfl⟩ : w = 0 ∧ x = 0 ∧ y = 2 ∧ z = 4 := by omega
    exact ⟨hw.2 (by omega), hx.2 (by omega), hy.2 (by omega), hz.2 (by omega)⟩
  · rintro ⟨rfl, rfl, rfl, rfl⟩
    decide

theorem ne_dollar_of_scanPair {high n : Nat} {p : Position} {cs : List Char} {x : Char}
    (h : scanPair high p cs = .char x n) : x ≠ '$' := by
  unfold scanPair at h
  split at h
  · cases h
  · cases h
  · split at h
    · split at h
      · cases h
      · split at h
        · obtain ⟨rfl, -⟩ := EscapeScan.char.inj h
          intro hx
          have hn := ofNat_eq_dollar_iff.1 hx
          omega
        · cases h
    · cases h
  · cases h
  · cases h

/-- The only escape that stands for a dollar sign is the one with its number. -/
theorem scanEscape_dollar_iff {e cs : List Char} (he : IsEscape e) {p : Position} {x : Char} {n : Nat}
    (h : scanEscape p (e ++ cs) = .char x n) : x = '$' ↔ e = ['u', '0', '0', '2', '4'] := by
  cases he with
  | @simple c hc =>
    obtain ⟨y, hy⟩ := exists_simpleEscape?_iff.2 hc
    have hread : scanEscape p ([c] ++ cs) = .char y 1 := scanEscape_simple hy
    obtain ⟨rfl, -⟩ := EscapeScan.char.inj (hread.symm.trans h)
    have hne : y ≠ '$' := by
      rintro rfl
      unfold simpleEscape? at hy
      split at hy <;> cases hy
    simp [hne]
  | @unicode a b c d ha hb hc hd =>
    obtain ⟨m, hm⟩ := exists_hexUnit?_iff.2 ⟨ha, hb, hc, hd⟩
    have hread : scanEscape p (['u', a, b, c, d] ++ cs) = _ := scanEscape_unicode hm
    rw [hread] at h
    have hdigits : ['u', a, b, c, d] = ['u', '0', '0', '2', '4'] ↔ m = 36 := by
      rw [← Option.some_inj (a := m), ← hm, hexUnit?_eq_dollar_iff]
      simp
    rw [hdigits]
    split at h
    · cases h
    · split at h
      · rename_i hlow hhigh
        have hne : m ≠ 36 := by
          rintro rfl
          cases hhigh
        simp [hne, ne_dollar_of_scanPair h]
      · cases h
        exact ofNat_eq_dollar_iff

/-- What is written with a dollar sign first says one first. -/
theorem startsWithDollar_iff {cs : List Char} (h : IsStringRest cs) {s : String} (hs : textFrom 0 cs = some s) :
    StartsWithDollar cs ↔ ['$'] <+: s.toList := by
  cases h with
  | close =>
    obtain rfl : "" = s := Option.some.inj hs
    decide
  | @char c cs hquote hslash hcontrol h =>
    rw [textFrom_cons hquote hslash hcontrol, Option.map_eq_some_iff] at hs
    obtain ⟨t, -, rfl⟩ := hs
    simp [StartsWithDollar, List.cons_prefix_cons, Ne.symm hslash]
  | @escape e cs he h =>
    obtain ⟨x, n, rest, hescape, hlist⟩ := textFrom_escape hs
    have hdollar := scanEscape_dollar_iff he hescape
    have hwritten : StartsWithDollar ('\\' :: (e ++ cs)) ↔ e = ['u', '0', '0', '2', '4'] := by
      cases he with
      | @simple c hc =>
        have hne : c ≠ 'u' := by
          rintro rfl
          simp at hc
        simp [StartsWithDollar, List.cons_prefix_cons, Ne.symm hne]
      | unicode => simp [StartsWithDollar, List.cons_prefix_cons, eq_comm]
    rw [hwritten, ← hdollar, hlist]
    simp [List.cons_prefix_cons, eq_comm]

end SchemaCheck.Json
