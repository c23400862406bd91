import SchemaCheck.Json.Token
import SchemaCheck.Proofs.Grammar
import SchemaCheck.Proofs.Results
/-!
# Numerals — how numbers are read

A number is read to its end and no further: what is read as a number is one that nothing goes on with
(`isNumber_of_scanNumber`), and a number is read as the same one whatever follows it, unless that goes on with it
(`scanNumber_of_isNumber`).  Both hold part by part: the digits before the point, the fraction and the exponent.
-/
namespace SchemaCheck.Json

/-! ## Digits -/

/-- What follows a run of digits that has been read to its end. -/
def NoDigit (rest : List Char) : Prop := ∀ c ∈ rest.head?, c.isDigit = false

/-- What is taken off a text ends where the rest does not go on with it. -/
theorem takeWhile_append_of_stop {p : Char → Bool} {cs rest : List Char} (hcs : ∀ c ∈ cs, p c = true)
    (hrest : ∀ c ∈ rest.head?, p c = false) : (cs ++ rest).takeWhile p = cs := by
  rw [List.takeWhile_append_of_pos hcs]
  cases rest with
  | nil => simp
  | cons c rest => simp [hrest c rfl]

section Digits

variable {ds rest : List Char}

theorem takeWhile_digits (hds : AllDigits ds) (hrest : NoDigit rest) : (ds ++ rest).takeWhile Char.isDigit = ds :=
  takeWhile_append_of_stop hds hrest

theorem dropWhile_digits (hds : AllDigits ds) (hrest : NoDigit rest) :
    (ds ++ rest).dropWhile Char.isDigit = rest := by
  rw [List.dropWhile_append_of_pos hds]
  cases rest with
  | nil => rfl
  | cons c rest => simp [hrest c rfl]

theorem allDigits_takeWhile (cs : List Char) : AllDigits (cs.takeWhile Char.isDigit) :=
  List.all_eq_true.1 List.all_takeWhile

theorem noDigit_dropWhile (cs : List Char) : NoDigit (cs.dropWhile Char.isDigit) := fun c hc => by
  have h := List.head?_dropWhile_not Char.isDigit cs
  rw [Option.mem_def.1 hc] at h
  exact h

end Digits

/-! ## Numbers -/

/-- The characters of an exponent as it has been read. -/
def exponentLength (x : Option (Bool × Nat × List Char)) : Nat := (x.map fun y => y.2.1 + y.2.2.length).getD 0

theorem NumberText.length_eq (t : NumberText) : t.length = (if t.negative then 1 else 0) + t.whole.length +
    (t.fraction.map fun ds => ds.length + 1).getD 0 + exponentLength t.exponent := by
  cases h : t.exponent <;> simp [NumberText.length, NumberText.lengthBeforeExponent, exponentLength, h, Nat.add_assoc]

/-- What may not follow a number that ends with an exponent, or with none. -/
def EndsExponent (exponent rest : List Char) : Prop :=
  ∀ c ∈ rest.head?, c.isDigit = false ∧ (exponent = [] → c ≠ 'e' ∧ c ≠ 'E')

/-- An exponent once its letter and its sign are known. -/
theorem scanExponent_letter {p : Position} {e : Char} {sign digits : List Char} (he : e = 'e' ∨ e = 'E')
    (hsign : sign ∈ [[], ['+'], ['-']]) (hfirst : sign = [] → ∀ c ∈ digits.head?, c ≠ '+' ∧ c ≠ '-') :
    ∃ q, scanExponent p (e :: (sign ++ digits)) =
      if digits.head?.any Char.isDigit then
        .ok (some (sign.head? == some '-', sign.length + 1, digits.takeWhile Char.isDigit))
      else .error q := by
  have hletter : ¬ (e ≠ 'e' ∧ e ≠ 'E') := fun ⟨hlow, hup⟩ => he.elim hlow hup
  rw [scanExponent, if_neg hletter]
  simp only [List.mem_cons, List.not_mem_nil, or_false] at hsign
  cases digits with
  | nil => rcases hsign with rfl | rfl | rfl <;> exact ⟨_, rfl⟩
  | cons c rest =>
    rcases hsign with rfl | rfl | rfl
    · obtain ⟨hplus, hminus⟩ := hfirst rfl c rfl
      exact ⟨_, by simp [hplus, beq_eq_false_iff_ne.2 hminus]; rfl⟩
    · exact ⟨_, rfl⟩
    · exact ⟨_, rfl⟩

/-- A sign, if there is one, and what follows it. -/
theorem exists_sign (cs : List Char) : ∃ sign digits, cs = sign ++ digits ∧ sign ∈ [[], ['+'], ['-']] ∧
    (sign = [] → ∀ c ∈ digits.head?, c ≠ '+' ∧ c ≠ '-') := by
  cases cs with
  | nil => exact ⟨[], [], rfl, by simp, by simp⟩
  | cons c rest =>
    by_cases hplus : c = '+'
    · exact ⟨['+'], rest, by simp [hplus], by simp, by simp⟩
    by_cases hminus : c = '-'
    · exact ⟨['-'], rest, by simp [hminus], by simp, by simp⟩
    exact ⟨[], c :: rest, rfl, by simp, by simp [hplus, hminus]⟩

theorem scanExponent_of_isExponent {exponent : List Char} (h : IsExponent exponent) :
    ∃ x, exponentLength x = exponent.length ∧
      ∀ p rest, EndsExponent exponent rest → scanExponent p (exponent ++ rest) = .ok x := by
  cases h with
  | absent =>
    refine ⟨none, rfl, fun p rest hrest => ?_⟩
    cases rest with
    | nil => rfl
    | cons c rest => simp [scanExponent, (hrest c rfl).2 rfl]
  | @digits e sign ds he hsign hne h =>
    obtain ⟨d, ds, rfl⟩ := List.exists_cons_of_ne_nil hne
    have hd : d.isDigit = true := h d List.mem_cons_self
    refine ⟨some (sign.head? == some '-', sign.length + 1, d :: ds), ?_, fun p rest hrest => ?_⟩
    · simp only [exponentLength, Option.map_some, Option.getD_some, List.length_cons, List.length_append]
      omega
    · have hfirst : ∀ c ∈ (d :: ds ++ rest).head?, c ≠ '+' ∧ c ≠ '-' := by
        rintro _ ⟨⟩
        constructor <;> (rintro rfl; cases hd)
      obtain ⟨q, hread⟩ := scanExponent_letter (p := p) he hsign fun _ => hfirst
      rw [List.cons_append, List.append_assoc, hread, takeWhile_digits h fun c hc => (hrest c hc).1]
      exact if_pos hd

theorem isExponent_of_scanExponent {p : Position} {cs : List Char} {x : Option (Bool × Nat × List Char)}
    (hcs : NoDigit cs) (h : scanExponent p cs = .ok x) : ∃ exponent rest, cs = exponent ++ rest ∧ IsExponent exponent ∧
      exponentLength x = exponent.length ∧ EndsExponent exponent rest := by
  cases cs with
  | nil =>
    cases h
    exact ⟨[], [], rfl, .absent, rfl, by simp [EndsExponent]⟩
  | cons e cs =>
    by_cases he : e = 'e' ∨ e = 'E'
    · obtain ⟨sign, digits, rfl, hsign, hfirst⟩ := exists_sign cs
      obtain ⟨q, hread⟩ := scanExponent_letter (p := p) he hsign hfirst
      rw [hread] at h
      split at h
      · rename_i hdigit
        cases h
        have hne : digits.takeWhile Char.isDigit ≠ [] := by
          cases digits <;> simp_all
        refine ⟨e :: (sign ++ digits.takeWhile Char.isDigit), digits.dropWhile Char.isDigit, by simp,
          .digits he hsign hne (allDigits_takeWhile digits), ?_, fun c hc => ⟨noDigit_dropWhile digits c hc, by simp⟩⟩
        simp only [exponentLength, Option.map_some, Option.getD_some, List.length_cons, List.length_append]
        omega
      · cases h
    · rw [not_or] at he
      rw [scanExponent, if_pos he] at h
      cases h
      exact ⟨[], e :: cs, rfl, .absent, rfl, by simp [EndsExponent, he, hcs e rfl]⟩

theorem IsExponent.noDigit_append {exponent rest : List Char} (h : IsExponent exponent) (hrest : NoDigit rest) :
    NoDigit (exponent ++ rest) := by
  cases h with
  | absent => exact hrest
  | digits he hsign hne h =>
    rintro _ ⟨⟩
    rcases he with rfl | rfl <;> rfl

theorem IsFraction.noDigit_append {fraction rest : List Char} (h : IsFraction fraction) (hrest : NoDigit rest) :
    NoDigit (fraction ++ rest) := by
  cases h with
  | absent => exact hrest
  | digits hne h =>
    rintro _ ⟨⟩
    rfl

section Unsigned

variable {negative : Bool} {p : Position} {whole rest : List Char}

/-- The digits before the point are read to their end. -/
theorem exists_whole_of_scanUnsigned {cs : List Char} {t : NumberText} (h : scanUnsigned negative p cs = .ok t) :
    ∃ whole rest, cs = whole ++ rest ∧ IsWhole whole ∧ NoDigit rest := by
  refine ⟨cs.takeWhile Char.isDigit, cs.dropWhile Char.isDigit, List.takeWhile_append_dropWhile.symm, ?_,
    noDigit_dropWhile cs⟩
  unfold scanUnsigned at h
  split at h
  · cases h
  rename_i c rest
  split at h
  · cases h
  rename_i hdigit
  split at h
  · cases h
  rename_i hzero
  have hc : c.isDigit = true := by simpa using hdigit
  refine ⟨by simp [hc], allDigits_takeWhile _, fun hhead => ?_⟩
  rw [List.takeWhile_cons_of_pos hc] at hhead ⊢
  obtain rfl : c = '0' := Option.some.inj hhead
  -- a zero in front has no digit after it
  cases rest with
  | nil => rfl
  | cons d rest => simp_all

theorem scanUnsigned_append (hwhole : IsWhole whole) (hrest : NoDigit rest) :
    scanUnsigned negative p (whole ++ rest) = scanFraction negative whole (p.right whole.length) rest := by
  obtain ⟨c, ds, rfl⟩ := List.exists_cons_of_ne_nil hwhole.nonempty
  have hc : c.isDigit = true := hwhole.digits c List.mem_cons_self
  have hzero : ¬ (c = '0' ∧ (ds ++ rest).head?.any Char.isDigit = true) := by
    rintro ⟨rfl, hany⟩
    obtain rfl : ds = [] := (List.cons.inj (hwhole.zero rfl)).2
    cases rest with
    | nil => cases hany
    | cons d rest => exact Bool.false_ne_true ((hrest d rfl).symm.trans hany)
  rw [List.cons_append, scanUnsigned, if_neg (by simp [hc]), if_neg hzero, ← List.cons_append,
    takeWhile_digits hwhole.digits hrest, dropWhile_digits hwhole.digits hrest]

theorem scanFraction_of_noPoint (hpoint : rest.head? ≠ some '.') :
    scanFraction negative whole p rest = (scanExponent p rest).map fun e => ⟨negative, whole, none, e⟩ := by
  unfold scanFraction
  split
  · exact absurd rfl hpoint
  · rfl

theorem scanFraction_of_isFraction {fraction : List Char} (h : IsFraction fraction) :
    ∃ y : Option (List Char), (y.map fun ds => ds.length + 1).getD 0 = fraction.length ∧
      ∀ negative whole p rest, NoDigit rest → (fraction = [] → rest.head? ≠ some '.') →
        ∃ q, scanFraction negative whole p (fraction ++ rest) =
          (scanExponent q rest).map fun e => ⟨negative, whole, y, e⟩ := by
  cases h with
  | absent => exact ⟨none, rfl, fun negative whole p rest _ hpoint => ⟨p, scanFraction_of_noPoint (hpoint rfl)⟩⟩
  | @digits ds hne h =>
    refine ⟨some ds, rfl, fun negative whole p rest hrest _ => ⟨p.right (1 + ds.length), ?_⟩⟩
    rw [List.cons_append, scanFraction, takeWhile_digits h hrest, dropWhile_digits h hrest]
    exact if_neg (by simpa using hne)

theorem isFraction_of_scanFraction {t : NumberText} (hrest : NoDigit rest)
    (h : scanFraction negative whole p rest = .ok t) : ∃ fraction after x, rest = fraction ++ after ∧
      IsFraction fraction ∧ NoDigit after ∧ (fraction = [] → after.head? ≠ some '.') ∧
      (∃ q, scanExponent q after = .ok x) ∧
      t.length = (if negative then 1 else 0) + whole.length + fraction.length + exponentLength x := by
  by_cases hpoint : rest.head? = some '.'
  · obtain ⟨rest, rfl⟩ := List.head?_eq_some_iff.1 hpoint
    rw [scanFraction] at h
    split at h
    · cases h
    · rename_i hempty
      obtain ⟨x, hx, rfl⟩ := map_eq_ok_iff.1 h
      refine ⟨'.' :: rest.takeWhile Char.isDigit, rest.dropWhile Char.isDigit, x, by simp,
        .digits (by simpa using hempty) (allDigits_takeWhile rest), noDigit_dropWhile rest, by simp, ⟨_, hx⟩, ?_⟩
      rw [NumberText.length_eq]
      rfl
  · rw [scanFraction_of_noPoint hpoint] at h
    obtain ⟨x, hx, rfl⟩ := map_eq_ok_iff.1 h
    refine ⟨[], rest, x, rfl, .absent, hrest, fun _ => hpoint, ⟨_, hx⟩, ?_⟩
    rw [NumberText.length_eq]
    rfl

end Unsigned

theorem scanNumber_of_noSign {p : Position} {cs : List Char} (h : cs.head? ≠ some '-') :
    scanNumber p cs = scanUnsigned false p cs := by
  unfold scanNumber
  split
  · exact absurd rfl h
  · rfl

theorem IsWhole.head?_ne {whole : List Char} (h : IsWhole whole) (rest : List Char) :
    (whole ++ rest).head? ≠ some '-' := by
  obtain ⟨c, ds, rfl⟩ := List.exists_cons_of_ne_nil h.nonempty
  rintro ⟨⟩
  have hdigit := h.digits '-' List.mem_cons_self
  cases hdigit

/-- **A number is read**, and as the same one whatever follows it, unless that goes on with it. -/
theorem scanNumber_of_isNumber {s : List Char} (h : IsNumber s) :
    ∃ t : NumberText, t.length = s.length ∧ ∀ p rest, ¬ GoesOn s rest → scanNumber p (s ++ rest) = .ok t := by
  obtain ⟨hsign, hwhole, hfraction, hexponent⟩ := h
  rename_i sign whole fraction exponent
  obtain ⟨y, hy, hreadFraction⟩ := scanFraction_of_isFraction hfraction
  obtain ⟨x, hx, hreadExponent⟩ := scanExponent_of_isExponent hexponent
  have hunsigned : ∀ negative p rest, ¬ GoesOn (sign ++ (whole ++ (fraction ++ exponent))) rest →
      scanUnsigned negative p (whole ++ (fraction ++ (exponent ++ rest))) = .ok ⟨negative, whole, y, x⟩ := by
    intro negative p rest hrest
    rw [goesOn_number_iff hsign hwhole hfraction hexponent] at hrest
    push Not at hrest
    have hdigit : NoDigit rest := fun c hc => by simpa using (hrest c hc).1
    have hafter : NoDigit (exponent ++ rest) := hexponent.noDigit_append hdigit
    have hpoint : fraction = [] → (exponent ++ rest).head? ≠ some '.' := by
      intro hempty hhead
      cases hexponent with
      | absent => exact ((hrest '.' hhead).2 rfl).2.2 hempty rfl
      | digits he hsign hne h => rcases he with rfl | rfl <;> cases hhead
    have hends : EndsExponent exponent rest := fun c hc =>
      ⟨hdigit c hc, fun hempty => ⟨((hrest c hc).2 hempty).1, ((hrest c hc).2 hempty).2.1⟩⟩
    obtain ⟨q, hq⟩ := hreadFraction negative whole (p.right whole.length) _ hafter hpoint
    rw [scanUnsigned_append hwhole (hfraction.noDigit_append hafter), hq, hreadExponent q rest hends]
    rfl
  have hlength : ∀ negative, (⟨negative, whole, y, x⟩ : NumberText).length =
      (if negative then 1 else 0) + (whole ++ (fraction ++ exponent)).length := fun negative => by
    rw [NumberText.length_eq, hx, hy]
    simp only [List.length_append, Nat.add_assoc]
  have hassoc : ∀ rest, sign ++ (whole ++ (fraction ++ exponent)) ++ rest =
      sign ++ (whole ++ (fraction ++ (exponent ++ rest))) := by simp
  simp only [List.mem_cons, List.not_mem_nil, or_false] at hsign
  rcases hsign with rfl | rfl
  · refine ⟨⟨false, whole, y, x⟩, by simp [hlength], fun p rest hrest => ?_⟩
    rw [hassoc, List.nil_append, scanNumber_of_noSign (hwhole.head?_ne _), hunsigned false p rest hrest]
  · refine ⟨⟨true, whole, y, x⟩, by simp [hlength, Nat.add_comm], fun p rest hrest => ?_⟩
    rw [hassoc]
    exact hunsigned true (p.right 1) rest hrest

/-- **What is read as a number is one**, and is read to its end. -/
theorem isNumber_of_scanNumber {p : Position} {cs : List Char} {t : NumberText} (h : scanNumber p cs = .ok t) :
    ∃ s rest, cs = s ++ rest ∧ IsNumber s ∧ t.length = s.length ∧ ¬ GoesOn s rest := by
  obtain ⟨sign, negative, digits, q, rfl, hsign, hlength, h⟩ : ∃ sign negative digits q, cs = sign ++ digits ∧
      sign ∈ [[], ['-']] ∧ (if negative then 1 else 0) = sign.length ∧ scanUnsigned negative q digits = .ok t := by
    by_cases hminus : cs.head? = some '-'
    · obtain ⟨rest, rfl⟩ := List.head?_eq_some_iff.1 hminus
      exact ⟨['-'], true, rest, p.right 1, rfl, by simp, rfl, h⟩
    · rw [scanNumber_of_noSign hminus] at h
      exact ⟨[], false, cs, p, rfl, by simp, rfl, h⟩
  obtain ⟨whole, afterWhole, rfl, hwhole, hnoDigit⟩ := exists_whole_of_scanUnsigned h
  rw [scanUnsigned_append hwhole hnoDigit] at h
  obtain ⟨fraction, afterFraction, x, rfl, hfraction, hnoDigit, hpoint, ⟨r, hr⟩, ht⟩ :=
    isFraction_of_scanFraction hnoDigit h
  obtain ⟨exponent, rest, rfl, hexponent, hx, hends⟩ := isExponent_of_scanExponent hnoDigit hr
  refine ⟨sign ++ (whole ++ (fraction ++ exponent)), rest, by simp, ⟨hsign, hwhole, hfraction, hexponent⟩, ?_, ?_⟩
  · rw [ht, hlength, hx]
    simp only [List.length_append, Nat.add_assoc]
  · rw [goesOn_number_iff hsign hwhole hfraction hexponent]
    rintro ⟨c, hc, hdigit | ⟨hempty, hcase⟩⟩
    · rw [(hends c hc).1] at hdigit
      cases hdigit
    · obtain ⟨hlow, hup⟩ := (hends c hc).2 hempty
      rcases hcase with rfl | rfl | ⟨hnone, rfl⟩
      · exact hlow rfl
      · exact hup rfl
      · subst hempty
        exact hpoint hnone hc

end SchemaCheck.Json
