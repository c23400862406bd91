import SchemaCheck.Json.Token
import SchemaCheck.Proofs.Grammar
/-!
# Strings — how strings are read

A string that can be passed over is one (`isStringRest_of_scanString`), and every string is read to its closing quote,
whatever follows it (`scanString_of_isStringRest`).  Whether its escapes stand for characters does not matter for that;
two escapes that write one character are read together, so both proofs go by the length of the text.
-/
namespace SchemaCheck.Json

/-! ## Escapes -/

theorem exists_hexDigit?_iff {c : Char} : (∃ n, hexDigit? c = some n) ↔ IsHex c := by
  unfold hexDigit? IsHex
  split
  · simp_all
  · split
    · simp_all
    · split <;> simp_all

theorem exists_simpleEscape?_iff {c : Char} :
    (∃ x, simpleEscape? c = some x) ↔ c ∈ ['"', '\\', '/', 'b', 'f', 'n', 'r', 't'] := by
  constructor
  · rintro ⟨x, h⟩
    unfold simpleEscape? at h
    split at h <;> cases h <;> decide
  · simp only [List.mem_cons, List.not_mem_nil, or_false]
    rintro (rfl | rfl | rfl | rfl | rfl | rfl | rfl | rfl) <;> exact ⟨_, rfl⟩

theorem exists_hexUnit?_iff {a b c d : Char} :
    (∃ n, hexUnit? a b c d = some n) ↔ IsHex a ∧ IsHex b ∧ IsHex c ∧ IsHex d := by
  simp only [← exists_hexDigit?_iff, hexUnit?]
  cases hexDigit? a <;> cases hexDigit? b <;> cases hexDigit? c <;> cases hexDigit? d <;> simp

/-- How many characters after its backslash an escape takes, if it can be passed over. -/
def EscapeScan.length? : EscapeScan → Option Nat
  | .char _ n => some n
  | .noChar _ n => some n
  | .failed _ => none

theorem scanPair_of_ne {high : Nat} {p : Position} {c : Char} {cs : List Char} (h : c ≠ '\\') :
    scanPair high p (c :: cs) = .noChar ⟨.escapeUnpaired, p.afterByte c⟩ 5 := by
  unfold scanPair
  split <;> simp_all

theorem scanPair_unicode {high low : Nat} {p : Position} {a b c d : Char} {cs : List Char}
    (h : hexUnit? a b c d = some low) : scanPair high p ('\\' :: 'u' :: a :: b :: c :: d :: cs) =
      if isLow low then .char (Char.ofNat (0x10000 + (high - 0xD800) * 0x400 + (low - 0xDC00))) 11
      else .noChar ⟨.surrogateAlone, p.right 6⟩ 5 := by
  rw [scanPair]
  simp only [h]

theorem scanEscape_unicode {n : Nat} {p : Position} {a b c d : Char} {cs : List Char}
    (h : hexUnit? a b c d = some n) : scanEscape p ('u' :: a :: b :: c :: d :: cs) =
      if isLow n then .noChar ⟨.surrogateAlone, p.right 6⟩ 5
      else if isHigh n then scanPair n (p.right 6) cs
      else .char (Char.ofNat n) 5 := by
  rw [scanEscape]
  simp only [h]

theorem scanEscape_simple {p : Position} {c x : Char} {cs : List Char} (h : simpleEscape? c = some x) :
    scanEscape p (c :: cs) = .char x 1 := by
  unfold scanEscape
  split
  · simp_all
  · rename_i heq
    cases heq
    cases h
  · rename_i heq
    cases heq
    simp only [h]

theorem scanPair_simple {high : Nat} {p : Position} {c x : Char} {cs : List Char} (h : simpleEscape? c = some x) :
    scanPair high p ('\\' :: c :: cs) = .noChar ⟨.escapeUnpaired, (p.right 1).afterByte c⟩ 5 := by
  unfold scanPair
  split
  · simp_all
  · simp_all
  · rename_i heq
    cases heq
    cases h
  · rename_i heq
    cases heq
    rfl
  · rename_i hslash heq
    cases heq
    exact absurd rfl (hslash c cs rfl)

/-- What follows the first half of a pair is its second half or does not belong to it. -/
theorem scanPair_of_isStringRest {s : List Char} (h : IsStringRest s) (high : Nat) (p : Position) :
    ∃ r xs t, (∀ rest, scanPair high p (s ++ rest) = r) ∧ r.length? = some (5 + xs.length) ∧ s = xs ++ t ∧
      IsStringRest t := by
  cases h with
  | close => exact ⟨_, [], _, fun rest => scanPair_of_ne (by decide), rfl, rfl, .close⟩
  | char hquote hslash hcontrol h =>
    exact ⟨_, [], _, fun rest => scanPair_of_ne hslash, rfl, rfl, .char hquote hslash hcontrol h⟩
  | @escape e t he h =>
    cases he with
    | simple hc =>
      obtain ⟨x, hx⟩ := exists_simpleEscape?_iff.2 hc
      exact ⟨_, [], _, fun rest => scanPair_simple hx, rfl, rfl, .escape (.simple hc) h⟩
    | @unicode a b c d ha hb hc hd =>
      obtain ⟨low, hlow⟩ := exists_hexUnit?_iff.2 ⟨ha, hb, hc, hd⟩
      by_cases hpair : isLow low = true
      · refine ⟨_, ['\\', 'u', a, b, c, d], t, fun rest => (scanPair_unicode hlow).trans (if_pos hpair), rfl, rfl, h⟩
      · refine ⟨_, [], _, fun rest => (scanPair_unicode hlow).trans (if_neg hpair), rfl, rfl,
          .escape (.unicode ha hb hc hd) h⟩

/-- An escape is passed over, together with the one after it if both write one character. -/
theorem scanEscape_of_isEscape {e s : List Char} (he : IsEscape e) (h : IsStringRest s) (p : Position) :
    ∃ r xs t, (∀ rest, scanEscape p (e ++ (s ++ rest)) = r) ∧ r.length? = some xs.length ∧ e ++ s = xs ++ t ∧
      IsStringRest t := by
  cases he with
  | @simple c hc =>
    obtain ⟨x, hx⟩ := exists_simpleEscape?_iff.2 hc
    exact ⟨.char x 1, [c], s, fun rest => scanEscape_simple hx, rfl, rfl, h⟩
  | @unicode a b c d ha hb hc hd =>
    obtain ⟨n, hn⟩ := exists_hexUnit?_iff.2 ⟨ha, hb, hc, hd⟩
    have hread : ∀ rest, scanEscape p (['u', a, b, c, d] ++ (s ++ rest)) =
        if isLow n then .noChar ⟨.surrogateAlone, p.right 6⟩ 5
        else if isHigh n then scanPair n (p.right 6) (s ++ rest)
        else .char (Char.ofNat n) 5 := fun rest => scanEscape_unicode hn
    by_cases hlow : isLow n = true
    · exact ⟨_, ['u', a, b, c, d], s, fun rest => (hread rest).trans (if_pos hlow), rfl, rfl, h⟩
    by_cases hhigh : isHigh n = true
    · obtain ⟨r, xs, t, hr, hlength, rfl, ht⟩ := scanPair_of_isStringRest h n (p.right 6)
      refine ⟨r, ['u', a, b, c, d] ++ xs, t, fun rest => ?_, ?_, (List.append_assoc _ _ _).symm, ht⟩
      · rw [hread, if_neg hlow, if_pos hhigh, hr]
      · rw [hlength, List.length_append]
        rfl
    · exact ⟨_, ['u', a, b, c, d], s, fun rest => (hread rest).trans ((if_neg hlow).trans (if_neg hhigh)), rfl, rfl, h⟩

theorem scanPair_length? {high : Nat} {p : Position} {cs : List Char} {n : Nat}
    (h : (scanPair high p cs).length? = some n) : ∃ xs rest, cs = xs ++ rest ∧ n = 5 + xs.length ∧
      ∀ s, IsStringRest s → IsStringRest (xs ++ s) := by
  unfold scanPair at h
  split at h
  · cases h
  · cases h
  · split at h
    · split at h
      · cases h
      · rename_i a b c d rest _ low hlow
        split at h
        · cases h
          obtain ⟨ha, hb, hc, hd⟩ := exists_hexUnit?_iff.1 ⟨low, hlow⟩
          exact ⟨['\\', 'u', a, b, c, d], rest, rfl, rfl, fun s => .escape (.unicode ha hb hc hd)⟩
        · cases h
          exact ⟨[], _, rfl, rfl, fun s hs => hs⟩
    · cases h
  · cases h
    exact ⟨[], _, rfl, rfl, fun s hs => hs⟩
  · cases h
    exact ⟨[], _, rfl, rfl, fun s hs => hs⟩

/-- An escape that is passed over has the form of one or of two. -/
theorem scanEscape_length? {p : Position} {cs : List Char} {n : Nat} (h : (scanEscape p cs).length? = some n) :
    ∃ xs rest, cs = xs ++ rest ∧ xs.length = n ∧ ∀ s, IsStringRest s → IsStringRest ('\\' :: (xs ++ s)) := by
  unfold scanEscape at h
  split at h
  · cases h
  · split at h
    · split at h
      · cases h
      · rename_i a b c d more _ m hm
        obtain ⟨ha, hb, hc, hd⟩ := exists_hexUnit?_iff.1 ⟨m, hm⟩
        have hescape : ∀ s, IsStringRest s → IsStringRest ('\\' :: (['u', a, b, c, d] ++ s)) :=
          fun s => .escape (.unicode ha hb hc hd)
        split at h
        · cases h
          exact ⟨['u', a, b, c, d], more, rfl, rfl, hescape⟩
        · split at h
          · obtain ⟨xs, rest, rfl, rfl, hxs⟩ := scanPair_length? h
            exact ⟨['u', a, b, c, d] ++ xs, rest, rfl, by simp; omega, fun s hs => hescape _ (hxs s hs)⟩
          · cases h
            exact ⟨['u', a, b, c, d], more, rfl, rfl, hescape⟩
    · cases h
  · rename_i c rest hu
    split at h
    · rename_i x hx
      cases h
      exact ⟨[c], rest, rfl, rfl, fun s => .escape (.simple (exists_simpleEscape?_iff.1 ⟨x, hx⟩))⟩
    · cases h

/-! ## Reading on -/

/-- After some characters. -/
def Position.advance (p : Position) (cs : List Char) : Position := cs.foldl Position.after p

theorem scanString_inside (xs rest : List Char) :
    ∀ (done : List Char) (bad : Option Problem) (count : Nat) (p : Position),
    scanString xs.length done bad count p (xs ++ rest) =
      scanString 0 done bad (count + xs.length) (p.advance xs) rest := by
  induction xs with
  | nil => exact fun done bad count p => rfl
  | cons c xs ih =>
    intro done bad count p
    have hstep : scanString (c :: xs).length done bad count p (c :: xs ++ rest) =
        scanString xs.length done bad (count + 1) (p.after c) (xs ++ rest) := rfl
    rw [hstep, ih, List.length_cons, Nat.add_assoc, Nat.add_comm 1]
    rfl

section Reading

variable {done : List Char} {bad : Option Problem} {count : Nat} {p : Position} {c : Char} {cs : List Char}

theorem exists_scanString_quote (done : List Char) (bad : Option Problem) (count : Nat) (p : Position) : ∃ text,
    ∀ rest, scanString 0 done bad count p ('"' :: rest) = ⟨⟨text, none⟩, p.after '"', count + 1⟩ := ⟨_, fun _ => rfl⟩

theorem scanString_char (hquote : c ≠ '"') (hslash : c ≠ '\\') (hcontrol : 32 ≤ c.toNat) :
    scanString 0 done bad count p (c :: cs) = scanString 0 (c :: done) bad (count + 1) (p.after c) cs := by
  rw [scanString.eq_def]
  simp only [if_neg hquote, if_neg (Nat.not_lt.2 hcontrol), if_pos hslash]

theorem scanString_control (hquote : c ≠ '"') (hcontrol : c.toNat < 32) :
    scanString 0 done bad count p (c :: cs) = .atControl bad count p c := by
  rw [scanString.eq_def]
  simp only [if_neg hquote, if_pos hcontrol]

/-- An escape that is passed over adds to the string what it stands for. -/
theorem exists_scanString_backslash {r : EscapeScan} {n : Nat} (hr : r.length? = some n) (done : List Char)
    (bad : Option Problem) (count : Nat) : ∃ done' bad', ∀ p rest, scanEscape p rest = r →
      scanString 0 done bad count p ('\\' :: rest) = scanString n done' bad' (count + 1) (p.after '\\') rest := by
  cases r with
  | char x m =>
    cases hr
    refine ⟨x :: done, bad, fun p rest hp => ?_⟩
    rw [scanString.eq_def]
    simp only [hp]
    rfl
  | noChar q m =>
    cases hr
    refine ⟨done, bad.or (some q), fun p rest hp => ?_⟩
    rw [scanString.eq_def]
    simp only [hp]
    rfl
  | failed q => cases hr

theorem skipping_scanString_of_failed (h : (scanEscape p cs).length? = none) :
    (scanString 0 done bad count p ('\\' :: cs)).content.skipping ≠ none := by
  rw [scanString.eq_def]
  cases hr : scanEscape p cs with
  | failed q => simp [StringScan.failed, hr]
  | char x m => simp [hr, EscapeScan.length?] at h
  | noChar q m => simp [hr, EscapeScan.length?] at h

end Reading

/-- **A string is read to its closing quote**, and in the same way whatever follows it. -/
theorem scanString_of_isStringRest {s : List Char} (h : IsStringRest s)
    (done : List Char) (bad : Option Problem) (count : Nat) (p : Position) : ∃ scan : StringScan,
      scan.content.skipping = none ∧ scan.length = count + s.length ∧
        ∀ rest, scanString 0 done bad count p (s ++ rest) = scan := by
  cases h with
  | close =>
    obtain ⟨text, htext⟩ := exists_scanString_quote done bad count p
    exact ⟨_, rfl, rfl, htext⟩
  | @char c cs hquote hslash hcontrol h =>
    obtain ⟨scan, hskipping, hlength, hscan⟩ := scanString_of_isStringRest h (c :: done) bad (count + 1) (p.after c)
    refine ⟨scan, hskipping, ?_, fun rest => ?_⟩
    · rw [hlength, List.length_cons, Nat.add_assoc, Nat.add_comm 1]
    · rw [List.cons_append, scanString_char hquote hslash hcontrol, hscan]
  | @escape e cs he h =>
    obtain ⟨r, xs, t, hr, hn, hsplit, ht⟩ := scanEscape_of_isEscape he h p
    obtain ⟨done', bad', hstep⟩ := exists_scanString_backslash hn done bad count
    obtain ⟨scan, hskipping, hlength, hscan⟩ :=
      scanString_of_isStringRest ht done' bad' (count + 1 + xs.length) ((p.after '\\').advance xs)
    refine ⟨scan, hskipping, ?_, fun rest => ?_⟩
    · rw [hlength, hsplit, List.length_cons, List.length_append]
      omega
    · have hrest : e ++ (cs ++ rest) = xs ++ (t ++ rest) := by rw [← List.append_assoc, hsplit, List.append_assoc]
      rw [List.cons_append, List.append_assoc, hstep p _ (hr rest), hrest, scanString_inside, hscan]
termination_by s.length
decreasing_by
  · simp
  · have := congrArg List.length hsplit
    simp at this ⊢
    omega

/-- **What is read as a string that can be passed over is one.** -/
theorem isStringRest_of_scanString {cs : List Char} {done : List Char} {bad : Option Problem} {count : Nat}
    {p : Position} (h : (scanString 0 done bad count p cs).content.skipping = none) :
    ∃ s rest, cs = s ++ rest ∧ IsStringRest s ∧ (scanString 0 done bad count p cs).length = count + s.length := by
  induction hn : cs.length using Nat.strongRecOn generalizing cs done bad count p with
  | _ n ih =>
    subst hn
    cases cs with
    | nil => cases h
    | cons c cs =>
      by_cases hquote : c = '"'
      · subst hquote
        exact ⟨['"'], cs, rfl, .close, rfl⟩
      by_cases hcontrol : c.toNat < 32
      · rw [scanString_control hquote hcontrol] at h
        cases h
      by_cases hslash : c = '\\'
      · subst hslash
        cases hm : (scanEscape p cs).length? with
        | none => exact absurd h (skipping_scanString_of_failed hm)
        | some m =>
          obtain ⟨xs, rest, rfl, rfl, hxs⟩ := scanEscape_length? hm
          obtain ⟨done', bad', hstep⟩ := exists_scanString_backslash hm done bad count
          rw [hstep p _ rfl, scanString_inside] at h ⊢
          have hshorter : rest.length < ('\\' :: (xs ++ rest)).length := by
            rw [List.length_cons, List.length_append]
            omega
          obtain ⟨s, rest, rfl, hs, hlength⟩ := ih rest.length hshorter h rfl
          refine ⟨'\\' :: (xs ++ s), rest, by simp, hxs s hs, ?_⟩
          rw [hlength, List.length_cons, List.length_append]
          omega
      · rw [scanString_char hquote hslash (Nat.not_lt.1 hcontrol)] at h ⊢
        obtain ⟨s, rest, rfl, hs, hlength⟩ := ih cs.length (Nat.lt_succ_self _) h rfl
        refine ⟨c :: s, rest, rfl, .char hquote hslash (Nat.not_lt.1 hcontrol) hs, ?_⟩
        rw [hlength, List.length_cons, Nat.add_assoc, Nat.add_comm 1]

/-- A string that cannot be passed over cannot be read. -/
theorem text_of_skipping {cs : List Char} {q : Problem} : ∀ {inside : Nat} {done : List Char} {bad : Option Problem}
    {count : Nat} {p : Position}, (scanString inside done bad count p cs).content.skipping = some q →
      ∃ r, (scanString inside done bad count p cs).content.text = .error r := by
  intro inside done bad count p h
  fun_induction scanString inside done bad count p cs with
  | case1 => exact ⟨_, rfl⟩
  | case2 done bad count p c rest n ih => exact ih h
  | case3 => cases h
  | case4 => exact ⟨_, rfl⟩
  | case5 done bad count p c rest hquote hcontrol hslash ih => exact ih h
  | case6 done bad count p c rest hquote hcontrol hslash x n hescape ih => exact ih h
  | case7 done bad count p c rest hquote hcontrol hslash q n hescape ih => exact ih h
  | case8 => exact ⟨_, rfl⟩

end SchemaCheck.Json
