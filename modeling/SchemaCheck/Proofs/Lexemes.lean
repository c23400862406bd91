import SchemaCheck.Proofs.Data
import SchemaCheck.Proofs.Numerals
import SchemaCheck.Proofs.StringTexts
/-!
# Lexemes — how a text is cut into tokens

The first token of some characters is their end, has a flaw, or is that of a lexeme, and then the tokens of what follows
the lexeme come after it (`tokensFrom_cases`).  Conversely marks, scalars and strings are read as the same token
whatever follows them, unless that goes on with a number (`tokensFrom_mark`, `tokensFrom_scalar`, `tokensFrom_string`).
-/
namespace SchemaCheck.Json

/-! ## Words -/

theorem scanWord_append (p : Position) (w rest : List Char) : scanWord p w (w ++ rest) = .ok (p.advance w) := by
  induction w generalizing p with
  | nil => cases rest <;> rfl
  | cons c w ih =>
    rw [List.cons_append, scanWord, if_pos rfl, ih]
    rfl

theorem exists_of_scanWord {w cs : List Char} {p q : Position} (h : scanWord p w cs = .ok q) :
    ∃ rest, cs = w ++ rest := by
  induction w generalizing p cs with
  | nil => exact ⟨cs, rfl⟩
  | cons c w ih =>
    cases cs with
    | nil => cases h
    | cons d cs =>
      rw [scanWord] at h
      split at h
      · rename_i heq
        obtain ⟨rest, rfl⟩ := ih h
        exact ⟨rest, by rw [heq]; rfl⟩
      · cases h

/-! ## Tokens -/

theorem isBlank_iff {c : Char} : isBlank c = true ↔ c ∈ [' ', '\n', '\t', '\r'] := by simp [isBlank, or_assoc]

/-- The characters that a lexeme without a flaw is made of. -/
inductive Lexeme.Spelled : Lexeme → List Char → Prop
  | mark {c : Char} (h : c ∈ ['[', ']', '\x7b', '\x7d', ',', ':']) : Spelled (.mark c) [c]
  | null : Spelled .null ['n', 'u', 'l', 'l']
  | true : Spelled (.bool true) ['t', 'r', 'u', 'e']
  | false : Spelled (.bool false) ['f', 'a', 'l', 's', 'e']
  | number {t : NumberText} {s : List Char} (h : IsNumber s) : Spelled (.number t) s
  | string {content : Content} {s : List Char} (hskipping : content.skipping = none) (h : IsString s) :
      Spelled (.string content) s

/-- A lexeme with a flaw, after which nothing is read. -/
inductive Lexeme.IsFlawed : Lexeme → Prop
  | flawed (p : Problem) : IsFlawed (.flawed p)
  | stray : IsFlawed .stray
  | string {content : Content} {p q : Problem} (hskipping : content.skipping = some p)
      (htext : content.text = .error q) : IsFlawed (.string content)

theorem isBlank_isDigit_of_mark {c : Char} (h : c ∈ ['[', ']', '\x7b', '\x7d', ',', ':']) :
    isBlank c = false ∧ c.isDigit = false := by
  simp only [List.mem_cons, List.not_mem_nil, or_false] at h
  rcases h with rfl | rfl | rfl | rfl | rfl | rfl <;> exact ⟨rfl, rfl⟩

section First

variable (p : Position) {c : Char} (rest : List Char)

theorem scanToken_mark (h : c ∈ ['[', ']', '\x7b', '\x7d', ',', ':']) :
    scanToken p c rest = (⟨.mark c, p, p.afterByte c, p.right 1⟩, 1) := by
  have hmark : "[]\x7b\x7d,:".toList.contains c = true := by simpa using h
  rw [scanToken]
  simp only [hmark, if_true]

theorem scanToken_word {w : List Char} {l : Lexeme}
    (h : (c, w, l) ∈ [('n', ['u', 'l', 'l'], .null), ('t', ['r', 'u', 'e'], .bool true),
      ('f', ['a', 'l', 's', 'e'], .bool false)]) :
    (∀ q, scanWord (p.right 1) w rest = .ok q → scanToken p c rest = (⟨l, p, p.afterByte c, q⟩, w.length + 1)) ∧
      ∀ q, scanWord (p.right 1) w rest = .error q →
        scanToken p c rest = (⟨.flawed q, p, p.afterByte c, q.position⟩, 0) := by
  simp only [List.mem_cons, List.not_mem_nil, or_false, Prod.mk.injEq] at h
  rcases h with ⟨rfl, rfl, rfl⟩ | ⟨rfl, rfl, rfl⟩ | ⟨rfl, rfl, rfl⟩
  all_goals
    rw [scanToken]
    constructor <;> intro q hq <;> simp [hq]

theorem scanToken_number (h : c = '-' ∨ c.isDigit = true) :
    (∀ t, scanNumber p (c :: rest) = .ok t →
        scanToken p c rest = (⟨.number t, p, p.afterByte c, p.right t.length⟩, t.length)) ∧
      ∀ q, scanNumber p (c :: rest) = .error q →
        scanToken p c rest = (⟨.flawed q, p, p.afterByte c, q.position⟩, 0) := by
  have hnot : ∀ d, d.isDigit = false → d ≠ '-' → c ≠ d := by
    rintro d hd hminus rfl
    rcases h with rfl | h
    · exact hminus rfl
    · exact Bool.false_ne_true (hd.symm.trans h)
  have hmark : "[]\x7b\x7d,:".toList.contains c = false := by
    simp [hnot '[', hnot ']', hnot '\x7b', hnot '\x7d', hnot ',', hnot ':']
  rw [scanToken]
  simp only [hmark, Bool.false_eq_true, if_false, if_neg (hnot 'n' rfl (by decide)), if_neg (hnot 't' rfl (by decide)),
    if_neg (hnot 'f' rfl (by decide)), if_pos h]
  constructor <;> intro x hx <;> rw [hx]

theorem scanToken_string {scan : StringScan} (h : scanString 0 [] none 1 (p.right 1) rest = scan) :
    scanToken p '"' rest = (⟨.string scan.content, p, p.afterByte '"', scan.stop⟩,
      if scan.content.skipping.isSome then 0 else scan.length) := by
  subst h
  rfl

theorem scanToken_stray (hmark : c ∉ ['[', ']', '\x7b', '\x7d', ',', ':']) (hword : c ∉ ['n', 't', 'f'])
    (hnumber : ¬ (c = '-' ∨ c.isDigit = true)) (hquote : c ≠ '"') :
    scanToken p c rest = (⟨.stray, p, p.afterByte c, p.afterByte c⟩, 0) := by
  have hmark' : "[]\x7b\x7d,:".toList.contains c = false := by simpa using hmark
  simp only [List.mem_cons, List.not_mem_nil, or_false, not_or] at hword
  rw [scanToken]
  simp only [hmark', Bool.false_eq_true, if_false, if_neg hword.1, if_neg hword.2.1, if_neg hword.2.2, if_neg hnumber,
    if_neg hquote]

end First

theorem IsStringRest.getLast? {s : List Char} (h : IsStringRest s) : s.getLast? = some '"' := by
  induction h with
  | close => rfl
  | @char c cs _ _ _ h ih =>
    have hsplit : c :: cs = [c] ++ cs := rfl
    rw [hsplit, List.getLast?_append, ih, Option.some_or]
  | @escape e cs he h ih =>
    have hsplit : '\\' :: (e ++ cs) = ('\\' :: e) ++ cs := rfl
    rw [hsplit, List.getLast?_append, ih, Option.some_or]

theorem IsString.getLast? {s : List Char} (h : IsString s) : s.getLast? = some '"' := by
  cases h with
  | @quoted cs h =>
    have hsplit : '"' :: cs = ['"'] ++ cs := rfl
    rw [hsplit, List.getLast?_append, h.getLast?, Option.some_or]

theorem IsNumber.exists_cons {s : List Char} (h : IsNumber s) : ∃ c t, s = c :: t ∧ (c = '-' ∨ c.isDigit = true) := by
  cases h with
  | parts hsign hwhole hfraction hexponent =>
    simp only [List.mem_cons, List.not_mem_nil, or_false] at hsign
    rcases hsign with rfl | rfl
    · obtain ⟨d, ds, rfl⟩ := List.exists_cons_of_ne_nil hwhole.nonempty
      exact ⟨d, _, rfl, .inr (hwhole.digits d List.mem_cons_self)⟩
    · exact ⟨'-', _, rfl, .inl rfl⟩

/-- **The first lexeme of some characters** has a flaw or is read to its end. -/
theorem scanToken_cases (p : Position) (c : Char) (rest : List Char) : ∃ t,
    scanToken p c rest = (t, 0) ∧ t.lexeme.IsFlawed ∨ ∃ s other, rest = s ++ other ∧
      scanToken p c rest = (t, s.length + 1) ∧ t.lexeme.Spelled (c :: s) ∧ ¬ GoesOn (c :: s) other := by
  by_cases hmark : c ∈ ['[', ']', '\x7b', '\x7d', ',', ':']
  · refine ⟨_, .inr ⟨[], rest, rfl, scanToken_mark p rest hmark, .mark hmark, not_goesOn_of_getLast? rfl ?_⟩⟩
    exact (isBlank_isDigit_of_mark hmark).2
  by_cases hword : c ∈ ['n', 't', 'f']
  · obtain ⟨w, l, hmem, hspelled, d, hlast, hdigit⟩ : ∃ w l, (c, w, l) ∈ [('n', ['u', 'l', 'l'], Lexeme.null),
        ('t', ['r', 'u', 'e'], .bool true), ('f', ['a', 'l', 's', 'e'], .bool false)] ∧ l.Spelled (c :: w) ∧
          ∃ d, (c :: w).getLast? = some d ∧ d.isDigit = false := by
      simp only [List.mem_cons, List.not_mem_nil, or_false] at hword
      rcases hword with rfl | rfl | rfl
      · exact ⟨['u', 'l', 'l'], .null, by simp, .null, 'l', rfl, rfl⟩
      · exact ⟨['r', 'u', 'e'], .bool true, by simp, .true, 'e', rfl, rfl⟩
      · exact ⟨['a', 'l', 's', 'e'], .bool false, by simp, .false, 'e', rfl, rfl⟩
    obtain ⟨hok, herror⟩ := scanToken_word p rest hmem
    cases hscan : scanWord (p.right 1) w rest with
    | ok q =>
      obtain ⟨other, rfl⟩ := exists_of_scanWord hscan
      exact ⟨_, .inr ⟨w, other, rfl, hok q hscan, hspelled, not_goesOn_of_getLast? hlast hdigit⟩⟩
    | error q => exact ⟨_, .inl ⟨herror q hscan, .flawed q⟩⟩
  by_cases hnumber : c = '-' ∨ c.isDigit = true
  · obtain ⟨hok, herror⟩ := scanToken_number p rest hnumber
    cases hscan : scanNumber p (c :: rest) with
    | ok t =>
      obtain ⟨s, other, hsplit, hs, hlength, hends⟩ := isNumber_of_scanNumber hscan
      obtain ⟨d, s, rfl, -⟩ := hs.exists_cons
      obtain ⟨rfl, rfl⟩ := List.cons.inj hsplit
      exact ⟨_, .inr ⟨s, other, rfl, (hok t hscan).trans (by rw [hlength]; rfl), .number hs, hends⟩⟩
    | error q => exact ⟨_, .inl ⟨herror q hscan, .flawed q⟩⟩
  by_cases hquote : c = '"'
  · subst hquote
    obtain ⟨scan, hscan⟩ : ∃ scan, scanString 0 [] none 1 (p.right 1) rest = scan := ⟨_, rfl⟩
    refine ⟨⟨.string scan.content, p, p.afterByte '"', scan.stop⟩, ?_⟩
    rw [scanToken_string p rest hscan]
    cases hskipping : scan.content.skipping with
    | none =>
      obtain ⟨s, other, rfl, hs, hlength⟩ := isStringRest_of_scanString (by rw [hscan]; exact hskipping)
      refine .inr ⟨s, other, rfl, ?_, .string hskipping (.quoted hs),
        not_goesOn_of_getLast? (IsString.quoted hs).getLast? rfl⟩
      rw [← hscan, hlength, Nat.add_comm]
      rfl
    | some q =>
      obtain ⟨r, hr⟩ := text_of_skipping (by rw [hscan]; exact hskipping)
      rw [hscan] at hr
      exact .inl ⟨rfl, .string hskipping hr⟩
  · exact ⟨_, .inl ⟨scanToken_stray p rest hmark hword hnumber hquote, .stray⟩⟩

theorem scanToken_of_isStringRest {s : List Char} (h : IsStringRest s) (p : Position) : ∃ t content,
    t.lexeme = .string content ∧ content.skipping = none ∧ content.text.toOption = textFrom 0 s ∧
      ∀ other, scanToken p '"' (s ++ other) = (t, s.length + 1) := by
  obtain ⟨scan, hskipping, hlength, hscan⟩ := scanString_of_isStringRest h [] none 1 (p.right 1)
  refine ⟨⟨.string scan.content, p, p.afterByte '"', scan.stop⟩, scan.content, rfl, hskipping, ?_, fun other => ?_⟩
  · rw [← hscan [], List.append_nil, text_scanString, afterText_nil]
  · rw [scanToken_string p _ (hscan other), hskipping, hlength, Nat.add_comm]
    rfl

/-- A scalar is read as one, and as the same one wherever it stands and whatever follows it, unless that goes on with
it. -/
theorem scanToken_of_isScalar {cs : List Char} (h : IsScalar cs) : ∃ c s d, cs = c :: s ∧ isBlank c = false ∧
    ∀ p, ∃ t : Token, t.skipFlaw? = none ∧ t.data = d ∧
      ∀ other, ¬ GoesOn cs other → scanToken p c (s ++ other) = (t, s.length + 1) := by
  have hword : ∀ {c w l d}, (c, w, l) ∈ [('n', ['u', 'l', 'l'], Lexeme.null), ('t', ['r', 'u', 'e'], .bool true),
      ('f', ['a', 'l', 's', 'e'], .bool false)] → (∀ t : Token, t.lexeme = l → t.skipFlaw? = none ∧ t.data = d) →
        ∀ p, ∃ t : Token, t.skipFlaw? = none ∧ t.data = d ∧
          ∀ other, ¬ GoesOn (c :: w) other → scanToken p c (w ++ other) = (t, w.length + 1) := by
    intro c w l d hmem hdata p
    have ht := hdata ⟨l, p, p.afterByte c, (p.right 1).advance w⟩ rfl
    exact ⟨_, ht.1, ht.2, fun other _ => (scanToken_word p _ hmem).1 _ (scanWord_append _ _ other)⟩
  have hlexeme : ∀ {t : Token} {l : Lexeme} {f : Decode.Found}, t.lexeme = l →
      (∀ start peek stop, Decode.found ⟨l, start, peek, stop⟩ = .ok f) → t.data = .scalar f := by
    rintro ⟨_, start, peek, stop⟩ l f rfl h
    exact Token.data_eq_scalar_iff.2 (h start peek stop)
  cases h with
  | null =>
    refine ⟨'n', ['u', 'l', 'l'], .scalar .null, rfl, rfl, hword (.head _) fun t ht => ⟨?_, ?_⟩⟩
    · rw [Token.skipFlaw?, ht]
    · exact hlexeme ht fun _ _ _ => rfl
  | true =>
    refine ⟨'t', ['r', 'u', 'e'], .scalar (.bool true), rfl, rfl, hword (.tail _ (.head _)) fun t ht => ⟨?_, ?_⟩⟩
    · rw [Token.skipFlaw?, ht]
    · exact hlexeme ht fun _ _ _ => rfl
  | false =>
    refine ⟨'f', ['a', 'l', 's', 'e'], .scalar (.bool false), rfl, rfl,
      hword (.tail _ (.tail _ (.head _))) fun t ht => ⟨?_, ?_⟩⟩
    · rw [Token.skipFlaw?, ht]
    · exact hlexeme ht fun _ _ _ => rfl
  | number h =>
    obtain ⟨t, hlength, hread⟩ := scanNumber_of_isNumber h
    obtain ⟨c, s, rfl, hfirst⟩ := h.exists_cons
    refine ⟨c, s, _, rfl, ?_, fun p => ⟨⟨.number t, p, p.afterByte c, p.right t.length⟩, rfl, Token.data_number rfl,
      fun other hother => ?_⟩⟩
    · rcases hfirst with rfl | hdigit
      · rfl
      · refine Bool.eq_false_iff.2 fun hblank => ?_
        have hmem := isBlank_iff.1 hblank
        simp only [List.mem_cons, List.not_mem_nil, or_false] at hmem
        rcases hmem with rfl | rfl | rfl | rfl <;> cases hdigit
    · exact ((scanToken_number p _ hfirst).1 t (hread p other hother)).trans (by rw [hlength]; rfl)
  | string h =>
    cases h with
    | @quoted s h =>
      refine ⟨'"', s, ((textFrom 0 s).map fun text => Data.scalar (.string text)).getD .flawed, rfl, rfl, fun p => ?_⟩
      obtain ⟨t, content, hlexeme, hskipping, htext, hread⟩ := scanToken_of_isStringRest h p
      refine ⟨t, ?_, ?_, fun other _ => hread other⟩
      · rw [Token.skipFlaw?, hlexeme]
        exact hskipping
      · rw [Token.data_string hlexeme, htext]

/-! ### Lists of tokens -/

theorem tokensFrom_inside (xs rest : List Char) : ∀ p : Position,
    tokensFrom xs.length p (xs ++ rest) = tokensFrom 0 (p.advance xs) rest := by
  induction xs with
  | nil => exact fun p => rfl
  | cons c xs ih => exact fun p => ih (p.after c)

theorem tokensFrom_blank {b : List Char} (hb : AllBlank b) (rest : List Char) : ∀ p : Position,
    tokensFrom 0 p (b ++ rest) = tokensFrom 0 (p.advance b) rest := by
  induction b with
  | nil => exact fun p => rfl
  | cons c b ih =>
    obtain ⟨hc, hb⟩ := AllBlank.cons_iff.1 hb
    intro p
    rw [List.cons_append, tokensFrom.eq_def]
    simp only [isBlank_iff.2 hc, if_true]
    exact ih hb (p.after c)

theorem tokensFrom_of_scanToken {p : Position} {c : Char} {s other : List Char} {t : Token} (hc : isBlank c = false)
    (h : scanToken p c (s ++ other) = (t, s.length + 1)) :
    tokensFrom 0 p (c :: (s ++ other)) = t :: tokensFrom 0 (p.advance (c :: s)) other := by
  rw [tokensFrom.eq_def]
  simp only [hc, Bool.false_eq_true, if_false, h]
  rw [tokensFrom_inside]
  rfl

theorem Position.advance_append (p : Position) (xs ys : List Char) :
    p.advance (xs ++ ys) = (p.advance xs).advance ys := List.foldl_append

/-- **The first token of some characters** is their end, has a flaw, or is that of a lexeme, after which the tokens of
what follows it are read. -/
theorem tokensFrom_cases (cs : List Char) : ∀ p : Position, ∃ t,
    tokensFrom 0 p cs = [t] ∧ (AllBlank cs ∧ t.lexeme = .finish ∨ t.lexeme.IsFlawed) ∨
      ∃ b s rest, cs = b ++ (s ++ rest) ∧ AllBlank b ∧ t.lexeme.Spelled s ∧ ¬ GoesOn s rest ∧
        tokensFrom 0 p cs = t :: tokensFrom 0 (p.advance (b ++ s)) rest := by
  induction cs with
  | nil => exact fun p => ⟨_, .inl ⟨rfl, .inl ⟨List.forall_mem_nil _, rfl⟩⟩⟩
  | cons c cs ih =>
    intro p
    cases hblank : isBlank c with
    | true =>
      have hc := isBlank_iff.1 hblank
      have hread : tokensFrom 0 p (c :: cs) = tokensFrom 0 (p.after c) cs :=
        tokensFrom_blank (AllBlank.cons_iff.2 ⟨hc, List.forall_mem_nil _⟩) cs p
      rw [hread]
      obtain ⟨t, ⟨ht, hlast⟩ | ⟨b, s, rest, rfl, hb, hs, hends, ht⟩⟩ := ih (p.after c)
      · exact ⟨t, .inl ⟨ht, hlast.imp (fun h => ⟨AllBlank.cons_iff.2 ⟨hc, h.1⟩, h.2⟩) id⟩⟩
      · exact ⟨t, .inr ⟨c :: b, s, rest, rfl, AllBlank.cons_iff.2 ⟨hc, hb⟩, hs, hends, ht⟩⟩
    | false =>
      obtain ⟨t, ⟨hscan, ht⟩ | ⟨s, other, rfl, hscan, hs, hends⟩⟩ := scanToken_cases p c cs
      · refine ⟨t, .inl ⟨?_, .inr ht⟩⟩
        rw [tokensFrom.eq_def]
        simp only [hblank, Bool.false_eq_true, if_false, hscan]
      · exact ⟨t, .inr ⟨[], c :: s, other, rfl, List.forall_mem_nil _, hs, hends, tokensFrom_of_scanToken hblank hscan⟩⟩

/-- Only blanks have no token but the end. -/
theorem allBlank_of_tokensFrom {p : Position} {cs : List Char} {t : Token} (h : tokensFrom 0 p cs = [t])
    (ht : t.lexeme = .finish) : AllBlank cs := by
  obtain ⟨u, ⟨hu, ⟨hcs, -⟩ | hflawed⟩ | ⟨b, s, rest, -, -, hs, -, hu⟩⟩ := tokensFrom_cases cs p
  · exact hcs
  · obtain rfl : u = t := List.singleton_inj.1 (hu.symm.trans h)
    rw [ht] at hflawed
    cases hflawed
  · obtain rfl : u = t := (List.cons.inj (hu.symm.trans h)).1
    rw [ht] at hs
    cases hs

section Lexemes

variable {b : List Char} (hb : AllBlank b)
include hb

theorem tokensFrom_mark {c : Char} (hc : c ∈ ['[', ']', '\x7b', '\x7d', ',', ':']) (p : Position) : ∃ t : Token,
    t.lexeme = .mark c ∧ ∀ rest, tokensFrom 0 p (b ++ c :: rest) = t :: tokensFrom 0 (p.advance (b ++ [c])) rest := by
  refine ⟨⟨.mark c, p.advance b, (p.advance b).afterByte c, (p.advance b).right 1⟩, rfl, fun rest => ?_⟩
  have hblank : isBlank c = false := (isBlank_isDigit_of_mark hc).1
  rw [tokensFrom_blank hb, Position.advance_append]
  exact tokensFrom_of_scanToken (s := []) hblank (scanToken_mark _ _ hc)

theorem tokensFrom_scalar {s : List Char} (hs : IsScalar s) : ∃ d, ∀ p : Position, ∃ t : Token,
    t.skipFlaw? = none ∧ t.data = d ∧ ∀ rest, ¬ GoesOn s rest →
      tokensFrom 0 p (b ++ (s ++ rest)) = t :: tokensFrom 0 (p.advance (b ++ s)) rest := by
  obtain ⟨c, s, d, rfl, hblank, hread⟩ := scanToken_of_isScalar hs
  refine ⟨d, fun p => ?_⟩
  obtain ⟨t, ht, hdata, hscan⟩ := hread (p.advance b)
  refine ⟨t, ht, hdata, fun rest hrest => ?_⟩
  rw [tokensFrom_blank hb, Position.advance_append]
  exact tokensFrom_of_scanToken hblank (hscan rest hrest)

theorem tokensFrom_string {s : List Char} (hs : IsString s) (p : Position) : ∃ (t : Token) (content : Content),
    t.lexeme = .string content ∧ content.skipping = none ∧ content.text.toOption = textFrom 0 s.tail ∧
      ∀ rest, tokensFrom 0 p (b ++ (s ++ rest)) = t :: tokensFrom 0 (p.advance (b ++ s)) rest := by
  cases hs with
  | quoted h =>
    obtain ⟨t, content, hlexeme, hskipping, htext, hscan⟩ := scanToken_of_isStringRest h (p.advance b)
    refine ⟨t, content, hlexeme, hskipping, htext, fun rest => ?_⟩
    rw [tokensFrom_blank hb, Position.advance_append]
    exact tokensFrom_of_scanToken rfl (hscan rest)

end Lexemes

end SchemaCheck.Json
