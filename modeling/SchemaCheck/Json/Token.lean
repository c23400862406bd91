import SchemaCheck.Json.Number
/-!
# Token — the smallest parts of a JSON text

A text is cut into marks, words, numbers and strings, each with the positions before it, after its first byte and
after it.  A part with a flaw ends the list (`tokens`); only a string whose escapes stand for no character goes on,
since it can still be passed over.
-/
namespace SchemaCheck.Json

/-- The content of a string: its text or why it cannot be read, and why it cannot even be passed over. -/
structure Content where
  text : Except Problem String
  skipping : Option Problem
  deriving Inhabited

inductive Lexeme where
  /-- A bracket, a brace, a comma or a colon. -/
  | mark (c : Char)
  | null
  | bool (b : Bool)
  | number (t : NumberText)
  | string (content : Content)
  | flawed (p : Problem)
  /-- A character that starts nothing. -/
  | stray
  /-- The end of the text. -/
  | finish
  deriving Inhabited

structure Token where
  lexeme : Lexeme
  start : Position
  peek : Position
  stop : Position
  deriving Inhabited

def isBlank (c : Char) : Bool := c == ' ' || c == '\n' || c == '\t' || c == '\r'

/-! ## Words -/

/-- Reads the rest of a word: the position after it, or the flaw. -/
def scanWord (p : Position) : List Char → List Char → Except Problem Position
  | [], _ => .ok p
  | _ :: _, [] => .error ⟨.wordUnended, p⟩
  | w :: word, c :: rest =>
    if c = w then scanWord (p.after c) word rest else .error ⟨.wordMisspelt, p.afterByte c⟩

/-! ## Numbers -/

/-- Reads an exponent, if there is one. -/
def scanExponent (p : Position) (cs : List Char) : Except Problem (Option (Bool × Nat × List Char)) :=
  match cs with
  | [] => .ok none
  | e :: rest =>
    if e ≠ 'e' ∧ e ≠ 'E' then .ok none
    else
      let signed := rest.head? == some '+' || rest.head? == some '-'
      let digits := if signed then rest.tail else rest
      let width := if signed then 2 else 1
      match digits with
      | [] => .error ⟨.numberUnended, p.right width⟩
      | c :: _ =>
        if c.isDigit then .ok (some (rest.head? == some '-', width, digits.takeWhile Char.isDigit))
        else .error ⟨.numberMalformed, (p.right width).afterByte c⟩

/-- Reads what follows the digits before the point, which are `whole`. -/
def scanFraction (negative : Bool) (whole : List Char) (p : Position) (cs : List Char) : Except Problem NumberText :=
  match cs with
  | '.' :: rest =>
    let digits := rest.takeWhile Char.isDigit
    let after := rest.dropWhile Char.isDigit
    let p := p.right (1 + digits.length)
    if digits.isEmpty then
      .error ⟨if after.isEmpty then .numberUnended else .numberMalformed, p.peek after⟩
    else (scanExponent p after).map fun e => ⟨negative, whole, some digits, e⟩
  | after => (scanExponent p after).map fun e => ⟨negative, whole, none, e⟩

/-- Reads a number without its sign. -/
def scanUnsigned (negative : Bool) (p : Position) (cs : List Char) : Except Problem NumberText :=
  match cs with
  | [] => .error ⟨.numberUnended, p⟩
  | c :: rest =>
    if !c.isDigit then .error ⟨.numberMalformed, p.afterByte c⟩
    else if c = '0' ∧ (rest.head?.any Char.isDigit) then .error ⟨.numberMalformed, (p.right 1).peek rest⟩
    else
      let whole := cs.takeWhile Char.isDigit
      scanFraction negative whole (p.right whole.length) (cs.dropWhile Char.isDigit)

def scanNumber (p : Position) (cs : List Char) : Except Problem NumberText :=
  match cs with
  | '-' :: rest => scanUnsigned true (p.right 1) rest
  | cs => scanUnsigned false p cs

/-! ## Strings -/

/-- The characters that a backslash makes of one character. -/
def simpleEscape? (c : Char) : Option Char :=
  match c with
  | '"' => some '"'
  | '\\' => some '\\'
  | '/' => some '/'
  | 'b' => some '\x08'
  | 'f' => some '\x0C'
  | 'n' => some '\n'
  | 'r' => some '\r'
  | 't' => some '\t'
  | _ => none

def hexDigit? (c : Char) : Option Nat :=
  if c.isDigit then some (c.toNat - 48)
  else if 'a' ≤ c ∧ c ≤ 'f' then some (c.toNat - 87)
  else if 'A' ≤ c ∧ c ≤ 'F' then some (c.toNat - 55)
  else none

/-- The number that four hexadecimal digits write. -/
def hexUnit? (a b c d : Char) : Option Nat := do
  let a ← hexDigit? a
  let b ← hexDigit? b
  let c ← hexDigit? c
  let d ← hexDigit? d
  return ((a * 16 + b) * 16 + c) * 16 + d

def utf8Length (cs : List Char) : Nat := cs.foldl (fun n c => n + c.utf8Size) 0

/-- The flaw where four hexadecimal digits should stand but do not. -/
def hexProblem (p : Position) (cs : List Char) : Problem :=
  if utf8Length cs < 4 then ⟨.stringUnended, p.afterBytes (utf8Length cs) cs⟩
  else ⟨.escapeUnknown, p.afterBytes 4 cs⟩

def isHigh (n : Nat) : Bool := decide (0xD800 ≤ n ∧ n ≤ 0xDBFF)

def isLow (n : Nat) : Bool := decide (0xDC00 ≤ n ∧ n ≤ 0xDFFF)

/-- What an escape is, and how many characters follow its backslash: a character, no character though its form is
right, or a flaw. -/
inductive EscapeScan where
  | char (c : Char) (length : Nat)
  | noChar (p : Problem) (length : Nat)
  | failed (p : Problem)
  deriving Inhabited

/-- The second half of a pair, after the four digits of a first half; `p` is the position after these. -/
def scanPair (high : Nat) (p : Position) (cs : List Char) : EscapeScan :=
  match cs with
  | [] => .failed ⟨.stringUnended, p⟩
  | ['\\'] => .failed ⟨.stringUnended, p.right 1⟩
  | '\\' :: 'u' :: digits =>
    match digits with
    | a :: b :: c :: d :: _ =>
      match hexUnit? a b c d with
      | none => .failed (hexProblem (p.right 2) digits)
      | some low =>
        if isLow low then .char (Char.ofNat (0x10000 + (high - 0xD800) * 0x400 + (low - 0xDC00))) 11
        else .noChar ⟨.surrogateAlone, p.right 6⟩ 5
    | few => .failed (hexProblem (p.right 2) few)
  | '\\' :: x :: _ => .noChar ⟨.escapeUnpaired, (p.right 1).afterByte x⟩ 5
  | x :: _ => .noChar ⟨.escapeUnpaired, p.afterByte x⟩ 5

/-- The escape whose backslash stands at a position, from the characters after it. -/
def scanEscape (p : Position) (cs : List Char) : EscapeScan :=
  match cs with
  | [] => .failed ⟨.stringUnended, p.right 1⟩
  | 'u' :: digits =>
    match digits with
    | a :: b :: c :: d :: more =>
      match hexUnit? a b c d with
      | none => .failed (hexProblem (p.right 2) digits)
      | some n =>
        if isLow n then .noChar ⟨.surrogateAlone, p.right 6⟩ 5
        else if isHigh n then scanPair n (p.right 6) more
        else .char (Char.ofNat n) 5
    | few => .failed (hexProblem (p.right 2) few)
  | e :: _ =>
    match simpleEscape? e with
    | some x => .char x 1
    | none => .failed ⟨.escapeUnknown, (p.right 1).afterByte e⟩

/-- A string that has been read to its end, or to a flaw. -/
structure StringScan where
  content : Content
  stop : Position
  /-- How many characters it takes. -/
  length : Nat
  deriving Inhabited

/-- A string that ends with a flaw; an escape that stands for no character comes before it. -/
def StringScan.failed (bad : Option Problem) (count : Nat) (q : Problem) : StringScan :=
  ⟨⟨.error (bad.getD q), some q⟩, q.position, count⟩

/-- A string that ends with a control character; it is read, but not passed over. -/
def StringScan.atControl (bad : Option Problem) (count : Nat) (p : Position) (c : Char) : StringScan :=
  ⟨⟨.error (bad.getD ⟨.stringControl, p.afterByte c⟩), some ⟨.stringControl, p⟩⟩, p, count⟩

/-- Reads on in a string.  The first `inside` characters belong to the escape before, `done` are the characters of
the string so far, last one first, `count` is how much of the text they take, and `bad` is the first escape that
stands for no character. -/
def scanString (inside : Nat) (done : List Char) (bad : Option Problem) (count : Nat) (p : Position) :
    List Char → StringScan
  | [] => .failed bad count ⟨.stringUnended, p⟩
  | c :: rest =>
    match inside with
    | n + 1 => scanString n done bad (count + 1) (p.after c) rest
    | 0 =>
      if c = '"' then
        let text := match bad with
          | some b => .error b
          | none => .ok (String.ofList done.reverse)
        ⟨⟨text, none⟩, p.after c, count + 1⟩
      else if c.toNat < 32 then .atControl bad count p c
      else if c ≠ '\\' then scanString 0 (c :: done) bad (count + 1) (p.after c) rest
      else
        match scanEscape p rest with
        | .char x n => scanString n (x :: done) bad (count + 1) (p.after c) rest
        | .noChar q n => scanString n done (bad.or (some q)) (count + 1) (p.after c) rest
        | .failed q => .failed bad count q

/-! ## Tokens -/

/-- The token that starts with the first of some characters, and how many characters it takes. -/
def scanToken (p : Position) (c : Char) (rest : List Char) : Token × Nat :=
  let make (l : Lexeme) (stop : Position) : Token := ⟨l, p, p.afterByte c, stop⟩
  let word (w : List Char) (l : Lexeme) : Token × Nat :=
    match scanWord (p.right 1) w rest with
    | .ok stop => (make l stop, w.length + 1)
    | .error q => (make (.flawed q) q.position, 0)
  if "[]\x7b\x7d,:".toList.contains c then (make (.mark c) (p.right 1), 1)
  else if c = 'n' then word ['u', 'l', 'l'] .null
  else if c = 't' then word ['r', 'u', 'e'] (.bool true)
  else if c = 'f' then word ['a', 'l', 's', 'e'] (.bool false)
  else if c = '-' ∨ c.isDigit then
    match scanNumber p (c :: rest) with
    | .ok t => (make (.number t) (p.right t.length), t.length)
    | .error q => (make (.flawed q) q.position, 0)
  else if c = '"' then
    let s := scanString 0 [] none 1 (p.right 1) rest
    (make (.string s.content) s.stop, if s.content.skipping.isSome then 0 else s.length)
  else (make .stray (p.afterByte c), 0)

/-- The tokens from a position on, up to one with a flaw; the first `inside` characters belong to the token before.
-/
def tokensFrom (inside : Nat) (p : Position) : List Char → List Token
  | [] => [⟨.finish, p, p, p⟩]
  | c :: rest =>
    match inside with
    | n + 1 => tokensFrom n (p.after c) rest
    | 0 =>
      if isBlank c then tokensFrom 0 (p.after c) rest
      else
        match scanToken p c rest with
        | (t, 0) => [t]
        | (t, n + 1) => t :: tokensFrom n (p.after c) rest

def tokens (text : String) : List Token := tokensFrom 0 Position.start text.toList

end SchemaCheck.Json
