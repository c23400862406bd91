/-!
# Wildcard — patterns for the names of files

In a pattern `?` stands for any character, `*` for any characters, `[…]` for one of a list and `[!…]` for one not
in a list; `**` as a whole part of a path stands for directories of any depth.  `Wildcard.tokens` reads a pattern,
and `Wildcard.admits` tells whether a name is of its form; a star admits what the rest admits after any characters.
-/
namespace SchemaCheck.Wildcard

inductive Token where
  | char (c : Char)
  | anyChar
  | anyChars
  | anyDepth
  /-- One character in any of the ranges, or in none of them. -/
  | oneOf (negated : Bool) (ranges : List (Char × Char))
  deriving DecidableEq, Inhabited

inductive Cause where
  | tooManyStars
  | depthNotAlone
  | rangeInvalid
  deriving DecidableEq, Inhabited

/-- What is wrong with a pattern, and at which character. -/
structure Fault where
  cause : Cause
  position : Nat
  deriving DecidableEq, Inhabited

def Cause.wording : Cause → String
  | .tooManyStars => "wildcards are either regular `*` or recursive `**`"
  | .depthNotAlone => "recursive wildcards must form a single path component"
  | .rangeInvalid => "invalid range pattern"

def Fault.message (f : Fault) : String :=
  "Pattern syntax error near position " ++ toString f.position ++ ": " ++ f.cause.wording

/-! ## Reading -/

/-- The characters before the first closing bracket, and those after it. -/
def splitAtBracket : List Char → Option (List Char × List Char)
  | [] => none
  | c :: rest => if c = ']' then some ([], rest) else (splitAtBracket rest).map fun p => (c :: p.1, p.2)

theorem length_splitAtBracket {cs inside rest : List Char} (h : splitAtBracket cs = some (inside, rest)) :
    cs.length = inside.length + rest.length + 1 := by
  induction cs generalizing inside with
  | nil => simp [splitAtBracket] at h
  | cons c cs ih =>
    unfold splitAtBracket at h
    split at h
    · simp only [Option.some.injEq, Prod.mk.injEq] at h
      obtain ⟨rfl, rfl⟩ := h
      simp
    · obtain ⟨⟨a, b⟩, hp, hq⟩ := Option.map_eq_some_iff.1 h
      simp only [Prod.mk.injEq] at hq
      obtain ⟨rfl, rfl⟩ := hq
      simp [ih hp]
      omega

/-- A character, a dash and a character are a range; any other character stands for itself. -/
def ranges : List Char → List (Char × Char)
  | [] => []
  | a :: '-' :: b :: rest => (a, b) :: ranges rest
  | a :: rest => (a, a) :: ranges rest

/-- Reads a pattern from a position on; `before` is the character there in front. -/
def readTokens (before : Option Char) (position : Nat) (cs : List Char) : Except Fault (List Token) :=
  match cs with
  | [] => .ok []
  | '?' :: rest => (readTokens (some '?') (position + 1) rest).map (.anyChar :: ·)
  | '*' :: '*' :: '*' :: _ => .error ⟨.tooManyStars, position + 2⟩
  | '*' :: '*' :: rest =>
    if before.any (· ≠ '/') then .error ⟨.depthNotAlone, position - 1⟩
    else
      match rest with
      | [] => .ok [.anyDepth]
      | '/' :: rest => (readTokens (some '/') (position + 3) rest).map (.anyDepth :: ·)
      | _ => .error ⟨.depthNotAlone, position + 2⟩
  | '*' :: rest => (readTokens (some '*') (position + 1) rest).map (.anyChars :: ·)
  | '[' :: '!' :: first :: rest =>
    match h : splitAtBracket rest with
    | none => .error ⟨.rangeInvalid, position⟩
    | some (inside, after) =>
      (readTokens (some ']') (position + inside.length + 4) after).map
        (.oneOf true (ranges (first :: inside)) :: ·)
  | '[' :: first :: rest =>
    if first = '!' then .error ⟨.rangeInvalid, position⟩
    else
      match h : splitAtBracket rest with
      | none => .error ⟨.rangeInvalid, position⟩
      | some (inside, after) =>
        (readTokens (some ']') (position + inside.length + 3) after).map
          (.oneOf false (ranges (first :: inside)) :: ·)
  | ['['] => .error ⟨.rangeInvalid, position⟩
  | c :: rest => (readTokens (some c) (position + 1) rest).map (.char c :: ·)
termination_by cs.length
decreasing_by
  all_goals simp only [List.length_cons]
  all_goals first
    | omega
    | have := length_splitAtBracket h
      omega

def tokens (pattern : List Char) : Except Fault (List Token) := readTokens none 0 pattern

/-! ## Matching -/

/-- A token that stands for one character stands for this one. -/
def Token.admits (c : Char) : Token → Bool
  | .char d => c == d
  | .oneOf negated rs => (rs.any fun r => decide (r.1 ≤ c ∧ c ≤ r.2)) != negated
  | _ => true

/-- What may be left of a text after some of its characters. -/
def suffixes : List Char → List (List Char)
  | [] => [[]]
  | c :: cs => (c :: cs) :: suffixes cs

/-- A name is of the form that tokens describe. -/
def admits : List Token → List Char → Bool
  | [], cs => cs.isEmpty
  | .anyChars :: ts, cs => (suffixes cs).any (admits ts)
  | .anyDepth :: ts, cs => (suffixes cs).any (admits ts)
  | _ :: _, [] => false
  | t :: ts, c :: cs => t.admits c && admits ts cs

/-- The text that tokens stand for, if they stand for one text only. -/
def literal? : List Token → Option (List Char)
  | [] => some []
  | .char c :: ts => (literal? ts).map (c :: ·)
  | _ => none

end SchemaCheck.Wildcard
