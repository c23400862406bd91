import SchemaCheck.Pattern.Regex
import SchemaCheck.Text.Bytes
/-!
# Size — how large an automaton a regular expression needs

An automaton that reads bytes has a state for each byte of a literal, a tree of states for each other set of
characters, and as many copies of what is repeated as the repetition has turns (`Regex.size`).  A pattern whose
automaton is larger than `sizeLimit` is refused (`Regex.admit`).
-/
namespace SchemaCheck.Regular

/-- The bytes of one state. -/
def stateSize : Nat := 32

/-- The bytes of one way out of a state with several ways out. -/
def exitSize : Nat := 4

def sizeLimit : Nat := 10485760

/-! ## Sets of characters -/

/-- How many ranges two sequences have in common at their start. -/
def commonStart : Text.ByteSequence → Text.ByteSequence → Nat
  | a :: as, b :: bs => if a = b then commonStart as bs + 1 else 0
  | _, _ => 0

/-- The nodes of the tree of sequences; a sequence shares its start with the one before it. -/
def nodeCount (before : Text.ByteSequence) : List Text.ByteSequence → Nat
  | [] => 0
  | s :: rest => s.length - commonStart before s + nodeCount s rest

/-- The size of the trees for the sequences of each length, side by side. -/
def treesSize : List (List Text.ByteSequence) → Nat
  | [] => 0
  | sequences :: rest => stateSize * nodeCount [] sequences + exitSize * sequences.length + treesSize rest

/-- A set of one character is a row of states, one of ASCII characters a state with ways out, any other a tree. -/
def setSize (s : CharSet) : Nat :=
  match s.ranges with
  | [] => stateSize
  | [(a, b)] => if a = b then stateSize * (Char.ofNat a).utf8Size else treeSize
  | _ => treeSize
where
  /-- The size of a tree with its start and end. -/
  treeSize : Nat :=
    if isAsciiSet s then 2 * stateSize + 2 * exitSize * s.ranges.length
    else 2 * stateSize + treesSize s.byteSequences

/-! ## Expressions -/

/-- The size of a state with two ways out. -/
def forkSize : Nat := stateSize + 2 * exitSize

mutual

/-- No match takes a character. -/
def Regex.standsStill : Regex → Bool
  | .empty | .look _ => true
  | .chars _ => false
  | .iterate _ most sub => most == some 0 || sub.standsStill
  | .concat parts => Regex.allStandStill parts
  | .choice members => Regex.allStandStill members

def Regex.allStandStill : List Regex → Bool
  | [] => true
  | r :: rest => r.standsStill && Regex.allStandStill rest

end

/-- The turns for which a repetition has copies: more than one of them adds nothing to what takes no character. -/
def turns (least : Nat) (most : Option Nat) (sub : Regex) : Nat × Option Nat :=
  if sub.standsStill then (min least 1, some (most.elim 1 (min · 1))) else (least, most)

mutual

def Regex.size : Regex → Nat
  | .empty => stateSize
  | .chars set => setSize set
  | .look _ => stateSize
  | .iterate least most sub =>
    match turns least most sub with
    | (n, none) => max n 1 * sub.size + forkSize
    | (n, some m) => n * sub.size + (m - n) * (sub.size + forkSize) + (if m = n then 0 else stateSize)
  | .concat parts => Regex.sizes parts
  | .choice members => Regex.sizes members + stateSize + forkSize

def Regex.sizes : List Regex → Nat
  | [] => 0
  | r :: rest => r.size + Regex.sizes rest

end

/-- The size of a search: the expression, and the characters that may come before a match. -/
def Regex.searchSize (r : Regex) : Nat := r.size + 4 * forkSize

/-- Why a pattern is refused. -/
inductive Refusal where
  | malformed (fault : Fault)
  | tooBig
  deriving DecidableEq, Inhabited

def Refusal.render (pattern : String) : Refusal → String
  | .malformed f => f.render pattern
  | .tooBig => "Compiled regex exceeds size limit of " ++ toString sizeLimit ++ " bytes."

/-- The expression of a pattern, unless it has a fault or is too big. -/
def Regex.admit (pattern : String) : Except Refusal Regex :=
  match Regex.ofPattern pattern with
  | .error f => .error (.malformed f)
  | .ok r => if sizeLimit < r.searchSize then .error .tooBig else .ok r

end SchemaCheck.Regular
