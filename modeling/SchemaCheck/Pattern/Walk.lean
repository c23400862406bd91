import SchemaCheck.Pattern.Regex
/-!
# Walk — finding a match in a text

A set of places between the characters of a text is a number whose bits are the places.  `Regex.over` turns the
sets and looks of a regular expression into such numbers for one text, and `Walk.run` takes a set of places to the
places where a match that starts in it may end.  A search starts everywhere (`Regex.isMatch`).  The number of turns
of a repetition without upper bound is that of the places, because each turn but the last reaches a new one.
-/
namespace SchemaCheck.Regular

/-! ## Places -/

/-- The places before the characters that are in a set. -/
def placesBefore (set : CharSet) : List Char → Nat
  | [] => 0
  | c :: rest => (if set.contains c then 1 else 0) + 2 * placesBefore set rest

/-- The places where a look holds, from the one after `before` on. -/
def placesWhere (l : Look) (before : Option Char) : List Char → Nat
  | [] => if l.holds before none then 1 else 0
  | c :: rest => (if l.holds before (some c) then 1 else 0) + 2 * placesWhere l (some c) rest

/-! ## Walks -/

inductive Walk where
  | stay
  /-- Over the character after the place, from these places only. -/
  | advance (places : Nat)
  /-- No further, and from these places only. -/
  | test (places : Nat)
  | iterate (least : Nat) (most : Option Nat) (sub : Walk)
  | concat (parts : List Walk)
  | choice (members : List Walk)
  deriving Inhabited

mutual

/-- The walk of a regular expression over a text. -/
def Regex.over (text : List Char) : Regex → Walk
  | .empty => .stay
  | .chars set => .advance (placesBefore set text)
  | .look l => .test (placesWhere l none text)
  | .iterate least most sub => .iterate least most (sub.over text)
  | .concat parts => .concat (Regex.allOver text parts)
  | .choice members => .choice (Regex.allOver text members)

def Regex.allOver (text : List Char) : List Regex → List Walk
  | [] => []
  | r :: rest => r.over text :: Regex.allOver text rest

end

/-- Takes a step a number of times; stops early where the step changes nothing. -/
def times (step : Nat → Nat) : Nat → Nat → Nat
  | 0, s => s
  | n + 1, s =>
    let t := step s
    if t = s then s else times step n t

/-- What up to a number of steps reach; stops early where nothing new is reached. -/
def upTo (step : Nat → Nat) : Nat → Nat → Nat
  | 0, s => s
  | n + 1, s =>
    let t := s ||| step s
    if t = s then s else upTo step n t

mutual

/-- The places where a walk from some of the given places may end; the text has `size` characters. -/
def Walk.run (size : Nat) : Walk → Nat → Nat
  | .stay, s => s
  | .advance places, s => (s &&& places) <<< 1
  | .test places, s => s &&& places
  | .iterate least most sub, s =>
    let first := times (fun t => sub.run size t) least s
    match most with
    | none => upTo (fun t => sub.run size t) (size + 1) first
    | some m => upTo (fun t => sub.run size t) (m - least) first
  | .concat parts, s => Walk.runAll size parts s
  | .choice members, s => Walk.runAny size members s

def Walk.runAll (size : Nat) : List Walk → Nat → Nat
  | [], s => s
  | w :: rest, s => Walk.runAll size rest (w.run size s)

def Walk.runAny (size : Nat) : List Walk → Nat → Nat
  | [], _ => 0
  | w :: rest, s => w.run size s ||| Walk.runAny size rest s

end

/-- Some part of the text matches. -/
def Regex.isMatch (r : Regex) (text : List Char) : Bool :=
  (r.over text).run text.length ((1 <<< (text.length + 1)) - 1) != 0

end SchemaCheck.Regular
