import SchemaCheck.Files.Access
import SchemaCheck.Files.Wildcard
/-!
# Search — the files that a pattern finds

A pattern is a path whose parts may have wildcards; it is split at its slashes, and the parts are looked up one
after the other (`Search.find`).  A part without wildcards leads on if it is there; one with wildcards goes through
the names of the directory in their order; `**` goes through everything below the directory, each directory before
what it holds.
-/
namespace SchemaCheck

/-- One part of a pattern. -/
inductive PatternPart where
  | plain (name : String)
  | wild (tokens : List Wildcard.Token)
  | anyDepth
  deriving DecidableEq, Inhabited

namespace PatternPart

def ofTokens (tokens : List Wildcard.Token) : PatternPart :=
  if tokens = [.anyDepth] then .anyDepth
  else
    match Wildcard.literal? tokens with
    | some name => .plain (String.ofList name)
    | none => .wild tokens

/-- A name is of the form of a part. -/
def admits (name : String) : PatternPart → Bool
  | .plain n => n == name
  | .wild tokens => Wildcard.admits tokens name.toList
  | .anyDepth => true

/-- The two names that lead to the directory itself and to the one around it, if a part names them: only one that
starts with a dot does. -/
def dotNames : PatternPart → List String
  | .wild (.char '.' :: tokens) => ["..", "."].filter (PatternPart.wild (.char '.' :: tokens)).admits
  | _ => []

/-- A row of `**` is like one. -/
def collapse : List PatternPart → List PatternPart
  | .anyDepth :: .anyDepth :: rest => collapse (.anyDepth :: rest)
  | p :: rest => p :: collapse rest
  | [] => []

end PatternPart

/-- A pattern that has been read. -/
structure Search where
  /-- The pattern starts with a slash. -/
  absolute : Bool
  parts : List PatternPart
  /-- The pattern ends with a slash, so it finds directories only. -/
  directoriesOnly : Bool
  deriving DecidableEq, Inhabited

namespace Search

/-- A character that makes an argument a pattern.  The brace has no other meaning. -/
def isSpecial (c : Char) : Bool := c == '*' || c == '?' || c == '[' || c == '\x7b'

def isPattern (s : String) : Bool := s.toList.any isSpecial

/-- The parts between slashes; the empty part after a slash at the end is left out. -/
def splitParts (cs : List Char) : List (List Char) :=
  let parts := Text.slashParts cs
  if parts.getLast? = some [] then parts.dropLast else parts

/-- Reads a pattern.  The whole has to be well formed and each part by itself. -/
def ofPattern (pattern : String) : Except Wildcard.Fault Search := do
  let cs := pattern.toList
  let _ ← Wildcard.tokens cs
  let absolute := cs.head? == some '/'
  let parts ← (splitParts (if absolute then cs.tail else cs)).mapM Wildcard.tokens
  return ⟨absolute, PatternPart.collapse (parts.map PatternPart.ofTokens), cs.getLast? == some '/'⟩

/-- Something in a directory: its path, its name, and whether it is a directory. -/
structure Item where
  path : String
  name : String
  isDirectory : Bool
  deriving DecidableEq, Inhabited

/-- A directory that cannot be listed. -/
structure Unlisted where
  path : String
  cause : SystemFault
  deriving DecidableEq, Inhabited

def Unlisted.message (u : Unlisted) : String :=
  "attempting to read `" ++ u.path ++ "` resulted in an error: " ++ u.cause.message

/-- Names under the directory that paths start from stand alone. -/
def under (path name : String) : String := if isHere path then name else joinPath path name

/-- More directories than this cannot lie in each other: the system allows no longer path. -/
def depthLimit : Nat := 2048

variable {m : Type → Type} [Monad m]

/-- What a directory holds, in the order of the names. -/
def items (fs : FileAccess m) (path : String) : ExceptT Unlisted m (List Item) := do
  match ← fs.list path with
  | .error f => throw ⟨path, f⟩
  | .ok entries =>
    return (entries.mergeSort fun a b => decide (a.1 ≤ b.1)).map fun e => ⟨under path e.1, e.1, e.2⟩

/-- What lies below a directory, each directory before what it holds. -/
def below (fs : FileAccess m) : Nat → String → ExceptT Unlisted m (List Item)
  | 0, _ => return []
  | depth + 1, path => do
    let inner ← (← items fs path).mapM fun item => do
      return item :: (← if item.isDirectory then below fs depth item.path else pure [])
    return inner.flatten

/-- The paths that parts lead to from a path, which is a directory or not. -/
def find (fs : FileAccess m) (directoriesOnly : Bool) :
    List PatternPart → String → Bool → ExceptT Unlisted m (List String)
  | [], path, isDirectory => return if directoriesOnly && !isDirectory then [] else [path]
  | .plain name :: rest, path, isDirectory => do
    let next := under path name
    let leadsOn ← if name = "." ∨ name = ".." then pure isDirectory else fs.isThere next
    if leadsOn then find fs directoriesOnly rest next (← fs.isDirectory next) else return []
  | .wild tokens :: rest, path, isDirectory => do
    if !isDirectory then return []
    let held ← items fs path
    let dots ← (PatternPart.wild tokens).dotNames.mapM fun name =>
      find fs directoriesOnly rest (joinPath path name) true
    let named ← (held.filter fun item => Wildcard.admits tokens item.name.toList).mapM fun item =>
      find fs directoriesOnly rest item.path item.isDirectory
    return (dots ++ named).flatten
  | [.anyDepth], path, isDirectory => do
    if !isDirectory then return []
    return ((← below fs depthLimit path).filter (·.isDirectory)).map (·.path)
  | .anyDepth :: part :: rest, path, isDirectory => do
    if !isDirectory then return []
    let found ← ((← below fs depthLimit path).filter fun item => part.admits item.name).mapM fun item =>
      find fs directoriesOnly rest item.path item.isDirectory
    return found.flatten

/-- The paths that a pattern finds. -/
def run (fs : FileAccess m) (s : Search) : ExceptT Unlisted m (List String) :=
  find fs s.directoriesOnly s.parts (if s.absolute then "/" else ".") true

end Search
end SchemaCheck
