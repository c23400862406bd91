import SchemaCheck.Text.Slashes
/-!
# Access — the files that a program sees

A `FileAccess` reads files and lists directories by their paths.  Its answers come in a monad: that of a running
system, or `Id` for a directory that is held in memory.  Paths are texts with slashes; `joinPath` puts a name under
a path.
-/
namespace SchemaCheck

/-- Why the system does not give what a path leads to. -/
inductive SystemFault where
  | notFound
  | isDirectory
  | notDirectory
  | invalidUtf8
  | other (text : String)
  deriving DecidableEq, Inhabited

def SystemFault.message : SystemFault → String
  | .notFound => "No such file or directory (os error 2)"
  | .isDirectory => "Is a directory (os error 21)"
  | .notDirectory => "Not a directory (os error 20)"
  | .invalidUtf8 => "stream did not contain valid UTF-8"
  | .other text => text

structure FileAccess (m : Type → Type) where
  /-- The text of a file. -/
  read : String → m (Except SystemFault String)
  /-- A path leads to something. -/
  isThere : String → m Bool
  /-- A path leads to a directory. -/
  isDirectory : String → m Bool
  /-- The names in a directory, in any order, each with whether it is a directory itself. -/
  list : String → m (Except SystemFault (List (String × Bool)))

/-- A slash comes between, unless the path is empty or ends with one. -/
def joinPath (path name : String) : String :=
  match path.toList.getLast? with
  | none | some '/' => path ++ name
  | some _ => path ++ "/" ++ name

/-- A relative path that stays where it starts. -/
def isHere (path : String) : Bool :=
  !path.isEmpty && path.toList.head? != some '/' &&
    (Text.slashParts path.toList).all fun p => p.isEmpty || p == ['.']

end SchemaCheck
