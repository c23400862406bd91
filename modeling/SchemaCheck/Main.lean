import SchemaCheck.CommandLine.Run
/-!
# Main — the program

Gives a command line the files of the system, writes what the run leaves behind and ends with its code.
-/
namespace SchemaCheck

/-- The fault behind an error of the system. -/
def SystemFault.ofError : IO.Error → SystemFault
  | .noFileOrDirectory .. => .notFound
  | .permissionDenied _ code details => .other (details ++ " (os error " ++ toString code ++ ")")
  | .inappropriateType .. => .notDirectory
  | e => .other (toString e)

/-- The result of an action on files. -/
def attempt {α : Type} (action : IO α) : IO (Except SystemFault α) := do
  try
    return .ok (← action)
  catch e =>
    return .error (SystemFault.ofError e)

/-- The files of the system, as they show from the working directory. -/
def systemFiles : IO (FileAccess IO) := do
  let here ← IO.currentDir
  return {
    read := fun path => do
      if path.isEmpty then return .error .notFound
      if ← (here / path).isDir then return .error .isDirectory
      match ← attempt (IO.FS.readBinFile (here / path)) with
      | .error f => return .error f
      | .ok bytes =>
        match String.fromUTF8? bytes with
        | some text => return .ok text
        | none => return .error .invalidUtf8
    isThere := fun path => if path.isEmpty then return false else (here / path).pathExists
    isDirectory := fun path => if path.isEmpty then return false else (here / path).isDir
    list := fun path => attempt do
      (← (here / path).readDir).toList.mapM fun e => do return (e.fileName, ← e.path.isDir) }

end SchemaCheck

open SchemaCheck in
def main (words : List String) : IO UInt32 := do
  let out ← IO.getStdout
  let err ← IO.getStderr
  let color := Report.showsColor (← IO.getEnv "CLICOLOR_FORCE") (← IO.getEnv "NO_COLOR") (← IO.getEnv "CLICOLOR")
    (← out.isTty)
  let outcome ← runArguments (← systemFiles) color words
  out.putStr outcome.out
  out.flush
  err.putStr outcome.err
  return UInt32.ofNat outcome.code
