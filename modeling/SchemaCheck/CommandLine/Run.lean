import SchemaCheck.CommandLine.Arguments
import SchemaCheck.CommandLine.Report
/-!
# Run — what commands do

The schema is loaded first, then every pattern of the input is looked up, then every file is read and decoded; only
when all of that has succeeded is anything checked (`Command.run`).
-/
namespace SchemaCheck

variable {m : Type → Type} [Monad m]

/-- The text of a file. -/
def readFile (fs : FileAccess m) (path : String) : ExceptT LoadFault m String := do
  match ← fs.read path with
  | .ok text => return text
  | .error f => throw (.unreadable path f)

def SchemaChoice.options (s : SchemaChoice) : Options := ⟨s.indifferentAccess⟩

/-- Loads and compiles a schema. -/
def SchemaChoice.load (fs : FileAccess m) (s : SchemaChoice) : ExceptT LoadFault m Node := do
  let text ← readFile fs s.path
  return compile s.options (← ExceptT.mk (pure (Schema.ofText s.path text)))

namespace InputChoice

/-- The paths that one source stands for: itself, or what it finds as a pattern, which must be something. -/
def pathsOf (fs : FileAccess m) (source : String) : ExceptT LoadFault m (List String) := do
  if !Search.isPattern source then return [source]
  match Search.ofPattern source with
  | .error f => throw (.badPattern source f)
  | .ok search =>
    match ← (search.run fs).run with
    | .error u => throw (.unlisted source u)
    | .ok [] => throw (.nothingFound source)
    | .ok paths => return paths

def paths (fs : FileAccess m) (i : InputChoice) : ExceptT LoadFault m (List String) :=
  return (← i.sources.mapM (pathsOf fs)).flatten

/-- The documents of a file. -/
def documentsOf (fs : FileAccess m) (i : InputChoice) (path : String) : ExceptT LoadFault m (List Document) := do
  let text ← readFile fs path
  ExceptT.mk (pure (Document.allOfText path text i.byLine i.pointer))

/-- All documents, in the order of the sources. -/
def load (fs : FileAccess m) (i : InputChoice) : ExceptT LoadFault m (List Document) := do
  return (← (← i.paths fs).mapM (i.documentsOf fs)).flatten

end InputChoice

/-- How the program is called.  Only that help is shown and how the run ends are specified; the words are free, and no
statement is about them. -/
def usage : String :=
  "check JSON documents against a compact schema description\n\n" ++
  "  check --schema FILE --input FILE... [--ndjson] [--json-pointer POINTER] [--indifferent-access] [--quiet]\n" ++
  "  compile --schema FILE [--indifferent-access]\n"

namespace Command

/-- Runs a command on files. -/
def run (fs : FileAccess m) (color : Bool) : Command → m Outcome
  | .help => return ⟨0, usage, ""⟩
  | .compile schema => do
    match ← (schema.load fs).run with
    | .error f => return Report.ofSchemaFault schema.path f
    | .ok n => return ⟨0, n.render ++ "\n", ""⟩
  | .check schema input quiet => do
    match ← (schema.load fs).run with
    | .error f => return Report.ofSchemaFault schema.path f
    | .ok n =>
      match ← (input.load fs).run with
      | .error f => return Report.ofInputFault f
      | .ok documents => return Report.ofCheck color quiet (documents.map (Report.Entry.of n))

end Command

/-- The code of a run whose command line is refused. -/
def refusalCode : Nat := 2

/-- Runs the program with the words of a command line. -/
def runArguments (fs : FileAccess m) (color : Bool) (words : List String) : m Outcome :=
  match Command.ofArguments words with
  | .error r => return ⟨refusalCode, "", "error: " ++ r.message ++ "\n"⟩
  | .ok c => c.run fs color

end SchemaCheck
