/-!
# Arguments — what a command line asks for

A command line is a command and its options.  An option with a value takes it from the same word (`--schema=s`,
`-ss`, `-s=s`) or from the words after it; `--input` takes words until the next option and may come again, any
other option comes once.  `Command.ofArguments` reads a command line or says why it is refused.
-/
namespace SchemaCheck

/-- The schema that a command works with. -/
structure SchemaChoice where
  path : String
  indifferentAccess : Bool
  deriving DecidableEq, Inhabited

/-- The documents that a command works with. -/
structure InputChoice where
  /-- Paths and patterns. -/
  sources : List String
  /-- Every line of a file is a document. -/
  byLine : Bool
  pointer : Option String
  deriving DecidableEq, Inhabited

inductive Command where
  | check (schema : SchemaChoice) (input : InputChoice) (quiet : Bool)
  | compile (schema : SchemaChoice)
  | help
  deriving DecidableEq, Inhabited

namespace Arguments

/-- The commands that take options. -/
inductive Verb where
  | check
  | compile
  deriving DecidableEq, Inhabited

/-- An option without a value. -/
inductive Switch where
  | indifferentAccess | ndjson | quiet
  deriving DecidableEq, Inhabited

/-- An option with a value. -/
inductive Setting where
  | schema | jsonPointer | input
  deriving DecidableEq, Inhabited

inductive Opt where
  | switch (s : Switch)
  | setting (s : Setting)
  | help
  deriving DecidableEq, Inhabited

def Verb.ofName? : String → Option Verb
  | "check" => some .check
  | "compile" => some .compile
  | _ => none

def Switch.name : Switch → String
  | .indifferentAccess => "indifferent-access"
  | .ndjson => "ndjson"
  | .quiet => "quiet"

def Setting.name : Setting → String
  | .schema => "schema"
  | .jsonPointer => "json-pointer"
  | .input => "input"

/-- A setting that takes several words. -/
def Setting.isList (s : Setting) : Bool := s == .input

/-- The options that a command takes. -/
def Opt.isFor (v : Verb) : Opt → Bool
  | .switch .indifferentAccess | .setting .schema | .help => true
  | _ => v == .check

def Opt.ofName? (v : Verb) (name : String) : Option Opt :=
  let option : Option Opt := match name with
    | "indifferent-access" => some (.switch .indifferentAccess)
    | "ndjson" => some (.switch .ndjson)
    | "quiet" => some (.switch .quiet)
    | "schema" => some (.setting .schema)
    | "json-pointer" => some (.setting .jsonPointer)
    | "input" => some (.setting .input)
    | "help" => some .help
    | _ => none
  option.filter (·.isFor v)

def Opt.ofLetter? (v : Verb) (letter : Char) : Option Opt :=
  let option : Option Opt := match letter with
    | 'q' => some (.switch .quiet)
    | 's' => some (.setting .schema)
    | 'i' => some (.setting .input)
    | 'h' => some .help
    | _ => none
  option.filter (·.isFor v)

/-- Why a command line is refused. -/
inductive Refusal where
  | commandMissing
  | commandUnknown (word : String)
  | unexpected (word : String)
  | repeated (name : String)
  | valueMissing (name : String)
  | valueUnneeded (name : String)
  | optionMissing (name : String)
  deriving DecidableEq, Inhabited

def Refusal.message : Refusal → String
  | .commandMissing => "a command is required: check or compile"
  | .commandUnknown word => "unknown command: " ++ word
  | .unexpected word => "unexpected argument: " ++ word
  | .repeated name => "given more than once: --" ++ name
  | .valueMissing name => "a value is required for --" ++ name
  | .valueUnneeded name => "no value is taken by --" ++ name
  | .optionMissing name => "required: --" ++ name

/-- Why reading stops before the end. -/
inductive Stop where
  | help
  | refused (r : Refusal)
  deriving DecidableEq, Inhabited

/-- The options read so far. -/
structure Given where
  switches : List Switch
  schema : Option String
  pointer : Option String
  sources : List String
  deriving DecidableEq, Inhabited

namespace Given

def start : Given := ⟨[], none, none, []⟩

def turnOn (g : Given) (s : Switch) : Except Stop Given :=
  if g.switches.contains s then .error (.refused (.repeated s.name)) else .ok { g with switches := s :: g.switches }

/-- Takes the values of a setting.  A schema has a path that is not empty. -/
def put (g : Given) (s : Setting) (values : List String) : Except Stop Given :=
  match s, values with
  | s, [] => .error (.refused (.valueMissing s.name))
  | .input, values => .ok { g with sources := g.sources ++ values }
  | .schema, value :: _ =>
    if g.schema.isSome then .error (.refused (.repeated s.name))
    else if value.isEmpty then .error (.refused (.valueMissing s.name))
    else .ok { g with schema := some value }
  | .jsonPointer, value :: _ =>
    if g.pointer.isSome then .error (.refused (.repeated s.name)) else .ok { g with pointer := some value }

end Given

/-- A setting that still takes words, with the words so far. -/
abbrev Pending := Option (Setting × List String)

/-- Gives the pending setting its words. -/
def settle (g : Given) : Pending → Except Stop Given
  | none => .ok g
  | some (s, values) => g.put s values

/-- A word that starts no option is a value of the pending setting. -/
def takeWord (pending : Pending) (word : String) : Except Stop Pending :=
  match pending with
  | some (s, values) =>
    if s.isList || values.isEmpty then .ok (some (s, values ++ [word])) else .error (.refused (.unexpected word))
  | none => .error (.refused (.unexpected word))

/-- An option by its name, perhaps with a value after an equals sign. -/
def takeName (v : Verb) (g : Given) (name : String) (value : Option String) : Except Stop (Given × Pending) :=
  match Opt.ofName? v name, value with
  | none, _ => .error (.refused (.unexpected ("--" ++ name)))
  | some (.switch s), none => (g.turnOn s).map fun g => (g, none)
  | some .help, none => .error .help
  | some (.setting s), none => .ok (g, some (s, []))
  | some (.setting s), some value => (g.put s [value]).map fun g => (g, none)
  | some _, some _ => .error (.refused (.valueUnneeded name))

/-- Options by their letters; what follows the letter of a setting is its value, perhaps after an equals sign. -/
def takeLetters (v : Verb) (g : Given) : List Char → Except Stop (Given × Pending)
  | [] => .ok (g, none)
  | c :: rest =>
    match Opt.ofLetter? v c with
    | none => .error (.refused (.unexpected (String.ofList ['-', c])))
    | some .help => .error .help
    | some (.switch s) =>
      match g.turnOn s with
      | .error stop => .error stop
      | .ok g => takeLetters v g rest
    | some (.setting s) =>
      match rest with
      | [] => .ok (g, some (s, []))
      | '=' :: value => (g.put s [String.ofList value]).map fun g => (g, none)
      | value => (g.put s [String.ofList value]).map fun g => (g, none)

/-- Reads words; after `--` no word has a meaning. -/
def read (v : Verb) (g : Given) (pending : Pending) : List String → Except Stop Given
  | [] => settle g pending
  | word :: rest =>
    match word.toList with
    | '-' :: '-' :: name =>
      if name.isEmpty then
        match rest with
        | [] => settle g pending
        | next :: _ => .error (.refused (.unexpected next))
      else
        let value := match name.dropWhile (· != '=') with
          | [] => none
          | _ :: value => some (String.ofList value)
        match (settle g pending).bind fun g => takeName v g (String.ofList (name.takeWhile (· != '='))) value with
        | .error stop => .error stop
        | .ok (g, pending) => read v g pending rest
    | '-' :: c :: letters =>
      match (settle g pending).bind fun g => takeLetters v g (c :: letters) with
      | .error stop => .error stop
      | .ok (g, pending) => read v g pending rest
    | _ =>
      match takeWord pending word with
      | .error stop => .error stop
      | .ok pending => read v g pending rest

/-- The command that options make. -/
def Given.command (g : Given) (v : Verb) : Except Stop Command :=
  match g.schema with
  | none => .error (.refused (.optionMissing Setting.schema.name))
  | some path =>
    let schema : SchemaChoice := ⟨path, g.switches.contains .indifferentAccess⟩
    match v with
    | .compile => .ok (.compile schema)
    | .check =>
      if g.sources.isEmpty then .error (.refused (.optionMissing Setting.input.name))
      else .ok (.check schema ⟨g.sources, g.switches.contains .ndjson, g.pointer⟩ (g.switches.contains .quiet))

/-- The command that a verb and the words after it make. -/
def readCommand (v : Verb) (words : List String) : Except Stop Command :=
  (read v Given.start none words).bind (·.command v)

/-- Help for a command or for all. -/
def readHelp : List String → Except Stop Command
  | [] => .ok .help
  | [word] =>
    if (Verb.ofName? word).isSome || word == "help" then .ok .help else .error (.refused (.commandUnknown word))
  | word :: _ => .error (.refused (.commandUnknown word))

end Arguments

open Arguments in
/-- Reads the words of a command line. -/
def Command.ofArguments (words : List String) : Except Arguments.Refusal Command :=
  let result : Except Stop Command :=
    match words with
    | [] => .error (.refused .commandMissing)
    | "help" :: rest => readHelp rest
    | word :: rest =>
      match Verb.ofName? word, word.toList with
      | some v, _ => readCommand v rest
      | none, '-' :: 'h' :: _ => .ok .help
      | none, _ => if word == "--help" then .ok .help else .error (.refused (.commandUnknown word))
  match result with
  | .ok c => .ok c
  | .error .help => .ok .help
  | .error (.refused r) => .error r

end SchemaCheck
