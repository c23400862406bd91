import SchemaCheck.Files.Access
/-!
# Directory — files held in memory

An entry is a file or a directory of entries.  A path leads from a directory step by step (`Entry.follow`): `.`
stays, `..` goes back up, and above the directory that paths start from nothing shows.  `Entry.access` looks at the
files of a directory by their paths.
-/
namespace SchemaCheck

inductive Entry where
  /-- A file with its text; a file that is not UTF-8 has none. -/
  | file (text : Option String)
  | directory (entries : List (String × Entry))

namespace Entry

instance : Inhabited Entry := ⟨.directory []⟩

def isDirectory : Entry → Bool
  | .directory _ => true
  | .file _ => false

/-! ## Building -/

/-- Replaces what stands under a name, or adds it. -/
def put (name : String) (e : Entry) : List (String × Entry) → List (String × Entry)
  | [] => [(name, e)]
  | (n, old) :: rest => if n = name then (name, e) :: rest else (n, old) :: put name e rest

/-- The entries with a file under a path; directories are made on the way, and a file on the way gives way. -/
def insertFile (text : Option String) : List String → List (String × Entry) → List (String × Entry)
  | [], entries => entries
  | [name], entries => put name (.file text) entries
  | name :: rest, entries =>
    let inner := match entries.lookup name with
      | some (.directory es) => es
      | _ => []
    put name (.directory (insertFile text rest inner)) entries

/-- A directory that holds files under relative paths. -/
def ofFiles (files : List (String × Option String)) : Entry :=
  .directory (files.foldl (fun entries f =>
    insertFile f.2 (((Text.slashParts f.1.toList).filter (!·.isEmpty)).map String.ofList) entries) [])

/-! ## Looking -/

/-- Where a path has led: the entry there, and those that it lies in, innermost first.  It is empty outside of the
directory that paths start from. -/
abbrev Trail := List Entry

/-- Outside, an empty directory shows. -/
def Trail.here (t : Trail) : Entry := t.head?.getD (.directory [])

/-- One step of a path. -/
def step (t : Trail) (part : String) : Except SystemFault Trail :=
  match t.here with
  | .file _ => .error .notDirectory
  | .directory entries =>
    if part.isEmpty || part == "." then .ok t
    else if part == ".." then .ok t.tail
    else
      match entries.lookup part with
      | some e => .ok (e :: t)
      | none => .error .notFound

/-- What a path leads to.  The empty path leads nowhere, and one that starts with a slash starts outside. -/
def follow (root : Entry) (path : String) : Except SystemFault Entry :=
  if path.isEmpty then .error .notFound
  else
    let start : Trail := if path.toList.head? = some '/' then [] else [root]
    (((Text.slashParts path.toList).map String.ofList).foldlM step start).map Trail.here

def read (root : Entry) (path : String) : Except SystemFault String :=
  match root.follow path with
  | .error f => .error f
  | .ok (.directory _) => .error .isDirectory
  | .ok (.file none) => .error .invalidUtf8
  | .ok (.file (some text)) => .ok text

def list (root : Entry) (path : String) : Except SystemFault (List (String × Bool)) :=
  match root.follow path with
  | .error f => .error f
  | .ok (.file _) => .error .notDirectory
  | .ok (.directory entries) => .ok (entries.map fun e => (e.1, e.2.isDirectory))

/-- The files of a directory by their paths. -/
def access (root : Entry) : FileAccess Id where
  read := root.read
  isThere path := (root.follow path).toBool
  isDirectory path := (root.follow path).toOption.any isDirectory
  list := root.list

end Entry
end SchemaCheck
