import SchemaCheck.CommandLine.Run
import SchemaCheck.Files.Directory
import SchemaCheck.Proofs.LineByLine
/-!
# Loading — what a check loads, and what keeps it from loading

Files that stay as they are answer at once: their monad is `Id`.  A check then loads in stages, and each stage either
gives something or has a fault: the schema (`SchemaFault`), the sources, each of which stands for paths (`StandsFor`,
`SourceFault`), and the files with their documents (`FileFault`).
-/
namespace SchemaCheck.Loading

section Runs

variable {ε α β : Type}

theorem run_bind (x : ExceptT ε Id α) (f : α → ExceptT ε Id β) :
    (x >>= f).run.run = x.run.run.bind fun a => (f a).run.run := by
  rw [ExceptT.run_bind, Id.run_bind]
  cases x.run.run <;> rfl

theorem run_mapM (f : α → ExceptT ε Id β) (as : List α) :
    (as.mapM f).run.run = as.mapM fun a => (f a).run.run := by
  induction as with
  | nil => rfl
  | cons a rest ih =>
    have hrest : ∀ b, (do let bs ← rest.mapM f; pure (b :: bs) : ExceptT ε Id (List β)).run.run =
        (rest.mapM fun a => (f a).run.run).bind fun bs => .ok (b :: bs) := fun b => by
      rw [run_bind, ih]
      rfl
    rw [List.mapM_cons, List.mapM_cons, run_bind]
    exact congrArg ((f a).run.run.bind ·) (funext hrest)

end Runs

variable {fs : FileAccess Id}

/-! ## Files -/

theorem run_readFile (path : String) : (readFile fs path).run.run =
    match (fs.read path).run with
    | .ok text => .ok text
    | .error cause => .error (.unreadable path cause) := by
  have hread : (readFile fs path).run.run = (match (fs.read path).run with
    | .ok text => (pure text : ExceptT LoadFault Id String)
    | .error f => throw (LoadFault.unreadable path f)).run.run := rfl
  rw [hread]
  cases (fs.read path).run <;> rfl

theorem readFile_eq_ok_iff {path text : String} :
    (readFile fs path).run.run = .ok text ↔ (fs.read path).run = .ok text := by
  rw [run_readFile]
  cases (fs.read path).run <;> simp

theorem readFile_eq_error_iff {path : String} {f : LoadFault} : (readFile fs path).run.run = .error f ↔
    ∃ cause, (fs.read path).run = .error cause ∧ f = .unreadable path cause := by
  rw [run_readFile]
  cases (fs.read path).run <;> simp [eq_comm]

/-! ## The schema -/

variable (fs) in
/-- What keeps the schema at a path from loading. -/
inductive SchemaFault (path : String) : LoadFault → Prop
  | unreadable {cause : SystemFault} (h : (fs.read path).run = .error cause) : SchemaFault path (.unreadable path cause)
  | undecoded {text : String} {f : LoadFault} (h : (fs.read path).run = .ok text)
      (hf : Schema.ofText path text = .error f) : SchemaFault path f

theorem run_loadSchema (c : SchemaChoice) : (c.load fs).run.run =
    (readFile fs c.path).run.run.bind fun text => (Schema.ofText c.path text).map (compile c.options) := by
  have hdecode : ∀ text, (do
      return compile c.options (← ExceptT.mk (pure (Schema.ofText c.path text))) : ExceptT LoadFault Id Node).run.run =
        (Schema.ofText c.path text).map (compile c.options) := fun text => by
    rw [run_bind, ExceptT.run_mk, Id.run_pure]
    cases Schema.ofText c.path text <;> rfl
  rw [SchemaChoice.load, run_bind]
  exact congrArg ((readFile fs c.path).run.run.bind ·) (funext hdecode)

theorem loadSchema_eq_ok_iff {c : SchemaChoice} {n : Node} : (c.load fs).run.run = .ok n ↔
    ∃ text s, (fs.read c.path).run = .ok text ∧ Schema.ofText c.path text = .ok s ∧ compile c.options s = n := by
  simp only [run_loadSchema, bind_eq_ok_iff, map_eq_ok_iff, readFile_eq_ok_iff]
  constructor
  · rintro ⟨text, htext, s, hs, hn⟩
    exact ⟨text, s, htext, hs, hn⟩
  · rintro ⟨text, s, htext, hs, hn⟩
    exact ⟨text, htext, s, hs, hn⟩

theorem loadSchema_eq_error_iff {c : SchemaChoice} {f : LoadFault} :
    (c.load fs).run.run = .error f ↔ SchemaFault fs c.path f := by
  rw [run_loadSchema, bind_eq_error_iff, readFile_eq_error_iff]
  constructor
  · rintro (⟨cause, h, rfl⟩ | ⟨text, htext, h⟩)
    · exact .unreadable h
    · exact .undecoded (readFile_eq_ok_iff.1 htext) (map_eq_error_iff.1 h)
  · rintro (h | ⟨htext, h⟩)
    · exact .inl ⟨_, h, rfl⟩
    · exact .inr ⟨_, readFile_eq_ok_iff.2 htext, map_eq_error_iff.2 h⟩

/-! ## Sources -/

variable (fs) in
/-- The paths that a source stands for: a path for itself, a pattern for what it finds. -/
inductive StandsFor (source : String) : List String → Prop
  | itself (h : Search.isPattern source = false) : StandsFor source [source]
  | found {search : Search} {path : String} {rest : List String} (h : Search.isPattern source = true)
      (hs : Search.ofPattern source = .ok search) (hf : (search.run fs).run.run = .ok (path :: rest)) :
      StandsFor source (path :: rest)

variable (fs) in
/-- What is wrong with a source that is a pattern: it is none, a directory on its way cannot be listed, or it finds
nothing. -/
inductive SourceFault (source : String) : LoadFault → Prop
  | malformed {f : Wildcard.Fault} (h : Search.isPattern source = true) (hs : Search.ofPattern source = .error f) :
      SourceFault source (.badPattern source f)
  | unlisted {search : Search} {u : Search.Unlisted} (h : Search.isPattern source = true)
      (hs : Search.ofPattern source = .ok search) (hf : (search.run fs).run.run = .error u) :
      SourceFault source (.unlisted source u)
  | nothingFound {search : Search} (h : Search.isPattern source = true) (hs : Search.ofPattern source = .ok search)
      (hf : (search.run fs).run.run = .ok []) : SourceFault source (.nothingFound source)

theorem pathsOf_itself {source : String} (h : Search.isPattern source = false) :
    (InputChoice.pathsOf fs source).run.run = .ok [source] := by
  rw [InputChoice.pathsOf, h]
  rfl

theorem pathsOf_malformed {source : String} {f : Wildcard.Fault} (h : Search.isPattern source = true)
    (hs : Search.ofPattern source = .error f) :
    (InputChoice.pathsOf fs source).run.run = .error (.badPattern source f) := by
  rw [InputChoice.pathsOf, h, hs]
  rfl

/-- A pattern that can be read is run, and what it finds has to be something. -/
theorem pathsOf_pattern {source : String} {search : Search} (h : Search.isPattern source = true)
    (hs : Search.ofPattern source = .ok search) : (InputChoice.pathsOf fs source).run.run =
      match (search.run fs).run.run with
      | .error u => .error (.unlisted source u)
      | .ok [] => .error (.nothingFound source)
      | .ok paths => .ok paths := by
  have hrun : (InputChoice.pathsOf fs source).run.run = (match (search.run fs).run.run with
      | .error u => throw (LoadFault.unlisted source u)
      | .ok [] => throw (LoadFault.nothingFound source)
      | .ok paths => (pure paths : ExceptT LoadFault Id (List String))).run.run := by
    rw [InputChoice.pathsOf, h, hs]
    rfl
  rw [hrun]
  rcases (search.run fs).run.run with u | _ | ⟨path, rest⟩ <;> rfl

variable (fs) in
/-- A source stands for paths or has a fault, just as it is looked up. -/
theorem pathsOf_spec (source : String) :
    (∃ paths, StandsFor fs source paths ∧ (InputChoice.pathsOf fs source).run.run = .ok paths) ∨
      ∃ f, SourceFault fs source f ∧ (InputChoice.pathsOf fs source).run.run = .error f := by
  cases h : Search.isPattern source with
  | false => exact .inl ⟨_, .itself h, pathsOf_itself h⟩
  | true =>
    cases hs : Search.ofPattern source with
    | error f => exact .inr ⟨_, .malformed h hs, pathsOf_malformed h hs⟩
    | ok search =>
      rw [pathsOf_pattern h hs]
      rcases hf : (search.run fs).run.run with u | _ | ⟨path, rest⟩
      · exact .inr ⟨_, .unlisted h hs hf, rfl⟩
      · exact .inr ⟨_, .nothingFound h hs hf, rfl⟩
      · exact .inl ⟨_, .found h hs hf, rfl⟩

theorem pathsOf_eq_ok_iff {source : String} {paths : List String} :
    (InputChoice.pathsOf fs source).run.run = .ok paths ↔ StandsFor fs source paths := by
  constructor
  · intro h
    rcases pathsOf_spec fs source with ⟨ps, hstands, hps⟩ | ⟨f, -, hf⟩
    · rw [h] at hps
      cases hps
      exact hstands
    · rw [h] at hf
      cases hf
  · rintro (h | ⟨h, hs, hf⟩)
    · exact pathsOf_itself h
    · rw [pathsOf_pattern h hs, hf]

theorem pathsOf_eq_error_iff {source : String} {f : LoadFault} :
    (InputChoice.pathsOf fs source).run.run = .error f ↔ SourceFault fs source f := by
  constructor
  · intro h
    rcases pathsOf_spec fs source with ⟨ps, -, hps⟩ | ⟨g, hfault, hg⟩
    · rw [h] at hps
      cases hps
    · rw [h] at hg
      cases hg
      exact hfault
  · rintro (⟨h, hs⟩ | ⟨h, hs, hf⟩ | ⟨h, hs, hf⟩)
    · exact pathsOf_malformed h hs
    · rw [pathsOf_pattern h hs, hf]
    · rw [pathsOf_pattern h hs, hf]

theorem run_paths (i : InputChoice) : (i.paths fs).run.run =
    (i.sources.mapM fun source => (InputChoice.pathsOf fs source).run.run).map List.flatten := by
  rw [InputChoice.paths, run_bind, run_mapM]
  cases i.sources.mapM fun source => (InputChoice.pathsOf fs source).run.run <;> rfl

/-! ## Documents -/

variable (fs) in
/-- The documents that a file holds. -/
def FileHolds (i : InputChoice) (path : String) (ds : List Document) : Prop :=
  ∃ text, (fs.read path).run = .ok text ∧ Document.allOfText path text i.byLine i.pointer = .ok ds

variable (fs) in
/-- What is wrong with a file: it cannot be read, one of its documents does not decode, or the pointer selects nothing
in one. -/
inductive FileFault (i : InputChoice) (path : String) : LoadFault → Prop
  | unreadable {cause : SystemFault} (h : (fs.read path).run = .error cause) : FileFault i path (.unreadable path cause)
  | undecoded {text : String} {part : String × String} {f : Decode.Fault} (h : (fs.read path).run = .ok text)
      (hpart : part ∈ Document.parts path text i.byLine) (hf : Value.ofJsonText part.2 = .error f) :
      FileFault i path (.undecoded part.1 f)
  | nothingSelected {text pointer : String} {part : String × String} {v : Value} (h : (fs.read path).run = .ok text)
      (hpart : part ∈ Document.parts path text i.byLine) (hv : Value.ofJsonText part.2 = .ok v)
      (hpointer : i.pointer = some pointer) (hf : Pointer.find? pointer v = none) :
      FileFault i path (.nothingSelected part.1 pointer)

theorem run_documentsOf (i : InputChoice) (path : String) : (i.documentsOf fs path).run.run =
    (readFile fs path).run.run.bind fun text => Document.allOfText path text i.byLine i.pointer := by
  rw [InputChoice.documentsOf, run_bind]
  rfl

theorem documentsOf_eq_ok_iff {i : InputChoice} {path : String} {ds : List Document} :
    (i.documentsOf fs path).run.run = .ok ds ↔ FileHolds fs i path ds := by
  rw [run_documentsOf, bind_eq_ok_iff]
  exact exists_congr fun text => and_congr_left fun _ => readFile_eq_ok_iff

theorem exists_fileFault_iff {i : InputChoice} {path : String} :
    (∃ f, (i.documentsOf fs path).run.run = .error f) ↔ ∃ f, FileFault fs i path f := by
  simp only [run_documentsOf, bind_eq_error_iff, exists_or, readFile_eq_error_iff, readFile_eq_ok_iff]
  constructor
  · rintro (⟨_, cause, h, rfl⟩ | ⟨f, text, htext, h⟩)
    · exact ⟨_, .unreadable h⟩
    · obtain ⟨part, hpart, g, hg⟩ := Document.exists_allOfText_eq_error_iff.1 ⟨f, h⟩
      rcases Document.ofPart_eq_error_iff_cause.1 hg with ⟨fault, hfault, rfl⟩ | ⟨v, p, hv, hp, hfind, rfl⟩
      · exact ⟨_, .undecoded htext hpart hfault⟩
      · exact ⟨_, .nothingSelected htext hpart hv hp hfind⟩
  · have hpart : ∀ {text : String} {part : String × String} {g : LoadFault}, (fs.read path).run = .ok text →
        part ∈ Document.parts path text i.byLine → Document.ofPart i.pointer part = .error g →
          ∃ f text, (fs.read path).run = .ok text ∧ Document.allOfText path text i.byLine i.pointer = .error f :=
      fun htext hmem hg => by
        obtain ⟨f, hf⟩ := Document.exists_allOfText_eq_error_iff.2 ⟨_, hmem, _, hg⟩
        exact ⟨f, _, htext, hf⟩
    rintro ⟨f, h | ⟨htext, hmem, hf⟩ | ⟨htext, hmem, hv, hp, hfind⟩⟩
    · exact .inl ⟨_, _, h, rfl⟩
    · exact .inr (hpart htext hmem (Document.ofPart_eq_error_iff_cause.2 (.inl ⟨_, hf, rfl⟩)))
    · exact .inr (hpart htext hmem (Document.ofPart_eq_error_iff_cause.2 (.inr ⟨_, _, hv, hp, hfind, rfl⟩)))

/-! ## All of the input -/

variable (fs) in
/-- The documents of an input: those of every file that a source stands for, source by source. -/
def InputHolds (i : InputChoice) (ds : List Document) : Prop :=
  ∃ pathss dss, List.Forall₂ (StandsFor fs) i.sources pathss ∧ List.Forall₂ (FileHolds fs i) pathss.flatten dss ∧
    ds = dss.flatten

theorem run_load (i : InputChoice) : (i.load fs).run.run =
    (i.paths fs).run.run.bind fun paths =>
      (paths.mapM fun path => (i.documentsOf fs path).run.run).map List.flatten := by
  have hfiles : ∀ paths : List String, (do
      return (← paths.mapM (i.documentsOf fs)).flatten : ExceptT LoadFault Id (List Document)).run.run =
        (paths.mapM fun path => (i.documentsOf fs path).run.run).map List.flatten := fun paths => by
    rw [run_bind, run_mapM]
    cases paths.mapM fun path => (i.documentsOf fs path).run.run <;> rfl
  rw [InputChoice.load, run_bind]
  exact congrArg ((i.paths fs).run.run.bind ·) (funext hfiles)

theorem paths_eq_ok_iff {i : InputChoice} {paths : List String} : (i.paths fs).run.run = .ok paths ↔
    ∃ pathss, List.Forall₂ (StandsFor fs) i.sources pathss ∧ pathss.flatten = paths := by
  simp only [run_paths, map_eq_ok_iff, mapM_eq_ok_iff, pathsOf_eq_ok_iff]

theorem load_eq_ok_iff {i : InputChoice} {ds : List Document} : (i.load fs).run.run = .ok ds ↔ InputHolds fs i ds := by
  simp only [run_load, bind_eq_ok_iff, paths_eq_ok_iff, map_eq_ok_iff, mapM_eq_ok_iff, documentsOf_eq_ok_iff]
  constructor
  · rintro ⟨_, ⟨pathss, hpathss, rfl⟩, dss, hdss, rfl⟩
    exact ⟨pathss, dss, hpathss, hdss, rfl⟩
  · rintro ⟨pathss, dss, hpathss, hdss, rfl⟩
    exact ⟨_, ⟨pathss, hpathss, rfl⟩, dss, hdss, rfl⟩

/-- A source that has a fault keeps every file from being read: the fault shown is that of a source. -/
theorem load_eq_error_of_sourceFault {i : InputChoice} (h : ∃ source ∈ i.sources, ∃ f, SourceFault fs source f) :
    ∃ source ∈ i.sources, ∃ f, SourceFault fs source f ∧ (i.load fs).run.run = .error f := by
  obtain ⟨source, hsource, f, hf⟩ := h
  cases hrun : i.sources.mapM fun source => (InputChoice.pathsOf fs source).run.run with
  | ok pathss =>
    obtain ⟨paths, hpaths⟩ := (exists_mapM_eq_ok_iff _).1 ⟨pathss, hrun⟩ source hsource
    rw [pathsOf_eq_error_iff.2 hf] at hpaths
    cases hpaths
  | error g =>
    obtain ⟨pre, first, post, hsplit, hfirst, -⟩ := (mapM_eq_error_iff _).1 hrun
    refine ⟨first, by simp [hsplit], g, pathsOf_eq_error_iff.1 hfirst, ?_⟩
    rw [run_load, run_paths, hrun]
    rfl

/-- One file with a fault leaves nothing of the whole input. -/
theorem exists_load_eq_error {i : InputChoice} {source path : String} {paths : List String}
    (hsource : source ∈ i.sources) (hpaths : StandsFor fs source paths) (hpath : path ∈ paths)
    (h : ∃ f, FileFault fs i path f) :
    ∃ f, (i.load fs).run.run = .error f := by
  obtain ⟨g, hg⟩ := exists_fileFault_iff.2 h
  cases hload : (i.load fs).run.run with
  | error f => exact ⟨f, rfl⟩
  | ok ds =>
    -- the paths that the source was found to stand for are those that it stands for
    obtain ⟨pathss, dss, hpathss, hdss, -⟩ := load_eq_ok_iff.1 hload
    obtain ⟨ps, hps, hstands⟩ := exists_mem_of_forall₂ hpathss source hsource
    have heq : ps = paths := by
      have hok := pathsOf_eq_ok_iff.2 hstands
      rw [pathsOf_eq_ok_iff.2 hpaths] at hok
      exact (Except.ok.inj hok).symm
    subst heq
    obtain ⟨es, -, hes⟩ := exists_mem_of_forall₂ hdss path (List.mem_flatten.2 ⟨ps, hps, hpath⟩)
    rw [documentsOf_eq_ok_iff.2 hes] at hg
    cases hg

/-- An input that is not loaded has a source or a file with a fault. -/
theorem exists_fault_of_load {i : InputChoice} {f : LoadFault} (h : (i.load fs).run.run = .error f) :
    (∃ source ∈ i.sources, ∃ g, SourceFault fs source g) ∨
      ∃ source ∈ i.sources, ∃ paths, StandsFor fs source paths ∧ ∃ path ∈ paths, ∃ g, FileFault fs i path g := by
  rw [run_load, bind_eq_error_iff, run_paths, map_eq_error_iff] at h
  rcases h with h | ⟨paths, hpaths, h⟩
  · obtain ⟨pre, source, post, hsplit, hsource, -⟩ := (mapM_eq_error_iff _).1 h
    exact .inl ⟨source, by simp [hsplit], f, pathsOf_eq_error_iff.1 hsource⟩
  · obtain ⟨pre, path, post, hsplit, hpath, -⟩ := (mapM_eq_error_iff _).1 (map_eq_error_iff.1 h)
    rw [← run_paths] at hpaths
    obtain ⟨pathss, hpathss, rfl⟩ := paths_eq_ok_iff.1 hpaths
    obtain ⟨ps, hps, hmem⟩ := List.mem_flatten.1 (show path ∈ pathss.flatten by simp [hsplit])
    obtain ⟨source, hsource, hstands⟩ := exists_mem_of_forall₂ hpathss.flip ps hps
    exact .inr ⟨source, hsource, ps, hstands, path, hmem, exists_fileFault_iff.1 ⟨f, hpath⟩⟩

/-! ## A check -/

variable (fs) in
/-- Something keeps a check from loading all that it asks for. -/
inductive Fails (schema : SchemaChoice) (i : InputChoice) : Prop
  | schema {f : LoadFault} (h : SchemaFault fs schema.path f)
  | source {source : String} {f : LoadFault} (hsource : source ∈ i.sources) (h : SourceFault fs source f)
  | file {source path : String} {paths : List String} {f : LoadFault} (hsource : source ∈ i.sources)
      (hpaths : StandsFor fs source paths) (hpath : path ∈ paths) (h : FileFault fs i path f)

theorem run_check (color quiet : Bool) (schema : SchemaChoice) (i : InputChoice) :
    ((Command.check schema i quiet).run fs color).run =
      match (schema.load fs).run.run with
      | .error f => Report.ofSchemaFault schema.path f
      | .ok n =>
        match (i.load fs).run.run with
        | .error f => Report.ofInputFault f
        | .ok ds => Report.ofCheck color quiet (ds.map (Report.Entry.of n)) := by
  have hrun : ((Command.check schema i quiet).run fs color).run = ((schema.load fs).run >>= fun r =>
      match r with
      | .error f => pure (Report.ofSchemaFault schema.path f)
      | .ok n => (i.load fs).run >>= fun r =>
        match r with
        | .error f => pure (Report.ofInputFault f)
        | .ok ds => pure (Report.ofCheck color quiet (ds.map (Report.Entry.of n)))).run := rfl
  rw [hrun, Id.run_bind]
  cases (schema.load fs).run.run with
  | error f => rfl
  | ok n =>
    rw [Id.run_bind]
    cases (i.load fs).run.run <;> rfl

section Check

variable {color quiet : Bool} {schema : SchemaChoice} {i : InputChoice}

theorem run_check_of_schemaFault {f : LoadFault} (h : SchemaFault fs schema.path f) :
    ((Command.check schema i quiet).run fs color).run = Report.ofSchemaFault schema.path f := by
  rw [run_check, loadSchema_eq_error_iff.2 h]

theorem run_check_of_load_eq_error {n : Node} {f : LoadFault} (hschema : (schema.load fs).run.run = .ok n)
    (h : (i.load fs).run.run = .error f) :
    ((Command.check schema i quiet).run fs color).run = Report.ofInputFault f := by
  rw [run_check, hschema]
  simp only [h]

theorem run_check_of_loads {n : Node} {ds : List Document} (hschema : (schema.load fs).run.run = .ok n)
    (h : InputHolds fs i ds) : ((Command.check schema i quiet).run fs color).run =
      Report.ofCheck color quiet (ds.map (Report.Entry.of n)) := by
  rw [run_check, hschema]
  simp only [load_eq_ok_iff.2 h]

/-- Whatever fails, the run ends with a complaint. -/
theorem complains_of_fails (h : Fails fs schema i) : ∃ text causes,
    ((Command.check schema i quiet).run fs color).run = Report.complaint text causes := by
  cases hschema : (schema.load fs).run.run with
  | error f => exact ⟨_, _, run_check_of_schemaFault (loadSchema_eq_error_iff.1 hschema)⟩
  | ok n =>
    have hload : ∃ f, (i.load fs).run.run = .error f := by
      rcases h with h | ⟨hsource, h⟩ | ⟨hsource, hpaths, hpath, h⟩
      · rw [loadSchema_eq_error_iff.2 h] at hschema
        cases hschema
      · obtain ⟨_, -, f, -, hf⟩ := load_eq_error_of_sourceFault ⟨_, hsource, _, h⟩
        exact ⟨f, hf⟩
      · exact exists_load_eq_error hsource hpaths hpath ⟨_, h⟩
    obtain ⟨f, hf⟩ := hload
    exact ⟨_, _, run_check_of_load_eq_error hschema hf⟩

/-- What does not fail is loaded as a whole. -/
theorem loads_of_not_fails (h : ¬ Fails fs schema i) :
    (∃ n, (schema.load fs).run.run = .ok n) ∧ ∃ ds, InputHolds fs i ds := by
  constructor
  · cases hschema : (schema.load fs).run.run with
    | error f => exact absurd (.schema (loadSchema_eq_error_iff.1 hschema)) h
    | ok n => exact ⟨n, rfl⟩
  · cases hload : (i.load fs).run.run with
    | error f =>
      rcases exists_fault_of_load hload with ⟨source, hsource, g, hg⟩ | ⟨source, hsource, ps, hps, path, hpath, g, hg⟩
      · exact absurd (.source hsource hg) h
      · exact absurd (.file hsource hps hpath hg) h
    | ok ds => exact ⟨ds, load_eq_ok_iff.1 hload⟩

end Check

variable (fs) in
/-- **A check loads everything or shows nothing.**  If the schema does not load, a pattern is of no use, a file cannot
be read, a document does not decode or the pointer selects nothing in one, the output is empty and the code is 1; else
all documents are reported.  A fault of the schema is shown before any other, and one of a pattern before any of a file.
-/
theorem check_loads_all_or_nothing {words : List String} {schema : SchemaChoice} {i : InputChoice} {quiet : Bool}
    (hwords : Command.ofArguments words = .ok (.check schema i quiet)) (color : Bool) :
    let outcome := (runArguments fs color words).run
    (Fails fs schema i → outcome.out = "" ∧ outcome.code = 1) ∧
    (¬ Fails fs schema i → ∃ n ds, (schema.load fs).run.run = .ok n ∧ InputHolds fs i ds ∧
      outcome = Report.ofCheck color quiet (ds.map (Report.Entry.of n))) ∧
    (∀ f, SchemaFault fs schema.path f → outcome = Report.ofSchemaFault schema.path f) ∧
    ((∀ f, ¬ SchemaFault fs schema.path f) → ∀ source ∈ i.sources, ∀ f, SourceFault fs source f →
      ∃ source ∈ i.sources, ∃ f, SourceFault fs source f ∧ outcome = Report.ofInputFault f) := by
  have hrun : (runArguments fs color words).run = ((Command.check schema i quiet).run fs color).run := by
    rw [runArguments, hwords]
  simp only [hrun]
  refine ⟨fun h => ?_, fun h => ?_, fun f h => run_check_of_schemaFault h, fun hschema source hsource f h => ?_⟩
  · obtain ⟨text, causes, heq⟩ := complains_of_fails h
    rw [heq]
    exact ⟨rfl, rfl⟩
  · obtain ⟨⟨n, hn⟩, ds, hds⟩ := loads_of_not_fails h
    exact ⟨n, ds, hn, hds, run_check_of_loads hn hds⟩
  · cases hload : (schema.load fs).run.run with
    | error g => exact absurd (loadSchema_eq_error_iff.1 hload) (hschema g)
    | ok n =>
      obtain ⟨first, hfirst, g, hg, hfails⟩ := load_eq_error_of_sourceFault ⟨source, hsource, f, h⟩
      exact ⟨first, hfirst, g, hg, run_check_of_load_eq_error hload hfails⟩

/-- A pattern that finds nothing is shown before a file that does not decode, and a schema that is not there before
both. -/
theorem check_loads_all_or_nothing_pattern_before_file :
    let fs := (Entry.ofFiles [("s", some "null"), ("a.json", some "\x7b")]).access
    let i : InputChoice := ⟨["a.json", "d/*"], false, none⟩
    let outcome := (runArguments fs false ["check", "-ss", "-i", "a.json", "d/*"]).run
    let other := (runArguments fs false ["check", "-st", "-i", "a.json", "d/*"]).run
    (∃ f, FileFault fs i "a.json" f) ∧ SourceFault fs "d/*" (.nothingFound "d/*") ∧
      SchemaFault fs "t" (.unreadable "t" .notFound) ∧ outcome.out = "" ∧ outcome.code = 1 ∧
      (∃ source ∈ i.sources, ∃ f, SourceFault fs source f ∧ outcome = Report.ofInputFault f) ∧
      other = Report.ofSchemaFault "t" (.unreadable "t" .notFound) := by
  intro fs i outcome other
  have hwords : Command.ofArguments ["check", "-ss", "-i", "a.json", "d/*"] = .ok (.check ⟨"s", false⟩ i false) := by
    decide +kernel
  have hothers : Command.ofArguments ["check", "-st", "-i", "a.json", "d/*"] = .ok (.check ⟨"t", false⟩ i false) := by
    decide +kernel
  have hfile : ∃ f, FileFault fs i "a.json" f := by
    have hread : (fs.read "a.json").run = .ok "\x7b" := by decide +kernel
    have hdecode : (Value.ofJsonText "\x7b").toOption = none := by decide +kernel
    cases h : Value.ofJsonText "\x7b" with
    | ok v => simp [h, Except.toOption] at hdecode
    | error f => exact ⟨_, .undecoded hread (List.mem_singleton_self ("a.json", "\x7b")) h⟩
  have hsource : SourceFault fs "d/*" (.nothingFound "d/*") := by
    have hsearch : Search.ofPattern "d/*" = .ok ⟨false, [.plain "d", .wild [.anyChars]], false⟩ := by
      decide +kernel
    exact .nothingFound (by decide +kernel) hsearch (by decide +kernel)
  have hschema : SchemaFault fs "t" (.unreadable "t" .notFound) := .unreadable (by decide +kernel)
  have hloads : ∀ f, ¬ SchemaFault fs "s" f := by
    have hsome : (SchemaChoice.load fs ⟨"s", false⟩).run.run.toOption.isSome = true := by decide +kernel
    intro f hf
    have hload : (SchemaChoice.load fs ⟨"s", false⟩).run.run = .error f := loadSchema_eq_error_iff.2 hf
    rw [hload] at hsome
    cases hsome
  obtain ⟨hnothing, -, -, hpattern⟩ := check_loads_all_or_nothing fs hwords false
  obtain ⟨hout, hcode⟩ := hnothing (.source (List.mem_cons_of_mem _ List.mem_cons_self) hsource)
  exact ⟨hfile, hsource, hschema, hout, hcode,
    hpattern hloads "d/*" (List.mem_cons_of_mem _ List.mem_cons_self) _ hsource,
    (check_loads_all_or_nothing fs hothers false).2.2.1 _ hschema⟩

end SchemaCheck.Loading
