import Mathlib
import SchemaCheck.CommandLine.Run
import SchemaCheck.Files.Directory
import SchemaCheck.Proofs.TextKeys
/-!
# CheckRuns — indifferent access does not show

What a run loads comes from JSON texts, so no symbol is a key in it, whatever monad the files come in.  Validations with
and without indifferent access are then alike in all that is shown (`compare_compile_shownAlike`), and so are runs
(`Command.run_check_indifferent`).
-/
namespace SchemaCheck

/-! ## What a validation shows -/

/-- The two differ in nothing that is shown: place, value, words of its own, and the text of what was expected. -/
structure Mismatch.ShownAlike (a b : Mismatch) : Prop where
  location : a.location = b.location
  actual : a.actual = b.actual
  verb : a.reason.verb? = b.reason.verb?
  expected : a.expected.render = b.expected.render

theorem Mismatch.shownAlike_withPolicy (policy : KeyPolicy) (m : Mismatch) : m.ShownAlike (m.withPolicy policy) :=
  ⟨rfl, rfl, rfl, (Node.render_withPolicy policy m.expected).symm⟩

section Validations

variable {s : Schema} {v : Value}

/-- A comparison under other options is the same but for the policy in what it names as expected. -/
theorem compare_compile_of_isPlain (o q : Options) (hs : s.isPlain = true) (hv : v.isPlain = true) :
    compare (compile q s) v = (compare (compile o s) v).map (Mismatch.withPolicy q.keyPolicy) := by
  rw [← withPolicy_compile o q s]
  exact compare_withPolicy q.keyPolicy (compile o s) v (isPlain_compile o s hs) hv

theorem compare_compile_shownAlike (o q : Options) (hs : s.isPlain = true) (hv : v.isPlain = true) :
    List.Forall₂ Mismatch.ShownAlike (compare (compile o s) v) (compare (compile q s) v) := by
  rw [compare_compile_of_isPlain o q hs hv, List.forall₂_map_right_iff, List.forall₂_same]
  exact fun m _ => m.shownAlike_withPolicy q.keyPolicy

theorem isValid_compile_of_isPlain (o q : Options) (hs : s.isPlain = true) (hv : v.isPlain = true) :
    (Validation.of (compile q s) v).isValid = (Validation.of (compile o s) v).isValid := by
  rw [Validation.of, Validation.isValid, compare_compile_of_isPlain o q hs hv, List.isEmpty_map]
  rfl

theorem failureMessage?_compile_of_isPlain (o q : Options) (hs : s.isPlain = true) (hv : v.isPlain = true) :
    (Validation.of (compile q s) v).failureMessage? = (Validation.of (compile o s) v).failureMessage? := by
  have hmessage : Mismatch.message ∘ Mismatch.withPolicy q.keyPolicy = Mismatch.message :=
    funext fun m => m.message_withPolicy q.keyPolicy
  rw [Validation.of, Validation.failureMessage?, Validation.first?, compare_compile_of_isPlain o q hs hv,
    List.head?_map, Option.map_map, hmessage]
  rfl

theorem entry_of_compile_of_isPlain (o q : Options) {d : Document} (hs : s.isPlain = true)
    (hd : d.value.isPlain = true) : Report.Entry.of (compile q s) d = Report.Entry.of (compile o s) d := by
  rw [Report.Entry.of, Report.Entry.of, failureMessage?_compile_of_isPlain o q hs hd]

end Validations

/-! ## What a run loads -/

section Loading

variable {m : Type → Type} [Monad m] [LawfulMonad m] {α β : Type}

/-- What follows need only agree on what the first part can give. -/
theorem bind_congr_of_satisfiesM {p : α → Prop} {x : m α} {f g : α → m β} (hx : SatisfiesM p x)
    (h : ∀ a, p a → f a = g a) : x >>= f = x >>= g := by
  obtain ⟨y, rfl⟩ := hx
  rw [bind_map_left, bind_map_left]
  exact bind_congr fun a => h a.1 a.2

theorem satisfiesM_mapM {p : β → Prop} {f : α → m β} {as : List α} (h : ∀ a ∈ as, SatisfiesM p (f a)) :
    SatisfiesM (fun bs => ∀ b ∈ bs, p b) (as.mapM f) := by
  induction as with
  | nil =>
    rw [List.mapM_nil]
    exact .pure (List.forall_mem_nil p)
  | cons a rest ih =>
    obtain ⟨ha, hrest⟩ := List.forall_mem_cons.1 h
    rw [List.mapM_cons]
    exact ha.bind fun b hb => (ih hrest).bind fun bs hbs => .pure (List.forall_mem_cons.2 ⟨hb, hbs⟩)

variable (fs : FileAccess m)

/-- The schema at a path, not compiled. -/
def Schema.read (path : String) : ExceptT LoadFault m Schema := do
  let text ← readFile fs path
  ExceptT.mk (pure (Schema.ofText path text))

theorem SchemaChoice.load_eq_map (c : SchemaChoice) : c.load fs = compile c.options <$> Schema.read fs c.path := by
  simp [load, Schema.read]

theorem Schema.satisfiesM_read (path : String) :
    SatisfiesM (fun s : Schema => s.isPlain = true) (Schema.read fs path) :=
  SatisfiesM.trivial.bind fun _ _ => SatisfiesM_ExceptT_eq.2 (.pure fun _ h => Schema.isPlain_of_ofText h)

theorem InputChoice.satisfiesM_load (i : InputChoice) :
    SatisfiesM (fun ds : List Document => ∀ d ∈ ds, d.value.isPlain = true) (i.load fs) := by
  have hfile : ∀ path, SatisfiesM (fun ds : List Document => ∀ d ∈ ds, d.value.isPlain = true)
      (i.documentsOf fs path) := fun path =>
    SatisfiesM.trivial.bind fun _ _ => SatisfiesM_ExceptT_eq.2 (.pure fun _ h => Document.isPlain_of_allOfText h)
  refine SatisfiesM.trivial.bind fun paths _ => (satisfiesM_mapM fun path _ => hfile path).bind fun dss hdss => .pure ?_
  intro d hd
  obtain ⟨ds, hds, hmem⟩ := List.mem_flatten.1 hd
  exact hdss ds hds d hmem

end Loading

/-! ## What a run shows -/

/-- A check leaves the same behind with and without indifferent access. -/
theorem Command.run_check_indifferent {m : Type → Type} [Monad m] [LawfulMonad m] (fs : FileAccess m) (color : Bool)
    (path : String) (a b : Bool) (input : InputChoice) (quiet : Bool) :
    (Command.check ⟨path, a⟩ input quiet).run fs color = (Command.check ⟨path, b⟩ input quiet).run fs color := by
  -- both runs read the same schema; they part where it is compiled, and what follows sees no symbol in it
  simp only [Command.run, SchemaChoice.load_eq_map, ExceptT.run_map, bind_map_left]
  refine bind_congr_of_satisfiesM (SatisfiesM_ExceptT_eq.1 (Schema.satisfiesM_read fs path)) fun r hr => ?_
  cases r with
  | error f => rfl
  | ok s =>
    refine bind_congr_of_satisfiesM (SatisfiesM_ExceptT_eq.1 (input.satisfiesM_load fs)) fun r hds => ?_
    cases r with
    | error f => rfl
    | ok ds =>
      have hentries := List.map_congr_left fun d hd => entry_of_compile_of_isPlain ⟨b⟩ ⟨a⟩ (hr s rfl) (hds ds rfl d hd)
      exact congrArg (fun es => pure (Report.ofCheck color quiet es)) hentries

/-- **For JSON texts indifferent access does not show.**  The documents of a text have the same verdict with and without
it, the same message, and mismatches that are alike one by one; and two command lines that ask for a check, one with it
and one without, leave the same behind. -/
theorem indifferentAccess_does_not_show :
    (∀ {origin text source lines : String} {byLine : Bool} {pointer : Option String} {s : Schema} {ds : List Document},
      Schema.ofText origin text = .ok s → Document.allOfText source lines byLine pointer = .ok ds → ∀ d ∈ ds,
        let strict := Validation.of (compile Options.default s) d.value
        let loose := Validation.of (compile Options.default.withIndifferentAccess s) d.value
        loose.isValid = strict.isValid ∧ loose.failureMessage? = strict.failureMessage? ∧
          List.Forall₂ Mismatch.ShownAlike strict.mismatches loose.mismatches) ∧
    ∀ {m : Type → Type} [Monad m] [LawfulMonad m] (fs : FileAccess m) (color : Bool) {words others : List String}
      {path : String} {input : InputChoice} {quiet : Bool},
      Command.ofArguments words = .ok (.check ⟨path, false⟩ input quiet) →
        Command.ofArguments others = .ok (.check ⟨path, true⟩ input quiet) →
          runArguments fs color words = runArguments fs color others := by
  refine ⟨fun hs hds d hd => ?_, fun fs color _ _ _ _ _ hwords hothers => ?_⟩
  · have hs' := Schema.isPlain_of_ofText hs
    have hd' := Document.isPlain_of_allOfText hds d hd
    exact ⟨isValid_compile_of_isPlain _ _ hs' hd', failureMessage?_compile_of_isPlain _ _ hs' hd',
      compare_compile_shownAlike _ _ hs' hd'⟩
  · rw [runArguments, runArguments, hwords, hothers]
    exact Command.run_check_indifferent fs color _ false true _ _

/-- An escaped key in a schema and in a line of documents, and a check of two such files. -/
theorem indifferentAccess_does_not_show_for_an_escaped_key :
    (∃ s ds, Schema.ofText "s" "\x7b\"$$a\":null\x7d" = .ok s ∧
      Document.allOfText "d" "\x7b\"$a\":1\x7d" true none = .ok ds ∧ ds.length = 1 ∧ ∀ d ∈ ds,
        (Validation.of (compile Options.default.withIndifferentAccess s) d.value).failureMessage? =
          (Validation.of (compile Options.default s) d.value).failureMessage?) ∧
    let fs := (Entry.ofFiles [("s", some "\x7b\"$$a\":null\x7d"), ("d", some "\x7b\"$a\":1\x7d")]).access
    runArguments fs true ["check", "-ss", "-id", "--ndjson"] =
      runArguments fs true ["check", "--indifferent-access", "-ss", "-id", "--ndjson"] := by
  have hschema : (Schema.ofText "s" "\x7b\"$$a\":null\x7d").toOption.isSome = true := by decide +kernel
  have hdocuments : (Document.allOfText "d" "\x7b\"$a\":1\x7d" true none).toOption.map List.length = some 1 := by
    decide +kernel
  have hwords : Command.ofArguments ["check", "-ss", "-id", "--ndjson"] =
      .ok (.check ⟨"s", false⟩ ⟨["d"], true, none⟩ false) := by decide +kernel
  have hothers : Command.ofArguments ["check", "--indifferent-access", "-ss", "-id", "--ndjson"] =
      .ok (.check ⟨"s", true⟩ ⟨["d"], true, none⟩ false) := by decide +kernel
  obtain ⟨s, hs⟩ := Option.isSome_iff_exists.1 hschema
  obtain ⟨ds, hds, hlength⟩ := Option.map_eq_some_iff.1 hdocuments
  rw [toOption_eq_some_iff] at hs hds
  refine ⟨⟨s, ds, hs, hds, hlength, fun d hd => ?_⟩, indifferentAccess_does_not_show.2 _ true hwords hothers⟩
  exact (indifferentAccess_does_not_show.1 hs hds d hd).2.1

end SchemaCheck
