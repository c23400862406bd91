import SchemaCheck.Matcher
import SchemaCheck.Proofs.CheckRuns
import SchemaCheck.Proofs.Evidence
/-!
# Rendering — the one text of a schema

Schemas and nodes are written form by form.  Compiling takes a sequence of schemas to one of three forms of a node, and
all three are written as the sequence is (`Node.render_ofMembers`), so a schema and its node have one text
(`render_compile`), whatever the options.  A matcher shows the schema; a mismatch at the root without words of its own,
and the command that compiles a schema, show the node (`schema_has_one_text`).
-/
namespace SchemaCheck

/-! ## Parts of a text -/

theorem ofList_commaSeparated : ∀ parts : List (List Char),
    String.ofList (commaSeparated parts) = ", ".intercalate (parts.map String.ofList)
  | [] => rfl
  | [part] => String.intercalate_singleton.symm
  | part :: next :: rest => by
    have hcons : commaSeparated (part :: next :: rest) = part ++ (", ".toList ++ commaSeparated (next :: rest)) := rfl
    rw [hcons, String.ofList_append, String.ofList_append, String.ofList_toList, ofList_commaSeparated (next :: rest)]
    simp only [List.map_cons, String.intercalate_cons_cons, String.append_assoc]

theorem ofList_enclosed (start stop : String) (cs : List Char) :
    String.ofList (start.toList ++ cs ++ stop.toList) = start ++ String.ofList cs ++ stop := by
  rw [String.ofList_append, String.ofList_append, String.ofList_toList, String.ofList_toList]

theorem ofList_bracketed (parts : List (List Char)) :
    String.ofList (bracketed parts) = "[" ++ ", ".intercalate (parts.map String.ofList) ++ "]" := by
  rw [← ofList_commaSeparated]
  exact ofList_enclosed "[" "]" _

theorem ofList_braced (parts : List (List Char)) :
    String.ofList (braced parts) = "\x7b" ++ ", ".intercalate (parts.map String.ofList) ++ "\x7d" := by
  rw [← ofList_commaSeparated]
  exact ofList_enclosed "\x7b" "\x7d" _

theorem ofList_arrow (k : Key) (cs : List Char) :
    String.ofList (arrow k cs) = k.render ++ " => " ++ String.ofList cs := by
  rw [arrow, String.ofList_append, String.ofList_append, String.ofList_toList, Key.render]

/-! ## Texts of schemas -/

theorem Schema.render_seq (items : List Schema) :
    (Schema.seq items).render = "[" ++ ", ".intercalate (items.map Schema.render) ++ "]" := by
  rw [Schema.render, Schema.chars, ofList_bracketed, Schema.itemChars_eq_map, List.map_map]
  rfl

theorem Schema.render_map (entries : List (Key × Schema)) :
    (Schema.map entries).render =
      "\x7b" ++ ", ".intercalate (entries.map fun e => e.1.render ++ " => " ++ e.2.render) ++ "\x7d" := by
  rw [Schema.render, Schema.chars, ofList_braced, Schema.entryChars_eq_map, List.map_map]
  simp only [Function.comp_def, ofList_arrow, Schema.render]

theorem Schema.render_optional (inner : Schema) :
    (Schema.optional inner).render = "optional(" ++ inner.render ++ ")" :=
  ofList_enclosed "optional(" ")" inner.chars

/-! ## Texts of nodes -/

theorem Node.render_arrayOf (element : Node) : (Node.arrayOf element).render = "[" ++ element.render ++ "]" :=
  ofList_enclosed "[" "]" element.chars

theorem Node.render_mapOf (entries : List (Key × Node)) (policy : KeyPolicy) :
    (Node.mapOf entries policy).render =
      "\x7b" ++ ", ".intercalate (entries.map fun e => e.1.render ++ " => " ++ e.2.render) ++ "\x7d" := by
  rw [Node.render, Node.chars, ofList_braced, Node.entryChars_eq_map, List.map_map]
  simp only [Function.comp_def, ofList_arrow, Node.render]

theorem Node.render_alternatives (members : List Node) :
    (Node.alternatives members).render = "[" ++ ", ".intercalate (members.map Node.render) ++ "]" := by
  rw [Node.render, Node.chars, ofList_bracketed, Node.memberChars_eq_map, List.map_map]
  rfl

theorem Node.render_optional (inner : Node) : (Node.optional inner).render = "optional(" ++ inner.render ++ ")" :=
  ofList_enclosed "optional(" ")" inner.chars

/-- **The three readings of a sequence are written alike**: the empty one, one element, and a choice. -/
theorem Node.render_ofMembers (members : List Node) :
    (Node.ofMembers members).render = "[" ++ ", ".intercalate (members.map Node.render) ++ "]" := by
  rcases members with _ | ⟨m, _ | ⟨n, rest⟩⟩
  · rfl
  · rw [Node.ofMembers, Node.render_arrayOf, List.map_singleton, String.intercalate_singleton]
  · exact Node.render_alternatives (m :: n :: rest)

/-! ## Compiling -/

mutual

/-- **A schema and its node have one text.** -/
theorem render_compile (o : Options) : ∀ s : Schema, (compile o s).render = s.render
  | .value _ | .kind _ | .pattern _ | .range _ => rfl
  | .seq items => by rw [compile, Node.render_ofMembers, renders_compileItems o items, Schema.render_seq]
  | .map entries => by rw [compile, Node.render_mapOf, renders_compileEntries o entries, Schema.render_map]
  | .optional inner => by rw [compile, Node.render_optional, render_compile o inner, Schema.render_optional]

theorem renders_compileItems (o : Options) : ∀ items : List Schema,
    (compileItems o items).map Node.render = items.map Schema.render
  | [] => rfl
  | s :: rest => congrArg₂ List.cons (render_compile o s) (renders_compileItems o rest)

theorem renders_compileEntries (o : Options) : ∀ entries : List (Key × Schema),
    (compileEntries o entries).map (fun e => e.1.render ++ " => " ++ e.2.render) =
      entries.map fun e => e.1.render ++ " => " ++ e.2.render
  | [] => rfl
  | (k, s) :: rest =>
    congrArg₂ (fun text texts => (k.render ++ " => " ++ text) :: texts) (render_compile o s)
      (renders_compileEntries o rest)

end

/-! ## Where a node is shown -/

/-- A mismatch at the root is of the whole value with the whole node, if it has no words of its own. -/
theorem whole_of_root {n : Node} {v : Value} {m : Mismatch} (hm : m ∈ compare n v) (hroot : m.location = [])
    (hverb : m.reason.verb? = none) : m.actual = v ∧ m.expected = n := by
  obtain ⟨stop, hlead, hd, hone⟩ := exists_stop_of_mem_compare n hm
  rw [hroot] at hlead
  cases hlead with
  | here =>
    have hexpected : m.expected = n.demand m.actual := (mismatch_of_not_descends hd hm).2.2
    refine ⟨rfl, hexpected.trans (demand_of_not_lacksStructure fun hlacks => ?_)⟩
    -- a value without the structure of the node is told to be of the wrong kind, in words
    obtain ⟨wanted, -, hfound, -⟩ := compare_of_lacksStructure hlacks
    have hreason : m.reason = .wrongKind wanted m.actual.kind :=
      congrArg Mismatch.reason (List.singleton_inj.1 (hone.symm.trans hfound))
    rw [hreason] at hverb
    cases hverb

theorem message_of_root {n : Node} {v : Value} {m : Mismatch} (hm : m ∈ compare n v) (hroot : m.location = [])
    (hverb : m.reason.verb? = none) :
    m.message = "expected / to match\n\t" ++ n.render ++ "\nbut got\n\t" ++ v.render := by
  obtain ⟨hactual, hexpected⟩ := whole_of_root hm hroot hverb
  have hpointer : m.pointer = "/" := by
    rw [Mismatch.pointer, hroot]
    rfl
  rw [Mismatch.message, Mismatch.verb, hverb, hpointer, hactual, hexpected]
  simp only [← String.append_assoc]
  rfl

/-- The command that compiles a schema writes the text of the schema that it has read, or why there is none. -/
theorem Command.run_compile {m : Type → Type} [Monad m] [LawfulMonad m] (fs : FileAccess m) (color : Bool)
    (c : SchemaChoice) :
    (Command.compile c).run fs color = (do
      match ← (Schema.read fs c.path).run with
      | .error f => return Report.ofSchemaFault c.path f
      | .ok s => return ⟨0, s.render ++ "\n", ""⟩) := by
  simp only [Command.run, SchemaChoice.load_eq_map, ExceptT.run_map, bind_map_left]
  refine bind_congr fun r => ?_
  cases r with
  | error f => rfl
  | ok s => exact congrArg (fun text => (pure ⟨0, text ++ "\n", ""⟩ : m Outcome)) (render_compile c.options s)

/-- **A schema has one text, whatever the options.**  Its node has the same text.  So each text of a matcher for this
schema shows the text of the node, a mismatch at the root that has no words of its own shows the text of the schema, and
so does the command that compiles it. -/
theorem schema_has_one_text :
    (∀ (s : Schema) (o : Options), (compile o s).render = s.render) ∧
    (∀ (s : Schema) (o q : Options) (last : Option (Value × Validation)),
      (Matcher.mk s q last).description = "conform to schema\n" ++ (compile o s).render ∧
      (last = none → (Matcher.mk s q last).failureMessage =
        "no value was matched against schema\n" ++ (compile o s).render) ∧
      (Matcher.mk s q last).failureMessageWhenNegated = (match last with
        | some (v, _) => "expected\n" ++ v.render ++ "\nnot to match schema\n"
        | none => "no value was matched against schema\n") ++ (compile o s).render) ∧
    (∀ {s : Schema} {o : Options} {v : Value} {m : Mismatch}, m ∈ compare (compile o s) v → m.location = [] →
      m.reason.verb? = none →
      m.message = "expected / to match\n\t" ++ s.render ++ "\nbut got\n\t" ++ v.render) ∧
    ∀ {m : Type → Type} [Monad m] [LawfulMonad m] (fs : FileAccess m) (color : Bool) {words : List String}
      {c : SchemaChoice}, Command.ofArguments words = .ok (.compile c) →
        runArguments fs color words = (do
          match ← (Schema.read fs c.path).run with
          | .error f => return Report.ofSchemaFault c.path f
          | .ok s => return ⟨0, s.render ++ "\n", ""⟩) := by
  refine ⟨fun s o => render_compile o s, fun s o q last => ?_, fun {s o _ _} hm hroot hverb => ?_,
    fun fs color _ c hwords => ?_⟩
  · rw [render_compile]
    refine ⟨rfl, fun hnone => ?_, ?_⟩
    · rw [hnone]
      rfl
    · cases last <;> rfl
  · rw [message_of_root hm hroot hverb, render_compile]
  · rw [runArguments, hwords]
    exact Command.run_compile fs color c

/-- A choice of an empty sequence and one element, which may be absent: what a mismatch with it shows, and what the
command shows for its text. -/
theorem schema_has_one_text_of_choice :
    let s : Schema := .seq [.seq [], .optional (.seq [.value .null])]
    let m : Mismatch := .atRoot (.int 1) (compile Options.default s) .unlike
    let fs := (Entry.ofFiles [("s", some "[[],\x7b\"$optional\":[null]\x7d]")]).access
    m ∈ compare (compile Options.default s) (.int 1) ∧
      m.message = "expected / to match\n\t" ++ s.render ++ "\nbut got\n\t" ++ (Value.int 1).render ∧
      Command.ofArguments ["compile", "--indifferent-access", "-ss"] = .ok (.compile ⟨"s", true⟩) ∧
      (runArguments fs true ["compile", "--indifferent-access", "-ss"]).run = ⟨0, "[[], optional([null])]\n", ""⟩ := by
  intro s m fs
  have hm : m ∈ compare (compile Options.default s) (.int 1) := List.mem_singleton_self _
  have hwords : Command.ofArguments ["compile", "--indifferent-access", "-ss"] = .ok (.compile ⟨"s", true⟩) := by
    decide +kernel
  refine ⟨hm, schema_has_one_text.2.2.1 hm rfl rfl, hwords, ?_⟩
  rw [schema_has_one_text.2.2.2 fs true hwords]
  decide +kernel

end SchemaCheck
