import SchemaCheck.Proofs.Loading
import SchemaCheck.Proofs.WrittenForm
/-!
# Reports — what a check writes

The output of a check is a row of blocks, one for each document (`blockText`): a heading, and behind a margin the lines
of a message.  No line of a message holds a line feed (`Text.newline_not_mem_of_mem_lines`), so none of them can be
taken for a heading, whatever stands in it (`unmargined_lines_checkLines`).
-/
namespace SchemaCheck

/-! ## Lines -/

namespace Text

theorem newline_not_mem_of_mem_linesFrom (cs : List Char) : ∀ line : List Char, '\n' ∉ line →
    ∀ l ∈ linesFrom line cs, '\n' ∉ l := by
  induction cs with
  | nil =>
    intro line hline l hl
    rw [linesFrom] at hl
    split at hl
    · cases hl
    · rw [List.mem_singleton.1 hl]
      simpa using hline
  | cons c rest ih =>
    intro line hline l hl
    rw [linesFrom] at hl
    split at hl
    · rcases List.mem_cons.1 hl with rfl | hl
      · unfold endedLine
        split <;> simp_all
      · exact ih [] List.not_mem_nil l hl
    · rename_i hc
      exact ih (c :: line) (by simp [Ne.symm hc, hline]) l hl

theorem newline_not_mem_of_mem_lines {cs l : List Char} (h : l ∈ lines cs) : '\n' ∉ l :=
  newline_not_mem_of_mem_linesFrom cs [] List.not_mem_nil l h

/-- Lines without line feeds, each ended by one, are cut into the same lines. -/
theorem splitOn_flatMap_newline {ls : List (List Char)} (h : ∀ l ∈ ls, '\n' ∉ l) :
    (ls.flatMap (· ++ ['\n'])).splitOn '\n' = ls ++ [[]] := by
  induction ls with
  | nil => rfl
  | cons l rest ih =>
    obtain ⟨hl, hrest⟩ := List.forall_mem_cons.1 h
    have hcons : (l :: rest).flatMap (· ++ ['\n']) = l ++ '\n' :: rest.flatMap (· ++ ['\n']) := by simp
    rw [hcons, List.splitOn_append_cons_self_of_not_mem hl, ih hrest]
    rfl

end Text

namespace Report

/-! ## Headings -/

/-- The heading of a document, which tells whether it conforms. -/
def heading (color conforming : Bool) (origin : String) : List Char :=
  if conforming then (styled color .green "✓" ++ " " ++ origin).toList
  else (styled color .red "✗" ++ " " ++ styled color .bold origin).toList

/-- A line starts with four blanks. -/
def hasMargin (line : List Char) : Bool := margin.isPrefixOf line

theorem hasMargin_margin (line : List Char) : hasMargin (margin ++ line) = true := rfl

theorem hasMargin_heading (color conforming : Bool) (origin : String) :
    hasMargin (heading color conforming origin) = false := by
  cases color <;> cases conforming <;>
    simp [hasMargin, heading, styled, Style.start, margin, List.isPrefixOf]

/-- A style that begins again brings nothing into a text but what begins it. -/
theorem mem_resumed {c : Char} {start cs : List Char} (h : c ∈ resumed start cs) : c ∈ start ∨ c ∈ cs := by
  fun_induction resumed start cs with
  | case1 rest ih =>
    simp only [styleEnd, List.mem_append] at h
    rcases h with (hend | hstart) | hrest
    · exact .inr (List.mem_append_left rest hend)
    · exact .inl hstart
    · exact (ih hrest).imp_right (List.mem_append_right styleEnd)
  | case2 d rest _ ih =>
    rcases List.mem_cons.1 h with rfl | hrest
    · exact .inr List.mem_cons_self
    · exact (ih hrest).imp_right (List.mem_cons_of_mem d)
  | case3 => exact .inr h

theorem newline_not_mem_styled {color : Bool} {s : Style} {text : String} (h : '\n' ∉ text.toList) :
    '\n' ∉ (styled color s text).toList := by
  have hstart : '\n' ∉ s.start := by cases s <;> decide
  have hend : '\n' ∉ styleEnd := by decide
  have hresumed : '\n' ∉ resumed s.start text.toList := fun hn => (mem_resumed hn).elim hstart h
  cases color with
  | false => exact h
  | true => simp [styled, hstart, hresumed, hend]

theorem newline_not_mem_heading {color conforming : Bool} {origin : String} (h : '\n' ∉ origin.toList) :
    '\n' ∉ heading color conforming origin := by
  have hgreen : '\n' ∉ (styled color .green "✓").toList := newline_not_mem_styled (by decide)
  have hred : '\n' ∉ (styled color .red "✗").toList := newline_not_mem_styled (by decide)
  have hbold : '\n' ∉ (styled color .bold origin).toList := newline_not_mem_styled h
  cases conforming <;> simp [heading, hgreen, hred, hbold, h]

/-! ## Blocks -/

/-- The block of a document: its heading, and the lines of its first mismatch behind a margin.  One that conforms has
none where only failures are wanted. -/
def blockText (color quiet : Bool) (n : Node) (d : Document) : List Char :=
  match compare n d.value with
  | [] => if quiet then [] else heading color true d.origin ++ ['\n']
  | m :: _ =>
    heading color false d.origin ++ '\n' :: (Text.lines m.message.toList).flatMap fun l => margin ++ l ++ ['\n']

/-- The heading of a block, where there is a block. -/
def headings (color quiet : Bool) (n : Node) (d : Document) : List (List Char) :=
  if conforms n d.value && quiet then [] else [heading color (conforms n d.value) d.origin]

section Blocks

variable {color quiet : Bool} {n : Node} {d : Document}

theorem block_of_conforms (h : compare n d.value = []) :
    block color quiet (Entry.of n d) = if quiet then [] else [heading color true d.origin] := by
  rw [block, Entry.of, Validation.failureMessage?, Validation.first?, Validation.of, h]
  rfl

theorem block_of_mismatch {m : Mismatch} {rest : List Mismatch} (h : compare n d.value = m :: rest) :
    block color quiet (Entry.of n d) =
      heading color false d.origin :: (Text.lines m.message.toList).map (margin ++ ·) := by
  rw [block, Entry.of, Validation.failureMessage?, Validation.first?, Validation.of, h]
  rfl

theorem flatMap_block : (block color quiet (Entry.of n d)).flatMap (· ++ ['\n']) = blockText color quiet n d := by
  rw [blockText]
  cases h : compare n d.value with
  | nil =>
    rw [block_of_conforms h]
    cases quiet <;> simp
  | cons m rest =>
    rw [block_of_mismatch h]
    simp [List.flatMap_map]

/-- Of the lines of a block only the heading has no margin. -/
theorem filter_block :
    (block color quiet (Entry.of n d)).filter (fun l => !hasMargin l) = headings color quiet n d := by
  have hheading := hasMargin_heading color (conforms n d.value) d.origin
  rw [headings]
  cases h : compare n d.value with
  | nil =>
    have hconforms : conforms n d.value = true := by rw [conforms, h]; rfl
    rw [hconforms] at hheading ⊢
    rw [block_of_conforms h]
    cases quiet <;> simp [hheading]
  | cons m rest =>
    have hconforms : conforms n d.value = false := by rw [conforms, h]; rfl
    have hmessage : ((Text.lines m.message.toList).map (margin ++ ·)).filter (fun l => !hasMargin l) = [] := by
      simp [List.filter_eq_nil_iff, hasMargin_margin]
    rw [hconforms] at hheading ⊢
    rw [block_of_mismatch h, List.filter_cons, hheading, hmessage]
    rfl

theorem newline_not_mem_of_mem_block (horigin : '\n' ∉ d.origin.toList) :
    ∀ l ∈ block color quiet (Entry.of n d), '\n' ∉ l := by
  cases h : compare n d.value with
  | nil =>
    rw [block_of_conforms h]
    cases quiet <;> simp [newline_not_mem_heading horigin]
  | cons m rest =>
    rw [block_of_mismatch h, List.forall_mem_cons]
    refine ⟨newline_not_mem_heading horigin, fun l hl => ?_⟩
    obtain ⟨line, hline, rfl⟩ := List.mem_map.1 hl
    simp [margin, Text.newline_not_mem_of_mem_lines hline]

end Blocks

/-! ## Output -/

section Output

variable {color quiet : Bool} {n : Node} {ds : List Document}

theorem toList_unlines_checkLines : (unlines (checkLines color quiet (ds.map (Entry.of n)))).toList =
    ds.flatMap (blockText color quiet n) := by
  rw [unlines, String.toList_ofList, checkLines, List.flatMap_assoc, List.flatMap_map]
  exact List.flatMap_congr fun d _ => flatMap_block

/-- The lines of the output that have no margin are the headings. -/
theorem unmargined_lines_checkLines (h : ∀ d ∈ ds, '\n' ∉ d.origin.toList) :
    ((ds.flatMap (blockText color quiet n)).splitOn '\n').dropLast.filter (fun l => !hasMargin l) =
      ds.flatMap (headings color quiet n) := by
  have hlines : ds.flatMap (blockText color quiet n) =
      (ds.flatMap fun d => block color quiet (Entry.of n d)).flatMap (· ++ ['\n']) := by
    rw [List.flatMap_assoc]
    exact List.flatMap_congr fun d _ => flatMap_block.symm
  have hnewline : ∀ l ∈ ds.flatMap fun d => block color quiet (Entry.of n d), '\n' ∉ l := fun l hl => by
    obtain ⟨d, hd, hmem⟩ := List.mem_flatMap.1 hl
    exact newline_not_mem_of_mem_block (h d hd) l hmem
  rw [hlines, Text.splitOn_flatMap_newline hnewline, List.dropLast_concat, List.filter_flatMap]
  exact List.flatMap_congr fun d _ => filter_block

/-- How many documents do not conform. -/
def rejected (n : Node) (ds : List Document) : Nat := ds.countP fun d => !conforms n d.value

theorem failures_eq_rejected : failures (ds.map (Entry.of n)) = rejected n ds := by
  have hfailure : ∀ d : Document, (Entry.of n d).failure.isSome = !conforms n d.value := fun d => by
    rw [Entry.of, Validation.failureMessage?, Validation.first?, Validation.of, conforms]
    cases compare n d.value <;> rfl
  rw [failures, ← List.countP_eq_length_filter, List.countP_map, rejected]
  exact List.countP_congr fun d _ => by simp [hfailure]

theorem rejected_eq_zero_iff : rejected n ds = 0 ↔ ∀ d ∈ ds, conforms n d.value = true := by
  simp [rejected, List.countP_eq_zero]

theorem ofCheck_eq : ofCheck color quiet (ds.map (Entry.of n)) =
    ⟨if rejected n ds = 0 then 0 else 1, String.ofList (ds.flatMap (blockText color quiet n)),
      if rejected n ds = 0 then ""
      else styled color .red (toString (rejected n ds) ++ " of " ++ toString ds.length ++ " documents failed") ++
        "\n"⟩ := by
  have hout : unlines (checkLines color quiet (ds.map (Entry.of n))) =
      String.ofList (ds.flatMap (blockText color quiet n)) := by
    rw [← toList_unlines_checkLines, String.ofList_toList]
  rw [ofCheck, failures_eq_rejected, List.length_map, hout]
  by_cases h : rejected n ds = 0 <;> simp [h]

end Output

/-! ## Checks -/

open Loading (InputHolds)

/-- **A check reports every document once, in order.**  Where the schema and all of the input load, the output is the
blocks of the documents in a row, and the code is 0 if all of them conform and else 1, with the count of those that do
not.  If no origin holds a line feed, the lines without a margin are the headings, whatever the messages say.  The same
documents in another order have the same blocks in that order, the same code and the same count. -/
theorem check_reports_every_document (fs : FileAccess Id) {words : List String} {schema : SchemaChoice}
    {i : InputChoice} {quiet : Bool} {text : String} {s : Schema} {ds : List Document}
    (hwords : Command.ofArguments words = .ok (.check schema i quiet)) (htext : (fs.read schema.path).run = .ok text)
    (hs : Schema.ofText schema.path text = .ok s) (hds : InputHolds fs i ds) (color : Bool) :
    let n := compile schema.options s
    let outcome := (runArguments fs color words).run
    outcome.out.toList = ds.flatMap (blockText color quiet n) ∧
    (outcome.code = 0 ↔ ∀ d ∈ ds, conforms n d.value = true) ∧
    (outcome.code = 0 ∧ outcome.err = "" ∨ outcome.code = 1 ∧ outcome.err = styled color .red
      (toString (rejected n ds) ++ " of " ++ toString ds.length ++ " documents failed") ++ "\n") ∧
    ((∀ d ∈ ds, '\n' ∉ d.origin.toList) →
      (outcome.out.toList.splitOn '\n').dropLast.filter (fun l => !hasMargin l) =
        ds.flatMap (headings color quiet n)) ∧
    ∀ {others : List String} {j : InputChoice} {es : List Document},
      Command.ofArguments others = .ok (.check schema j quiet) → InputHolds fs j es → es.Perm ds →
        let other := (runArguments fs color others).run
        other.out.toList = es.flatMap (blockText color quiet n) ∧
          (es.map (blockText color quiet n)).Perm (ds.map (blockText color quiet n)) ∧
            other.code = outcome.code ∧ other.err = outcome.err := by
  intro n outcome
  have hrun : ∀ {words : List String} {i : InputChoice} {ds : List Document},
      Command.ofArguments words = .ok (.check schema i quiet) → InputHolds fs i ds →
        (runArguments fs color words).run = ofCheck color quiet (ds.map (Entry.of n)) := fun hwords hds => by
    rw [runArguments, hwords]
    exact Loading.run_check_of_loads (Loading.loadSchema_eq_ok_iff.2 ⟨text, s, htext, hs, rfl⟩) hds
  have houtcome : outcome = ofCheck color quiet (ds.map (Entry.of n)) := hrun hwords hds
  rw [ofCheck_eq] at houtcome
  have hout : outcome.out.toList = ds.flatMap (blockText color quiet n) := by
    rw [houtcome, String.toList_ofList]
  refine ⟨hout, ?_, ?_, fun horigin => ?_, fun {_ _ es} hothers hes hperm => ?_⟩
  · rw [houtcome, ← rejected_eq_zero_iff]
    by_cases h : rejected n ds = 0 <;> simp [h]
  · rw [houtcome]
    by_cases h : rejected n ds = 0 <;> simp [h]
  · rw [hout]
    exact unmargined_lines_checkLines horigin
  · intro other
    have hcount : rejected n es = rejected n ds := hperm.countP_eq _
    have hother : other = ofCheck color quiet (es.map (Entry.of n)) := hrun hothers hes
    rw [ofCheck_eq, hcount, hperm.length_eq] at hother
    rw [hother, houtcome, String.toList_ofList]
    exact ⟨rfl, hperm.map _, rfl, rfl⟩

/-- A file that a pattern finds, with a line that does not conform, and a file by its path, in either order. -/
theorem check_reports_every_document_of_two_files :
    let fs := (Entry.ofFiles [("s", some "null"), ("y", some "null"), ("x\x7b", some "null\n\n7\n")]).access
    let outcome := (runArguments fs false ["check", "-ss", "--ndjson", "-i", "x\x7b", "y"]).run
    let other := (runArguments fs false ["check", "-ss", "--ndjson", "-i", "y", "x\x7b"]).run
    outcome.code = 1 ∧ outcome.err = "1 of 3 documents failed\n" ∧
      (outcome.out.toList.splitOn '\n').dropLast.filter (fun l => !hasMargin l) =
        ["✓ x\x7b:1".toList, "✗ x\x7b:3".toList, "✓ y:1".toList] ∧
      other.code = outcome.code ∧ other.err = outcome.err := by
  intro fs outcome other
  let lines : List Document := [⟨"x\x7b:1", .null⟩, ⟨"x\x7b:3", .int 7⟩]
  have hwords : Command.ofArguments ["check", "-ss", "--ndjson", "-i", "x\x7b", "y"] =
      .ok (.check ⟨"s", false⟩ ⟨["x\x7b", "y"], true, none⟩ false) := by decide +kernel
  have hothers : Command.ofArguments ["check", "-ss", "--ndjson", "-i", "y", "x\x7b"] =
      .ok (.check ⟨"s", false⟩ ⟨["y", "x\x7b"], true, none⟩ false) := by decide +kernel
  have htext : (fs.read "s").run = .ok "null" := by decide +kernel
  have hs : Schema.ofText "s" "null" = .ok (.value .null) := by
    rw [Schema.ofText, decodeAs_eq_ok_iff]
    exact Schema.ofJson_of_isWritten (.scalar rfl) (toOption_eq_some_iff.1 (by decide +kernel)) (by decide +kernel)
  have hx : Loading.StandsFor fs "x\x7b" ["x\x7b"] := by
    have hsearch : Search.ofPattern "x\x7b" = .ok ⟨false, [.plain "x\x7b"], false⟩ := by decide +kernel
    exact .found (by decide +kernel) hsearch (by decide +kernel)
  have hy : Loading.StandsFor fs "y" ["y"] := .itself (by decide +kernel)
  have hxtext : Document.allOfText "x\x7b" "null\n\n7\n" true none = .ok lines :=
    toOption_eq_some_iff.1 (by decide +kernel)
  have hytext : Document.allOfText "y" "null" true none = .ok [⟨"y:1", .null⟩] :=
    toOption_eq_some_iff.1 (by decide +kernel)
  have hxs : ∀ sources, Loading.FileHolds fs ⟨sources, true, none⟩ "x\x7b" lines := fun _ =>
    ⟨"null\n\n7\n", by decide +kernel, hxtext⟩
  have hys : ∀ sources, Loading.FileHolds fs ⟨sources, true, none⟩ "y" [⟨"y:1", .null⟩] := fun _ =>
    ⟨"null", by decide +kernel, hytext⟩
  have hds : InputHolds fs ⟨["x\x7b", "y"], true, none⟩ (lines ++ [⟨"y:1", .null⟩]) :=
    ⟨[["x\x7b"], ["y"]], [lines, [⟨"y:1", .null⟩]], .cons hx (.cons hy .nil), .cons (hxs _) (.cons (hys _) .nil), rfl⟩
  have hes : InputHolds fs ⟨["y", "x\x7b"], true, none⟩ ([⟨"y:1", .null⟩] ++ lines) :=
    ⟨[["y"], ["x\x7b"]], [[⟨"y:1", .null⟩], lines], .cons hy (.cons hx .nil), .cons (hys _) (.cons (hxs _) .nil), rfl⟩
  obtain ⟨-, hcode, hend, hheadings, hother⟩ := check_reports_every_document fs hwords htext hs hds false
  obtain ⟨-, -, hcodes, herrs⟩ := hother hothers hes List.perm_append_comm
  have hrejected : ¬ ∀ d ∈ lines ++ [⟨"y:1", .null⟩], conforms (compile ⟨false⟩ (.value .null)) d.value = true := by
    decide +kernel
  obtain ⟨hcode, herr⟩ := hend.resolve_left fun h => hrejected (hcode.1 h.1)
  exact ⟨hcode, herr.trans (by decide +kernel), (hheadings (by decide +kernel)).trans (by decide +kernel), hcodes,
    herrs⟩

end Report
end SchemaCheck
