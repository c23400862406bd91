import SchemaCheck.Proofs.Decoding
import SchemaCheck.Proofs.Identity
/-!
# LineByLine — a source read by lines is its lines read one by one

The lines of a source are what stands between its line feeds, where one that a line feed ends loses a carriage return
(`Text.pieces`); but for an empty last one these are the lines that `Text.lines` gives.  All parts of a source are
decoded before any is narrowed, so reading it is two runs through its parts (`allOfText_eq`): its documents are those of
the parts alone, and of their faults it shows the first one in decoding before any of a pointer.
-/
namespace SchemaCheck

/-! ## Lines -/

namespace Text

/-- A line without a carriage return at its end. -/
def withoutReturn (line : List Char) : List Char := if line.getLast? = some '\r' then line.dropLast else line

/-- What stands between the line feeds of a text.  The last piece is ended by none and keeps a carriage return. -/
def pieces (cs : List Char) : List (List Char) :=
  (cs.splitOn '\n').dropLast.map withoutReturn ++ (cs.splitOn '\n').getLast?.toList

theorem pieces_of_not_mem {cs : List Char} (h : '\n' ∉ cs) : pieces cs = [cs] := by
  rw [pieces, List.splitOn_eq_singleton h]
  rfl

theorem pieces_append_newline {cs : List Char} (rest : List Char) (h : '\n' ∉ cs) :
    pieces (cs ++ '\n' :: rest) = withoutReturn cs :: pieces rest := by
  have hne : rest.splitOn '\n' ≠ [] := List.splitOn_ne_nil '\n' rest
  rw [pieces, List.splitOn_append_cons_self_of_not_mem h, List.dropLast_cons_of_ne_nil hne,
    List.getLast?_cons_of_ne_nil hne]
  rfl

theorem endedLine_eq (line : List Char) : endedLine line = withoutReturn line.reverse := by
  unfold endedLine withoutReturn
  split
  · simp
  · rename_i h
    have hlast : line.head? ≠ some '\r' := fun e => by
      obtain ⟨rest, rfl⟩ := List.head?_eq_some_iff.1 e
      exact h rest rfl
    simp [hlast]

/-- The lines are the pieces, but for an empty piece after the last line feed. -/
theorem pieces_eq_linesFrom (cs : List Char) : ∀ line : List Char, '\n' ∉ line →
    pieces (line.reverse ++ cs) = linesFrom line cs ∨ pieces (line.reverse ++ cs) = linesFrom line cs ++ [[]] := by
  induction cs with
  | nil =>
    intro line hline
    have hpieces : pieces (line.reverse ++ []) = [line.reverse] := by
      rw [List.append_nil]
      exact pieces_of_not_mem (by simpa using hline)
    cases line with
    | nil => exact .inr hpieces
    | cons c line => exact .inl hpieces
  | cons c rest ih =>
    intro line hline
    by_cases hc : c = '\n'
    · subst hc
      have hpieces : pieces (line.reverse ++ '\n' :: rest) = endedLine line :: pieces rest := by
        rw [endedLine_eq]
        exact pieces_append_newline rest (by simpa using hline)
      rw [hpieces, linesFrom, if_pos rfl]
      rcases ih [] List.not_mem_nil with h | h
      · exact .inl (congrArg (_ :: ·) h)
      · exact .inr (congrArg (_ :: ·) h)
    · have hcons : line.reverse ++ c :: rest = (c :: line).reverse ++ rest := by simp
      have hmem : '\n' ∉ c :: line := by simp [Ne.symm hc, hline]
      rw [hcons, linesFrom, if_neg hc]
      exact ih (c :: line) hmem

theorem length_endedLine_le (line : List Char) : (endedLine line).length ≤ line.length := by
  rw [endedLine_eq, withoutReturn]
  split
  · rw [List.length_dropLast, List.length_reverse]
    exact Nat.sub_le _ _
  · exact Nat.le_of_eq List.length_reverse

/-- No line is longer than its text. -/
theorem length_le_of_mem_linesFrom {l : List Char} : ∀ {cs line : List Char}, l ∈ linesFrom line cs →
    l.length ≤ line.length + cs.length := by
  intro cs
  induction cs with
  | nil =>
    intro line h
    rw [linesFrom] at h
    split at h
    · cases h
    · obtain rfl := List.mem_singleton.1 h
      exact Nat.le_of_eq List.length_reverse
  | cons c rest ih =>
    intro line h
    rw [linesFrom] at h
    rw [List.length_cons]
    split at h
    · rcases List.mem_cons.1 h with rfl | hrest
      · have := length_endedLine_le line
        omega
      · have := ih hrest
        rw [List.length_nil] at this
        omega
    · have := ih h
      rw [List.length_cons] at this
      omega

end Text

deriving instance DecidableEq for Document

/-! ## Parts -/

namespace Document

/-- The texts of the documents of a source, each with its origin. -/
def parts (origin text : String) (byLine : Bool) : List (String × String) :=
  if byLine then (sourceLines text).map fun line => (lineOrigin origin line.2, line.1) else [(origin, text)]

theorem length_le_of_mem_parts {origin text : String} {byLine : Bool} {part : String × String}
    (h : part ∈ parts origin text byLine) : part.2.length ≤ text.length := by
  cases byLine with
  | true =>
    obtain ⟨line, hline, rfl⟩ := List.mem_map.1 h
    obtain ⟨⟨l, number⟩, hl, rfl⟩ := List.mem_map.1 hline
    have hmem : l ∈ Text.linesFrom [] text.toList := List.fst_mem_of_mem_zipIdx (List.mem_filter.1 hl).1
    have hlength := Text.length_le_of_mem_linesFrom hmem
    rw [List.length_nil, Nat.zero_add, String.length_toList] at hlength
    rw [String.length_ofList]
    exact hlength
  | false =>
    obtain rfl := List.mem_singleton.1 h
    exact Nat.le_refl _

/-- The lines of a source that are not blank, each with its origin, which has its number among all lines. -/
def lineParts (origin source : String) : List (String × String) :=
  (((Text.pieces source.toList).zipIdx 1).filter fun p => !Text.isBlankLine p.1).map fun p =>
    (lineOrigin origin p.2, String.ofList p.1)

theorem parts_byLine (origin source : String) : parts origin source true = lineParts origin source := by
  have hparts : parts origin source true = (((Text.lines source.toList).zipIdx 1).filter fun p =>
      !Text.isBlankLine p.1).map fun p => (lineOrigin origin p.2, String.ofList p.1) := by
    rw [parts, if_pos rfl, sourceLines, List.map_map]
    rfl
  have hblank : Text.isBlankLine [] = true := rfl
  rw [hparts, lineParts]
  rcases Text.pieces_eq_linesFrom source.toList [] List.not_mem_nil with h | h
  · have hpieces : Text.pieces source.toList = Text.lines source.toList := h
    rw [hpieces]
  · have hpieces : Text.pieces source.toList = Text.lines source.toList ++ [[]] := h
    simp [hpieces, List.zipIdx_append, hblank]

/-- The documents of a part alone. -/
def ofPart (pointer : Option String) (part : String × String) : Except LoadFault (List Document) :=
  allOfText part.1 part.2 false pointer

/-- A part alone decodes, whatever a pointer selects in it. -/
def Decodes (part : String × String) : Prop := ∃ ds, ofPart none part = .ok ds

/-- The document of a part, not narrowed. -/
def wholeOf (part : String × String) : Except LoadFault Document := ofText part.1 part.2

section Part

variable {pointer : Option String} {part : String × String}

theorem ofPart_eq_map : ofPart pointer part = ((wholeOf part).bind (narrow pointer)).map ([·]) := by
  rw [ofPart, wholeOf, allOfText, wholes]
  cases ofText part.1 part.2 with
  | error f => rfl
  | ok d =>
    have hmapM : [d].mapM (narrow pointer) = (narrow pointer d).map ([·]) := by
      rw [List.mapM_cons, List.mapM_nil]
      cases narrow pointer d <;> rfl
    exact hmapM

theorem ofPart_eq_ok_iff {ds : List Document} :
    ofPart pointer part = .ok ds ↔ ∃ d, (wholeOf part).bind (narrow pointer) = .ok d ∧ [d] = ds := by
  rw [ofPart_eq_map, map_eq_ok_iff]

theorem ofPart_eq_error_iff {f : LoadFault} :
    ofPart pointer part = .error f ↔ (wholeOf part).bind (narrow pointer) = .error f := by
  rw [ofPart_eq_map, map_eq_error_iff]

theorem decodes_iff : Decodes part ↔ ∃ d, wholeOf part = .ok d := by
  constructor
  · rintro ⟨ds, h⟩
    obtain ⟨d, hd, -⟩ := ofPart_eq_ok_iff.1 h
    obtain ⟨e, he, -⟩ := bind_eq_ok_iff.1 hd
    exact ⟨e, he⟩
  · rintro ⟨d, h⟩
    exact ⟨[d], ofPart_eq_ok_iff.2 ⟨d, bind_eq_ok_iff.2 ⟨d, h, rfl⟩, rfl⟩⟩

theorem not_decodes_iff : ¬ Decodes part ↔ ∃ f, wholeOf part = .error f := by
  rw [decodes_iff]
  cases wholeOf part <;> simp

/-- A part that does not decode fails in decoding, whatever the pointer is. -/
theorem ofPart_eq_error_of_not_decodes {f : LoadFault} (h : ¬ Decodes part) :
    ofPart pointer part = .error f ↔ wholeOf part = .error f := by
  obtain ⟨g, hg⟩ := not_decodes_iff.1 h
  rw [ofPart_eq_error_iff, hg]
  rfl

/-- A part alone is not read because it does not decode or because the pointer selects nothing in it. -/
theorem ofPart_eq_error_iff_cause {f : LoadFault} : ofPart pointer part = .error f ↔
    (∃ g, Value.ofJsonText part.2 = .error g ∧ f = .undecoded part.1 g) ∨
      ∃ v p, Value.ofJsonText part.2 = .ok v ∧ pointer = some p ∧ Pointer.find? p v = none ∧
        f = .nothingSelected part.1 p := by
  rw [ofPart_eq_error_iff, wholeOf, ofText]
  cases hv : Value.ofJsonText part.2 with
  | error g => simp [decodeAs, Except.map, Except.bind, eq_comm]
  | ok v =>
    cases pointer with
    | none => simp [decodeAs, Except.map, Except.bind, narrow]
    | some p => cases hfind : Pointer.find? p v <;> simp [decodeAs, Except.map, Except.bind, narrow, hfind, eq_comm]

end Part

/-! ## Runs through the parts -/

section Runs

variable {origin text : String} {byLine : Bool} {pointer : Option String}

/-- **Reading a source is two runs through its parts**: one that decodes, and one that narrows what has been decoded. -/
theorem allOfText_eq : allOfText origin text byLine pointer =
    ((parts origin text byLine).mapM wholeOf).bind fun _ =>
      (parts origin text byLine).mapM fun part => (wholeOf part).bind (narrow pointer) := by
  have hwholes : wholes origin text byLine = (parts origin text byLine).mapM wholeOf := by
    cases byLine with
    | true =>
      rw [parts, if_pos rfl, List.mapM_map]
      rfl
    | false =>
      have hone : [(origin, text)].mapM wholeOf = (ofText origin text).map ([·]) := by
        rw [List.mapM_cons, List.mapM_nil, wholeOf]
        cases ofText origin text <;> rfl
      exact hone.symm
  rw [allOfText, hwholes]
  cases h : (parts origin text byLine).mapM wholeOf with
  | error f => rfl
  | ok ds => exact mapM_eq_of_forall₂ (narrow pointer) ((mapM_eq_ok_iff _ ds).1 h)

theorem exists_wholes_iff (ps : List (String × String)) :
    (∃ ws, ps.mapM wholeOf = .ok ws) ↔ ∀ p ∈ ps, Decodes p := by
  rw [exists_mapM_eq_ok_iff]
  exact forall₂_congr fun p _ => decodes_iff.symm

/-- What the second run gives is what the parts alone give. -/
theorem mapM_narrow_eq_ok_iff (ps : List (String × String)) {ds : List Document} :
    (ps.mapM fun part => (wholeOf part).bind (narrow pointer)) = .ok ds ↔
      ∃ dss, List.Forall₂ (fun part ds => ofPart pointer part = .ok ds) ps dss ∧ ds = dss.flatten := by
  rw [mapM_eq_ok_iff]
  constructor
  · intro h
    refine ⟨ds.map ([·]), ?_, (List.flatMap_singleton' ds).symm⟩
    rw [List.forall₂_map_right_iff]
    exact h.imp fun part d hd => ofPart_eq_ok_iff.2 ⟨d, hd, rfl⟩
  · rintro ⟨dss, h, rfl⟩
    induction h with
    | nil => exact .nil
    | cons hpart _ ih =>
      obtain ⟨d, hd, rfl⟩ := ofPart_eq_ok_iff.1 hpart
      exact .cons hd ih

/-- A source is read if each of its parts alone is. -/
theorem allOfText_eq_ok_iff {ds : List Document} : allOfText origin text byLine pointer = .ok ds ↔
    ∃ dss, List.Forall₂ (fun part ds => ofPart pointer part = .ok ds) (parts origin text byLine) dss ∧
      ds = dss.flatten := by
  rw [allOfText_eq, bind_eq_ok_iff, ← mapM_narrow_eq_ok_iff]
  refine ⟨fun ⟨_, _, h⟩ => h, fun h => ?_⟩
  -- what is narrowed has been decoded, so the first run has gone through
  have hdecodes : ∀ p ∈ parts origin text byLine, Decodes p := fun p hp => by
    obtain ⟨d, hd⟩ := (exists_mapM_eq_ok_iff _).1 ⟨ds, h⟩ p hp
    obtain ⟨w, hw, -⟩ := bind_eq_ok_iff.1 hd
    exact decodes_iff.2 ⟨w, hw⟩
  obtain ⟨ws, hws⟩ := (exists_wholes_iff _).2 hdecodes
  exact ⟨ws, hws, h⟩

/-- A fault comes from the first run, or from the second one when all parts have passed the first. -/
theorem allOfText_eq_error_iff {f : LoadFault} : allOfText origin text byLine pointer = .error f ↔
    ∃ pre part post, parts origin text byLine = pre ++ part :: post ∧ ofPart pointer part = .error f ∧
      ((∀ p ∈ pre, Decodes p) ∧ ¬ Decodes part ∨
        (∀ p ∈ parts origin text byLine, Decodes p) ∧ ∀ p ∈ pre, ∃ ds, ofPart pointer p = .ok ds) := by
  rw [allOfText_eq, bind_eq_error_iff]
  constructor
  · rintro (h | ⟨ws, hws, h⟩)
    · obtain ⟨pre, part, post, hsplit, hf, hpre⟩ := (mapM_eq_error_iff _).1 h
      have hpart : ¬ Decodes part := not_decodes_iff.2 ⟨f, hf⟩
      refine ⟨pre, part, post, hsplit, (ofPart_eq_error_of_not_decodes hpart).2 hf, .inl ⟨fun p hp => ?_, hpart⟩⟩
      exact decodes_iff.2 (hpre p hp)
    · obtain ⟨pre, part, post, hsplit, hf, hpre⟩ := (mapM_eq_error_iff _).1 h
      have hall := (exists_wholes_iff _).1 ⟨ws, hws⟩
      refine ⟨pre, part, post, hsplit, ofPart_eq_error_iff.2 hf, .inr ⟨hall, fun p hp => ?_⟩⟩
      obtain ⟨d, hd⟩ := hpre p hp
      exact ⟨[d], ofPart_eq_ok_iff.2 ⟨d, hd, rfl⟩⟩
  · rintro ⟨pre, part, post, hsplit, hf, ⟨hpre, hpart⟩ | ⟨hall, hpre⟩⟩
    · refine .inl ((mapM_eq_error_iff _).2 ⟨pre, part, post, hsplit, ?_, fun p hp => decodes_iff.1 (hpre p hp)⟩)
      exact (ofPart_eq_error_of_not_decodes hpart).1 hf
    · obtain ⟨ws, hws⟩ := (exists_wholes_iff _).2 hall
      refine .inr ⟨ws, hws, (mapM_eq_error_iff _).2 ⟨pre, part, post, hsplit, ?_, fun p hp => ?_⟩⟩
      · exact ofPart_eq_error_iff.1 hf
      · obtain ⟨ds, hds⟩ := hpre p hp
        obtain ⟨d, hd, -⟩ := ofPart_eq_ok_iff.1 hds
        exact ⟨d, hd⟩

theorem exists_allOfText_eq_error_iff : (∃ f, allOfText origin text byLine pointer = .error f) ↔
    ∃ part ∈ parts origin text byLine, ∃ f, ofPart pointer part = .error f := by
  constructor
  · rintro ⟨f, h⟩
    obtain ⟨pre, part, post, hsplit, hf, -⟩ := allOfText_eq_error_iff.1 h
    exact ⟨part, by simp [hsplit], f, hf⟩
  · rintro ⟨part, hpart, f, hf⟩
    cases h : allOfText origin text byLine pointer with
    | error g => exact ⟨g, rfl⟩
    | ok ds =>
      obtain ⟨dss, hdss, -⟩ := allOfText_eq_ok_iff.1 h
      obtain ⟨es, hes⟩ := (exists_mapM_eq_ok_iff _).1 ⟨dss, (mapM_eq_ok_iff _ dss).2 hdss⟩ part hpart
      rw [hf] at hes
      cases hes

end Runs

/-! ## Lines -/

/-- **A source read by lines is its lines read one by one.**  It is read if each line alone is, and then gives their
documents in a row.  Otherwise it fails as a line alone does: the first one that does not decode, or, if all decode, the
first one in which the pointer selects nothing. -/
theorem allOfText_byLine (origin source : String) (pointer : Option String) :
    (∀ ds, allOfText origin source true pointer = .ok ds ↔
      ∃ dss, List.Forall₂ (fun line ds => ofPart pointer line = .ok ds) (lineParts origin source) dss ∧
        ds = dss.flatten) ∧
    ∀ f, allOfText origin source true pointer = .error f ↔
      ∃ pre line post, lineParts origin source = pre ++ line :: post ∧ ofPart pointer line = .error f ∧
        ((∀ l ∈ pre, Decodes l) ∧ ¬ Decodes line ∨
          (∀ l ∈ lineParts origin source, Decodes l) ∧ ∀ l ∈ pre, ∃ ds, ofPart pointer l = .ok ds) := by
  rw [← parts_byLine]
  exact ⟨fun ds => allOfText_eq_ok_iff, fun f => allOfText_eq_error_iff⟩

/-- The column at which a fault in decoding is found. -/
def columnOf (r : Except LoadFault (List Document)) : Option Nat :=
  match r with
  | .error (.undecoded _ f) => some f.position.column
  | _ => none

/-- A carriage return at the end of a source belongs to the last line: were it taken away there as it is before a line
feed, the fault of the line alone would be found one column before that of the source. -/
theorem not_allOfText_byLine_without_return :
    let source := "\x7b\"a\":1\r"
    let line := ("f:1", "\x7b\"a\":1")
    (source.toList.splitOn '\n').map Text.withoutReturn = [line.2.toList] ∧ ¬ Decodes line ∧
      allOfText "f" source true none ≠ ofPart none line := by
  intro source line
  have hcolumn : columnOf (allOfText "f" source true none) = some 7 := by decide +kernel
  have halone : columnOf (ofPart none line) = some 6 := by decide +kernel
  refine ⟨by decide +kernel, ?_, ?_⟩
  · rintro ⟨ds, h⟩
    rw [h] at halone
    cases halone
  · intro h
    rw [h, halone] at hcolumn
    cases hcolumn

end Document
end SchemaCheck
