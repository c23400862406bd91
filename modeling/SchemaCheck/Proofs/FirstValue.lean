import SchemaCheck.Proofs.Forms
import SchemaCheck.Proofs.LineByLine
/-!
# FirstValue — of a text only the first value is read

A text that decodes begins with a JSON value, whose tree is all that decoding sees of it; what follows that value is not
looked at (`loading_takes_first_value`).  The whole text is one JSON value exactly if only blanks follow, so other texts
decode as well (`not_whole_though_loaded`).
-/
namespace SchemaCheck.Json

/-! ## The first value -/

theorem exists_run_eq_of_reads {lead : List Char} {d : Data} (h : Form.value.Reads lead d) : ∃ tree : Tree,
    tree.data = d ∧ ∀ rest, ¬ GoesOn lead rest →
      (Progress.more .value []).run (tokensFrom 0 Position.start (lead ++ rest)) =
        (tree, tokensFrom 0 (Position.start.advance lead) rest) := by
  obtain ⟨tree, hdata, htree⟩ := h Position.start
  refine ⟨tree, hdata, fun rest hrest => ?_⟩
  rw [htree _ _ rest (.inl rfl) hrest]
  exact Progress.run_done tree _

theorem exists_run_eq {lead : List Char} (h : Derives .value lead) : ∃ tree, ∀ rest, ¬ GoesOn lead rest →
    (Progress.more .value []).run (tokensFrom 0 Position.start (lead ++ rest)) =
      (tree, tokensFrom 0 (Position.start.advance lead) rest) := by
  obtain ⟨d, hd, -⟩ := reads_of_derives h
  obtain ⟨tree, -, htree⟩ := exists_run_eq_of_reads hd
  exact ⟨tree, htree⟩

/-- A text says what its first value says. -/
theorem data_ofText {lead rest : List Char} {d : Data} (h : Form.value.Reads lead d) (hrest : ¬ GoesOn lead rest) :
    (Tree.ofText (String.ofList (lead ++ rest))).data = d := by
  obtain ⟨tree, hdata, htree⟩ := exists_run_eq_of_reads h
  rw [Tree.ofText, tokens, String.toList_ofList, build_eq_run, htree rest hrest]
  exact hdata

/-- A text whose first value is read to its end begins with that value. -/
theorem exists_lead {text : String} (h : (Tree.ofText text).Ends) :
    ∃ lead rest, text = String.ofList (lead ++ rest) ∧ Derives .value lead ∧ ¬ GoesOn lead rest := by
  rw [Tree.ofText, build_eq_run] at h
  have hfits : Awaited.Fits .value [] := trivial
  obtain ⟨w, rest, hsplit, -, ⟨lead, _, rfl, hlead, rfl⟩, hgoes⟩ := exists_completes _ hfits rfl h
  rw [List.append_nil] at hsplit hgoes
  exact ⟨lead, rest, by rw [← hsplit, String.ofList_toList], hlead, hgoes⟩

/-- No list that a text says has more items than the text has characters. -/
theorem within_ofText {text : String} (h : (Tree.ofText text).Ends) : (Tree.ofText text).data.Within text.length := by
  obtain ⟨lead, rest, rfl, hlead, hrest⟩ := exists_lead h
  obtain ⟨d, hd, hwithin⟩ := reads_of_derives hlead
  rw [data_ofText hd hrest, String.length_ofList, List.length_append]
  exact hwithin _ (Nat.le_add_right _ _)

section Lead

variable {lead rest : List Char} (hlead : Derives .value lead) (hrest : ¬ GoesOn lead rest)
include hlead hrest

/-- The tree of a text is that of its first value. -/
theorem ofText_append : Tree.ofText (String.ofList (lead ++ rest)) = Tree.ofText (String.ofList lead) := by
  obtain ⟨tree, htree⟩ := exists_run_eq hlead
  have hnil := htree [] (not_goesOn_of_blank (List.forall_mem_nil _))
  rw [List.append_nil] at hnil
  rw [Tree.ofText, Tree.ofText, tokens, tokens, String.toList_ofList, String.toList_ofList, build_eq_run, build_eq_run,
    htree rest hrest, hnil]

/-- **A text is one JSON value if nothing but blanks follow its first value.** -/
theorem isText_iff : IsText (String.ofList (lead ++ rest)) ↔ AllBlank rest := by
  constructor
  · rintro ⟨v, b, hsplit, hv, hb⟩
    rw [String.toList_ofList] at hsplit
    obtain ⟨tree, htree⟩ := exists_run_eq hlead
    obtain ⟨tree', htree'⟩ := exists_run_eq hv
    -- both readings stop at the same tokens, and only the end of the text follows the value `v`
    have htokens : tokensFrom 0 (Position.start.advance lead) rest = tokensFrom 0 (Position.start.advance v) b := by
      have hrun := (htree rest hrest).symm
      rw [hsplit, htree' b (not_goesOn_of_blank hb)] at hrun
      exact congrArg Prod.snd hrun
    have hend := tokensFrom_blank hb [] (Position.start.advance v)
    rw [List.append_nil, ← htokens] at hend
    exact allBlank_of_tokensFrom hend rfl
  · exact fun hblank => ⟨lead, rest, String.toList_ofList, hlead, hblank⟩

end Lead
end SchemaCheck.Json

namespace SchemaCheck

open Json (Tree Derives GoesOn IsText AllBlank)

/-! ## Decoding -/

theorem Value.ends_of_ofJson {room : Nat} {tree : Tree} {v : Value} (h : Value.ofJson room tree = .ok v) :
    tree.Ends := by
  cases tree with
  | leaf t =>
    obtain ⟨f, hf, -⟩ := Value.ofJson_leaf_eq_ok_iff.1 h
    exact ⟨f, hf⟩
  | list opening items ending =>
    obtain ⟨r, vs, bracket, -, rfl, -⟩ := Value.ofJson_list_eq_ok_iff.1 h
    exact ⟨bracket, rfl⟩
  | object opening members ending =>
    obtain ⟨r, fs, bracket, -, rfl, -⟩ := Value.ofJson_object_eq_ok_iff.1 h
    exact ⟨bracket, rfl⟩

theorem Schema.ends_of_ofJson {room : Nat} {tree : Tree} {s : Schema} (h : Schema.ofJson room tree = .ok s) :
    tree.Ends := by
  cases tree with
  | leaf t =>
    obtain ⟨f, hf, -⟩ := Schema.ofJson_leaf_eq_ok_iff.1 h
    exact ⟨f, hf⟩
  | list opening items ending =>
    obtain ⟨r, ss, bracket, -, rfl, -⟩ := Schema.ofJson_list_eq_ok_iff.1 h
    exact ⟨bracket, rfl⟩
  | object opening members ending =>
    obtain ⟨r, bracket, -, rfl, -⟩ := Schema.ofJson_object_eq_ok_iff.1 h
    exact ⟨bracket, rfl⟩

/-! ## Texts -/

/-- A reader takes the first value of a text: whatever else follows that value, it reads the same. -/
def TakesFirstValue {α : Type} (read : String → α) (text : String) : Prop :=
  ∃ lead rest, text = String.ofList (lead ++ rest) ∧ Derives .value lead ∧ (IsText text ↔ AllBlank rest) ∧
    ∀ other, ¬ GoesOn lead other → read (String.ofList (lead ++ other)) = read text

theorem takesFirstValue_of_ends {α : Type} (read : Tree → α) {text : String} (h : (Tree.ofText text).Ends) :
    TakesFirstValue (fun t => read (Tree.ofText t)) text := by
  obtain ⟨lead, rest, rfl, hlead, hrest⟩ := Json.exists_lead h
  refine ⟨lead, rest, rfl, hlead, Json.isText_iff hlead hrest, fun other hother => ?_⟩
  exact congrArg read ((Json.ofText_append hlead hother).trans (Json.ofText_append hlead hrest).symm)

/-- **A source is read up to the end of its first JSON value**, and so is each of its lines if it is read by lines.
A schema or a document is loaded as it would be with anything else after that value; only blanks are left over exactly
if the text is one JSON value with blanks around it. -/
theorem loading_takes_first_value (origin text : String) :
    (∀ s, Schema.ofText origin text = .ok s → TakesFirstValue (Schema.ofText origin) text) ∧
    ∀ byLine pointer ds, Document.allOfText origin text byLine pointer = .ok ds →
      ∀ part ∈ Document.parts origin text byLine,
        TakesFirstValue (fun t => Document.ofPart pointer (part.1, t)) part.2 := by
  constructor
  · intro s h
    have hends := Schema.ends_of_ofJson (decodeAs_eq_ok_iff.1 h)
    exact takesFirstValue_of_ends (fun tree => decodeAs origin (Schema.ofJson Decode.depthLimit tree)) hends
  · intro byLine pointer ds h part hpart
    obtain ⟨dss, hparts, -⟩ := Document.allOfText_eq_ok_iff.1 h
    obtain ⟨es, -, hes⟩ := exists_mem_of_forall₂ hparts part hpart
    obtain ⟨d, hd, -⟩ := Document.ofPart_eq_ok_iff.1 hes
    obtain ⟨whole, hwhole, -⟩ := bind_eq_ok_iff.1 hd
    obtain ⟨v, hv, -⟩ := map_eq_ok_iff.1 hwhole
    have hends := Value.ends_of_ofJson (decodeAs_eq_ok_iff.1 hv)
    have hread : (fun t => Document.ofPart pointer (part.1, t)) =
        fun t => ((Document.wholeOf (part.1, t)).bind (Document.narrow pointer)).map ([·]) :=
      funext fun _ => Document.ofPart_eq_map
    rw [hread]
    exact takesFirstValue_of_ends (fun tree =>
      (((decodeAs part.1 (Value.ofJson Decode.depthLimit tree)).map (⟨part.1, ·⟩)).bind
        (Document.narrow pointer)).map ([·])) hends

/-- A schema before a word, and two documents on one line. -/
theorem loading_takes_first_value_of_two :
    TakesFirstValue (Schema.ofText "s") "null x" ∧
      TakesFirstValue (fun t => Document.ofPart none ("f:2", t)) "\x7b\x7d \x7b\x7d" := by
  have hschema : (Schema.ofText "s" "null x").toOption.isSome = true := by decide +kernel
  obtain ⟨s, hs⟩ := Option.isSome_iff_exists.1 hschema
  have hdocuments : Document.allOfText "f" "\n\x7b\x7d \x7b\x7d\n" true none = .ok [⟨"f:2", .map []⟩] :=
    toOption_eq_some_iff.1 (by decide +kernel)
  have hpart : ("f:2", "\x7b\x7d \x7b\x7d") ∈ Document.parts "f" "\n\x7b\x7d \x7b\x7d\n" true := by decide +kernel
  have hlines := (loading_takes_first_value "f" "\n\x7b\x7d \x7b\x7d\n").2 true none _ hdocuments
  exact ⟨(loading_takes_first_value "s" "null x").1 s (toOption_eq_some_iff.1 hs),
    hlines ("f:2", "\x7b\x7d \x7b\x7d") hpart⟩

/-- What follows the first value is not refused: a schema is loaded from a text that goes on with a word, and documents
from a text and from a line that hold two values, of which the second one is lost. -/
theorem not_whole_though_loaded :
    ((Schema.ofText "s" "null x").toOption.isSome = true ∧ ¬ IsText "null x") ∧
      Document.allOfText "f" "\x7b\x7d \x7b\x7d" false none = .ok [⟨"f", .map []⟩] ∧
      Document.allOfText "f" "\x7b\x7d \x7b\x7d\n" true none = .ok [⟨"f:1", .map []⟩] ∧
      ¬ IsText "\x7b\x7d \x7b\x7d" := by
  have hnull : Derives .value ['n', 'u', 'l', 'l'] := .scalar (List.forall_mem_nil _) .null
  have hempty : Derives .value ['\x7b', '\x7d'] := .object (List.forall_mem_nil _) (.noMembers (List.forall_mem_nil _))
  have hword : IsText "null x" ↔ AllBlank [' ', 'x'] := Json.isText_iff hnull (Json.not_goesOn_of_getLast? rfl rfl)
  have hsecond : IsText "\x7b\x7d \x7b\x7d" ↔ AllBlank [' ', '\x7b', '\x7d'] :=
    Json.isText_iff hempty (Json.not_goesOn_of_getLast? rfl rfl)
  refine ⟨⟨by decide +kernel, fun h => ?_⟩, toOption_eq_some_iff.1 (by decide +kernel),
    toOption_eq_some_iff.1 (by decide +kernel), fun h => ?_⟩
  · exact absurd (hword.1 h 'x' (by simp)) (by decide)
  · exact absurd (hsecond.1 h '\x7b' (by simp)) (by decide)

end SchemaCheck
