import SchemaCheck.Proofs.FirstValue
import SchemaCheck.Proofs.Payloads
import SchemaCheck.Proofs.Shapes
import SchemaCheck.Proofs.TextKeys
import SchemaCheck.Proofs.WrittenForm
/-!
# OwnText — a text as the schema of what it says

A text becomes a schema text when its outermost lists are written as literals and the names outside of them that start
with a dollar sign get one more (`Json.IsOwnText`).  What the one says tells what the other one says (`Json.Data.own`,
`Json.reads_of_ownText`), so the schema is the shape of the value (`Schema.ofJson_of_own`), and only what equals the
value conforms to it (`conforms_own_text_iff`).
-/
namespace SchemaCheck

open Decode (Directive)
open Json (Name Tree Token Data Form)

namespace Json

/-! ## What the schema text says -/

mutual

/-- What is said instead of a value: a list is said to be a literal, and names are escaped outside of lists. -/
def Data.own : Data → Data
  | .flawed => .flawed
  | .scalar f => .scalar f
  | .list items => .object [(some Directive.literal.key, .list items)]
  | .object members => .object (Data.ownMembers members)

def Data.ownMembers : List (Option String × Data) → List (Option String × Data)
  | [] => []
  | (name, d) :: rest => (name.map Decode.escapeName, d.own) :: Data.ownMembers rest

end

def Data.ownMember (m : Option String × Data) : Option String × Data := (m.1.map Decode.escapeName, m.2.own)

theorem Data.ownMembers_eq_map (members : List (Option String × Data)) :
    Data.ownMembers members = members.map Data.ownMember := by
  induction members with
  | nil => rfl
  | cons m rest ih =>
    obtain ⟨name, d⟩ := m
    rw [ownMembers, ih, List.map_cons]
    rfl

theorem Data.own_object (members : List (Option String × Data)) :
    (Data.object members).own = .object (members.map Data.ownMember) := by
  rw [own, ownMembers_eq_map]

/-- What is neither a list nor an object is said as it is. -/
theorem Token.own_data (t : Token) : t.data.own = t.data := by
  rw [Token.data]
  cases Decode.found t <;> rfl

end Json

/-! ## The schema of a value -/

/-- The shape of fields that come one after the other. -/
theorem Value.shape_map_ofPairs (fs : List (String × Value)) :
    (Value.map (Entries.ofPairs (Entries.named fs))).shape =
      .map (Entries.ofPairs (Entries.named (fs.map fun f => (f.1, f.2.shape)))) := by
  rw [shape, shapeFields_eq_map, ← Entries.ofPairs_map shape, Entries.named, Entries.named, List.map_map, List.map_map]
  rfl

theorem Decode.shape_toValue {t : Token} {f : Decode.Found} (h : Decode.found t = .ok f) :
    f.toValue.shape = .value f.toValue := by
  obtain rfl | ⟨b, rfl⟩ | ⟨text, n, -, -, rfl⟩ | ⟨content, s, -, -, rfl⟩ := Decode.found_cases h
  · rfl
  · rfl
  · rw [Found.toValue]
    obtain ⟨i, hi⟩ | ⟨x, hx⟩ := n.toValue_cases
    · rw [hi]
      rfl
    · rw [hx]
      rfl
  · rfl

/-- **A tree that says a value as a schema decodes to the shape of the value**, unless it is too deep. -/
theorem Schema.ofJson_of_own (t : Tree) : ∀ {u : Tree} {room room' : Nat} {v : Value},
    Value.ofJson room t = .ok v → u.data = t.data.own → u.depth ≤ room' → Schema.ofJson room' u = .ok v.shape := by
  induction t using Tree.descent with
  | leaf token =>
    intro u room room' v h hdata hdepth
    obtain ⟨f, hf, rfl⟩ := Value.ofJson_leaf_eq_ok_iff.1 h
    have hscalar : (Tree.leaf token).data = .scalar f := Json.Token.data_eq_scalar_iff.2 hf
    rw [hscalar] at hdata
    obtain ⟨token', rfl, hf'⟩ := Tree.exists_leaf_of_data hdata
    exact Schema.ofJson_leaf_eq_ok_iff.2 ⟨f, hf', (Decode.shape_toValue hf).symm⟩
  | list opening items ending ih =>
    intro u room room' v h hdata hdepth
    obtain ⟨r, vs, bracket, rfl, rfl, hvs, rfl⟩ := Value.ofJson_list_eq_ok_iff.1 h
    rw [Tree.data_list, Data.own] at hdata
    obtain ⟨opening', members', bracket', rfl, hmembers⟩ := Tree.exists_object_of_data hdata
    obtain ⟨r', rfl, hdepths⟩ := Tree.depth_object_le_iff.1 hdepth
    obtain ⟨m, rfl⟩ : ∃ m, members' = [m] := List.length_eq_one_iff.1 (by simpa using congrArg List.length hmembers)
    obtain ⟨hname, hvalue⟩ := Prod.mk.inj (List.cons.inj hmembers).1
    have hliteral : Value.ofJson r' m.2 = .ok (.seq vs) :=
      Value.ofJson_of_data_eq _ h (hvalue.trans Tree.data_list.symm) (hdepths m List.mem_cons_self)
    refine Schema.ofJson_object_eq_ok_iff.2 ⟨r', bracket', rfl, rfl, .inr ⟨m, rfl, Directive.literal.key, .literal,
      toOption_eq_some_iff.1 hname, Decode.memberName_key .literal, ?_⟩⟩
    rw [ofPayload, hliteral]
    rfl
  | object opening members ending ih =>
    intro u room room' v h hdata hdepth
    obtain ⟨r, fs, bracket, rfl, rfl, hfs, rfl⟩ := Value.ofJson_object_eq_ok_iff.1 h
    rw [Tree.data_object, Data.own_object, List.map_map] at hdata
    obtain ⟨opening', members', bracket', rfl, hmembers⟩ := Tree.exists_object_of_data hdata
    obtain ⟨r', rfl, hdepths⟩ := Tree.depth_object_le_iff.1 hdepth
    have hes : List.Forall₂ (Schema.IsEntry r') members' (fs.map fun f => (f.1, f.2.shape)) := by
      rw [List.forall₂_map_right_iff]
      refine forall₂_trans_of_mem (forall₂_of_map_eq hmembers) hfs fun m' hm' m hm f heq hf => ?_
      obtain ⟨hname, hvalue⟩ := Prod.mk.inj heq
      have hraw : m'.1.text = .ok (Decode.escapeName f.1) := by
        have hread : (Json.memberData m).1 = some f.1 := toOption_eq_some_iff.2 hf.1
        rw [← toOption_eq_some_iff, hname, hread, Option.map_some]
      exact ⟨_, hraw, Decode.memberName_escapeName f.1, ih m hm hf.2 hvalue (hdepths m' hm')⟩
    exact Schema.ofJson_object_eq_ok_iff.2 ⟨r', bracket', rfl, rfl, .inl ⟨_, hes, Value.shape_map_ofPairs fs⟩⟩

/-! ## Texts -/

namespace Json

/-- A name, after its opening quote, with one dollar sign more in front of a first one. -/
def ownName (cs : List Char) : List Char := if StartsWithDollar cs then '$' :: cs else cs

/-- The name of a literal in its quotes. -/
def literalName : List Char := '"' :: (Directive.literal.key.toList ++ ['"'])

/-- Written as a schema: a list with the blanks before it as a literal, a member with its name escaped, and everything
else as it stands. -/
inductive OwnText : Form → List Char → List Char → Prop
  | scalar {b s : List Char} (hb : AllBlank b) (h : IsScalar s) : OwnText .value (b ++ s) (b ++ s)
  | list {b w : List Char} (hb : AllBlank b) (h : Derives .items w) :
      OwnText .value (b ++ '[' :: w) (b ++ '\x7b' :: ((literalName ++ ':' :: ' ' :: '[' :: w) ++ ['\x7d']))
  | object {b w w' : List Char} (hb : AllBlank b) (h : OwnText .members w w') :
      OwnText .value (b ++ '\x7b' :: w) (b ++ '\x7b' :: w')
  | noMembers {b : List Char} (hb : AllBlank b) : OwnText .members (b ++ ['\x7d']) (b ++ ['\x7d'])
  | members {m m' w w' : List Char} (hm : OwnText .member m m') (hw : OwnText .moreMembers w w') :
      OwnText .members (m ++ w) (m' ++ w')
  | lastMember {b : List Char} (hb : AllBlank b) : OwnText .moreMembers (b ++ ['\x7d']) (b ++ ['\x7d'])
  | nextMember {b m m' w w' : List Char} (hb : AllBlank b) (hm : OwnText .member m m')
      (hw : OwnText .moreMembers w w') : OwnText .moreMembers (b ++ ',' :: (m ++ w)) (b ++ ',' :: (m' ++ w'))
  | member {b n c v v' : List Char} (hb : AllBlank b) (hn : IsStringRest n) (hc : AllBlank c)
      (hv : OwnText .value v v') :
      OwnText .member (b ++ ('"' :: n ++ (c ++ ':' :: v))) (b ++ ('"' :: ownName n ++ (c ++ ':' :: v')))

/-- A text with the schema text that is written for it. -/
def IsOwnText (text own : String) : Prop :=
  ∃ v w b, text = String.ofList (v ++ b) ∧ own = String.ofList (w ++ b) ∧ OwnText .value v w ∧ AllBlank b

theorem isStringRest_ownName {cs : List Char} (h : IsStringRest cs) : IsStringRest (ownName cs) := by
  rw [ownName]
  split
  · exact .char (by decide) (by decide) (by decide) h
  · exact h

/-- The text of a name written so is the escaped text. -/
theorem textFrom_ownName {cs : List Char} (h : IsStringRest cs) :
    textFrom 0 (ownName cs) = (textFrom 0 cs).map Decode.escapeName := by
  have hdollar : textFrom 0 ('$' :: cs) = (textFrom 0 cs).map fun s => String.ofList ('$' :: s.toList) :=
    textFrom_cons (by decide) (by decide) (by decide)
  cases hs : textFrom 0 cs with
  | none =>
    rw [hs] at hdollar
    rw [ownName]
    split
    · exact hdollar
    · exact hs
  | some s =>
    rw [hs] at hdollar
    have hiff := startsWithDollar_iff h hs
    by_cases hstarts : StartsWithDollar cs
    · rw [ownName, if_pos hstarts, hdollar, Option.map_some, Option.map_some,
        Decode.escapeName_of_dollar (hiff.1 hstarts)]
    · rw [ownName, if_neg hstarts, hs, Option.map_some, Decode.escapeName_of_not_dollar (mt hiff.2 hstarts)]

theorem isString_literalName : IsString literalName ∧ textFrom 0 literalName.tail = some Directive.literal.key := by
  have hall : (Directive.literal.key.toList.all fun c => decide (c ≠ '"' ∧ c ≠ '\\' ∧ 32 ≤ c.toNat)) = true := by
    decide
  have hplain : ∀ c ∈ Directive.literal.key.toList, c ≠ '"' ∧ c ≠ '\\' ∧ 32 ≤ c.toNat :=
    fun c hc => of_decide_eq_true (List.all_eq_true.1 hall c hc)
  obtain ⟨hstring, htext⟩ := isStringRest_of_plain hplain
  refine ⟨.quoted hstring, htext.trans ?_⟩
  rw [String.ofList_toList]

theorem OwnText.derives {f : Form} {w w' : List Char} (h : OwnText f w w') : Derives f w ∧ Derives f w' := by
  have hnone : AllBlank [] := List.forall_mem_nil _
  induction h with
  | scalar hb h => exact ⟨.scalar hb h, .scalar hb h⟩
  | list hb h =>
    have hspace : AllBlank [' '] := AllBlank.cons_iff.2 ⟨List.mem_cons_self, hnone⟩
    exact ⟨.list hb h, .object hb (.members (.member hnone isString_literalName.1 hnone (.list hspace h))
      (.lastMember hnone))⟩
  | object hb _ ih => exact ⟨.object hb ih.1, .object hb ih.2⟩
  | noMembers hb => exact ⟨.noMembers hb, .noMembers hb⟩
  | members _ _ ihm ihw => exact ⟨.members ihm.1 ihw.1, .members ihm.2 ihw.2⟩
  | lastMember hb => exact ⟨.lastMember hb, .lastMember hb⟩
  | nextMember hb _ _ ihm ihw => exact ⟨.nextMember hb ihm.1 ihw.1, .nextMember hb ihm.2 ihw.2⟩
  | member hb hn hc _ ih =>
    exact ⟨.member hb (.quoted hn) hc ih.1, .member hb (.quoted (isStringRest_ownName hn)) hc ih.2⟩

/-- What a form that is written as a schema says. -/
def Form.own : (f : Form) → f.Said → f.Said
  | .value, d => Data.own d
  | .items, ds => ds
  | .moreItems, ds => ds
  | .members, es => es.map Data.ownMember
  | .moreMembers, es => es.map Data.ownMember
  | .member, e => Data.ownMember e

theorem reads_of_ownText {f : Form} {w w' : List Char} (h : OwnText f w w') :
    ∃ d, f.Reads w d ∧ f.Reads w' (f.own d) := by
  have hnone : AllBlank [] := List.forall_mem_nil _
  induction h with
  | scalar hb h =>
    obtain ⟨t, ht⟩ := reads_scalar hb h
    refine ⟨t.data, ht, ?_⟩
    rwa [Form.own, t.own_data]
  | list hb h =>
    obtain ⟨ds, hds, -⟩ := reads_of_derives h
    refine ⟨.list ds, reads_list hb hds, ?_⟩
    have hspace : AllBlank [' '] := AllBlank.cons_iff.2 ⟨List.mem_cons_self, hnone⟩
    have hmember := reads_member hnone isString_literalName.1 hnone (reads_list hspace hds)
    rw [isString_literalName.2] at hmember
    exact reads_object hb (reads_members hmember (reads_lastMember hnone) fun _ _ =>
      (Derives.lastMember hnone).not_goesOn_moreMembers)
  | @object b w w' hb _ ih =>
    obtain ⟨es, hes, hes'⟩ := ih
    refine ⟨.object es, reads_object hb hes, ?_⟩
    rw [Form.own, Data.own_object]
    exact reads_object hb hes'
  | noMembers hb => exact ⟨[], reads_noMembers hb, reads_noMembers hb⟩
  | members _ hw ihm ihw =>
    obtain ⟨e, he, he'⟩ := ihm
    obtain ⟨es, hes, hes'⟩ := ihw
    exact ⟨e :: es, reads_members he hes fun _ _ => hw.derives.1.not_goesOn_moreMembers,
      @reads_members _ _ (Data.ownMember e) _ he' hes' fun _ _ => hw.derives.2.not_goesOn_moreMembers⟩
  | lastMember hb => exact ⟨[], reads_lastMember hb, reads_lastMember hb⟩
  | nextMember hb _ hw ihm ihw =>
    obtain ⟨e, he, he'⟩ := ihm
    obtain ⟨es, hes, hes'⟩ := ihw
    exact ⟨e :: es, reads_nextMember hb he hes fun _ _ => hw.derives.1.not_goesOn_moreMembers,
      @reads_nextMember _ _ _ (Data.ownMember e) _ hb he' hes' fun _ _ => hw.derives.2.not_goesOn_moreMembers⟩
  | @member b n c v v' hb hn hc _ ih =>
    obtain ⟨d, hd, hd'⟩ := ih
    refine ⟨_, reads_member hb (.quoted hn) hc hd, ?_⟩
    have hmember := @reads_member _ _ _ _ (Data.own d) hb (.quoted (isStringRest_ownName hn)) hc hd'
    rw [List.tail_cons, textFrom_ownName hn] at hmember
    exact hmember

/-- Forms inside a list, which is written as it stands. -/
def Form.isInList : Form → Bool
  | .items | .moreItems => true
  | _ => false

/-- Everything but the inside of a list can be written as a schema. -/
theorem exists_ownText {f : Form} {w : List Char} (h : Derives f w) : f.isInList = false → ∃ w', OwnText f w w' := by
  induction h with
  | scalar hb h => exact fun _ => ⟨_, .scalar hb h⟩
  | list hb h => exact fun _ => ⟨_, .list hb h⟩
  | object hb _ ih =>
    intro _
    obtain ⟨w', hw⟩ := ih rfl
    exact ⟨_, .object hb hw⟩
  | noItems => exact fun h => absurd h (by decide)
  | items => exact fun h => absurd h (by decide)
  | lastItem => exact fun h => absurd h (by decide)
  | nextItem => exact fun h => absurd h (by decide)
  | noMembers hb => exact fun _ => ⟨_, .noMembers hb⟩
  | members _ _ ihm ihw =>
    intro _
    obtain ⟨m', hm⟩ := ihm rfl
    obtain ⟨w', hw⟩ := ihw rfl
    exact ⟨_, .members hm hw⟩
  | lastMember hb => exact fun _ => ⟨_, .lastMember hb⟩
  | nextMember hb _ _ ihm ihw =>
    intro _
    obtain ⟨m', hm⟩ := ihm rfl
    obtain ⟨w', hw⟩ := ihw rfl
    exact ⟨_, .nextMember hb hm hw⟩
  | member hb hn hc _ ih =>
    intro _
    obtain ⟨v', hv⟩ := ih rfl
    cases hn with
    | quoted hn => exact ⟨_, .member hb hn hc hv⟩

end Json

theorem Document.allOfText_whole (origin text : String) : Document.allOfText origin text false none =
    (decodeAs origin (Value.ofJsonText text)).map fun v => [⟨origin, v⟩] := by
  rw [allOfText, wholes, ofText]
  cases decodeAs origin (Value.ofJsonText text) <;> rfl

/-- **A document conforms to its own text, and to nothing else.**  A JSON text can be written as a schema; if it decodes
to a value, and what is written is not too deep, then that decodes to the shape of the value, and exactly the values
equal to it conform to the shape. -/
theorem conforms_own_text_iff (text : String) : (Json.IsText text → ∃ own, Json.IsOwnText text own) ∧
    ∀ {own origin origin' : String} {ds : List Document}, Json.IsOwnText text own →
      (Tree.ofText own).depth ≤ Decode.depthLimit → Document.allOfText origin text false none = .ok ds →
        ∃ v, ds = [⟨origin, v⟩] ∧ Schema.ofText origin' own = .ok v.shape ∧ ∀ w : Value, w.isDistinct = true →
          (conforms (compile Options.default v.shape) w = true ↔ w.same v = true) := by
  constructor
  · rintro ⟨v, b, hsplit, hv, hb⟩
    obtain ⟨w, hw⟩ := Json.exists_ownText hv rfl
    exact ⟨_, v, w, b, by rw [← hsplit, String.ofList_toList], rfl, hw, hb⟩
  · rintro own origin origin' ds ⟨v, w, b, rfl, rfl, hown, hb⟩ hdepth hdocuments
    rw [Document.allOfText_whole, map_eq_ok_iff] at hdocuments
    obtain ⟨value, hdecode, rfl⟩ := hdocuments
    rw [decodeAs_eq_ok_iff] at hdecode
    obtain ⟨d, hd, hd'⟩ := Json.reads_of_ownText hown
    have hdata := Json.data_ofText hd (Json.not_goesOn_of_blank hb)
    have hdata' := Json.data_ofText hd' (Json.not_goesOn_of_blank hb)
    have hschema := Schema.ofJson_of_own _ hdecode (hdata'.trans (congrArg Data.own hdata.symm)) hdepth
    have hdistinct := Value.isDistinct_of_ofJson _ hdecode
    refine ⟨value, rfl, decodeAs_eq_ok_iff.2 hschema, fun w hw => ?_⟩
    rw [conforms, List.isEmpty_iff, compare_shape_eq_nil_iff rfl value hdistinct hw]
    exact ⟨Value.same_symm hdistinct hw, Value.same_symm hw hdistinct⟩

/-- A name that starts with a dollar sign is given twice, with a list first and then with a number. -/
theorem conforms_own_text_of_repeated :
    let text := "\x7b\"$a\":[],\"$a\":-0\x7d"
    let own := "\x7b\"$$a\":\x7b\"$literal\": []\x7d,\"$$a\":-0\x7d"
    let v : Value := .map [(.str "$a", .float (.number true Place.zero))]
    let w : Value := .map [(.str "$a", .int 0)]
    Json.IsOwnText text own ∧ (Tree.ofText own).depth ≤ Decode.depthLimit ∧
      Document.allOfText "d" text false none = .ok [⟨"d", v⟩] ∧ Schema.ofText "s" own = .ok v.shape ∧
        w.same v = true ∧ conforms (compile Options.default v.shape) w = true := by
  intro text own v w
  have hnone : Json.AllBlank [] := List.forall_mem_nil _
  have hname : Json.IsStringRest ['$', 'a', '"'] :=
    .char (by decide) (by decide) (by decide) (.char (by decide) (by decide) (by decide) .close)
  have hnumber : Json.IsNumber ['-', '0'] :=
    .parts (List.mem_cons_of_mem _ List.mem_cons_self) ⟨by decide, List.forall_mem_singleton.2 rfl, fun _ => rfl⟩
      .absent .absent
  have hown : Json.OwnText .value _ _ :=
    .object hnone (.members (.member hnone hname hnone (.list hnone (.noItems hnone)))
      (.nextMember hnone (.member hnone hname hnone (.scalar hnone (.number hnumber))) (.lastMember hnone)))
  have htext : Json.IsOwnText text own := ⟨_, _, [], by decide, by decide, hown, hnone⟩
  have hdepth : (Tree.ofText own).depth ≤ Decode.depthLimit := by decide +kernel
  have hdocuments : Document.allOfText "d" text false none = .ok [⟨"d", v⟩] :=
    toOption_eq_some_iff.1 (by decide +kernel)
  obtain ⟨_, heq, hschema, hconforms⟩ := (conforms_own_text_iff text).2 htext hdepth hdocuments
  cases heq
  have hsame : w.same v = true := by decide +kernel
  exact ⟨htext, hdepth, hdocuments, hschema, hsame, (hconforms w (by decide +kernel)).2 hsame⟩

end SchemaCheck
