import SchemaCheck.Proofs.Compilation
import SchemaCheck.Proofs.Identity
import SchemaCheck.Proofs.Payloads
/-!
# WrittenForm — decoding undoes writing

`Schema.IsWritten` is the written form of schemas: the tree that stands for a schema, as the value that the text of the
tree decodes to.  Names in a map and names of directives do not meet (`Decode.escapeName_ne_key`), so a text of the tree
decodes to the schema (`Schema.ofJson_of_isWritten`), as long as no object in it gives a name twice.  One that does reads
as the last of the values, but a directive has to stand alone.
-/
namespace SchemaCheck

open Decode (Directive)
open Json (Name Tree)

/-! ## Names -/

namespace Decode

/-- The name that a key is written with: one dollar sign more in front of a first one. -/
def escapeName (key : String) : String :=
  match key.toList with
  | '$' :: _ => String.ofList ('$' :: key.toList)
  | _ => key

theorem escapeName_of_dollar {key : String} (h : ['$'] <+: key.toList) :
    escapeName key = String.ofList ('$' :: key.toList) := by
  obtain ⟨rest, hrest⟩ := h
  unfold escapeName
  split
  · rfl
  · rename_i hnone
    exact absurd hrest.symm (hnone rest)

theorem escapeName_of_not_dollar {key : String} (h : ¬ ['$'] <+: key.toList) : escapeName key = key := by
  unfold escapeName
  split
  · rename_i rest hrest
    exact absurd ⟨rest, hrest.symm⟩ h
  · rfl

theorem memberName_escapeName (key : String) : memberName (escapeName key) = .entry key := by
  unfold escapeName
  split
  · rename_i rest h
    have hkey : String.ofList ('$' :: rest) = key := by rw [← h, String.ofList_toList]
    rw [memberName, String.toList_ofList, h]
    exact congrArg MemberName.entry hkey
  · rename_i h
    unfold memberName
    split
    · exact absurd ‹_› (h _)
    · exact absurd ‹_› (h _)
    · rfl

theorem escapeName_ne_key (key : String) (d : Directive) : escapeName key ≠ d.key := by
  intro h
  have hentry := memberName_escapeName key
  rw [h, memberName_key] at hentry
  cases hentry

/-- The tree of a directive. -/
def Directive.around (d : Directive) (payload : Value) : Value := .map [(.str d.key, payload)]

end Decode

/-! ## The written form -/

/-- The trees that are written for a schema.  Those for a literal that is no scalar hold it unchanged. -/
inductive Schema.IsWritten : Schema → Value → Prop
  | scalar {v : Value} (h : v.isScalar = true) : IsWritten (.value v) v
  | literal {v : Value} (h : v.isScalar = false) : IsWritten (.value v) (Directive.literal.around v)
  | kind (k : Kind) : IsWritten (.kind k) (Directive.type.around (.str k.word))
  | pattern (p : Pattern) : IsWritten (.pattern p) (Directive.pattern.around (.str p.source))
  | range {r : Interval} {fields : Entries Value} (h : r.IsWritten fields) :
    IsWritten (.range r) (Directive.range.around (.map fields))
  | optional {s : Schema} {j : Value} (h : IsWritten s j) : IsWritten (.optional s) (Directive.optional.around j)
  | seq (parts : List (Schema × Value)) (h : ∀ p ∈ parts, IsWritten p.1 p.2) :
    IsWritten (.seq (parts.map Prod.fst)) (.seq (parts.map Prod.snd))
  | map (parts : List (String × Schema × Value)) (h : ∀ p ∈ parts, IsWritten p.2.1 p.2.2) :
    IsWritten (.map (parts.map fun p => (.str p.1, p.2.1)))
      (.map (parts.map fun p => (.str (Decode.escapeName p.1), p.2.2)))

def Key.isString : Key → Bool
  | .str _ => true
  | _ => false

def Schema.hasStringKeys : Schema → Bool
  | .map entries => entries.all fun e => e.1.isString
  | _ => true

theorem Interval.exists_isWritten (r : Interval) : ∃ fields, r.IsWritten fields := by
  obtain ⟨start, stop, inclusive⟩ := r
  refine ⟨(start.toList.map fun x => (.str "min", .float x)) ++ (stop.toList.map fun x => (.str "max", .float x)) ++
    [(.str "exclusive", .bool !inclusive)], ?_⟩
  cases start <;> cases stop <;> constructor <;> simp [Entries.get?, Decode.boundNames, Value.asDouble?]

mutual

/-- A schema in which all keys are strings has a written form. -/
theorem Schema.exists_isWritten : ∀ s : Schema, s.everywhere Schema.hasStringKeys = true → ∃ j, s.IsWritten j
  | .value v, _ => by
    by_cases h : v.isScalar = true
    · exact ⟨v, .scalar h⟩
    · exact ⟨_, .literal (eq_false_of_ne_true h)⟩
  | .kind k, _ => ⟨_, .kind k⟩
  | .pattern p, _ => ⟨_, .pattern p⟩
  | .range r, _ => by
    obtain ⟨fields, hr⟩ := r.exists_isWritten
    exact ⟨_, .range hr⟩
  | .optional inner, h => by
    rw [everywhere, Bool.and_eq_true] at h
    obtain ⟨j, hj⟩ := Schema.exists_isWritten inner h.2
    exact ⟨_, .optional hj⟩
  | .seq items, h => by
    obtain ⟨parts, rfl, hparts⟩ := Schema.exists_writtenItems items ((Schema.everywhere_seq _ items).1 h).2
    exact ⟨_, .seq parts hparts⟩
  | .map entries, h => by
    obtain ⟨hkeys, hentries⟩ := (Schema.everywhere_map _ entries).1 h
    obtain ⟨parts, rfl, hparts⟩ := Schema.exists_writtenEntries entries (List.all_eq_true.1 hkeys) hentries
    exact ⟨_, .map parts hparts⟩

theorem Schema.exists_writtenItems : ∀ items : List Schema,
    (∀ s ∈ items, s.everywhere Schema.hasStringKeys = true) →
      ∃ parts : List (Schema × Value), parts.map Prod.fst = items ∧ ∀ p ∈ parts, p.1.IsWritten p.2
  | [], _ => ⟨[], rfl, List.forall_mem_nil _⟩
  | s :: rest, h => by
    obtain ⟨hs, hrest⟩ := List.forall_mem_cons.1 h
    obtain ⟨j, hj⟩ := Schema.exists_isWritten s hs
    obtain ⟨parts, rfl, hparts⟩ := Schema.exists_writtenItems rest hrest
    exact ⟨(s, j) :: parts, rfl, List.forall_mem_cons.2 ⟨hj, hparts⟩⟩

theorem Schema.exists_writtenEntries : ∀ entries : List (Key × Schema),
    (∀ e ∈ entries, e.1.isString = true) →
      (∀ e ∈ entries, e.2.everywhere Schema.hasStringKeys = true) →
        ∃ parts : List (String × Schema × Value), (parts.map fun p => ((.str p.1, p.2.1) : Key × Schema)) = entries ∧
          ∀ p ∈ parts, p.2.1.IsWritten p.2.2
  | [], _, _ => ⟨[], rfl, List.forall_mem_nil _⟩
  | (k, s) :: rest, hkeys, h => by
    obtain ⟨hk, hkeys⟩ := List.forall_mem_cons.1 hkeys
    obtain ⟨hs, hrest⟩ := List.forall_mem_cons.1 h
    obtain ⟨j, hj⟩ := Schema.exists_isWritten s hs
    obtain ⟨parts, rfl, hparts⟩ := Schema.exists_writtenEntries rest hkeys hrest
    cases k with
    | str key => exact ⟨(key, s, j) :: parts, rfl, List.forall_mem_cons.2 ⟨hj, hparts⟩⟩
    | _ => cases hk

end

/-! ## Decoding -/

section Decoding

variable {room : Nat} {t : Tree} {j : Value} {s : Schema}

/-- The tree of a directive decodes as soon as the payload does. -/
theorem Schema.ofJson_of_around {d : Directive} (h : Value.ofJson room t = .ok (d.around j)) (ht : t.namesOnce = true)
    (hpayload : ∀ {r : Nat} {m : Name × Tree}, Value.ofJson r m.2 = .ok j → (d ≠ .literal → m.2.namesOnce = true) →
      Schema.ofPayload r m d.key d = .ok s) : Schema.ofJson room t = .ok s := by
  obtain ⟨r, opening, members, bracket, fs, rfl, rfl, hmembers, heq, -⟩ := Value.exists_object_of_map h ht
  have hfs : [(d.key, j)] = fs := Entries.named_injective heq
  subst hfs
  obtain ⟨m, rfl⟩ : ∃ m, members = [m] := List.length_eq_one_iff.1 hmembers.length_eq
  obtain ⟨hname, hvalue⟩ := (List.forall₂_cons.1 hmembers).1
  have honce : d ≠ .literal → m.2.namesOnce = true := by
    intro hd
    refine ((Tree.namesOnce_object.1 ht).2 m List.mem_cons_self).resolve_left fun hliteral => hd ?_
    rw [hname] at hliteral
    exact Directive.key_inj (Option.some.inj hliteral)
  exact Schema.ofJson_object_eq_ok_iff.2 ⟨r, bracket, rfl, rfl, .inr ⟨m, rfl, d.key, d, hname, Decode.memberName_key d,
    hpayload hvalue honce⟩⟩

/-- A tree with escaped names decodes to a map as soon as what stands under the names does. -/
theorem Schema.ofJson_of_escaped {parts : List (String × Schema × Value)}
    (h : Value.ofJson room t = .ok (.map (parts.map fun p => (.str (Decode.escapeName p.1), p.2.2))))
    (ht : t.namesOnce = true) (hparts : ∀ p ∈ parts, ∀ {r : Nat} {u : Tree}, Value.ofJson r u = .ok p.2.2 →
      u.namesOnce = true → Schema.ofJson r u = .ok p.2.1) :
    Schema.ofJson room t = .ok (.map (parts.map fun p => (.str p.1, p.2.1))) := by
  obtain ⟨r, opening, members, bracket, fs, rfl, rfl, hmembers, heq, hnodup⟩ := Value.exists_object_of_map h ht
  have honce := (Tree.namesOnce_object.1 ht).2
  have hfs : parts.map (fun p => (Decode.escapeName p.1, p.2.2)) = fs := by
    apply Entries.named_injective
    rw [← heq, Entries.named, List.map_map]
    rfl
  have hentries : List.Forall₂ (Schema.IsEntry r) members (parts.map fun p => (p.1, p.2.1)) := by
    rw [← hfs, List.forall₂_map_right_iff] at hmembers
    rw [List.forall₂_map_right_iff]
    refine forall₂_imp_of_mem hmembers fun m hm p hp hmember => ?_
    obtain ⟨hname, hvalue⟩ := hmember
    have hm' : m.2.namesOnce = true := by
      refine (honce m hm).resolve_left fun hliteral => ?_
      rw [hname] at hliteral
      exact Decode.escapeName_ne_key p.1 .literal (Option.some.inj hliteral)
    exact ⟨_, hname, Decode.memberName_escapeName p.1, hparts p hp hvalue hm'⟩
  -- names that differ are those of keys that differ
  have hkeys : (Entries.keys (Entries.named (parts.map fun p => (p.1, p.2.1)))).Nodup := by
    rw [heq, ← hfs, Entries.nodup_keys_named_iff, List.map_map] at hnodup
    rw [Entries.nodup_keys_named_iff, List.map_map]
    exact List.Nodup.of_map Decode.escapeName (by rw [List.map_map]; exact hnodup)
  refine Schema.ofJson_object_eq_ok_iff.2 ⟨r, bracket, rfl, rfl, .inl ⟨_, hentries, ?_⟩⟩
  rw [Entries.ofPairs_of_nodup hkeys, Entries.named, List.map_map]
  rfl

/-- **A tree written for a schema decodes to it**, if no object but in a literal gives a name twice. -/
theorem Schema.ofJson_of_isWritten (hw : s.IsWritten j) : ∀ {room : Nat} {t : Tree}, Value.ofJson room t = .ok j →
    t.namesOnce = true → Schema.ofJson room t = .ok s := by
  induction hw with
  | scalar hv =>
    intro room t h _
    obtain ⟨token, f, rfl, hf, rfl⟩ := Value.exists_leaf_of_isScalar h hv
    exact Schema.ofJson_leaf_eq_ok_iff.2 ⟨f, hf, rfl⟩
  | literal hv =>
    intro room t h ht
    refine Schema.ofJson_of_around h ht fun hj _ => ?_
    rw [ofPayload, hj]
    rfl
  | kind k =>
    intro room t h ht
    refine Schema.ofJson_of_around h ht fun hj _ => ?_
    rw [ofPayload, Decode.kindOfJson_word hj]
    rfl
  | pattern p =>
    intro room t h ht
    refine Schema.ofJson_of_around h ht fun hj _ => ?_
    rw [ofPayload, Decode.patternOfJson_source hj]
    rfl
  | range hr =>
    intro room t h ht
    refine Schema.ofJson_of_around h ht fun hj honce => ?_
    rw [ofPayload, Decode.rangeOfJson_eq_ok hj hr (honce (by decide))]
    rfl
  | optional _ ih =>
    intro room t h ht
    refine Schema.ofJson_of_around h ht fun hj honce => ?_
    rw [ofPayload, ih hj (honce (by decide))]
    rfl
  | seq parts _ ih =>
    intro room t h ht
    obtain ⟨r, opening, items, bracket, rfl, rfl, hitems⟩ := Value.exists_list_of_seq h
    have honce := Tree.namesOnce_list.1 ht
    have hschemas : List.Forall₂ (fun t s => Schema.ofJson r t = .ok s) items (parts.map Prod.fst) := by
      rw [List.forall₂_map_right_iff] at hitems ⊢
      exact forall₂_imp_of_mem hitems fun t ht p hp hj => ih p hp hj (honce t ht)
    exact Schema.ofJson_list_eq_ok_iff.2 ⟨r, _, bracket, rfl, rfl, hschemas, rfl⟩
  | map parts _ ih => exact fun h ht => Schema.ofJson_of_escaped h ht ih

/-- **Decoding undoes writing.**  A schema whose keys are strings has a written form, and a text that reads as a tree
written for a schema decodes to the schema, if no object in it but in a literal gives a name twice. -/
theorem Schema.ofText_of_isWritten (s : Schema) : (s.everywhere Schema.hasStringKeys = true → ∃ j, s.IsWritten j) ∧
    ∀ {j : Value} {origin text : String}, s.IsWritten j → Value.ofJsonText text = .ok j →
      (Tree.ofText text).namesOnce = true → Schema.ofText origin text = .ok s := by
  refine ⟨s.exists_isWritten, fun hw htext honce => ?_⟩
  have h := Schema.ofJson_of_isWritten hw htext honce
  rw [Schema.ofText, decodeAs_eq_ok_iff]
  exact h

/-- The name of a directive as a key, above a literal with the name of another one. -/
theorem Schema.ofText_of_isWritten_escaped :
    let s : Schema := .map [(.str "$type", .optional (.value (.map [(.str "$optional", .seq [])])))]
    let text := "\x7b\"$$type\":\x7b\"$optional\":\x7b\"$literal\":\x7b\"$optional\":[]\x7d\x7d\x7d\x7d"
    s.everywhere Schema.hasStringKeys = true ∧ (∃ j, s.IsWritten j) ∧ ∃ j, s.IsWritten j ∧
      Value.ofJsonText text = .ok j ∧ (Tree.ofText text).namesOnce = true ∧ Schema.ofText "s" text = .ok s := by
  intro s text
  have hkeys : s.everywhere Schema.hasStringKeys = true := rfl
  let literal : Value := .map [(.str "$optional", .seq [])]
  have hw : s.IsWritten (.map [(.str (Decode.escapeName "$type"),
      Directive.optional.around (Directive.literal.around literal))]) :=
    .map [("$type", .optional (.value literal), _)] (List.forall_mem_singleton.2 (.optional (.literal rfl)))
  have htext : Value.ofJsonText text = .ok (.map [(.str (Decode.escapeName "$type"),
      Directive.optional.around (Directive.literal.around literal))]) :=
    toOption_eq_some_iff.1 (by decide +kernel)
  have honce : (Tree.ofText text).namesOnce = true := by decide +kernel
  exact ⟨hkeys, (Schema.ofText_of_isWritten s).1 hkeys, _, hw, htext, honce,
    (Schema.ofText_of_isWritten s).2 hw htext honce⟩

/-- A directive that is given twice is read as the last one, and is refused. -/
theorem Schema.not_ofText_of_isWritten_repeated : ¬ ∀ (s : Schema) (j : Value) (origin text : String),
    s.IsWritten j → Value.ofJsonText text = .ok j → Schema.ofText origin text = .ok s := by
  intro h
  have hread : Value.ofJsonText "\x7b\"$type\":\"null\",\"$type\":\"string\"\x7d" =
      .ok (Directive.type.around (.str Kind.string.word)) := toOption_eq_some_iff.1 (by decide +kernel)
  have hrefused : (Schema.ofText "s" "\x7b\"$type\":\"null\",\"$type\":\"string\"\x7d").toOption.isNone = true := by
    decide +kernel
  rw [h _ _ _ _ (.kind .string) hread] at hrefused
  cases hrefused

end Decoding
end SchemaCheck
