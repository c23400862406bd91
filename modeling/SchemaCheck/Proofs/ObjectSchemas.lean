import SchemaCheck.Proofs.WrittenForm
/-!
# ObjectSchemas — what an object is at the place of a schema

An object at the place of a schema is a directive if its only name is that of one, and a map if none of its names starts
with one dollar sign alone; every other object is refused, and the whole text with it (`Schema.ofJson_object_dispatch`).
A map has its names without a first dollar sign, each in the place where it came first and with the schema that came
last.  Names that differ still do then, since none of them is a directive's (`Decode.escapeName_unescaped`).
-/
namespace SchemaCheck

open Decode (Directive under_eq_ok_iff)
open Json (Name Tree Token Ending)

/-! ## Names -/

namespace Decode

/-- One dollar sign in front, and not two. -/
def IsDirectiveName (raw : String) : Prop := ['$'] <+: raw.toList ∧ ¬ ['$', '$'] <+: raw.toList

instance : DecidablePred IsDirectiveName := fun raw =>
  inferInstanceAs (Decidable (['$'] <+: raw.toList ∧ ¬ ['$', '$'] <+: raw.toList))

/-- A name without its first dollar sign, if it starts with one. -/
def unescaped (raw : String) : String :=
  if ['$'] <+: raw.toList then String.ofList raw.toList.tail else raw

/-- A name starts with two dollar signs, with one, or with none. -/
theorem dollars_cases (raw : String) : (∃ rest, raw.toList = '$' :: '$' :: rest) ∨
    (∃ rest, raw.toList = '$' :: rest ∧ ¬ ['$'] <+: rest) ∨ ¬ ['$'] <+: raw.toList := by
  by_cases hone : ['$'] <+: raw.toList
  · obtain ⟨rest, hrest⟩ := hone
    by_cases htwo : ['$'] <+: rest
    · obtain ⟨tail, rfl⟩ := htwo
      exact .inl ⟨tail, hrest.symm⟩
    · exact .inr (.inl ⟨rest, hrest.symm, htwo⟩)
  · exact .inr (.inr hone)

theorem memberName_of_isDirectiveName {raw : String} (h : IsDirectiveName raw) :
    memberName raw = .directive (unescaped raw) := by
  obtain ⟨⟨rest, hraw⟩, htwo⟩ := h
  rw [unescaped, if_pos ⟨rest, hraw⟩]
  unfold memberName
  split
  · rename_i tail hlist
    exact absurd ⟨tail, hlist.symm⟩ htwo
  · rename_i hlist
    rw [hlist, List.tail_cons]
  · rename_i hnone
    exact absurd hraw.symm (hnone rest)

/-- A name that is no directive's is the escape of what it stands for. -/
theorem escapeName_unescaped {raw : String} (h : ¬ IsDirectiveName raw) : escapeName (unescaped raw) = raw := by
  obtain ⟨rest, hraw⟩ | ⟨rest, hraw, hone⟩ | hnone := dollars_cases raw
  · have hunescaped : (unescaped raw).toList = '$' :: rest := by
      rw [unescaped, if_pos ⟨'$' :: rest, hraw.symm⟩, hraw, String.toList_ofList, List.tail_cons]
    rw [escapeName_of_dollar ⟨rest, hunescaped.symm⟩, hunescaped, ← hraw, String.ofList_toList]
  · exact absurd ⟨⟨rest, hraw.symm⟩, by simpa [hraw] using hone⟩ h
  · rw [unescaped, if_neg hnone, escapeName_of_not_dollar hnone]

/-- What is no directive's name is that of an entry, and the other way round. -/
theorem memberName_eq_entry_iff {raw key : String} :
    memberName raw = .entry key ↔ ¬ IsDirectiveName raw ∧ key = unescaped raw := by
  constructor
  · intro h
    have hnot : ¬ IsDirectiveName raw := fun hd => by
      rw [memberName_of_isDirectiveName hd] at h
      cases h
    refine ⟨hnot, ?_⟩
    rw [← escapeName_unescaped hnot, memberName_escapeName] at h
    exact (MemberName.entry.inj h).symm
  · rintro ⟨hnot, rfl⟩
    calc memberName raw = memberName (escapeName (unescaped raw)) := by rw [escapeName_unescaped hnot]
      _ = .entry (unescaped raw) := memberName_escapeName _

theorem unescaped_escapeName (key : String) : unescaped (escapeName key) = key :=
  ((memberName_eq_entry_iff.1 (memberName_escapeName key)).2).symm

theorem escapeName_injective : Function.Injective escapeName := fun a b h => by
  rw [← unescaped_escapeName a, h, unescaped_escapeName]

theorem isDirectiveName_of_memberName {raw name : String} (h : memberName raw = .directive name) :
    IsDirectiveName raw := by
  by_contra hnot
  rw [memberName_eq_entry_iff.2 ⟨hnot, rfl⟩] at h
  cases h

theorem memberName_eq_directive_iff {raw : String} {d : Directive} :
    memberName raw = .directive d.name ↔ raw = d.key := by
  refine ⟨fun h => ?_, fun h => h ▸ memberName_key d⟩
  have hdirective := isDirectiveName_of_memberName h
  rw [memberName_of_isDirectiveName hdirective, unescaped, if_pos hdirective.1, MemberName.directive.injEq] at h
  obtain ⟨rest, hrest⟩ := hdirective.1
  rw [← hrest, List.singleton_append, List.tail_cons] at h
  simp [Directive.key, ← h, ← String.toList_inj, ← hrest]

end Decode

open Decode (IsDirectiveName unescaped)

namespace Schema

variable {room : Nat} {opening bracket : Token} {members : List (Name × Tree)} {raws : List String}

/-! ## Places -/

/-- A tree stands at the place of a schema in another one, so deep that a given number of lists and objects may still be
entered there. -/
inductive Within : Nat → Tree → Nat → Tree → Prop
  | here (room : Nat) (t : Tree) : Within room t room t
  | item {room r : Nat} {opening : Token} {items : List Tree} {ending : Ending} {t u : Tree} (ht : t ∈ items)
    (h : Within room t r u) : Within (room + 1) (.list opening items ending) r u
  | member {room r : Nat} {opening : Token} {members : List (Name × Tree)} {ending : Ending} {m : Name × Tree}
    {raw : String} {u : Tree} (hm : m ∈ members) (hname : m.1.text = .ok raw)
    (hraw : IsDirectiveName raw → raw = Directive.optional.key) (h : Within room m.2 r u) :
    Within (room + 1) (.object opening members ending) r u

/-- What decodes has only what decodes at the places of schemas. -/
theorem exists_ofJson_of_within {r : Nat} {t u : Tree} (h : Within room t r u) :
    ∀ {s : Schema}, Schema.ofJson room t = .ok s → ∃ s', Schema.ofJson r u = .ok s' := by
  induction h with
  | here room t => exact fun hs => ⟨_, hs⟩
  | item ht _ ih =>
    intro s hs
    obtain ⟨r, ss, bracket, ⟨⟩, rfl, hss, rfl⟩ := ofJson_list_eq_ok_iff.1 hs
    obtain ⟨s', -, hs'⟩ := exists_mem_of_forall₂ hss _ ht
    exact ih hs'
  | @member room _ _ _ _ m raw _ hm hname hraw _ ih =>
    intro s hs
    obtain ⟨r, bracket, ⟨⟩, rfl, ⟨es, hes, rfl⟩ | ⟨m', rfl, raw', d, hname', hd, hpayload⟩⟩ :=
      ofJson_object_eq_ok_iff.1 hs
    · obtain ⟨e, -, _, -, -, he⟩ := exists_mem_of_forall₂ hes m hm
      exact ih he
    · obtain rfl := List.mem_singleton.1 hm
      obtain rfl : raw = raw' := Except.ok.inj (hname.symm.trans hname')
      -- a directive that holds a schema is the one for what may be absent
      have hkey : raw = Directive.optional.key := hraw (Decode.isDirectiveName_of_memberName hd)
      obtain rfl : d = .optional := Directive.key_inj ((Decode.memberName_eq_directive_iff.1 hd).symm.trans hkey)
      rw [ofPayload, under_eq_ok_iff, map_eq_ok_iff] at hpayload
      obtain ⟨s', hs', -⟩ := hpayload
      exact ih hs'

/-! ## Directives and maps -/

/-- The value of a directive is not a map of schemas. -/
theorem ofPayload_ne_map {m : Name × Tree} {raw : String} {d : Directive} {s : Schema}
    (h : ofPayload room m raw d = .ok s) (es : Entries Schema) : s ≠ .map es := by
  rintro rfl
  cases d <;> simp [ofPayload, under_eq_ok_iff, map_eq_ok_iff] at h

/-- One member alone, with the name of a directive and a value for it. -/
def DirectiveAlone (room : Nat) (members : List (Name × Tree)) (raws : List String) (s : Schema) : Prop :=
  ∃ m d, members = [m] ∧ raws = [d.key] ∧ ofPayload room m d.key d = .ok s

/-- No name of a directive, and a schema under every name. -/
def EntriesOnly (room : Nat) (members : List (Name × Tree)) (raws : List String) : Prop :=
  (∀ raw ∈ raws, ¬ IsDirectiveName raw) ∧ ∀ m ∈ members, ∃ s, Schema.ofJson room m.2 = .ok s

/-- Entries are those of members: no two names meet in them, each has the place of its first member and the schema of
its last one. -/
structure KeepsMembers (room : Nat) (members : List (Name × Tree)) (raws : List String) (es : Entries Schema) :
    Prop where
  apart : ∀ a ∈ raws, ∀ b ∈ raws, unescaped a = unescaped b → a = b
  keys : Entries.keys es = raws.eraseDups.map fun raw => .str (unescaped raw)
  values : ∀ {pre post : List (Name × Tree)} {m : Name × Tree} {raw : String}, members = pre ++ m :: post →
    m.1.text = .ok raw → (∀ m' ∈ post, m'.1.text ≠ .ok raw) →
      ∃ s, Schema.ofJson room m.2 = .ok s ∧ Entries.get? (.str (unescaped raw)) es = some s

theorem isEntry_iff {m : Name × Tree} {e : String × Schema} : IsEntry room m e ↔
    ∃ raw, m.1.text = .ok raw ∧ ¬ IsDirectiveName raw ∧ e.1 = unescaped raw ∧ Schema.ofJson room m.2 = .ok e.2 := by
  simp only [IsEntry, Decode.memberName_eq_entry_iff, and_assoc]

theorem text_of_isEntry {m : Name × Tree} {e : String × Schema} (h : IsEntry room m e) :
    m.1.text = .ok (Decode.escapeName e.1) := by
  obtain ⟨raw, hname, hnot, hkey, -⟩ := isEntry_iff.1 h
  rw [hname, hkey, Decode.escapeName_unescaped hnot]

theorem raws_of_forall₂_isEntry {es : List (String × Schema)} (h : List.Forall₂ (IsEntry room) members es) :
    ∀ {raws : List String}, List.Forall₂ (fun m raw => m.1.text = .ok raw) members raws →
      raws = es.map fun e => Decode.escapeName e.1 := by
  induction h with
  | nil => exact fun hraws => List.forall₂_nil_left_iff.1 hraws
  | cons hm _ ih =>
    intro raws hraws
    obtain ⟨raw, tail, hname, htail, rfl⟩ := List.forall₂_cons_left_iff.1 hraws
    rw [List.map_cons, ← ih htail, Except.ok.inj (hname.symm.trans (text_of_isEntry hm))]

/-- A member is an entry unless its name is a directive's or its value does not decode. -/
theorem exists_isEntry_iff {m : Name × Tree} {raw : String} (hname : m.1.text = .ok raw) :
    (∃ e, IsEntry room m e) ↔ ¬ IsDirectiveName raw ∧ ∃ s, Schema.ofJson room m.2 = .ok s := by
  constructor
  · rintro ⟨e, he⟩
    obtain ⟨raw', hname', hnot, -, hs⟩ := isEntry_iff.1 he
    obtain rfl : raw = raw' := Except.ok.inj (hname.symm.trans hname')
    exact ⟨hnot, e.2, hs⟩
  · rintro ⟨hnot, s, hs⟩
    exact ⟨(unescaped raw, s), isEntry_iff.2 ⟨raw, hname, hnot, rfl, hs⟩⟩

theorem exists_forall₂_isEntry_iff (hraws : List.Forall₂ (fun m raw => m.1.text = .ok raw) members raws) :
    (∃ es, List.Forall₂ (IsEntry room) members es) ↔ EntriesOnly room members raws := by
  rw [exists_forall₂_iff, EntriesOnly]
  constructor
  · intro h
    refine ⟨forall_mem_of_forall₂ hraws fun m hm raw hname => ?_, fun m hm => ?_⟩
    · exact ((exists_isEntry_iff hname).1 (h m hm)).1
    · obtain ⟨raw, -, hname⟩ := exists_mem_of_forall₂ hraws m hm
      exact ((exists_isEntry_iff hname).1 (h m hm)).2
  · rintro ⟨hnot, hvalues⟩ m hm
    obtain ⟨raw, hraw, hname⟩ := exists_mem_of_forall₂ hraws m hm
    exact (exists_isEntry_iff hname).2 ⟨hnot raw hraw, hvalues m hm⟩

theorem exists_isDirective_iff (hraws : List.Forall₂ (fun m raw => m.1.text = .ok raw) members raws) {s : Schema} :
    (∃ m, members = [m] ∧ IsDirective room m s) ↔ DirectiveAlone room members raws s := by
  constructor
  · rintro ⟨m, rfl, raw, d, hname, hd, hpayload⟩
    obtain ⟨raw', tail, hname', htail, rfl⟩ := List.forall₂_cons_left_iff.1 hraws
    obtain rfl := List.forall₂_nil_left_iff.1 htail
    obtain rfl : raw = raw' := Except.ok.inj (hname.symm.trans hname')
    obtain rfl := Decode.memberName_eq_directive_iff.1 hd
    exact ⟨m, d, rfl, rfl, hpayload⟩
  · rintro ⟨m, d, rfl, rfl, hpayload⟩
    exact ⟨m, rfl, d.key, d, (List.forall₂_cons.1 hraws).1, Decode.memberName_key d, hpayload⟩

theorem keepsMembers_of_forall₂ (hraws : List.Forall₂ (fun m raw => m.1.text = .ok raw) members raws)
    {es : List (String × Schema)} (h : List.Forall₂ (IsEntry room) members es) :
    KeepsMembers room members raws (Entries.ofPairs (Entries.named es)) := by
  have hnot := ((exists_forall₂_isEntry_iff hraws).1 ⟨es, h⟩).1
  refine ⟨fun a ha b hb hab => ?_, ?_, ?_⟩
  · rw [← Decode.escapeName_unescaped (hnot a ha), hab, Decode.escapeName_unescaped (hnot b hb)]
  · have hkeys : (Entries.named es).map Prod.fst = (es.map Prod.fst).map Key.str := by
      rw [Entries.named, List.map_map, List.map_map]
      rfl
    have hnames : raws = (es.map Prod.fst).map Decode.escapeName := by
      rw [raws_of_forall₂_isEntry h hraws, List.map_map]
      rfl
    rw [Entries.keys_ofPairs, hkeys, hnames, Entries.eraseDups_map fun a b hab => Key.str.inj hab,
      Entries.eraseDups_map Decode.escapeName_injective, List.map_map]
    exact List.map_congr_left fun key _ => congrArg Key.str (Decode.unescaped_escapeName key).symm
  · rintro pre post m raw rfl hname hlast
    obtain ⟨lead, e, tail, rfl, he, htail⟩ := exists_split_of_forall₂ pre h
    obtain ⟨raw', hname', -, hkey, hs⟩ := isEntry_iff.1 he
    obtain rfl : raw = raw' := Except.ok.inj (hname.symm.trans hname')
    refine ⟨e.2, hs, ?_⟩
    rw [Entries.named, List.map_append, List.map_cons, ← hkey]
    refine Entries.get?_ofPairs_of_last fun hmem => ?_
    -- an entry under the same key would be of a member with the same name
    rw [List.map_map] at hmem
    obtain ⟨f, hf, heq⟩ := List.mem_map.1 hmem
    obtain ⟨m', hm', hentry⟩ := exists_mem_of_forall₂ htail.flip f hf
    refine hlast m' hm' ?_
    have hkeys : f.1 = e.1 := Key.str.inj heq
    rw [text_of_isEntry hentry, ← hname, text_of_isEntry he, hkeys]

theorem ofJson_eq_ok_iff (hraws : List.Forall₂ (fun m raw => m.1.text = .ok raw) members raws) {s : Schema} :
    Schema.ofJson (room + 1) (.object opening members (.closed bracket)) = .ok s ↔
      DirectiveAlone room members raws s ∨
        ∃ es, List.Forall₂ (IsEntry room) members es ∧ s = .map (Entries.ofPairs (Entries.named es)) := by
  rw [ofJson_object_eq_ok_iff, ← exists_isDirective_iff hraws]
  constructor
  · rintro ⟨r, _, ⟨⟩, -, h⟩
    exact h.symm
  · exact fun h => ⟨room, bracket, rfl, rfl, h.symm⟩

theorem ofJson_eq_map_iff (hraws : List.Forall₂ (fun m raw => m.1.text = .ok raw) members raws)
    {es : Entries Schema} : Schema.ofJson (room + 1) (.object opening members (.closed bracket)) = .ok (.map es) ↔
      ∃ fs, List.Forall₂ (IsEntry room) members fs ∧ es = Entries.ofPairs (Entries.named fs) := by
  rw [ofJson_eq_ok_iff hraws]
  constructor
  · rintro (⟨m, d, -, -, hpayload⟩ | ⟨fs, hfs, heq⟩)
    · exact absurd rfl (ofPayload_ne_map hpayload es)
    · exact ⟨fs, hfs, Schema.map.inj heq⟩
  · rintro ⟨fs, hfs, rfl⟩
    exact .inr ⟨fs, hfs, rfl⟩

theorem ofJson_eq_directive_iff (hraws : List.Forall₂ (fun m raw => m.1.text = .ok raw) members raws) {s : Schema}
    (hs : ∀ es, s ≠ .map es) : Schema.ofJson (room + 1) (.object opening members (.closed bracket)) = .ok s ↔
      DirectiveAlone room members raws s := by
  rw [ofJson_eq_ok_iff hraws]
  refine or_iff_left ?_
  rintro ⟨fs, -, heq⟩
  exact hs _ heq

theorem exists_ofJson_eq_map_iff (hraws : List.Forall₂ (fun m raw => m.1.text = .ok raw) members raws) :
    (∃ es, Schema.ofJson (room + 1) (.object opening members (.closed bracket)) = .ok (.map es)) ↔
      EntriesOnly room members raws := by
  simp only [ofJson_eq_map_iff hraws, ← exists_forall₂_isEntry_iff hraws]
  constructor
  · rintro ⟨_, fs, hfs, -⟩
    exact ⟨fs, hfs⟩
  · rintro ⟨fs, hfs⟩
    exact ⟨_, fs, hfs, rfl⟩

theorem exists_ofJson_eq_error_iff (hraws : List.Forall₂ (fun m raw => m.1.text = .ok raw) members raws) :
    (∃ f, Schema.ofJson (room + 1) (.object opening members (.closed bracket)) = .error f) ↔
      (∀ s, ¬ DirectiveAlone room members raws s) ∧ ¬ EntriesOnly room members raws := by
  have hok : (∃ s, Schema.ofJson (room + 1) (.object opening members (.closed bracket)) = .ok s) ↔
      (∃ s, DirectiveAlone room members raws s) ∨ EntriesOnly room members raws := by
    simp only [ofJson_eq_ok_iff hraws, exists_or, ← exists_forall₂_isEntry_iff hraws]
    refine or_congr_right ⟨?_, ?_⟩
    · rintro ⟨_, fs, hfs, -⟩
      exact ⟨fs, hfs⟩
    · rintro ⟨fs, hfs⟩
      exact ⟨_, fs, hfs, rfl⟩
  rw [← not_exists, ← not_or, ← hok]
  cases Schema.ofJson (room + 1) (.object opening members (.closed bracket)) <;> simp

/-- A text is refused with whatever is refused at the place of a schema in it. -/
theorem exists_ofText_eq_error_of_within {origin text : String} {r : Nat} {t : Tree}
    (h : Within Decode.depthLimit (Tree.ofText text) r t) (hrefused : ∃ f, Schema.ofJson r t = .error f) :
    ∃ f, Schema.ofText origin text = .error f := by
  cases htext : Schema.ofText origin text with
  | error f => exact ⟨f, rfl⟩
  | ok s =>
    obtain ⟨s', hs'⟩ := exists_ofJson_of_within h (decodeAs_eq_ok_iff.1 htext)
    obtain ⟨f, hf⟩ := hrefused
    rw [hs'] at hf
    cases hf

/-- **An object at the place of a schema is a directive, a map or refused.**  It is the directive that its only name
tells, if the value under it fits; it is a map if no name is a directive's and every value decodes, and then it keeps
its members; otherwise, or if no more objects may be entered, it is refused, and every text with it that has it at the
place of a schema. -/
theorem ofJson_object_dispatch (hraws : List.Forall₂ (fun m raw => m.1.text = .ok raw) members raws) :
    let object := Tree.object opening members (.closed bracket)
    (∀ s, (∀ es, s ≠ .map es) → (Schema.ofJson (room + 1) object = .ok s ↔ DirectiveAlone room members raws s)) ∧
      ((∃ es, Schema.ofJson (room + 1) object = .ok (.map es)) ↔ EntriesOnly room members raws) ∧
      (∀ es, Schema.ofJson (room + 1) object = .ok (.map es) → KeepsMembers room members raws es) ∧
      ((∃ f, Schema.ofJson (room + 1) object = .error f) ↔
        (∀ s, ¬ DirectiveAlone room members raws s) ∧ ¬ EntriesOnly room members raws) ∧
      (Schema.ofJson 0 object = Decode.fail .tooDeep opening.peek) ∧
      ∀ origin text r, Within Decode.depthLimit (Tree.ofText text) r object →
        (∃ f, Schema.ofJson r object = .error f) → ∃ f, Schema.ofText origin text = .error f := by
  intro object
  refine ⟨fun s hs => ofJson_eq_directive_iff hraws hs, exists_ofJson_eq_map_iff hraws, fun es h => ?_,
    exists_ofJson_eq_error_iff hraws, rfl,
    fun _ _ _ hwithin hrefused => exists_ofText_eq_error_of_within hwithin hrefused⟩
  obtain ⟨fs, hfs, rfl⟩ := (ofJson_eq_map_iff hraws).1 h
  exact keepsMembers_of_forall₂ hraws hfs

/-- A name with two dollar signs is given twice, around another one. -/
theorem ofJson_object_dispatch_of_repeated :
    let name (raw : String) : Name := ⟨default, .ok raw, default, default⟩
    let word (l : Json.Lexeme) : Tree := .leaf ⟨l, default, default, default⟩
    let members := [(name "$$a", word .null), (name "b", word .null), (name "$$a", word (.bool true))]
    List.Forall₂ (fun m raw => m.1.text = .ok raw) members ["$$a", "b", "$$a"] ∧
      ∃ es, Schema.ofJson 1 (.object default members (.closed default)) = .ok (.map es) ∧
        Entries.keys es = [.str "$a", .str "b"] ∧ Entries.get? (.str "$a") es = some (.value (.bool true)) := by
  intro name word members
  have hraws : List.Forall₂ (fun m raw => m.1.text = .ok raw) members ["$$a", "b", "$$a"] :=
    .cons rfl (.cons rfl (.cons rfl .nil))
  obtain ⟨-, hmap, hkeeps, -⟩ := @ofJson_object_dispatch 0 default default _ _ hraws
  have hvalues : ∀ m ∈ members, ∃ s, Schema.ofJson 0 m.2 = .ok s :=
    List.forall_mem_cons.2 ⟨⟨_, rfl⟩, List.forall_mem_cons.2 ⟨⟨_, rfl⟩, List.forall_mem_singleton.2 ⟨_, rfl⟩⟩⟩
  obtain ⟨es, hes⟩ := hmap.2 ⟨by decide, hvalues⟩
  have hkept := hkeeps es hes
  have hlast : members = members.take 2 ++ (name "$$a", word (.bool true)) :: [] := rfl
  obtain ⟨s, hs, hget⟩ := hkept.values hlast rfl (List.forall_mem_nil _)
  cases hs
  exact ⟨hraws, es, hes, hkept.keys.trans (by decide), hget⟩

/-- Objects in objects under one name, a number of them around the innermost one. -/
def nestedObjects : Nat → List Char
  | 0 => ['\x7b', '\x7d']
  | n + 1 => '\x7b' :: '"' :: 'a' :: '"' :: ':' :: (nestedObjects n ++ ['\x7d'])

/-- There is an empty object so deep under one name that nothing more may be entered. -/
def holdsEmptyAtLimit : Nat → Tree → Bool
  | 0, .object _ [] (.closed _) => true
  | room + 1, .object _ [(name, t)] _ => name.text.toOption == some "a" && holdsEmptyAtLimit room t
  | _, _ => false

theorem exists_within_of_holdsEmptyAtLimit {room : Nat} {t : Tree} (h : holdsEmptyAtLimit room t = true) :
    ∃ opening bracket, Within room t 0 (.object opening [] (.closed bracket)) := by
  fun_induction holdsEmptyAtLimit room t with
  | case1 opening bracket => exact ⟨opening, bracket, .here 0 _⟩
  | case2 room opening name t ending ih =>
    rw [Bool.and_eq_true, beq_iff_eq, toOption_eq_some_iff] at h
    obtain ⟨opening', bracket, hwithin⟩ := ih h.2
    exact ⟨opening', bracket, .member List.mem_cons_self h.1 (by decide) hwithin⟩
  | case3 => cases h

/-- An object that is one too deep is refused, though it has no names at all. -/
theorem not_map_iff_entriesOnly : ¬ ∀ (text : String) (room : Nat) (opening bracket : Token)
    (members : List (Name × Tree)) (raws : List String),
    Within Decode.depthLimit (Tree.ofText text) room (.object opening members (.closed bracket)) →
      List.Forall₂ (fun m raw => m.1.text = .ok raw) members raws →
        ((∃ es, Schema.ofJson room (.object opening members (.closed bracket)) = .ok (.map es)) ↔
          EntriesOnly (room - 1) members raws) := by
  intro h
  have hdeep : holdsEmptyAtLimit Decode.depthLimit (Tree.ofText (String.ofList (nestedObjects 127))) = true := by
    rw [Tree.ofText, Json.tokens, String.toList_ofList]
    decide +kernel
  obtain ⟨opening, bracket, hwithin⟩ := exists_within_of_holdsEmptyAtLimit hdeep
  obtain ⟨es, hes⟩ := (h _ 0 opening bracket [] [] hwithin .nil).2 ⟨List.forall_mem_nil _, List.forall_mem_nil _⟩
  cases hes

end Schema
end SchemaCheck
