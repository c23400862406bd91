import Mathlib.Data.List.Nodup
import SchemaCheck.Document
import SchemaCheck.Proofs.Results
/-!
# Decoding — which trees decode, and to what

One law for each decoder says when it succeeds and with which result: a list decodes when it is closed and all of its
elements decode (`Value.ofJson_list_eq_ok_iff`, `Schema.ofJson_list_eq_ok_iff`), an object that is no directive when it
is closed and all of its members do (`Value.ofJson_object_eq_ok_iff`), and an object at the place of a schema is a map
or a directive alone (`Schema.ofJson_object_eq_ok_iff`).  `Json.Tree.descent` is induction down a tree.
-/
namespace SchemaCheck

open Json (Name Tree Ending Token)

/-- **Induction down a tree.** -/
theorem Json.Tree.descent {motive : Tree → Prop} (leaf : ∀ t, motive (.leaf t))
    (list : ∀ opening items ending, (∀ t ∈ items, motive t) → motive (.list opening items ending))
    (object : ∀ opening members ending, (∀ m ∈ members, motive m.2) → motive (.object opening members ending))
    (t : Tree) : motive t :=
  Tree.rec (motive_1 := motive) (motive_2 := fun items => ∀ t ∈ items, motive t)
    (motive_3 := fun members => ∀ m ∈ members, motive m.2) (motive_4 := fun m => motive m.2)
    leaf (fun o items e ih => list o items e ih) (fun o members e ih => object o members e ih)
    (List.forall_mem_nil _)
    (fun _ _ iht ihrest => List.forall_mem_cons.2 ⟨iht, ihrest⟩)
    (List.forall_mem_nil _)
    (fun _ _ ihm ihrest => List.forall_mem_cons.2 ⟨ihm, ihrest⟩)
    (fun _ _ ih => ih)
    t

namespace Decode

/-! ## Ends -/

theorem under_eq_ok_iff {α : Type} {s : PathStep} {r : Result α} {a : α} : under s r = .ok a ↔ r = .ok a :=
  ⟨under_eq_ok, fun h => h ▸ under_ok s a⟩

theorem closeList_eq_ok_iff {α : Type} {a b : α} {ending : Ending} :
    closeList a ending = .ok b ↔ (∃ bracket, ending = .closed bracket) ∧ a = b := by
  cases ending <;> simp [closeList, fail, failAt]

theorem closeObject_eq_ok_iff {α : Type} {a b : α} {named : Name → String → Result Unit} {ending : Ending} :
    closeObject a named ending = .ok b ↔ (∃ bracket, ending = .closed bracket) ∧ a = b := by
  cases ending with
  | closed bracket => simp [closeObject]
  | noColon name flaw position =>
    rw [closeObject]
    cases name.text with
    | error p => simp [failUnnamed, failAt, fail, under]
    | ok s => cases h : named name s <;> simp [h, fail]
  | _ => simp [closeObject, failUnnamed, failAt, fail, under]

end Decode

open Decode (under_eq_ok_iff closeList_eq_ok_iff closeObject_eq_ok_iff)

/-! ## Values -/

/-- The value of a number is an integer or a float. -/
theorem Json.Number.toValue_cases (n : Json.Number) :
    (∃ i, n.toValue = .int i) ∨ ∃ x, n.toValue = .float x := by
  cases n with
  | whole n =>
    rw [toValue]
    by_cases h : n ≤ Int64.maxValue.toInt
    · exact .inl ⟨_, if_pos h⟩
    · exact .inr ⟨_, if_neg h⟩
  | float x => exact .inr ⟨x, rfl⟩

theorem Value.ofJson_leaf_eq_ok_iff {room : Nat} {t : Token} {v : Value} :
    Value.ofJson room (.leaf t) = .ok v ↔ ∃ f, Decode.found t = .ok f ∧ f.toValue = v := by
  rw [Value.ofJson, map_eq_ok_iff]

theorem Value.itemsOfJson_eq_ok_iff (room : Nat) : ∀ (items : List Tree) (i : Nat) (vs : List Value),
    Value.itemsOfJson room i items = .ok vs ↔ List.Forall₂ (fun t v => Value.ofJson room t = .ok v) items vs
  | [], i, vs => by cases vs <;> simp [Value.itemsOfJson]
  | t :: rest, i, vs => by
    rw [Value.itemsOfJson]
    cases ht : Value.ofJson room t with
    | error f => cases vs <;> simp [Decode.under, ht]
    | ok v =>
      rw [Decode.under_ok, map_eq_ok_iff]
      cases vs with
      | nil => simp
      | cons w ws => simp [ht, Value.itemsOfJson_eq_ok_iff room rest (i + 1), and_comm]

/-- A member of an object with its name and its value. -/
def Value.IsMember (room : Nat) (m : Name × Tree) (f : String × Value) : Prop :=
  m.1.text = .ok f.1 ∧ Value.ofJson room m.2 = .ok f.2

/-- Names with something under them, as entries. -/
def Entries.named {α : Type} (es : List (String × α)) : List (Key × α) := es.map fun e => (.str e.1, e.2)

theorem Entries.named_injective {α : Type} : Function.Injective (Entries.named (α := α)) :=
  List.map_injective_iff.2 fun e f h => by
    obtain ⟨hkey, hvalue⟩ := Prod.mk.inj h
    exact Prod.ext (Key.str.inj hkey) hvalue

theorem Entries.nodup_keys_named_iff {α : Type} {es : List (String × α)} :
    (Entries.keys (Entries.named es)).Nodup ↔ (es.map Prod.fst).Nodup := by
  have hkeys : Entries.keys (Entries.named es) = (es.map Prod.fst).map Key.str := by simp [Entries.keys, Entries.named]
  rw [hkeys]
  exact List.nodup_map_iff fun a b h => Key.str.inj h

theorem Entries.insert_ne_nil {α : Type} (k : Key) (a : α) (es : Entries α) : Entries.insert k a es ≠ [] := by
  cases es with
  | nil => simp [Entries.insert]
  | cons e rest =>
    obtain ⟨k', b⟩ := e
    rw [Entries.insert]
    split <;> simp

theorem Value.fieldsOfJson_cons_eq_ok_iff (room : Nat) (m : Name × Tree) (rest : List (Name × Tree))
    (done fields : Entries Value) :
    Value.fieldsOfJson room done (m :: rest) = .ok fields ↔ ∃ f, Value.IsMember room m f ∧
      Value.fieldsOfJson room (Entries.insert (.str f.1) f.2 done) rest = .ok fields := by
  obtain ⟨name, t⟩ := m
  rw [Value.fieldsOfJson]
  cases hn : name.text with
  | error p => simp [Value.IsMember, Decode.failUnnamed, Decode.failAt, Decode.fail, Decode.under, hn]
  | ok s =>
    cases ht : Value.ofJson room t with
    | error f => simp [Value.IsMember, Decode.under, ht]
    | ok v => simp [Value.IsMember, Decode.under, hn, ht]

theorem Value.fieldsOfJson_eq_ok_iff (room : Nat) (members : List (Name × Tree)) : ∀ done fields : Entries Value,
    Value.fieldsOfJson room done members = .ok fields ↔ ∃ fs, List.Forall₂ (Value.IsMember room) members fs ∧
      (Entries.named fs).foldl (fun es e => Entries.insert e.1 e.2 es) done = fields := by
  induction members with
  | nil => simp [Value.fieldsOfJson, Entries.named]
  | cons m rest ih =>
    intro done fields
    simp only [Value.fieldsOfJson_cons_eq_ok_iff, ih, List.forall₂_cons_left_iff]
    constructor
    · rintro ⟨f, hf, fs, hfs, rfl⟩
      exact ⟨f :: fs, ⟨f, fs, hf, hfs, rfl⟩, rfl⟩
    · rintro ⟨_, ⟨f, fs, hf, hfs, rfl⟩, rfl⟩
      exact ⟨f, hf, fs, hfs, rfl⟩

theorem Value.ofJson_list_eq_ok_iff {room : Nat} {opening : Token} {items : List Tree} {ending : Ending} {v : Value} :
    Value.ofJson room (.list opening items ending) = .ok v ↔ ∃ r vs bracket, room = r + 1 ∧ ending = .closed bracket ∧
      List.Forall₂ (fun t v => Value.ofJson r t = .ok v) items vs ∧ v = .seq vs := by
  cases room with
  | zero => simp [Value.ofJson, Decode.fail]
  | succ r =>
    rw [Value.ofJson]
    cases h : Value.itemsOfJson r 0 items with
    | error f => simp [← Value.itemsOfJson_eq_ok_iff r items 0, h]
    | ok vs =>
      simp only [closeList_eq_ok_iff]
      constructor
      · rintro ⟨⟨bracket, rfl⟩, rfl⟩
        exact ⟨r, vs, bracket, rfl, rfl, (Value.itemsOfJson_eq_ok_iff r items 0 vs).1 h, rfl⟩
      · rintro ⟨_, ws, bracket, ⟨⟩, rfl, hws, rfl⟩
        rw [← Value.itemsOfJson_eq_ok_iff r items 0, h, Except.ok.injEq] at hws
        exact ⟨⟨bracket, rfl⟩, congrArg Value.seq hws⟩

theorem Value.ofJson_object_eq_ok_iff {room : Nat} {opening : Token} {members : List (Name × Tree)} {ending : Ending}
    {v : Value} :
    Value.ofJson room (.object opening members ending) = .ok v ↔ ∃ r fs bracket, room = r + 1 ∧
      ending = .closed bracket ∧ List.Forall₂ (Value.IsMember r) members fs ∧
        v = .map (Entries.ofPairs (Entries.named fs)) := by
  cases room with
  | zero => simp [Value.ofJson, Decode.fail]
  | succ r =>
    rw [Value.ofJson]
    cases h : Value.fieldsOfJson r [] members with
    | error f =>
      constructor
      · rintro ⟨⟩
      · rintro ⟨_, fs, bracket, ⟨⟩, rfl, hfs, rfl⟩
        have hok := (Value.fieldsOfJson_eq_ok_iff r members [] _).2 ⟨fs, hfs, rfl⟩
        rw [h] at hok
        cases hok
    | ok fields =>
      simp only [closeObject_eq_ok_iff]
      constructor
      · rintro ⟨⟨bracket, rfl⟩, rfl⟩
        obtain ⟨fs, hfs, rfl⟩ := (Value.fieldsOfJson_eq_ok_iff r members [] fields).1 h
        exact ⟨r, fs, bracket, rfl, rfl, hfs, rfl⟩
      · rintro ⟨_, fs, bracket, ⟨⟩, rfl, hfs, rfl⟩
        have hok := (Value.fieldsOfJson_eq_ok_iff r members [] _).2 ⟨fs, hfs, rfl⟩
        rw [h, Except.ok.injEq] at hok
        exact ⟨⟨bracket, rfl⟩, congrArg Value.map hok⟩

/-- **Induction along decoding**, from the values of the parts of a tree to the value of the tree. -/
theorem Value.ofJson_induction {motive : Tree → Value → Prop}
    (leaf : ∀ t f, Decode.found t = .ok f → motive (.leaf t) f.toValue)
    (list : ∀ opening items bracket vs, List.Forall₂ motive items vs →
      motive (.list opening items (.closed bracket)) (.seq vs))
    (object : ∀ opening members bracket fs,
      List.Forall₂ (fun m f => m.1.text = .ok f.1 ∧ motive m.2 f.2) members fs →
      motive (.object opening members (.closed bracket)) (.map (Entries.ofPairs (Entries.named fs))))
    (t : Tree) : ∀ {room : Nat} {v : Value}, Value.ofJson room t = .ok v → motive t v := by
  induction t using Tree.descent with
  | leaf t =>
    intro room v h
    obtain ⟨f, hf, rfl⟩ := Value.ofJson_leaf_eq_ok_iff.1 h
    exact leaf t f hf
  | list opening items ending ih =>
    intro room v h
    obtain ⟨r, vs, bracket, rfl, rfl, hvs, rfl⟩ := Value.ofJson_list_eq_ok_iff.1 h
    exact list opening items bracket vs (forall₂_imp_of_mem hvs fun t ht v _ hv => ih t ht hv)
  | object opening members ending ih =>
    intro room v h
    obtain ⟨r, fs, bracket, rfl, rfl, hfs, rfl⟩ := Value.ofJson_object_eq_ok_iff.1 h
    exact object opening members bracket fs (forall₂_imp_of_mem hfs fun m hm f _ hf => ⟨hf.1, ih m hm hf.2⟩)

/-! ## Schemas -/

namespace Decode

theorem Directive.ofName?_eq_some_iff {name : String} {d : Directive} : ofName? name = some d ↔ name = d.name := by
  constructor
  · intro h
    have hd := List.find?_some h
    exact (beq_iff_eq.1 hd).symm
  · rintro rfl
    exact ofName?_name d

/-- The name that a directive is written with. -/
def Directive.key (d : Directive) : String := "$" ++ d.name

theorem memberName_key (d : Directive) : memberName d.key = .directive d.name := by cases d <;> decide +kernel

theorem Directive.key_inj {d e : Directive} (h : d.key = e.key) : d = e := by
  have hname : d.name = e.name := MemberName.directive.inj (by rw [← memberName_key, h, memberName_key])
  have hsome : some d = some e := by rw [← ofName?_name d, hname, ofName?_name e]
  exact Option.some.inj hsome

theorem directiveFault_eq_ok_iff {alone : Bool} {settled : Json.Position} {name : String} {d : Directive} :
    directiveFault alone settled name = .ok d ↔ alone = true ∧ name = d.name := by
  rw [directiveFault]
  cases alone with
  | false => simp [fail]
  | true =>
    rw [← Directive.ofName?_eq_some_iff]
    cases Directive.ofName? name <;> simp [fail]

theorem checkAlone_eq_ok_iff {directive : String} {rest : List (Name × Tree)} {ending : Ending} {u : Unit} :
    checkAlone directive rest ending = .ok u ↔ rest = [] ∧ ∃ bracket, ending = .closed bracket := by
  cases rest with
  | nil => simp [checkAlone, closeObject_eq_ok_iff]
  | cons m rest =>
    obtain ⟨n, t⟩ := m
    cases h : n.text <;> simp [checkAlone, h, failUnnamed, failAt, fail, under]

end Decode

open Decode (Directive under)

/-- A number is the same literal as it is a value. -/
theorem Schema.ofNumber_eq (n : Json.Number) : Schema.ofNumber n = .value n.toValue := by
  have hmax : Int64.maxValue.toInt = 9223372036854775807 := by decide
  cases n with
  | whole i =>
    cases i with
    | ofNat n =>
      rw [ofNumber, Json.Number.toValue]
      exact (apply_ite Schema.value _ _ _).symm
    | negSucc n => rw [ofNumber, Json.Number.toValue, if_pos (by omega)]
  | float x => rfl

theorem Schema.ofFound_eq (f : Decode.Found) : Schema.ofFound f = .value f.toValue := by
  cases f with
  | number n => exact Schema.ofNumber_eq n
  | _ => rfl

theorem Schema.ofJson_leaf_eq_ok_iff {room : Nat} {t : Token} {s : Schema} :
    Schema.ofJson room (.leaf t) = .ok s ↔ ∃ f, Decode.found t = .ok f ∧ .value f.toValue = s := by
  rw [Schema.ofJson, map_eq_ok_iff]
  simp only [Schema.ofFound_eq]

theorem Schema.itemsOfJson_eq_ok_iff (room : Nat) : ∀ (items : List Tree) (i : Nat) (ss : List Schema),
    Schema.itemsOfJson room i items = .ok ss ↔ List.Forall₂ (fun t s => Schema.ofJson room t = .ok s) items ss
  | [], i, ss => by cases ss <;> simp [Schema.itemsOfJson]
  | t :: rest, i, ss => by
    rw [Schema.itemsOfJson]
    cases ht : Schema.ofJson room t with
    | error f => cases ss <;> simp [under, ht]
    | ok s =>
      rw [Decode.under_ok, map_eq_ok_iff]
      cases ss with
      | nil => simp
      | cons x xs => simp [ht, Schema.itemsOfJson_eq_ok_iff room rest (i + 1), and_comm]

theorem Schema.ofJson_list_eq_ok_iff {room : Nat} {opening : Token} {items : List Tree} {ending : Ending}
    {s : Schema} :
    Schema.ofJson room (.list opening items ending) = .ok s ↔ ∃ r ss bracket, room = r + 1 ∧
      ending = .closed bracket ∧ List.Forall₂ (fun t s => Schema.ofJson r t = .ok s) items ss ∧ s = .seq ss := by
  cases room with
  | zero => simp [Schema.ofJson, Decode.fail]
  | succ r =>
    rw [Schema.ofJson]
    cases h : Schema.itemsOfJson r 0 items with
    | error f => simp [← Schema.itemsOfJson_eq_ok_iff r items 0, h]
    | ok ss =>
      simp only [closeList_eq_ok_iff]
      constructor
      · rintro ⟨⟨bracket, rfl⟩, rfl⟩
        exact ⟨r, ss, bracket, rfl, rfl, (Schema.itemsOfJson_eq_ok_iff r items 0 ss).1 h, rfl⟩
      · rintro ⟨_, xs, bracket, ⟨⟩, rfl, hxs, rfl⟩
        rw [← Schema.itemsOfJson_eq_ok_iff r items 0, h, Except.ok.injEq] at hxs
        exact ⟨⟨bracket, rfl⟩, congrArg Schema.seq hxs⟩

/-- A member of an object at the place of a schema, as the entry of a map. -/
def Schema.IsEntry (room : Nat) (m : Name × Tree) (e : String × Schema) : Prop :=
  ∃ raw, m.1.text = .ok raw ∧ Decode.memberName raw = .entry e.1 ∧ Schema.ofJson room m.2 = .ok e.2

/-- What the value of a member with the name of a directive decodes to. -/
def Schema.ofPayload (room : Nat) (m : Name × Tree) (raw : String) : Directive → Decode.Result Schema
  | .type => under (.key raw) ((Decode.kindOfJson room m.2).map .kind)
  | .pattern => (Decode.patternOfJson raw m.1.valueSettled m.2).map .pattern
  | .range => under (.key raw) ((Decode.rangeOfJson room m.2).map .range)
  | .optional => under (.key raw) ((Schema.ofJson room m.2).map .optional)
  | .literal => under (.key raw) ((Value.ofJson room m.2).map .value)

/-- A member of an object at the place of a schema, as a directive. -/
def Schema.IsDirective (room : Nat) (m : Name × Tree) (s : Schema) : Prop :=
  ∃ raw d, m.1.text = .ok raw ∧ Decode.memberName raw = .directive d.name ∧ Schema.ofPayload room m raw d = .ok s

theorem Schema.ofMembers_entry {room : Nat} {done : Entries Schema} {ending : Ending} {m : Name × Tree}
    {rest : List (Name × Tree)} {raw key : String} (hn : m.1.text = .ok raw)
    (hk : Decode.memberName raw = .entry key) :
    Schema.ofMembers room done ending (m :: rest) = (under (.key raw) (Schema.ofJson room m.2)).bind fun s =>
      Schema.ofMembers room (Entries.insert (.str key) s done) ending rest := by
  obtain ⟨name, t⟩ := m
  rw [Schema.ofMembers, hn]
  simp only [hk]
  cases under (.key raw) (Schema.ofJson room t) <;> rfl

theorem Schema.ofMembers_directive {room : Nat} {done : Entries Schema} {ending : Ending} {m : Name × Tree}
    {rest : List (Name × Tree)} {raw directive : String} (hn : m.1.text = .ok raw)
    (hk : Decode.memberName raw = .directive directive) :
    Schema.ofMembers room done ending (m :: rest) =
      (Decode.directiveFault done.isEmpty m.1.settled directive).bind fun d =>
        (Schema.ofPayload room m raw d).bind fun s => (Decode.checkAlone directive rest ending).map fun _ => s := by
  obtain ⟨name, t⟩ := m
  rw [Schema.ofMembers, hn]
  simp only [hk]
  cases Decode.directiveFault done.isEmpty name.settled directive with
  | error f => rfl
  | ok d =>
    cases hp : Schema.ofPayload room (name, t) raw d with
    | error f => cases d <;> simp_all [Schema.ofPayload, Except.bind]
    | ok s =>
      cases ha : Decode.checkAlone directive rest ending <;> cases d <;>
        simp_all [Schema.ofPayload, Except.bind, Except.map]

theorem Schema.ofMembers_cons_eq_ok_iff (room : Nat) (done : Entries Schema) (ending : Ending) (m : Name × Tree)
    (rest : List (Name × Tree)) (s : Schema) :
    Schema.ofMembers room done ending (m :: rest) = .ok s ↔
      (∃ e, Schema.IsEntry room m e ∧
        Schema.ofMembers room (Entries.insert (.str e.1) e.2 done) ending rest = .ok s) ∨
      (done = [] ∧ rest = [] ∧ (∃ bracket, ending = .closed bracket) ∧ Schema.IsDirective room m s) := by
  cases hn : m.1.text with
  | error p =>
    have hfail : Schema.ofMembers room done ending (m :: rest) = Decode.failUnnamed p := by
      obtain ⟨name, t⟩ := m
      rw [Schema.ofMembers, hn]
    rw [hfail]
    simp [IsEntry, IsDirective, Decode.failUnnamed, Decode.failAt, Decode.fail, under, hn]
  | ok raw =>
    cases hk : Decode.memberName raw with
    | entry key =>
      rw [Schema.ofMembers_entry hn hk, bind_eq_ok_iff]
      simp [IsEntry, IsDirective, under_eq_ok_iff, hn, hk]
    | directive directive =>
      rw [Schema.ofMembers_directive hn hk]
      simp only [bind_eq_ok_iff, map_eq_ok_iff, Decode.directiveFault_eq_ok_iff, Decode.checkAlone_eq_ok_iff,
        List.isEmpty_iff]
      constructor
      · rintro ⟨d, ⟨hdone, rfl⟩, x, hx, _, ⟨hrest, hclosed⟩, rfl⟩
        exact .inr ⟨hdone, hrest, hclosed, raw, d, hn, hk, hx⟩
      · rintro (⟨e, ⟨raw', hn', hk', -⟩, -⟩ | ⟨hdone, hrest, hclosed, raw', d, hn', hk', hx⟩)
        · rw [hn, Except.ok.injEq] at hn'
          rw [← hn', hk] at hk'
          cases hk'
        · rw [hn, Except.ok.injEq] at hn'
          rw [← hn', hk, Decode.MemberName.directive.injEq] at hk'
          exact ⟨d, ⟨hdone, hk'⟩, s, hn' ▸ hx, (), ⟨hrest, hclosed⟩, rfl⟩

/-- Members are entries, all of them, or one alone is a directive. -/
theorem Schema.ofMembers_eq_ok_iff (room : Nat) (ending : Ending) (s : Schema) (members : List (Name × Tree)) :
    ∀ done : Entries Schema, Schema.ofMembers room done ending members = .ok s ↔
      (∃ bracket, ending = .closed bracket) ∧
        ((∃ es, List.Forall₂ (Schema.IsEntry room) members es ∧
          s = .map ((Entries.named es).foldl (fun es e => Entries.insert e.1 e.2 es) done)) ∨
        (done = [] ∧ ∃ m, members = [m] ∧ Schema.IsDirective room m s)) := by
  induction members with
  | nil =>
    intro done
    rw [Schema.ofMembers, closeObject_eq_ok_iff]
    refine and_congr_right fun _ => ⟨fun h => .inl ⟨[], .nil, h.symm⟩, ?_⟩
    rintro (⟨_, ⟨⟩, h⟩ | ⟨-, m, ⟨⟩, -⟩)
    exact h.symm
  | cons m rest ih =>
    intro done
    rw [Schema.ofMembers_cons_eq_ok_iff]
    constructor
    · rintro (⟨e, he, h⟩ | ⟨hdone, rfl, hclosed, h⟩)
      · -- a directive does not come after an entry
        obtain ⟨hclosed, ⟨es, hes, rfl⟩ | ⟨hdone, -⟩⟩ := (ih _).1 h
        · exact ⟨hclosed, .inl ⟨e :: es, .cons he hes, rfl⟩⟩
        · exact absurd hdone (Entries.insert_ne_nil _ _ done)
      · exact ⟨hclosed, .inr ⟨hdone, m, rfl, h⟩⟩
    · rintro ⟨hclosed, ⟨_, hes, rfl⟩ | ⟨hdone, _, ⟨⟩, h⟩⟩
      · obtain ⟨e, es, he, hrest, rfl⟩ := List.forall₂_cons_left_iff.1 hes
        exact .inl ⟨e, he, (ih _).2 ⟨hclosed, .inl ⟨es, hrest, rfl⟩⟩⟩
      · exact .inr ⟨hdone, rfl, hclosed, h⟩

theorem Schema.ofJson_object_eq_ok_iff {room : Nat} {opening : Token} {members : List (Name × Tree)}
    {ending : Ending} {s : Schema} :
    Schema.ofJson room (.object opening members ending) = .ok s ↔ ∃ r bracket, room = r + 1 ∧
      ending = .closed bracket ∧
        ((∃ es, List.Forall₂ (Schema.IsEntry r) members es ∧ s = .map (Entries.ofPairs (Entries.named es))) ∨
        ∃ m, members = [m] ∧ Schema.IsDirective r m s) := by
  cases room with
  | zero => simp [Schema.ofJson, Decode.fail]
  | succ r =>
    rw [Schema.ofJson, Schema.ofMembers_eq_ok_iff]
    constructor
    · rintro ⟨⟨bracket, rfl⟩, h | ⟨-, h⟩⟩
      · exact ⟨r, bracket, rfl, rfl, .inl h⟩
      · exact ⟨r, bracket, rfl, rfl, .inr h⟩
    · rintro ⟨_, bracket, ⟨⟩, rfl, h | h⟩
      · exact ⟨⟨bracket, rfl⟩, .inl h⟩
      · exact ⟨⟨bracket, rfl⟩, .inr ⟨rfl, h⟩⟩

/-! ## Texts -/

theorem decodeAs_eq_ok_iff {α : Type} {origin : String} {r : Decode.Result α} {a : α} :
    decodeAs origin r = .ok a ↔ r = .ok a := by
  cases r <;> simp [decodeAs]

end SchemaCheck
