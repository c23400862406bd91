import SchemaCheck.Proofs.Decoding
import SchemaCheck.Proofs.Entries
/-!
# Payloads — the words, numbers and bounds of directives

The value that a tree decodes to tells what other decoders make of the tree: one for the word of a kind gives the kind
(`Decode.kindOfJson_word`), one for a source its pattern (`Decode.patternOfJson_source`), a number the bound that it is
as a float (`Decode.boundOfJson_eq_ok`).  Bounds are read name by name; what is held of them after each name is what the
names so far have (`Decode.Bounds.Holds`), so in the end they are the interval that the fields write
(`Decode.rangeOfJson_eq_ok`).
-/
namespace SchemaCheck

open Json (Name Tree Ending Token NumberText)

/-! ## Names -/

namespace Json.Tree

/-- The names of members, where they can be read. -/
def names (members : List (Name × Tree)) : List (Option String) := members.map fun m => m.1.text.toOption

mutual

/-- No object gives a name twice; the value of a literal is not asked. -/
def namesOnce : Tree → Bool
  | .leaf _ => true
  | .list _ items _ => itemsNameOnce items
  | .object _ members _ => decide (names members).Nodup && membersNameOnce members

def itemsNameOnce : List Tree → Bool
  | [] => true
  | t :: rest => t.namesOnce && itemsNameOnce rest

def membersNameOnce : List (Name × Tree) → Bool
  | [] => true
  | (name, t) :: rest =>
    (decide (name.text.toOption = some Decode.Directive.literal.key) || t.namesOnce) && membersNameOnce rest

end

theorem itemsNameOnce_iff : ∀ items : List Tree, itemsNameOnce items = true ↔ ∀ t ∈ items, t.namesOnce = true
  | [] => by simp [itemsNameOnce]
  | t :: rest => by simp [itemsNameOnce, itemsNameOnce_iff rest]

theorem membersNameOnce_iff : ∀ members : List (Name × Tree), membersNameOnce members = true ↔
    ∀ m ∈ members, m.1.text.toOption = some Decode.Directive.literal.key ∨ m.2.namesOnce = true
  | [] => by simp [membersNameOnce]
  | m :: rest => by
    rw [List.forall_mem_cons, ← membersNameOnce_iff rest]
    simp [membersNameOnce]

theorem namesOnce_list {opening : Token} {items : List Tree} {ending : Ending} :
    (Tree.list opening items ending).namesOnce = true ↔ ∀ t ∈ items, t.namesOnce = true := by
  rw [namesOnce, itemsNameOnce_iff]

theorem namesOnce_object {opening : Token} {members : List (Name × Tree)} {ending : Ending} :
    (Tree.object opening members ending).namesOnce = true ↔ (names members).Nodup ∧
      ∀ m ∈ members, m.1.text.toOption = some Decode.Directive.literal.key ∨ m.2.namesOnce = true := by
  rw [namesOnce, Bool.and_eq_true, decide_eq_true_eq, membersNameOnce_iff]

end Json.Tree

/-- Members without a name twice have fields without a key twice. -/
theorem Value.nodup_keys_named {room : Nat} {members : List (Name × Tree)} {fs : List (String × Value)}
    (h : List.Forall₂ (Value.IsMember room) members fs) (hnames : (Json.Tree.names members).Nodup) :
    (Entries.keys (Entries.named fs)).Nodup := by
  have hfs : Json.Tree.names members = (fs.map Prod.fst).map some := by
    clear hnames
    induction h with
    | nil => rfl
    | cons hm _ ih => rw [Json.Tree.names, List.map_cons, List.map_cons, List.map_cons, hm.1, ← ih]; rfl
  rw [hfs] at hnames
  exact Entries.nodup_keys_named_iff.2 hnames.of_map

/-! ## Trees behind values -/

/-- A value that a JSON text writes as a word, a number or a string. -/
def Value.isScalar : Value → Bool
  | .seq _ | .map _ | .sym _ => false
  | _ => true

/-- A whole number with a sign in front is a float as soon as it does not fit into 64 bits. -/
theorem Json.NumberText.minValue_le_of_value (t : NumberText) {n : Int} (h : t.value = .ok (.whole n)) :
    Int64.minValue.toInt ≤ n := by
  have hmin : Int64.minValue.toInt = -9223372036854775808 := by decide
  unfold NumberText.value at h
  split at h
  · split at h
    · cases h
      omega
    · split at h
      · cases h
      · cases h
        omega
  · obtain ⟨x, -, hx⟩ := map_eq_ok_iff.1 h
    cases hx

namespace Decode

/-- A token is a word, a number or a string, if it is a value at all. -/
theorem found_cases {t : Token} {f : Found} (h : found t = .ok f) :
    f = .null ∨ (∃ b, f = .bool b) ∨ (∃ text n, t.lexeme = .number text ∧ text.value = .ok n ∧ f = .number n) ∨
      ∃ content s, t.lexeme = .string content ∧ content.text = .ok s ∧ f = .string s := by
  unfold found at h
  split at h
  · exact .inl (Except.ok.inj h).symm
  · exact .inr (.inl ⟨_, (Except.ok.inj h).symm⟩)
  · rename_i text hlexeme
    cases hvalue : text.value with
    | ok n =>
      simp only [hvalue, Except.ok.injEq] at h
      exact .inr (.inr (.inl ⟨text, n, hlexeme, hvalue, h.symm⟩))
    | error read => simp [hvalue, fail] at h
  · rename_i content hlexeme
    cases htext : content.text with
    | ok s =>
      simp only [htext, Except.ok.injEq] at h
      exact .inr (.inr (.inr ⟨content, s, hlexeme, htext, h.symm⟩))
    | error p => simp [htext, failAt, fail] at h
  · cases h
  · cases h

theorem isScalar_of_found {t : Token} {f : Found} (h : found t = .ok f) : f.toValue.isScalar = true := by
  rcases found_cases h with rfl | ⟨b, rfl⟩ | ⟨text, n, -, -, rfl⟩ | ⟨content, s, -, -, rfl⟩
  · rfl
  · rfl
  · rw [Found.toValue]
    obtain ⟨i, hn⟩ | ⟨x, hn⟩ := n.toValue_cases <;> rw [hn] <;> rfl
  · rfl

theorem toValue_eq_str_iff {f : Found} {s : String} : f.toValue = .str s ↔ f = .string s := by
  cases f with
  | number n => obtain ⟨i, hn⟩ | ⟨x, hn⟩ := n.toValue_cases <;> simp [Found.toValue, hn]
  | _ => simp [Found.toValue]

theorem toValue_eq_bool_iff {f : Found} {b : Bool} : f.toValue = .bool b ↔ f = .bool b := by
  cases f with
  | number n => obtain ⟨i, hn⟩ | ⟨x, hn⟩ := n.toValue_cases <;> simp [Found.toValue, hn]
  | _ => simp [Found.toValue]

/-- A number in a text is rounded to a float as its value is. -/
theorem asDouble?_of_found {t : Token} {n : Json.Number} (h : found t = .ok (.number n)) :
    n.toValue.asDouble? = some n.toDouble := by
  obtain ⟨text, htext⟩ : ∃ text : NumberText, text.value = .ok n := by
    rcases found_cases h with h | ⟨b, h⟩ | ⟨text, n, -, htext, h⟩ | ⟨content, s, -, -, h⟩
    · cases h
    · cases h
    · cases h
      exact ⟨text, htext⟩
    · cases h
  cases n with
  | whole n =>
    have hlow := text.minValue_le_of_value htext
    have hmax : Int64.maxValue.toInt = 2 ^ 63 - 1 := by decide
    rw [Json.Number.toValue]
    by_cases hhigh : n ≤ Int64.maxValue.toInt
    · rw [if_pos hhigh, Value.asDouble?, Int64.toInt_ofInt_of_le hlow (by omega)]
      rfl
    · rw [if_neg hhigh]
      rfl
  | float x => rfl

theorem toDouble_of_found {t : Token} {f : Found} {d : Double} (h : found t = .ok f)
    (hd : f.toValue.asDouble? = some d) : ∃ n, f = .number n ∧ n.toDouble = d := by
  cases f with
  | number n =>
    rw [Found.toValue, asDouble?_of_found h, Option.some.injEq] at hd
    exact ⟨n, rfl, hd⟩
  | _ => cases hd

end Decode

theorem Value.isScalar_of_ofJson_leaf {room : Nat} {token : Token} {v : Value}
    (h : Value.ofJson room (.leaf token) = .ok v) : v.isScalar = true := by
  obtain ⟨f, hf, rfl⟩ := Value.ofJson_leaf_eq_ok_iff.1 h
  exact Decode.isScalar_of_found hf

theorem Value.exists_leaf_of_isScalar {room : Nat} {t : Tree} {v : Value} (h : Value.ofJson room t = .ok v)
    (hv : v.isScalar = true) : ∃ token f, t = .leaf token ∧ Decode.found token = .ok f ∧ f.toValue = v := by
  cases t with
  | leaf token =>
    obtain ⟨f, hf, hfv⟩ := Value.ofJson_leaf_eq_ok_iff.1 h
    exact ⟨token, f, rfl, hf, hfv⟩
  | list opening items ending =>
    obtain ⟨r, vs, bracket, -, -, -, rfl⟩ := Value.ofJson_list_eq_ok_iff.1 h
    cases hv
  | object opening members ending =>
    obtain ⟨r, fs, bracket, -, -, -, rfl⟩ := Value.ofJson_object_eq_ok_iff.1 h
    cases hv

theorem Value.exists_list_of_seq {room : Nat} {t : Tree} {vs : List Value} (h : Value.ofJson room t = .ok (.seq vs)) :
    ∃ r opening items bracket, room = r + 1 ∧ t = .list opening items (.closed bracket) ∧
      List.Forall₂ (fun t v => Value.ofJson r t = .ok v) items vs := by
  cases t with
  | leaf token =>
    have hscalar := Value.isScalar_of_ofJson_leaf h
    cases hscalar
  | list opening items ending =>
    obtain ⟨r, ws, bracket, rfl, rfl, hws, heq⟩ := Value.ofJson_list_eq_ok_iff.1 h
    cases heq
    exact ⟨r, opening, items, bracket, rfl, rfl, hws⟩
  | object opening members ending =>
    obtain ⟨r, fs, bracket, -, -, -, heq⟩ := Value.ofJson_object_eq_ok_iff.1 h
    cases heq

/-- A map comes from an object, whose members are its fields one by one, if none of them has the name of another. -/
theorem Value.exists_object_of_map {room : Nat} {t : Tree} {fields : Entries Value}
    (h : Value.ofJson room t = .ok (.map fields)) (ht : t.namesOnce = true) : ∃ r opening members bracket fs,
      room = r + 1 ∧ t = .object opening members (.closed bracket) ∧ List.Forall₂ (Value.IsMember r) members fs ∧
        fields = Entries.named fs ∧ (Entries.keys fields).Nodup := by
  cases t with
  | leaf token =>
    have hscalar := Value.isScalar_of_ofJson_leaf h
    cases hscalar
  | list opening items ending =>
    obtain ⟨r, ws, bracket, -, -, -, heq⟩ := Value.ofJson_list_eq_ok_iff.1 h
    cases heq
  | object opening members ending =>
    obtain ⟨r, fs, bracket, rfl, rfl, hfs, heq⟩ := Value.ofJson_object_eq_ok_iff.1 h
    have hnodup := Value.nodup_keys_named hfs (Json.Tree.namesOnce_object.1 ht).1
    rw [Entries.ofPairs_of_nodup hnodup] at heq
    cases heq
    exact ⟨r, opening, members, bracket, fs, rfl, rfl, hfs, rfl, hnodup⟩

theorem Value.ofJson_eq_ok_str_iff {room : Nat} {t : Tree} {s : String} :
    Value.ofJson room t = .ok (.str s) ↔
      ∃ token content, t = .leaf token ∧ token.lexeme = .string content ∧ content.text = .ok s := by
  constructor
  · intro h
    obtain ⟨token, f, rfl, hf, hfv⟩ := Value.exists_leaf_of_isScalar h rfl
    rw [Decode.toValue_eq_str_iff] at hfv
    rcases Decode.found_cases hf with rfl | ⟨b, rfl⟩ | ⟨text, n, -, -, rfl⟩ | ⟨content, s, hlexeme, htext, rfl⟩
    · cases hfv
    · cases hfv
    · cases hfv
    · cases hfv
      exact ⟨token, content, rfl, hlexeme, htext⟩
  · rintro ⟨token, content, rfl, hlexeme, htext⟩
    rw [Value.ofJson, Decode.found, hlexeme]
    simp only [htext]
    rfl

/-! ## Words and sources -/

theorem Kind.ofWord?_word (k : Kind) : Kind.ofWord? k.word = some k := by cases k <;> decide +kernel

theorem Pattern.ofSource_source (p : Pattern) : Pattern.ofSource p.source = .ok p := by
  have h := p.compiles
  unfold Pattern.ofSource
  split
  · exact congrArg Except.ok (Pattern.ext_source rfl)
  · simp_all

namespace Decode

theorem kindOfJson_word {room : Nat} {t : Tree} {k : Kind} (h : Value.ofJson room t = .ok (.str k.word)) :
    kindOfJson room t = .ok k := by
  obtain ⟨token, content, rfl, hlexeme, htext⟩ := Value.ofJson_eq_ok_str_iff.1 h
  rw [kindOfJson, hlexeme]
  simp only [htext, kindOfJson.named, Kind.ofWord?_word]

theorem patternOfJson_source {room : Nat} {t : Tree} {p : Pattern} (h : Value.ofJson room t = .ok (.str p.source))
    (key : String) (settled : Json.Position) : patternOfJson key settled t = .ok p := by
  obtain ⟨token, content, rfl, hlexeme, htext⟩ := Value.ofJson_eq_ok_str_iff.1 h
  obtain ⟨lexeme, start, peek, stop⟩ := token
  subst hlexeme
  simp only [patternOfJson, htext, under_ok, Pattern.ofSource_source]

/-! ## Bounds -/

theorem boundOfJson_eq_ok {room : Nat} {t : Tree} {v : Value} {d : Double} (h : Value.ofJson room t = .ok v)
    (hd : v.asDouble? = some d) : boundOfJson t = .ok (some d) := by
  have hv : v.isScalar = true := by
    cases v with
    | int i => rfl
    | float x => rfl
    | _ => cases hd
  obtain ⟨token, f, rfl, hf, rfl⟩ := Value.exists_leaf_of_isScalar h hv
  obtain ⟨n, rfl, rfl⟩ := toDouble_of_found hf hd
  rw [boundOfJson, hf]

theorem boolOfJson_eq_ok {room : Nat} {t : Tree} {b : Bool} (h : Value.ofJson room t = .ok (.bool b)) :
    boolOfJson t = .ok b := by
  obtain ⟨token, f, rfl, hf, hfv⟩ := Value.exists_leaf_of_isScalar h rfl
  rw [toValue_eq_bool_iff] at hfv
  rw [boolOfJson, hf, hfv]

/-- A field that bounds may have. -/
inductive Bounds.IsField : String × Value → Prop
  | min {v : Value} {d : Double} (h : v.asDouble? = some d) : IsField ("min", v)
  | max {v : Value} {d : Double} (h : v.asDouble? = some d) : IsField ("max", v)
  | exclusive (b : Bool) : IsField ("exclusive", .bool b)

/-- The bounds read so far are those of the fields so far. -/
structure Bounds.Holds (b : Bounds) (fields : Entries Value) : Prop where
  min : b.min = (Entries.get? (.str "min") fields).map Value.asDouble?
  max : b.max = (Entries.get? (.str "max") fields).map Value.asDouble?
  exclusive : b.exclusive.map Value.bool = Entries.get? (.str "exclusive") fields

namespace Bounds

theorem holds_none : Bounds.none.Holds [] := ⟨rfl, rfl, rfl⟩

variable {room : Nat} {b : Bounds} {fields : Entries Value} {f : String × Value}

/-- A field with a new name is no repeated one. -/
theorem checkName_eq_ok (hb : b.Holds fields) (hf : IsField f) (hnew : .str f.1 ∉ Entries.keys fields) (n : Name) :
    b.checkName n f.1 = .ok () := by
  rw [← Entries.get?_eq_none_iff] at hnew
  have hhas : b.has f.1 = false := by
    cases hf with
    | min _ => simp [has, hb.min, hnew]
    | max _ => simp [has, hb.max, hnew]
    | exclusive _ =>
      have hnone := hb.exclusive.trans hnew
      rw [Option.map_eq_none_iff] at hnone
      simp [has, hnone]
  have hname : f.1 ∈ boundNames := by cases hf <;> simp [boundNames]
  simp [checkName, hhas, hname]

/-- One more field, one more bound. -/
theorem put_eq_ok (hb : b.Holds fields) (hf : IsField f) {t : Tree} (ht : Value.ofJson room t = .ok f.2) :
    ∃ c, b.put f.1 t = .ok c ∧ c.Holds (Entries.insert (.str f.1) f.2 fields) := by
  cases hf with
  | min hd =>
    refine ⟨{ b with min := some (some _) }, congrArg (Except.map _) (boundOfJson_eq_ok ht hd), ?_, ?_, ?_⟩
    · simp [Entries.get?_insert, hd]
    · simpa [Entries.get?_insert] using hb.max
    · simpa [Entries.get?_insert] using hb.exclusive
  | max hd =>
    refine ⟨{ b with max := some (some _) }, congrArg (Except.map _) (boundOfJson_eq_ok ht hd), ?_, ?_, ?_⟩
    · simpa [Entries.get?_insert] using hb.min
    · simp [Entries.get?_insert, hd]
    · simpa [Entries.get?_insert] using hb.exclusive
  | exclusive x =>
    refine ⟨{ b with exclusive := some x }, congrArg (Except.map _) (boolOfJson_eq_ok ht), ?_, ?_, ?_⟩
    · simpa [Entries.get?_insert] using hb.min
    · simpa [Entries.get?_insert] using hb.max
    · simp [Entries.get?_insert]

/-- Reading members that repeat no name ends with the bounds of all their fields. -/
theorem ofMembers_eq_ok {members : List (Name × Tree)} {fs : List (String × Value)} (bracket : Token)
    (hmembers : List.Forall₂ (Value.IsMember room) members fs) (hfs : ∀ f ∈ fs, IsField f) :
    ∀ {b : Bounds} {fields : Entries Value}, b.Holds fields →
      (Entries.keys fields ++ Entries.keys (Entries.named fs)).Nodup → ∃ c,
        b.ofMembers (.closed bracket) members = .ok c ∧
          c.Holds ((Entries.named fs).foldl (fun es e => Entries.insert e.1 e.2 es) fields) := by
  induction hmembers with
  | nil => exact fun hb _ => ⟨_, rfl, hb⟩
  | @cons m f members fs hm _ ih =>
    intro b fields hb hnodup
    obtain ⟨hf, hrest⟩ := List.forall_mem_cons.1 hfs
    have hnew : .str f.1 ∉ Entries.keys fields := fun hmem =>
      (List.nodup_append.1 hnodup).2.2 _ hmem _ List.mem_cons_self rfl
    obtain ⟨c, hput, hc⟩ := put_eq_ok hb hf hm.2
    -- the name moves from those to come to those so far
    have hkeys : Entries.keys (Entries.insert (.str f.1) f.2 fields) = Entries.keys fields ++ [.str f.1] := by
      rw [Entries.keys_insert, if_neg hnew]
    obtain ⟨d, hd, hholds⟩ := ih hrest hc (by rw [hkeys, List.append_assoc]; exact hnodup)
    refine ⟨d, ?_, hholds⟩
    obtain ⟨name, t⟩ := m
    obtain ⟨hname, -⟩ : name.text = .ok f.1 ∧ _ := hm
    have hput' : b.put f.1 t = .ok c := hput
    simp only [ofMembers, hname, checkName_eq_ok hb hf hnew, hput', under_ok, hd]

end Bounds
end Decode

/-! ## Intervals -/

/-- The fields that an interval is written with: its bounds as any numbers that are these floats, none where there is no
bound, and whether its end is left out. -/
structure Interval.IsWritten (r : Interval) (fields : Entries Value) : Prop where
  names : ∀ f ∈ fields, ∃ name ∈ Decode.boundNames, f.1 = .str name
  start : (Entries.get? (.str "min") fields).map Value.asDouble? = r.start.map some
  stop : (Entries.get? (.str "max") fields).map Value.asDouble? = r.stop.map some
  exclusive : Entries.get? (.str "exclusive") fields = some (.bool !r.inclusive)

namespace Interval.IsWritten

variable {r : Interval} {fields : Entries Value}

theorem isField (h : r.IsWritten fields) (hd : (Entries.keys fields).Nodup) {f : String × Value}
    (hf : (.str f.1, f.2) ∈ fields) : Decode.Bounds.IsField f := by
  obtain ⟨name, v⟩ := f
  have hget := Entries.get?_of_mem hd hf
  have hbound : ∀ x : Option Double, (some v).map Value.asDouble? = x.map some → ∃ d, v.asDouble? = some d := by
    intro x hx
    cases x with
    | none => cases hx
    | some d => exact ⟨d, Option.some.inj hx⟩
  obtain ⟨name', hname', heq⟩ := h.names _ hf
  cases heq
  simp only [Decode.boundNames, List.mem_cons, List.not_mem_nil, or_false] at hname'
  rcases hname' with rfl | rfl | rfl
  · obtain ⟨d, hv⟩ := hbound r.start (hget ▸ h.start)
    exact .min hv
  · obtain ⟨d, hv⟩ := hbound r.stop (hget ▸ h.stop)
    exact .max hv
  · obtain rfl : v = .bool !r.inclusive := Option.some.inj (hget.symm.trans h.exclusive)
    exact .exclusive _

/-- Bounds that hold the fields are the interval. -/
theorem interval_eq (h : r.IsWritten fields) {b : Decode.Bounds} (hb : b.Holds fields) : b.interval = r := by
  have hmin : b.min = r.start.map some := hb.min.trans h.start
  have hmax : b.max = r.stop.map some := hb.max.trans h.stop
  have hexclusive : b.exclusive = some !r.inclusive := by
    obtain ⟨x, hx, hxv⟩ := Option.map_eq_some_iff.1 (hb.exclusive.trans h.exclusive)
    cases hxv
    exact hx
  obtain ⟨start, stop, inclusive⟩ := r
  rw [Decode.Bounds.interval, hmin, hmax, hexclusive]
  cases start <;> cases stop <;> simp

end Interval.IsWritten

/-- An object that repeats no name decodes to the interval that its fields write. -/
theorem Decode.rangeOfJson_eq_ok {room : Nat} {t : Tree} {fields : Entries Value} {r : Interval}
    (h : Value.ofJson room t = .ok (.map fields)) (hr : r.IsWritten fields) (ht : t.namesOnce = true) :
    rangeOfJson room t = .ok r := by
  obtain ⟨room, opening, members, bracket, fs, rfl, rfl, hmembers, rfl, hnodup⟩ := Value.exists_object_of_map h ht
  have hfs : ∀ f ∈ fs, Bounds.IsField f := fun f hf => hr.isField hnodup (List.mem_map_of_mem hf)
  obtain ⟨c, hc, hholds⟩ := Bounds.ofMembers_eq_ok bracket hmembers hfs Bounds.holds_none hnodup
  have hfields : Entries.ofPairs (Entries.named fs) = Entries.named fs := Entries.ofPairs_of_nodup hnodup
  rw [Entries.ofPairs] at hfields
  rw [hfields] at hholds
  rw [rangeOfJson, if_neg (Nat.succ_ne_zero room), hc]
  exact congrArg Except.ok (hr.interval_eq hholds)

end SchemaCheck
