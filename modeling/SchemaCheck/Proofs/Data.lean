import SchemaCheck.Proofs.Decoding
/-!
# Data — what a tree says

What a tree says is the tree without its positions (`Json.Tree.data`).  Trees that say the same decode to the same value,
as long as they are not too deep (`Value.ofJson_of_data_eq`).
-/
namespace SchemaCheck

open Json (Name Tree Ending Token NumberText Content)

namespace Json

/-! ## Data -/

/-- What a tree says. -/
inductive Data where
  /-- Something that cannot be read. -/
  | flawed
  | scalar (f : Decode.Found)
  | list (items : List Data)
  /-- Members with their names; one that cannot be read is absent. -/
  | object (members : List (Option String × Data))

/-- No list in it has more than so many items. -/
inductive Data.Within (n : Nat) : Data → Prop where
  | flawed : Within n .flawed
  | scalar (f : Decode.Found) : Within n (.scalar f)
  | list {items : List Data} : items.length ≤ n → (∀ d ∈ items, Within n d) → Within n (.list items)
  | object {members : List (Option String × Data)} : (∀ m ∈ members, Within n m.2) → Within n (.object members)

def Token.data (t : Token) : Data :=
  match Decode.found t with
  | .ok f => .scalar f
  | .error _ => .flawed

mutual

/-- What a tree says; a list or an object says nothing before it is closed. -/
def Tree.data : Tree → Data
  | .leaf t => t.data
  | .list _ items (.closed _) => .list (Tree.itemsData items)
  | .object _ members (.closed _) => .object (Tree.membersData members)
  | .list _ _ _ => .flawed
  | .object _ _ _ => .flawed

def Tree.itemsData : List Tree → List Data
  | [] => []
  | t :: rest => t.data :: Tree.itemsData rest

def Tree.membersData : List (Name × Tree) → List (Option String × Data)
  | [] => []
  | (name, t) :: rest => (name.text.toOption, t.data) :: Tree.membersData rest

end

/-- What a member says. -/
def memberData (m : Name × Tree) : Option String × Data := (m.1.text.toOption, m.2.data)

theorem Tree.itemsData_eq_map (items : List Tree) : Tree.itemsData items = items.map Tree.data := by
  induction items with
  | nil => rfl
  | cons t rest ih => rw [itemsData, ih, List.map_cons]

theorem Tree.membersData_eq_map (members : List (Name × Tree)) :
    Tree.membersData members = members.map memberData := by
  induction members with
  | nil => rfl
  | cons m rest ih =>
    obtain ⟨name, t⟩ := m
    rw [membersData, ih, List.map_cons]
    rfl

section Data

variable {opening bracket : Token} {items : List Tree} {members : List (Name × Tree)}

theorem Tree.data_list : (Tree.list opening items (.closed bracket)).data = .list (items.map Tree.data) := by
  rw [data, itemsData_eq_map]

theorem Tree.data_object : (Tree.object opening members (.closed bracket)).data = .object (members.map memberData) := by
  rw [data, membersData_eq_map]

end Data

theorem Token.within_data (t : Token) (n : Nat) : t.data.Within n := by
  rw [Token.data]
  cases Decode.found t with
  | ok f => exact .scalar f
  | error _ => exact .flawed

theorem Token.data_eq_scalar_iff {t : Token} {f : Decode.Found} : t.data = .scalar f ↔ Decode.found t = .ok f := by
  rw [Token.data]
  cases Decode.found t <;> simp

theorem Token.data_number {t : Token} {n : NumberText} (h : t.lexeme = .number n) :
    t.data = (n.value.toOption.map fun v => Data.scalar (.number v)).getD .flawed := by
  rw [Token.data, Decode.found, h]
  cases hvalue : n.value <;> simp [hvalue, Decode.fail, Except.toOption]

theorem Token.data_string {t : Token} {content : Content} (h : t.lexeme = .string content) :
    t.data = (content.text.toOption.map fun s => Data.scalar (.string s)).getD .flawed := by
  rw [Token.data, Decode.found, h]
  cases htext : content.text <;> simp [htext, Decode.failAt, Decode.fail, Except.toOption]

section Inversion

variable {t : Tree}

theorem Tree.exists_leaf_of_data {f : Decode.Found} (h : t.data = .scalar f) :
    ∃ u, t = .leaf u ∧ Decode.found u = .ok f := by
  cases t with
  | leaf u => exact ⟨u, rfl, Token.data_eq_scalar_iff.1 h⟩
  | list opening items ending => cases ending <;> cases h
  | object opening members ending => cases ending <;> cases h

theorem Tree.exists_list_of_data {ds : List Data} (h : t.data = .list ds) :
    ∃ opening items bracket, t = .list opening items (.closed bracket) ∧ items.map Tree.data = ds := by
  cases t with
  | leaf u =>
    rw [data, Token.data] at h
    split at h <;> cases h
  | list opening items ending =>
    cases ending with
    | closed bracket => exact ⟨opening, items, bracket, rfl, Data.list.inj (data_list.symm.trans h)⟩
    | _ => cases h
  | object opening members ending => cases ending <;> cases h

theorem Tree.exists_object_of_data {ds : List (Option String × Data)} (h : t.data = .object ds) :
    ∃ opening members bracket, t = .object opening members (.closed bracket) ∧ members.map memberData = ds := by
  cases t with
  | leaf u =>
    rw [data, Token.data] at h
    split at h <;> cases h
  | list opening items ending => cases ending <;> cases h
  | object opening members ending =>
    cases ending with
    | closed bracket => exact ⟨opening, members, bracket, rfl, Data.object.inj (data_object.symm.trans h)⟩
    | _ => cases h

end Inversion

/-! ## Depth -/

mutual

/-- How many lists and objects stand inside each other. -/
def Tree.depth : Tree → Nat
  | .leaf _ => 0
  | .list _ items _ => Tree.itemsDepth items + 1
  | .object _ members _ => Tree.membersDepth members + 1

def Tree.itemsDepth : List Tree → Nat
  | [] => 0
  | t :: rest => max t.depth (Tree.itemsDepth rest)

def Tree.membersDepth : List (Name × Tree) → Nat
  | [] => 0
  | (_, t) :: rest => max t.depth (Tree.membersDepth rest)

end

theorem Tree.itemsDepth_le_iff {r : Nat} : ∀ items : List Tree, Tree.itemsDepth items ≤ r ↔ ∀ t ∈ items, t.depth ≤ r
  | [] => by simp [itemsDepth]
  | t :: rest => by rw [itemsDepth, Nat.max_le, itemsDepth_le_iff rest, List.forall_mem_cons]

theorem Tree.membersDepth_le_iff {r : Nat} : ∀ members : List (Name × Tree),
    Tree.membersDepth members ≤ r ↔ ∀ m ∈ members, m.2.depth ≤ r
  | [] => by simp [membersDepth]
  | m :: rest => by
    obtain ⟨name, t⟩ := m
    rw [membersDepth, Nat.max_le, membersDepth_le_iff rest, List.forall_mem_cons]

section Depth

variable {room : Nat} {opening : Token} {items : List Tree} {members : List (Name × Tree)} {ending : Ending}

theorem Tree.depth_list_le_iff : (Tree.list opening items ending).depth ≤ room ↔
    ∃ r, room = r + 1 ∧ ∀ t ∈ items, t.depth ≤ r := by
  rw [depth]
  constructor
  · intro h
    obtain ⟨r, rfl⟩ : ∃ r, room = r + 1 := ⟨room - 1, by omega⟩
    exact ⟨r, rfl, (itemsDepth_le_iff items).1 (Nat.le_of_succ_le_succ h)⟩
  · rintro ⟨r, rfl, h⟩
    exact Nat.succ_le_succ ((itemsDepth_le_iff items).2 h)

theorem Tree.depth_object_le_iff : (Tree.object opening members ending).depth ≤ room ↔
    ∃ r, room = r + 1 ∧ ∀ m ∈ members, m.2.depth ≤ r := by
  rw [depth]
  constructor
  · intro h
    obtain ⟨r, rfl⟩ : ∃ r, room = r + 1 := ⟨room - 1, by omega⟩
    exact ⟨r, rfl, (membersDepth_le_iff members).1 (Nat.le_of_succ_le_succ h)⟩
  · rintro ⟨r, rfl, h⟩
    exact Nat.succ_le_succ ((membersDepth_le_iff members).2 h)

end Depth
end Json

/-! ## Values -/

/-- **Trees that say the same decode to the same value**, unless one of them is too deep. -/
theorem Value.ofJson_of_data_eq (t : Tree) : ∀ {u : Tree} {room room' : Nat} {v : Value},
    Value.ofJson room t = .ok v → u.data = t.data → u.depth ≤ room' → Value.ofJson room' u = .ok v := by
  induction t using Tree.descent with
  | leaf token =>
    intro u room room' v h hdata hdepth
    obtain ⟨f, hf, rfl⟩ := Value.ofJson_leaf_eq_ok_iff.1 h
    obtain ⟨token', rfl, hf'⟩ := Tree.exists_leaf_of_data (hdata.trans (Json.Token.data_eq_scalar_iff.2 hf))
    exact Value.ofJson_leaf_eq_ok_iff.2 ⟨f, hf', rfl⟩
  | list opening items ending ih =>
    intro u room room' v h hdata hdepth
    obtain ⟨r, vs, bracket, rfl, rfl, hvs, rfl⟩ := Value.ofJson_list_eq_ok_iff.1 h
    obtain ⟨opening', items', bracket', rfl, hitems⟩ := Tree.exists_list_of_data (hdata.trans Tree.data_list)
    obtain ⟨r', rfl, hdepths⟩ := Tree.depth_list_le_iff.1 hdepth
    have hvs' : List.Forall₂ (fun t v => Value.ofJson r' t = .ok v) items' vs :=
      forall₂_trans_of_mem (forall₂_of_map_eq hitems) hvs fun t' ht' t ht v heq hv => ih t ht hv heq (hdepths t' ht')
    exact Value.ofJson_list_eq_ok_iff.2 ⟨r', vs, bracket', rfl, rfl, hvs', rfl⟩
  | object opening members ending ih =>
    intro u room room' v h hdata hdepth
    obtain ⟨r, fs, bracket, rfl, rfl, hfs, rfl⟩ := Value.ofJson_object_eq_ok_iff.1 h
    obtain ⟨opening', members', bracket', rfl, hmembers⟩ := Tree.exists_object_of_data (hdata.trans Tree.data_object)
    obtain ⟨r', rfl, hdepths⟩ := Tree.depth_object_le_iff.1 hdepth
    have hfs' : List.Forall₂ (Value.IsMember r') members' fs :=
      forall₂_trans_of_mem (forall₂_of_map_eq hmembers) hfs fun m' hm' m hm f heq hf => by
        obtain ⟨hname, hvalue⟩ := Prod.mk.inj heq
        exact ⟨toOption_eq_some_iff.1 (hname.trans (toOption_eq_some_iff.2 hf.1)),
          ih m hm hf.2 hvalue (hdepths m' hm')⟩
    exact Value.ofJson_object_eq_ok_iff.2 ⟨r', fs, bracket', rfl, rfl, hfs', rfl⟩

end SchemaCheck
