import SchemaCheck.Decode.Document
import SchemaCheck.Proofs.Lexemes
/-!
# ReadToEnd — what has been read to its end is a value

While a tree is built, its state and what is open say what is still to come (`Progress.Completes`): the rest of the
innermost list or object, and then that of everything around it.  One token takes its own characters off what is still
to come or makes the whole value fail (`takeToken_completes`), and a flaw or the end of the text always makes it fail
(`takeToken_fails`); so what has been read when a value has been read to its end is that value (`exists_completes`).
-/
namespace SchemaCheck.Json

/-! ## Runs -/

/-- The tree that the tokens are built into, and the tokens that are not taken. -/
def Progress.run : Progress → List Token → Tree × List Token
  | .done tree, ts => (tree, ts)
  | .more _ stack, [] => (endAt ⟨.valueMissing, Position.start⟩ default stack, [])
  | .more a stack, t :: ts => (takeToken a stack t).run ts

@[simp] theorem Progress.run_done (tree : Tree) (ts : List Token) : (Progress.done tree).run ts = (tree, ts) := by
  cases ts <;> rfl

theorem build_eq_run (ts : List Token) : ∀ (a : Awaited) (stack : List Open),
    build a stack ts = (Progress.run (.more a stack) ts).1 := by
  induction ts with
  | nil => exact fun a stack => rfl
  | cons t ts ih =>
    intro a stack
    rw [build, Progress.run]
    cases takeToken a stack t with
    | done tree => rw [Progress.run_done]
    | more a stack => exact ih a stack

/-! ## Trees -/

/-- The value of the tree has been read to its end. -/
def Tree.Ends : Tree → Prop
  | .leaf t => ∃ f, Decode.found t = .ok f
  | .list _ _ ending => ∃ bracket, ending = .closed bracket
  | .object _ _ ending => ∃ bracket, ending = .closed bracket

theorem not_ends_leaf {t : Token} (h : t.lexeme.IsFlawed ∨ t.lexeme = .finish ∨ ∃ c, t.lexeme = .mark c) :
    ¬ (Tree.leaf t).Ends := by
  rintro ⟨f, hf⟩
  obtain ⟨lexeme, start, peek, stop⟩ := t
  rcases h with h | h | ⟨c, h⟩
  · cases h with
    | flawed p => cases hf
    | stray => cases hf
    | string hskipping htext => simp [Decode.found, htext, Decode.failAt, Decode.fail] at hf
  · cases h
    cases hf
  · cases h
    cases hf

theorem not_ends_abandon {p : Problem} {t : Token} (stack : List Open) : ∀ {v : Tree}, ¬ v.Ends →
    ¬ (abandon p t v stack).Ends := by
  intro v h
  fun_induction abandon p t v stack with
  | case1 v => exact h
  | case2 v o items rest ih => exact ih (by simp [Tree.Ends])
  | case3 v n o members rest ih => exact ih (by simp [Tree.Ends])
  | case4 v o rest hlist hobject ih => exact ih h

theorem not_ends_endAt_list {p : Problem} {t o : Token} {items : List Tree} {rest : List Open} :
    ¬ (endAt p t (.list o items :: rest)).Ends := not_ends_abandon rest (by simp [Tree.Ends])

theorem not_ends_endAt_object {p : Problem} {t o : Token} {members : List (Name × Tree)} {rest : List Open} :
    ¬ (endAt p t (.object o members :: rest)).Ends := not_ends_abandon rest (by simp [Tree.Ends])

/-! ## What is still to come -/

/-- What a list or an object still needs, or what a value is. -/
def Awaited.Demands : Awaited → List Char → Prop
  | .value, w => Derives .value w
  | .firstItem, w => Derives .items w
  | .itemEnd, w => Derives .moreItems w
  | .nextItem, w => ∃ v u, w = v ++ u ∧ Derives .value v ∧ Derives .moreItems u
  | .firstName, w => Derives .members w
  | .memberEnd, w => Derives .moreMembers w
  | .nextName, w => ∃ m u, w = m ++ u ∧ Derives .member m ∧ Derives .moreMembers u
  | .colon _, w => ∃ b v u, w = b ++ ':' :: (v ++ u) ∧ AllBlank b ∧ Derives .value v ∧ Derives .moreMembers u

/-- What is around the list, the object or the value that is awaited. -/
def Awaited.outer : Awaited → List Open → List Open
  | .value, stack => stack
  | _, stack => stack.tail

/-- The list or object that a state belongs to is the innermost one. -/
def Awaited.Fits : Awaited → List Open → Prop
  | .value, _ => True
  | .firstItem, stack | .itemEnd, stack | .nextItem, stack => ∃ o items rest, stack = .list o items :: rest
  | .firstName, stack | .memberEnd, stack | .nextName, stack | .colon _, stack =>
    ∃ o members rest, stack = .object o members :: rest

/-- What follows a complete value up to the end of all that is open around it.  The last case is as in `place`; such a
stack does not come up. -/
def Closes : List Open → List Char → Prop
  | [], w => w = []
  | .list _ _ :: stack, w => ∃ u v, w = u ++ v ∧ Derives .moreItems u ∧ Closes stack v
  | .member _ :: .object _ _ :: stack, w => ∃ u v, w = u ++ v ∧ Derives .moreMembers u ∧ Closes stack v
  | _ :: stack, w => ∃ u v, w = u ++ v ∧ Derives .value u ∧ Closes stack v

def Progress.Fits : Progress → Prop
  | .done _ => True
  | .more a stack => a.Fits stack

/-- The characters that complete the value. -/
def Progress.Completes : Progress → List Char → Prop
  | .done _, w => w = []
  | .more a stack, w => ∃ u v, w = u ++ v ∧ a.Demands u ∧ Closes (a.outer stack) v

/-- The value has not been read to its end, and never will be. -/
def Progress.Fails : Progress → Prop
  | .done tree => ¬ tree.Ends
  | .more _ _ => False

theorem fits_place (v : Tree) (stack : List Open) : (place v stack).Fits := by
  unfold place
  split
  · trivial
  · exact ⟨_, _, _, rfl⟩
  · exact ⟨_, _, _, rfl⟩
  · trivial

theorem closes_of_place {v : Tree} {stack : List Open} {w : List Char} (h : (place v stack).Completes w) :
    Closes stack w := by
  unfold place at h
  split at h
  · exact h
  · exact h
  · exact h
  · rename_i o rest hlist hobject
    rw [Closes.eq_4]
    · exact h
    · exact hlist
    · exact hobject

/-! ## What a token can do -/

section Equations

variable {t o : Token} {a : Awaited} {items : List Tree} {members : List (Name × Tree)} {stack rest : List Open}

/-! What each lexeme that is asked for comes to.  These equations hold by evaluation. -/

theorem startValue_scalar (ht : t.skipFlaw? = none) : startValue t stack = place (.leaf t) stack := by
  obtain ⟨lexeme, start, peek, stop⟩ := t
  cases lexeme with
  | string content =>
    obtain ⟨text, skipping⟩ := content
    cases ht
    rfl
  | null => rfl
  | bool b => rfl
  | number n => rfl
  | _ => cases ht

theorem startValue_list (h : t.lexeme = .mark '[') : startValue t stack = .more .firstItem (.list t [] :: stack) := by
  obtain ⟨lexeme, start, peek, stop⟩ := t
  cases h
  rfl

theorem startValue_object (h : t.lexeme = .mark '\x7b') :
    startValue t stack = .more .firstName (.object t [] :: stack) := by
  obtain ⟨lexeme, start, peek, stop⟩ := t
  cases h
  rfl

theorem startName_string {content : Content} (h : t.lexeme = .string content) (hskipping : content.skipping = none) :
    startName a t stack = .more (.colon ⟨t, content.text, t.stop, t.stop⟩) stack := by
  obtain ⟨lexeme, start, peek, stop⟩ := t
  obtain ⟨text, skipping⟩ := content
  cases h
  cases hskipping
  rfl

theorem takeToken_listClose (ha : a = .firstItem ∨ a = .itemEnd) (h : t.lexeme = .mark ']') :
    takeToken a (.list o items :: rest) t = place (.list o items.reverse (.closed t)) rest := by
  obtain ⟨lexeme, start, peek, stop⟩ := t
  cases h
  rcases ha with rfl | rfl <;> rfl

theorem takeToken_listComma (h : t.lexeme = .mark ',') : takeToken .itemEnd stack t = .more .nextItem stack := by
  obtain ⟨lexeme, start, peek, stop⟩ := t
  cases h
  rfl

theorem takeToken_noMembersClose (h : t.lexeme = .mark '\x7d') :
    takeToken .firstName (.object o members :: rest) t = place (.object o members.reverse (.closed t)) rest := by
  obtain ⟨lexeme, start, peek, stop⟩ := t
  cases h
  rfl

theorem takeToken_objectClose (h : t.lexeme = .mark '\x7d') : takeToken .memberEnd (.object o members :: rest) t =
    place (.object o (settleMember t members).reverse (.closed t)) rest := by
  obtain ⟨lexeme, start, peek, stop⟩ := t
  cases h
  rfl

theorem takeToken_objectComma (h : t.lexeme = .mark ',') : takeToken .memberEnd (.object o members :: rest) t =
    .more .nextName (.object o (settleMember t members) :: rest) := by
  obtain ⟨lexeme, start, peek, stop⟩ := t
  cases h
  rfl

theorem takeToken_colonMark {n : Name} (h : t.lexeme = .mark ':') :
    takeToken (.colon n) stack t = .more .value (.member { n with settled := settledAt t } :: stack) := by
  obtain ⟨lexeme, start, peek, stop⟩ := t
  cases h
  rfl

end Equations

/-- The lexemes that a state asks for. -/
def Awaited.asked : Awaited → List Lexeme
  | .value => []
  | .firstItem | .nextItem => [.mark ']', .finish]
  | .itemEnd => [.mark ']', .mark ',']
  | .firstName | .nextName => [.mark '\x7d']
  | .memberEnd => [.mark '\x7d', .mark ',']
  | .colon _ => [.mark ':']

/-- What comes of any other lexeme. -/
def Awaited.otherwise (t : Token) : Awaited → List Open → Progress
  | .value, stack | .firstItem, stack | .nextItem, stack => startValue t stack
  | .firstName, stack => startName .firstName t stack
  | .nextName, stack => startName .nextName t stack
  | .memberEnd, .object o members :: rest =>
    .done (endAt (flawAt .memberEnd t) t (.object o (settleMember t members) :: rest))
  | .colon n, .object o members :: rest =>
    .done (abandon (flawAt (.colon n) t) t (.object o members.reverse (.noColon { n with settled := settledAt t }
      (flawAt (.colon n) t).flaw (flawAt (.colon n) t).position)) rest)
  | a, stack => .done (endAt (flawAt a t) t stack)

/-- A lexeme that is not asked for is taken as the state alone says. -/
theorem takeToken_otherwise {a : Awaited} {t : Token} {stack : List Open} (h : t.lexeme ∉ a.asked)
    (ha : a.Fits stack) : takeToken a stack t = a.otherwise t stack := by
  cases a with
  | value => rfl
  -- among the cases of `takeToken` those of the lexemes asked for contradict `h`, and what is left are the two sides
  | firstItem | itemEnd | nextItem =>
    obtain ⟨o, items, rest, rfl⟩ := ha
    unfold takeToken
    split <;> simp_all [Awaited.asked, Awaited.otherwise]
  | firstName | memberEnd | nextName | colon n =>
    obtain ⟨o, members, rest, rfl⟩ := ha
    unfold takeToken
    split <;> simp_all [Awaited.asked, Awaited.otherwise]

section Tokens

variable (t o : Token) (items : List Tree) (members : List (Name × Tree)) (rest : List Open)

theorem takeToken_listFinish {a : Awaited} (ha : a = .firstItem ∨ a = .nextItem) (h : t.lexeme = .finish) :
    (takeToken a (.list o items :: rest) t).Fails := by
  obtain ⟨lexeme, start, peek, stop⟩ := t
  cases h
  rcases ha with rfl | rfl <;> exact not_ends_endAt_list

theorem takeToken_firstItem :
    t.lexeme = .mark ']' ∧
        takeToken .firstItem (.list o items :: rest) t = place (.list o items.reverse (.closed t)) rest ∨
      takeToken .firstItem (.list o items :: rest) t = startValue t (.list o items :: rest) ∨
      (takeToken .firstItem (.list o items :: rest) t).Fails := by
  by_cases hclose : t.lexeme = .mark ']'
  · exact .inl ⟨hclose, takeToken_listClose (.inl rfl) hclose⟩
  by_cases hfinish : t.lexeme = .finish
  · exact .inr (.inr (takeToken_listFinish t o items rest (.inl rfl) hfinish))
  · have hother : t.lexeme ∉ Awaited.firstItem.asked := by simp [Awaited.asked, hclose, hfinish]
    exact .inr (.inl (takeToken_otherwise hother ⟨o, items, rest, rfl⟩))

theorem takeToken_itemEnd :
    t.lexeme = .mark ']' ∧
        takeToken .itemEnd (.list o items :: rest) t = place (.list o items.reverse (.closed t)) rest ∨
      t.lexeme = .mark ',' ∧ takeToken .itemEnd (.list o items :: rest) t = .more .nextItem (.list o items :: rest) ∨
      (takeToken .itemEnd (.list o items :: rest) t).Fails := by
  by_cases hclose : t.lexeme = .mark ']'
  · exact .inl ⟨hclose, takeToken_listClose (.inr rfl) hclose⟩
  by_cases hcomma : t.lexeme = .mark ','
  · exact .inr (.inl ⟨hcomma, takeToken_listComma hcomma⟩)
  · have hother : t.lexeme ∉ Awaited.itemEnd.asked := by simp [Awaited.asked, hclose, hcomma]
    rw [takeToken_otherwise hother ⟨o, items, rest, rfl⟩]
    exact .inr (.inr not_ends_endAt_list)

theorem takeToken_nextItem :
    takeToken .nextItem (.list o items :: rest) t = startValue t (.list o items :: rest) ∨
      (takeToken .nextItem (.list o items :: rest) t).Fails := by
  by_cases hclose : t.lexeme = .mark ']'
  · obtain ⟨lexeme, start, peek, stop⟩ := t
    cases hclose
    exact .inr not_ends_endAt_list
  by_cases hfinish : t.lexeme = .finish
  · exact .inr (takeToken_listFinish t o items rest (.inr rfl) hfinish)
  · have hother : t.lexeme ∉ Awaited.nextItem.asked := by simp [Awaited.asked, hclose, hfinish]
    exact .inl (takeToken_otherwise hother ⟨o, items, rest, rfl⟩)

theorem startName_object (a : Awaited) :
    (∃ content n, t.lexeme = .string content ∧ content.skipping = none ∧
        startName a t (.object o members :: rest) = .more (.colon n) (.object o members :: rest)) ∨
      (startName a t (.object o members :: rest)).Fails := by
  unfold startName
  split
  · rename_i content hlexeme
    split
    · rename_i hskipping
      exact .inl ⟨content, _, hlexeme, hskipping, rfl⟩
    · exact .inr (not_ends_abandon rest (by simp [Tree.Ends]))
  · exact .inr not_ends_endAt_object

theorem takeToken_firstName :
    t.lexeme = .mark '\x7d' ∧
        takeToken .firstName (.object o members :: rest) t = place (.object o members.reverse (.closed t)) rest ∨
      takeToken .firstName (.object o members :: rest) t = startName .firstName t (.object o members :: rest) := by
  by_cases hclose : t.lexeme = .mark '\x7d'
  · exact .inl ⟨hclose, takeToken_noMembersClose hclose⟩
  · have hother : t.lexeme ∉ Awaited.firstName.asked := by simp [Awaited.asked, hclose]
    exact .inr (takeToken_otherwise hother ⟨o, members, rest, rfl⟩)

theorem takeToken_memberEnd :
    t.lexeme = .mark '\x7d' ∧ takeToken .memberEnd (.object o members :: rest) t =
        place (.object o (settleMember t members).reverse (.closed t)) rest ∨
      t.lexeme = .mark ',' ∧ takeToken .memberEnd (.object o members :: rest) t =
        .more .nextName (.object o (settleMember t members) :: rest) ∨
      (takeToken .memberEnd (.object o members :: rest) t).Fails := by
  by_cases hclose : t.lexeme = .mark '\x7d'
  · exact .inl ⟨hclose, takeToken_objectClose hclose⟩
  by_cases hcomma : t.lexeme = .mark ','
  · exact .inr (.inl ⟨hcomma, takeToken_objectComma hcomma⟩)
  · have hother : t.lexeme ∉ Awaited.memberEnd.asked := by simp [Awaited.asked, hclose, hcomma]
    rw [takeToken_otherwise hother ⟨o, members, rest, rfl⟩]
    exact .inr (.inr not_ends_endAt_object)

theorem takeToken_nextName :
    takeToken .nextName (.object o members :: rest) t = startName .nextName t (.object o members :: rest) ∨
      (takeToken .nextName (.object o members :: rest) t).Fails := by
  by_cases hclose : t.lexeme = .mark '\x7d'
  · obtain ⟨lexeme, start, peek, stop⟩ := t
    cases hclose
    exact .inr not_ends_endAt_object
  · have hother : t.lexeme ∉ Awaited.nextName.asked := by simp [Awaited.asked, hclose]
    exact .inl (takeToken_otherwise hother ⟨o, members, rest, rfl⟩)

theorem takeToken_colon (n : Name) :
    t.lexeme = .mark ':' ∧ takeToken (.colon n) (.object o members :: rest) t =
        .more .value (.member { n with settled := settledAt t } :: .object o members :: rest) ∨
      (takeToken (.colon n) (.object o members :: rest) t).Fails := by
  by_cases hcolon : t.lexeme = .mark ':'
  · exact .inl ⟨hcolon, takeToken_colonMark hcolon⟩
  · have hother : t.lexeme ∉ (Awaited.colon n).asked := by simp [Awaited.asked, hcolon]
    rw [takeToken_otherwise hother ⟨o, members, rest, rfl⟩]
    exact .inr (not_ends_abandon rest (by simp [Tree.Ends]))

end Tokens

section Step

variable {t : Token} {stack : List Open} {b s : List Char} (hb : AllBlank b) (hs : t.lexeme.Spelled s)
include hb hs

/-- A token where a value may start leaves over what the value and everything around it still need, or ends all. -/
theorem startValue_completes : (startValue t stack).Fails ∨ (startValue t stack).Fits ∧
    ∀ w, (startValue t stack).Completes w → ∃ u v, b ++ (s ++ w) = u ++ v ∧ Derives .value u ∧ Closes stack v := by
  have hplace : IsScalar s → (place (.leaf t) stack).Fits ∧ ∀ w, (place (.leaf t) stack).Completes w →
      ∃ u v, b ++ (s ++ w) = u ++ v ∧ Derives .value u ∧ Closes stack v := fun hscalar =>
    ⟨fits_place _ _, fun w hw => ⟨b ++ s, w, (List.append_assoc _ _ _).symm, .scalar hb hscalar, closes_of_place hw⟩⟩
  obtain ⟨lexeme, start, peek, stop⟩ := t
  cases hs with
  | null => exact .inr (hplace .null)
  | true => exact .inr (hplace .true)
  | false => exact .inr (hplace .false)
  | number h => exact .inr (hplace (.number h))
  | @string content s hskipping h =>
    have ht : (⟨.string content, start, peek, stop⟩ : Token).skipFlaw? = none := hskipping
    rw [startValue_scalar ht]
    exact .inr (hplace (.string h))
  | @mark c hc =>
    have hfails : (Progress.done (abandon (flawAt .value ⟨.mark c, start, peek, stop⟩) ⟨.mark c, start, peek, stop⟩
        (.leaf ⟨.mark c, start, peek, stop⟩) stack)).Fails :=
      not_ends_abandon stack (not_ends_leaf (.inr (.inr ⟨c, rfl⟩)))
    simp only [List.mem_cons, List.not_mem_nil, or_false] at hc
    rcases hc with rfl | rfl | rfl | rfl | rfl | rfl
    · refine .inr ⟨⟨_, _, _, rfl⟩, fun w ⟨u, v, hw, hu, hv⟩ => ⟨b ++ '[' :: u, v, ?_, .list hb hu, hv⟩⟩
      simp [hw]
    · exact .inl hfails
    · refine .inr ⟨⟨_, _, _, rfl⟩, fun w ⟨u, v, hw, hu, hv⟩ => ⟨b ++ '\x7b' :: u, v, ?_, .object hb hu, hv⟩⟩
      simp [hw]
    · exact .inl hfails
    · exact .inl hfails
    · exact .inl hfails

theorem startName_completes {a : Awaited} {o : Token} {members : List (Name × Tree)} {rest : List Open} :
    (startName a t (.object o members :: rest)).Fails ∨ (startName a t (.object o members :: rest)).Fits ∧
      ∀ w, (startName a t (.object o members :: rest)).Completes w →
        ∃ m u v, b ++ (s ++ w) = m ++ (u ++ v) ∧ Derives .member m ∧ Derives .moreMembers u ∧ Closes rest v := by
  rcases startName_object t o members rest a with ⟨content, n, hlexeme, -, h⟩ | h
  · rw [h]
    refine .inr ⟨⟨_, _, _, rfl⟩, fun w hw => ?_⟩
    obtain ⟨_, v, rfl, ⟨c, x, u, rfl, hc, hx, hu⟩, hv⟩ := hw
    rw [hlexeme] at hs
    cases hs with
    | string hskipping hname => exact ⟨b ++ (s ++ (c ++ ':' :: x)), u, v, by simp, .member hb hname hc hx, hu, hv⟩
  · exact .inl h

/-- **A token takes its own characters off what still has to come**, or the value fails with it. -/
theorem takeToken_completes {a : Awaited} (ha : a.Fits stack) : (takeToken a stack t).Fails ∨
    (takeToken a stack t).Fits ∧
      ∀ w, (takeToken a stack t).Completes w → (Progress.more a stack).Completes (b ++ (s ++ w)) := by
  have hmark : ∀ {c}, t.lexeme = .mark c → s = [c] := by
    intro c hlexeme
    rw [hlexeme] at hs
    cases hs
    rfl
  cases a with
  | value => exact startValue_completes hb hs
  | firstItem =>
    obtain ⟨o, items, rest, rfl⟩ := ha
    rcases takeToken_firstItem t o items rest with ⟨hlexeme, h⟩ | h | h
    · rw [h, hmark hlexeme]
      exact .inr ⟨fits_place _ _, fun w hw => ⟨b ++ [']'], w, by simp, .noItems hb, closes_of_place hw⟩⟩
    · rw [h]
      refine (startValue_completes hb hs).imp id fun ⟨hfits, hcompletes⟩ => ⟨hfits, fun w hw => ?_⟩
      obtain ⟨v, _, heq, hv, u, x, rfl, hu, hx⟩ := hcompletes w hw
      exact ⟨v ++ u, x, by rw [heq, List.append_assoc], .items hv hu, hx⟩
    · exact .inl h
  | itemEnd =>
    obtain ⟨o, items, rest, rfl⟩ := ha
    rcases takeToken_itemEnd t o items rest with ⟨hlexeme, h⟩ | ⟨hlexeme, h⟩ | h
    · rw [h, hmark hlexeme]
      exact .inr ⟨fits_place _ _, fun w hw => ⟨b ++ [']'], w, by simp, .lastItem hb, closes_of_place hw⟩⟩
    · rw [h, hmark hlexeme]
      refine .inr ⟨⟨_, _, _, rfl⟩, fun w hw => ?_⟩
      obtain ⟨_, x, rfl, ⟨v, u, rfl, hv, hu⟩, hx⟩ := hw
      exact ⟨b ++ ',' :: (v ++ u), x, by simp, .nextItem hb hv hu, hx⟩
    · exact .inl h
  | nextItem =>
    obtain ⟨o, items, rest, rfl⟩ := ha
    rcases takeToken_nextItem t o items rest with h | h
    · rw [h]
      refine (startValue_completes hb hs).imp id fun ⟨hfits, hcompletes⟩ => ⟨hfits, fun w hw => ?_⟩
      obtain ⟨v, _, heq, hv, u, x, rfl, hu, hx⟩ := hcompletes w hw
      exact ⟨v ++ u, x, by rw [heq, List.append_assoc], ⟨v, u, rfl, hv, hu⟩, hx⟩
    · exact .inl h
  | firstName =>
    obtain ⟨o, members, rest, rfl⟩ := ha
    rcases takeToken_firstName t o members rest with ⟨hlexeme, h⟩ | h
    · rw [h, hmark hlexeme]
      exact .inr ⟨fits_place _ _, fun w hw => ⟨b ++ ['\x7d'], w, by simp, .noMembers hb, closes_of_place hw⟩⟩
    · rw [h]
      refine (startName_completes hb hs).imp id fun ⟨hfits, hcompletes⟩ => ⟨hfits, fun w hw => ?_⟩
      obtain ⟨m, u, x, heq, hm, hu, hx⟩ := hcompletes w hw
      exact ⟨m ++ u, x, by rw [heq, List.append_assoc], .members hm hu, hx⟩
  | memberEnd =>
    obtain ⟨o, members, rest, rfl⟩ := ha
    rcases takeToken_memberEnd t o members rest with ⟨hlexeme, h⟩ | ⟨hlexeme, h⟩ | h
    · rw [h, hmark hlexeme]
      exact .inr ⟨fits_place _ _, fun w hw => ⟨b ++ ['\x7d'], w, by simp, .lastMember hb, closes_of_place hw⟩⟩
    · rw [h, hmark hlexeme]
      refine .inr ⟨⟨_, _, _, rfl⟩, fun w hw => ?_⟩
      obtain ⟨_, x, rfl, ⟨m, u, rfl, hm, hu⟩, hx⟩ := hw
      exact ⟨b ++ ',' :: (m ++ u), x, by simp, .nextMember hb hm hu, hx⟩
    · exact .inl h
  | nextName =>
    obtain ⟨o, members, rest, rfl⟩ := ha
    rcases takeToken_nextName t o members rest with h | h
    · rw [h]
      refine (startName_completes hb hs).imp id fun ⟨hfits, hcompletes⟩ => ⟨hfits, fun w hw => ?_⟩
      obtain ⟨m, u, x, heq, hm, hu, hx⟩ := hcompletes w hw
      exact ⟨m ++ u, x, by rw [heq, List.append_assoc], ⟨m, u, rfl, hm, hu⟩, hx⟩
    · exact .inl h
  | colon n =>
    obtain ⟨o, members, rest, rfl⟩ := ha
    rcases takeToken_colon t o members rest n with ⟨hlexeme, h⟩ | h
    · rw [h, hmark hlexeme]
      refine .inr ⟨trivial, fun w hw => ?_⟩
      obtain ⟨v, _, rfl, hv, u, x, rfl, hu, hx⟩ := hw
      exact ⟨b ++ ':' :: (v ++ u), x, by simp, ⟨b, v, u, rfl, hb, hv, hu⟩, hx⟩
    · exact .inl h

end Step

/-! ### The last token -/

section Last

variable {t : Token} {stack : List Open} (ht : t.lexeme.IsFlawed ∨ t.lexeme = .finish)
include ht

theorem startValue_fails : (startValue t stack).Fails := by
  have hleaf : ¬ (Tree.leaf t).Ends := not_ends_leaf (ht.imp id .inl)
  obtain ⟨lexeme, start, peek, stop⟩ := t
  rcases ht with h | h
  · cases h with
    | flawed p => exact not_ends_abandon stack hleaf
    | stray => exact not_ends_abandon stack hleaf
    | @string content p q hskipping htext =>
      obtain ⟨text, skipping⟩ := content
      cases hskipping
      exact not_ends_abandon stack hleaf
  · cases h
    exact not_ends_abandon stack hleaf

theorem takeToken_fails {a : Awaited} (ha : a.Fits stack) : (takeToken a stack t).Fails := by
  have hmark : ∀ {c}, t.lexeme ≠ .mark c := by
    intro c hlexeme
    rw [hlexeme] at ht
    rcases ht with h | h <;> cases h
  have hname : ∀ {o members rest}, (startName a t (.object o members :: rest)).Fails := by
    intro o members rest
    rcases startName_object t o members rest a with ⟨content, n, hlexeme, hskipping, -⟩ | h
    · rw [hlexeme] at ht
      rcases ht with h | h
      · cases h with
        | string hsome htext => rw [hskipping] at hsome; cases hsome
      · cases h
    · exact h
  cases a with
  | value => exact startValue_fails ht
  | firstItem =>
    obtain ⟨o, items, rest, rfl⟩ := ha
    rcases takeToken_firstItem t o items rest with ⟨hlexeme, -⟩ | h | h
    · exact absurd hlexeme hmark
    · exact h ▸ startValue_fails ht
    · exact h
  | itemEnd =>
    obtain ⟨o, items, rest, rfl⟩ := ha
    rcases takeToken_itemEnd t o items rest with ⟨hlexeme, -⟩ | ⟨hlexeme, -⟩ | h
    · exact absurd hlexeme hmark
    · exact absurd hlexeme hmark
    · exact h
  | nextItem =>
    obtain ⟨o, items, rest, rfl⟩ := ha
    rcases takeToken_nextItem t o items rest with h | h
    · exact h ▸ startValue_fails ht
    · exact h
  | firstName =>
    obtain ⟨o, members, rest, rfl⟩ := ha
    rcases takeToken_firstName t o members rest with ⟨hlexeme, -⟩ | h
    · exact absurd hlexeme hmark
    · exact h ▸ hname
  | memberEnd =>
    obtain ⟨o, members, rest, rfl⟩ := ha
    rcases takeToken_memberEnd t o members rest with ⟨hlexeme, -⟩ | ⟨hlexeme, -⟩ | h
    · exact absurd hlexeme hmark
    · exact absurd hlexeme hmark
    · exact h
  | nextName =>
    obtain ⟨o, members, rest, rfl⟩ := ha
    rcases takeToken_nextName t o members rest with h | h
    · exact h ▸ hname
    · exact h
  | colon n =>
    obtain ⟨o, members, rest, rfl⟩ := ha
    rcases takeToken_colon t o members rest n with ⟨hlexeme, -⟩ | h
    · exact absurd hlexeme hmark
    · exact h

end Last

theorem Progress.Fails.not_ends_run {x : Progress} (h : x.Fails) (ts : List Token) : ¬ (x.run ts).1.Ends := by
  cases x with
  | done tree =>
    rw [Progress.run_done]
    exact h
  | more a stack => exact h.elim

theorem Lexeme.Spelled.ne_nil {l : Lexeme} {s : List Char} (h : l.Spelled s) : s ≠ [] := by
  cases h with
  | number h =>
    obtain ⟨c, s, rfl, -⟩ := h.exists_cons
    exact List.cons_ne_nil c s
  | string _ h =>
    cases h
    exact List.cons_ne_nil _ _
  | _ => exact List.cons_ne_nil _ _

/-- **A value that has been read to its end is one**: what has been read completes it, and nothing of what follows
belongs to it. -/
theorem exists_completes (ts : List Token) : ∀ {a : Awaited} {stack : List Open} {p : Position} {cs : List Char},
    a.Fits stack → tokensFrom 0 p cs = ts → ((Progress.more a stack).run ts).1.Ends →
      ∃ w rest, cs = w ++ rest ∧ w ≠ [] ∧ (Progress.more a stack).Completes w ∧ ¬ GoesOn w rest := by
  induction ts with
  | nil =>
    intro a stack p cs _ hts _
    obtain ⟨t, ⟨ht, -⟩ | ⟨b, s, rest, -, -, -, -, ht⟩⟩ := tokensFrom_cases cs p <;> rw [hts] at ht <;> cases ht
  | cons t ts ih =>
    intro a stack p cs ha hts hends
    rw [Progress.run] at hends
    obtain ⟨u, ⟨hu, hlast⟩ | ⟨b, s, rest, rfl, hb, hs, hgoes, hu⟩⟩ := tokensFrom_cases cs p
    · rw [hts, List.cons.injEq] at hu
      obtain ⟨rfl, rfl⟩ := hu
      have hfails := takeToken_fails (hlast.symm.imp id And.right) ha
      exact absurd hends (hfails.not_ends_run [])
    · rw [hts, List.cons.injEq] at hu
      obtain ⟨rfl, hrest⟩ := hu
      rcases takeToken_completes hb hs ha with hfails | ⟨hfits, hcompletes⟩
      · exact absurd hends (hfails.not_ends_run ts)
      · cases hstep : takeToken a stack t with
        | done tree =>
          rw [hstep] at hcompletes
          refine ⟨b ++ s, rest, (List.append_assoc _ _ _).symm, by simp [hs.ne_nil], ?_, fun h => hgoes ?_⟩
          · simpa using hcompletes [] rfl
          · exact h.of_append hs.ne_nil
        | more next below =>
          rw [hstep] at hfits hcompletes hends
          obtain ⟨w, rest, rfl, hw, hwc, hgoes⟩ := ih hfits hrest.symm hends
          refine ⟨b ++ (s ++ w), rest, by simp, by simp [hw], hcompletes w hwc, fun h => hgoes ?_⟩
          rw [← List.append_assoc] at h
          exact h.of_append hw

end SchemaCheck.Json
