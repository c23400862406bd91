import SchemaCheck.Proofs.ReadToEnd
/-!
# Forms — every form of the grammar is read

Whatever is open around it, wherever it stands and whatever follows it, a form is read in one way: `Form.Reads` tells
what it adds to what is open and what that says, with one law for each rule of the grammar, and `reads_of_derives` is
the induction on a derivation.
-/
namespace SchemaCheck.Json

/-! ## What is read of a form -/

/-- What a form says. -/
abbrev Form.Said : Form → Type
  | .value => Data
  | .items | .moreItems => List Data
  | .members | .moreMembers => List (Option String × Data)
  | .member => Option String × Data

/-- What is read of a form and what it says, and what state it leaves, whatever is open around it and whatever follows.
-/
def Form.Reads : (f : Form) → List Char → f.Said → Prop
  | .value, w, d => ∀ p, ∃ tree : Tree, tree.data = d ∧ ∀ a stack rest, a = .value ∨ a = .firstItem ∨ a = .nextItem →
    ¬ GoesOn w rest →
    (Progress.more a stack).run (tokensFrom 0 p (w ++ rest)) = (place tree stack).run (tokensFrom 0 (p.advance w) rest)
  | .items, w, ds => ∀ p, ∃ (items : List Tree) (bracket : Token), items.map Tree.data = ds ∧ ∀ o stack rest,
    (Progress.more .firstItem (.list o [] :: stack)).run (tokensFrom 0 p (w ++ rest)) =
      (place (.list o items (.closed bracket)) stack).run (tokensFrom 0 (p.advance w) rest)
  | .moreItems, w, ds => ∀ p, ∃ (items : List Tree) (bracket : Token), items.map Tree.data = ds ∧
    ∀ o done stack rest, (Progress.more .itemEnd (.list o done :: stack)).run (tokensFrom 0 p (w ++ rest)) =
      (place (.list o (done.reverse ++ items) (.closed bracket)) stack).run (tokensFrom 0 (p.advance w) rest)
  | .members, w, ds => ∀ p, ∃ (members : List (Name × Tree)) (bracket : Token), members.map memberData = ds ∧
    ∀ o stack rest, (Progress.more .firstName (.object o [] :: stack)).run (tokensFrom 0 p (w ++ rest)) =
      (place (.object o members (.closed bracket)) stack).run (tokensFrom 0 (p.advance w) rest)
  | .moreMembers, w, ds => ∀ p, ∃ (settled : Position) (members : List (Name × Tree)) (bracket : Token),
    members.map memberData = ds ∧ ∀ o n v done stack rest,
    (Progress.more .memberEnd (.object o ((n, v) :: done) :: stack)).run (tokensFrom 0 p (w ++ rest)) =
      (place (.object o (done.reverse ++ ({ n with valueSettled := settled }, v) :: members) (.closed bracket))
        stack).run (tokensFrom 0 (p.advance w) rest)
  | .member, w, d => ∀ p, ∃ (n : Name) (v : Tree), memberData (n, v) = d ∧ ∀ a o done stack rest,
    a = .firstName ∨ a = .nextName → (∀ u, ¬ GoesOn u rest) →
    (Progress.more a (.object o done :: stack)).run (tokensFrom 0 p (w ++ rest)) =
      (Progress.more .memberEnd (.object o ((n, v) :: done) :: stack)).run (tokensFrom 0 (p.advance w) rest)

theorem takeToken_value {t : Token} {a : Awaited} {stack : List Open} (ha : a = .value ∨ a = .firstItem ∨ a = .nextItem)
    (ht : t.skipFlaw? = none ∨ t.lexeme = .mark '[' ∨ t.lexeme = .mark '\x7b') :
    takeToken a stack t = startValue t stack := by
  obtain ⟨lexeme, start, peek, stop⟩ := t
  rcases ha with rfl | rfl | rfl
  · rfl
  all_goals
    rcases ht with h | rfl | rfl
    · cases lexeme <;> first | rfl | cases h
    · rfl
    · rfl

/-- Nothing that starts with a comma or a closing bracket after blanks goes on with a number. -/
theorem not_goesOn_append {b cs rest : List Char} {c : Char} (hb : AllBlank b) (hc : c ∈ [',', ']', '\x7d']) :
    ¬ GoesOn cs (b ++ c :: rest) := by
  rintro ⟨-, d, hd, hcase⟩
  have hmem : d ∈ [' ', '\n', '\t', '\r', ',', ']', '\x7d'] := by
    cases b with
    | nil =>
      cases hd
      exact List.mem_append_right [' ', '\n', '\t', '\r'] hc
    | cons x b =>
      cases hd
      exact List.mem_append_left [',', ']', '\x7d'] (AllBlank.cons_iff.1 hb).1
  simp only [List.mem_cons, List.not_mem_nil, or_false] at hmem
  rcases hmem with rfl | rfl | rfl | rfl | rfl | rfl | rfl <;> simp at hcase

theorem Derives.not_goesOn_moreItems {cs w rest : List Char} (h : Derives .moreItems w) : ¬ GoesOn cs (w ++ rest) := by
  cases h with
  | lastItem hb => simpa using not_goesOn_append hb (by simp)
  | nextItem hb hv hw => simpa using not_goesOn_append hb (by simp)

theorem Derives.not_goesOn_moreMembers {cs w rest : List Char} (h : Derives .moreMembers w) :
    ¬ GoesOn cs (w ++ rest) := by
  cases h with
  | lastMember hb => simpa using not_goesOn_append hb (by simp)
  | nextMember hb hm hw => simpa using not_goesOn_append hb (by simp)

/-- A mark is taken, and what follows it is read from there. -/
theorem run_mark {b : List Char} (c : Char) (hb : AllBlank b) (hc : c ∈ ['[', ']', '\x7b', '\x7d', ',', ':'])
    (p : Position) : ∃ t : Token, t.lexeme = .mark c ∧ ∀ a stack w rest,
      (Progress.more a stack).run (tokensFrom 0 p (b ++ c :: w ++ rest)) =
        (takeToken a stack t).run (tokensFrom 0 (p.advance (b ++ [c])) (w ++ rest)) := by
  obtain ⟨t, hlexeme, hread⟩ := tokensFrom_mark hb hc p
  refine ⟨t, hlexeme, fun a stack w rest => ?_⟩
  rw [List.append_assoc, List.cons_append, hread, Progress.run]

theorem advance_mark (p : Position) (b w : List Char) (c : Char) :
    p.advance (b ++ c :: w) = (p.advance (b ++ [c])).advance w := by
  rw [← Position.advance_append, List.append_assoc]
  rfl

/-! ## Rules -/

section Reads

variable {b v w m n c : List Char} {d : Data} {ds : List Data} {e : Option String × Data}
  {es : List (Option String × Data)}

theorem reads_scalar (hb : AllBlank b) (h : IsScalar w) : ∃ t : Token, Form.value.Reads (b ++ w) t.data := by
  obtain ⟨d, hscalar⟩ := tokensFrom_scalar hb h
  obtain ⟨t, -, rfl, -⟩ := hscalar Position.start
  refine ⟨t, fun p => ?_⟩
  obtain ⟨t, ht, hdata, hread⟩ := hscalar p
  refine ⟨.leaf t, hdata, fun a stack rest ha hrest => ?_⟩
  rw [List.append_assoc, hread rest fun hgoes => hrest (hgoes.append_blank hb), Progress.run,
    takeToken_value ha (.inl ht), startValue_scalar ht]

theorem reads_list (hb : AllBlank b) (h : Form.items.Reads w ds) : Form.value.Reads (b ++ '[' :: w) (.list ds) := by
  intro p
  obtain ⟨t, hlexeme, hread⟩ := run_mark '[' hb (by simp) p
  obtain ⟨items, bracket, rfl, hitems⟩ := h (p.advance (b ++ ['[']))
  refine ⟨.list t items (.closed bracket), Tree.data_list, fun a stack rest ha _ => ?_⟩
  rw [hread, takeToken_value ha (.inr (.inl hlexeme)), startValue_list hlexeme, hitems, advance_mark p b w]

theorem reads_object (hb : AllBlank b) (h : Form.members.Reads w es) :
    Form.value.Reads (b ++ '\x7b' :: w) (.object es) := by
  intro p
  obtain ⟨t, hlexeme, hread⟩ := run_mark '\x7b' hb (by simp) p
  obtain ⟨members, bracket, rfl, hmembers⟩ := h (p.advance (b ++ ['\x7b']))
  refine ⟨.object t members (.closed bracket), Tree.data_object, fun a stack rest ha _ => ?_⟩
  rw [hread, takeToken_value ha (.inr (.inr hlexeme)), startValue_object hlexeme, hmembers, advance_mark p b w]

theorem reads_noItems (hb : AllBlank b) : Form.items.Reads (b ++ [']']) [] := by
  intro p
  obtain ⟨t, hlexeme, hread⟩ := run_mark ']' hb (by simp) p
  refine ⟨[], t, rfl, fun o stack rest => ?_⟩
  rw [hread, takeToken_listClose (.inl rfl) hlexeme]
  rfl

theorem reads_items (hv : Form.value.Reads v d) (hw : Form.moreItems.Reads w ds)
    (hgoes : ∀ rest, ¬ GoesOn v (w ++ rest)) : Form.items.Reads (v ++ w) (d :: ds) := by
  intro p
  obtain ⟨tree, rfl, htree⟩ := hv p
  obtain ⟨items, bracket, rfl, hitems⟩ := hw (p.advance v)
  refine ⟨tree :: items, bracket, rfl, fun o stack rest => ?_⟩
  rw [List.append_assoc, htree _ _ _ (.inr (.inl rfl)) (hgoes rest), Position.advance_append]
  exact hitems o [tree] stack rest

theorem reads_lastItem (hb : AllBlank b) : Form.moreItems.Reads (b ++ [']']) [] := by
  intro p
  obtain ⟨t, hlexeme, hread⟩ := run_mark ']' hb (by simp) p
  refine ⟨[], t, rfl, fun o done stack rest => ?_⟩
  rw [hread, takeToken_listClose (.inr rfl) hlexeme, List.append_nil]
  rfl

theorem reads_nextItem (hb : AllBlank b) (hv : Form.value.Reads v d) (hw : Form.moreItems.Reads w ds)
    (hgoes : ∀ rest, ¬ GoesOn v (w ++ rest)) : Form.moreItems.Reads (b ++ ',' :: (v ++ w)) (d :: ds) := by
  intro p
  obtain ⟨t, hlexeme, hread⟩ := run_mark ',' hb (by simp) p
  obtain ⟨tree, rfl, htree⟩ := hv (p.advance (b ++ [',']))
  obtain ⟨items, bracket, rfl, hitems⟩ := hw ((p.advance (b ++ [','])).advance v)
  refine ⟨tree :: items, bracket, rfl, fun o done stack rest => ?_⟩
  have hmore := hitems o (tree :: done) stack rest
  rw [List.reverse_cons, List.append_assoc] at hmore
  rw [hread, takeToken_listComma hlexeme, List.append_assoc, htree _ _ _ (.inr (.inr rfl)) (hgoes rest),
    advance_mark p b (v ++ w), Position.advance_append _ v w]
  exact hmore

theorem reads_noMembers (hb : AllBlank b) : Form.members.Reads (b ++ ['\x7d']) [] := by
  intro p
  obtain ⟨t, hlexeme, hread⟩ := run_mark '\x7d' hb (by simp) p
  refine ⟨[], t, rfl, fun o stack rest => ?_⟩
  rw [hread, takeToken_noMembersClose hlexeme]
  rfl

theorem reads_members (hm : Form.member.Reads m e) (hw : Form.moreMembers.Reads w es)
    (hgoes : ∀ u rest, ¬ GoesOn u (w ++ rest)) : Form.members.Reads (m ++ w) (e :: es) := by
  intro p
  obtain ⟨n, v, rfl, hmember⟩ := hm p
  obtain ⟨settled, members, bracket, rfl, hmembers⟩ := hw (p.advance m)
  refine ⟨({ n with valueSettled := settled }, v) :: members, bracket, rfl, fun o stack rest => ?_⟩
  rw [List.append_assoc, hmember _ _ _ _ _ (.inl rfl) fun u => hgoes u rest, Position.advance_append]
  exact hmembers o n v [] stack rest

theorem reads_lastMember (hb : AllBlank b) : Form.moreMembers.Reads (b ++ ['\x7d']) [] := by
  intro p
  obtain ⟨t, hlexeme, hread⟩ := run_mark '\x7d' hb (by simp) p
  refine ⟨settledAt t, [], t, rfl, fun o n v done stack rest => ?_⟩
  rw [hread, takeToken_objectClose hlexeme, settleMember, List.reverse_cons]
  rfl

theorem reads_nextMember (hb : AllBlank b) (hm : Form.member.Reads m e) (hw : Form.moreMembers.Reads w es)
    (hgoes : ∀ u rest, ¬ GoesOn u (w ++ rest)) : Form.moreMembers.Reads (b ++ ',' :: (m ++ w)) (e :: es) := by
  intro p
  obtain ⟨t, hlexeme, hread⟩ := run_mark ',' hb (by simp) p
  obtain ⟨n', v', rfl, hmember⟩ := hm (p.advance (b ++ [',']))
  obtain ⟨settled, members, bracket, rfl, hmembers⟩ := hw ((p.advance (b ++ [','])).advance m)
  refine ⟨settledAt t, ({ n' with valueSettled := settled }, v') :: members, bracket, rfl,
    fun o n v done stack rest => ?_⟩
  have hmore := hmembers o n' v' (({ n with valueSettled := settledAt t }, v) :: done) stack rest
  rw [List.reverse_cons, List.append_assoc] at hmore
  rw [hread, takeToken_objectComma hlexeme, settleMember, List.append_assoc,
    hmember _ _ _ _ _ (.inr rfl) fun u => hgoes u rest, advance_mark p b (m ++ w), Position.advance_append _ m w]
  exact hmore

theorem reads_member (hb : AllBlank b) (hn : IsString n) (hc : AllBlank c) (hv : Form.value.Reads v d) :
    Form.member.Reads (b ++ (n ++ (c ++ ':' :: v))) (textFrom 0 n.tail, d) := by
  intro p
  obtain ⟨t, content, hlexeme, hskipping, htext, hread⟩ := tokensFrom_string hb hn p
  obtain ⟨u, hmark, hcolon⟩ := run_mark ':' hc (by simp) (p.advance (b ++ n))
  obtain ⟨tree, rfl, htree⟩ := hv ((p.advance (b ++ n)).advance (c ++ [':']))
  refine ⟨⟨t, content.text, settledAt u, t.stop⟩, tree, Prod.ext htext rfl, fun a o done stack rest ha hrest => ?_⟩
  have hname : takeToken a (.object o done :: stack) t = startName a t (.object o done :: stack) := by
    have hclose : t.lexeme ∉ [.mark '\x7d'] := by simp [hlexeme]
    rcases ha with rfl | rfl <;> exact takeToken_otherwise hclose ⟨o, done, stack, rfl⟩
  rw [List.append_assoc, List.append_assoc, hread, Progress.run, hname, startName_string hlexeme hskipping, hcolon,
    takeToken_colonMark hmark, htree _ _ _ (.inl rfl) (hrest v), ← advance_mark, ← List.append_assoc,
    Position.advance_append _ (b ++ n)]
  rfl

end Reads

/-- No list that a form says has more items than so many, nor more than there are characters that say it. -/
def Form.Within (n : Nat) : (f : Form) → List Char → f.Said → Prop
  | .value, _, d => d.Within n
  | .items, w, ds => ds.length ≤ w.length ∧ ∀ d ∈ ds, d.Within n
  | .moreItems, w, ds => ds.length < w.length ∧ ∀ d ∈ ds, d.Within n
  | .members, _, es | .moreMembers, _, es => ∀ e ∈ es, e.2.Within n
  | .member, _, e => e.2.Within n

/-- **Every form is read**, in the same way wherever it stands, whatever is open around it and whatever follows it; and
each item that it says takes a character at least. -/
theorem reads_of_derives {f : Form} {w : List Char} (h : Derives f w) :
    ∃ d, f.Reads w d ∧ ∀ n, w.length ≤ n → f.Within n w d := by
  induction h with
  | scalar hb h =>
    obtain ⟨t, ht⟩ := reads_scalar hb h
    exact ⟨t.data, ht, fun n _ => t.within_data n⟩
  | list hb _ ih =>
    obtain ⟨ds, hitems, hwithin⟩ := ih
    refine ⟨_, reads_list hb hitems, fun n hn => ?_⟩
    rw [List.length_append, List.length_cons] at hn
    obtain ⟨hlength, hds⟩ := hwithin n (by omega)
    exact .list (by omega) hds
  | object hb _ ih =>
    obtain ⟨es, hmembers, hwithin⟩ := ih
    refine ⟨_, reads_object hb hmembers, fun n hn => .object (hwithin n ?_)⟩
    rw [List.length_append, List.length_cons] at hn
    omega
  | noItems hb => exact ⟨_, reads_noItems hb, fun n _ => ⟨Nat.zero_le _, List.forall_mem_nil _⟩⟩
  | items _ hw ihv ihw =>
    obtain ⟨d, hvalue, hd⟩ := ihv
    obtain ⟨ds, hitems, hwithin⟩ := ihw
    refine ⟨_, reads_items hvalue hitems fun _ => hw.not_goesOn_moreItems, fun n hn => ?_⟩
    rw [List.length_append] at hn
    obtain ⟨hlength, hds⟩ := hwithin n (by omega)
    refine ⟨?_, List.forall_mem_cons.2 ⟨hd n (by omega), hds⟩⟩
    rw [List.length_append, List.length_cons]
    omega
  | lastItem hb =>
    refine ⟨_, reads_lastItem hb, fun n _ => ⟨?_, List.forall_mem_nil _⟩⟩
    exact List.length_pos_of_ne_nil (List.append_ne_nil_of_right_ne_nil _ (List.cons_ne_nil _ _))
  | nextItem hb _ hw ihv ihw =>
    obtain ⟨d, hvalue, hd⟩ := ihv
    obtain ⟨ds, hitems, hwithin⟩ := ihw
    refine ⟨_, reads_nextItem hb hvalue hitems fun _ => hw.not_goesOn_moreItems, fun n hn => ?_⟩
    rw [List.length_append, List.length_cons, List.length_append] at hn
    obtain ⟨hlength, hds⟩ := hwithin n (by omega)
    refine ⟨?_, List.forall_mem_cons.2 ⟨hd n (by omega), hds⟩⟩
    simp only [List.length_append, List.length_cons]
    omega
  | noMembers hb => exact ⟨_, reads_noMembers hb, fun n _ => List.forall_mem_nil _⟩
  | members _ hw ihm ihw =>
    obtain ⟨e, hmember, he⟩ := ihm
    obtain ⟨es, hmembers, hes⟩ := ihw
    refine ⟨_, reads_members hmember hmembers fun _ _ => hw.not_goesOn_moreMembers, fun n hn => ?_⟩
    rw [List.length_append] at hn
    exact List.forall_mem_cons.2 ⟨he n (by omega), hes n (by omega)⟩
  | lastMember hb => exact ⟨_, reads_lastMember hb, fun n _ => List.forall_mem_nil _⟩
  | nextMember hb _ hw ihm ihw =>
    obtain ⟨e, hmember, he⟩ := ihm
    obtain ⟨es, hmembers, hes⟩ := ihw
    refine ⟨_, reads_nextMember hb hmember hmembers fun _ _ => hw.not_goesOn_moreMembers, fun n hn => ?_⟩
    rw [List.length_append, List.length_cons, List.length_append] at hn
    exact List.forall_mem_cons.2 ⟨he n (by omega), hes n (by omega)⟩
  | member hb hn hc _ ih =>
    obtain ⟨d, hvalue, hd⟩ := ih
    refine ⟨_, reads_member hb hn hc hvalue, fun n hlength => hd n ?_⟩
    rw [List.length_append, List.length_append, List.length_append, List.length_cons] at hlength
    omega

end SchemaCheck.Json
