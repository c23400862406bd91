import SchemaCheck.Proofs.EqualValues
/-!
# AlikeNodes — equal or rearranged nodes are one to every value

`Node.Alike` is the least equivalence that holds of equal nodes and of choices between the same members, in whatever
order, however often and however nested, and that goes through all nodes of a tree.  Alike nodes are interchangeable
(`Node.Alike.interchangeable`): values conform to them alike, and are reported at the same locations
(`verdict_of_alike`).
-/
namespace SchemaCheck

/-- Neither a map node in it nor a map in a literal has a key twice. -/
def Node.isWellFormed (n : Node) : Bool := n.everywhere fun n => n.hasDistinctKeys && n.hasDistinctLiteral

/-- Equal or rearranged nodes. -/
inductive Node.Alike : Node → Node → Prop where
  | refl (n : Node) : Alike n n
  | symm {m n : Node} : Alike m n → Alike n m
  | trans {l m n : Node} : Alike l m → Alike m n → Alike l n
  | arrayOf {m n : Node} : Alike m n → Alike (.arrayOf m) (.arrayOf n)
  | mapOf (entries : List (Key × Node × Node)) (policy : KeyPolicy) : (∀ e ∈ entries, Alike e.2.1 e.2.2) →
      Alike (.mapOf (entries.map fun e => (e.1, e.2.1)) policy) (.mapOf (entries.map fun e => (e.1, e.2.2)) policy)
  | alternatives (members : List (Node × Node)) : (∀ m ∈ members, Alike m.1 m.2) →
      Alike (.alternatives (members.map Prod.fst)) (.alternatives (members.map Prod.snd))
  | optional {m n : Node} : Alike m n → Alike (.optional m) (.optional n)
  | equal {m n : Node} : m.isWellFormed = true → n.isWellFormed = true → m.same n = true → Alike m n
  | reordered {ms ns : List Node} : ms.Perm ns → Alike (.alternatives ms) (.alternatives ns)
  | repeated (n : Node) (ns : List Node) : Alike (.alternatives (n :: ns)) (.alternatives (n :: n :: ns))
  | spliced (before inner after : List Node) :
      Alike (.alternatives (before ++ .alternatives inner :: after)) (.alternatives (before ++ inner ++ after))

/-- Either node may stand for the other, as a whole and as what is asked of a value that is present. -/
structure Node.Interchangeable (m n : Node) : Prop where
  optional : m.isOptional = n.isOptional
  whole : ∀ v : Value, v.isDistinct = true → (locations m v).Perm (locations n v)
  present : ∀ v : Value, v.isDistinct = true → (locations m.unwrapOptional v).Perm (locations n.unwrapOptional v)

namespace Node.Interchangeable

variable {l m n : Node}

theorem refl (n : Node) : Interchangeable n n := ⟨rfl, fun _ _ => .refl _, fun _ _ => .refl _⟩

theorem symm (h : Interchangeable m n) : Interchangeable n m :=
  ⟨h.optional.symm, fun v hv => (h.whole v hv).symm, fun v hv => (h.present v hv).symm⟩

theorem trans (h : Interchangeable l m) (k : Interchangeable m n) : Interchangeable l n :=
  ⟨h.optional.trans k.optional, fun v hv => (h.whole v hv).trans (k.whole v hv),
    fun v hv => (h.present v hv).trans (k.present v hv)⟩

/-- What may not be absent is asked of a value that is present as a whole. -/
theorem of_required (hm : m.isOptional = false) (hn : n.isOptional = false)
    (h : ∀ v : Value, v.isDistinct = true → (locations m v).Perm (locations n v)) : Interchangeable m n := by
  refine ⟨hm.trans hn.symm, h, ?_⟩
  rw [Node.unwrapOptional_of_required hm, Node.unwrapOptional_of_required hn]
  exact h

theorem conforms_eq (h : Interchangeable m n) {v : Value} (hv : v.isDistinct = true) : conforms m v = conforms n v :=
  conforms_eq_of_perm (h.whole v hv)

/-! ## Through the nodes of a tree -/

theorem arrayOf (h : Interchangeable m n) : Interchangeable (.arrayOf m) (.arrayOf n) := by
  refine of_required rfl rfl fun v hv => locations_arrayOf_related (.refl _) Iff.rfl ?_
  rintro items _ rfl ⟨⟩
  rw [Value.isDistinct_seq] at hv
  refine List.Perm.flatMap_left _ fun item hitem => (h.whole item.1 (hv _ ?_)).map _
  exact List.fst_mem_of_mem_zipIdx hitem

theorem optionalOf (h : Interchangeable m n) : Interchangeable (.optional m) (.optional n) := by
  refine ⟨rfl, fun v _ => ?_, h.whole⟩
  rw [locations_optional, locations_optional]

/-- A map node is told by which keys agree with it and by what it finds when they do. -/
theorem mapOf_of {as bs : List (Key × Node)} {policy : KeyPolicy}
    (hagree : ∀ fields, KeysAgree policy as fields ↔ KeysAgree policy bs fields)
    (h : ∀ fields : List (Key × Value), (∀ f ∈ fields, f.2.isDistinct = true) →
      (as.flatMap (entryLocations policy fields)).Perm (bs.flatMap (entryLocations policy fields))) :
    Interchangeable (.mapOf as policy) (.mapOf bs policy) := by
  refine of_required rfl rfl fun v hv => locations_mapOf_related (.refl _) Iff.rfl ?_ ?_
  · rintro fields _ rfl ⟨⟩
    exact hagree fields
  · rintro fields _ rfl ⟨⟩
    exact h fields ((Value.isDistinct_map fields).1 hv).2

theorem mapOf (entries : List (Key × Node × Node)) (policy : KeyPolicy)
    (h : ∀ e ∈ entries, Interchangeable e.2.1 e.2.2) :
    Interchangeable (.mapOf (entries.map fun e => (e.1, e.2.1)) policy)
      (.mapOf (entries.map fun e => (e.1, e.2.2)) policy) := by
  refine mapOf_of (fun fields => ⟨fun hk => ?_, fun hk => ?_⟩) fun fields hd => ?_
  · refine hk.of_entries (List.forall_mem_map.2 fun e he => ?_) (List.forall_mem_map.2 fun e he => ?_)
    · exact ⟨_, List.mem_map_of_mem he, rfl, (h e he).optional⟩
    · exact ⟨_, List.mem_map_of_mem he, rfl⟩
  · refine hk.of_entries (List.forall_mem_map.2 fun e he => ?_) (List.forall_mem_map.2 fun e he => ?_)
    · exact ⟨_, List.mem_map_of_mem he, rfl, (h e he).optional.symm⟩
    · exact ⟨_, List.mem_map_of_mem he, rfl⟩
  · rw [List.flatMap_map, List.flatMap_map]
    refine List.Perm.flatMap_left _ fun e he => List.Perm.flatMap_left _ fun f hf => ?_
    exact ((h e he).present f.2 (hd f (mem_fieldsUnder.1 hf).1)).map _

theorem mapOf_perm {as bs : List (Key × Node)} (h : as.Perm bs) (policy : KeyPolicy) :
    Interchangeable (.mapOf as policy) (.mapOf bs policy) := by
  have hagree : ∀ {as bs : List (Key × Node)}, as.Perm bs → ∀ fields, KeysAgree policy as fields →
      KeysAgree policy bs fields := fun h fields hk =>
    hk.of_entries (fun o ho => ⟨o, h.mem_iff.2 ho, rfl, rfl⟩) fun e he => ⟨e, h.mem_iff.1 he, rfl⟩
  exact mapOf_of (fun fields => ⟨hagree h fields, hagree h.symm fields⟩) fun fields _ => h.flatMap_right _

/-- A choice is told by which values some member takes. -/
theorem alternatives_of {ms ns : List Node}
    (h : ∀ v : Value, v.isDistinct = true → ((∃ m ∈ ms, conforms m v = true) ↔ ∃ n ∈ ns, conforms n v = true)) :
    Interchangeable (.alternatives ms) (.alternatives ns) :=
  of_required rfl rfl fun v hv => .of_eq (locations_alternatives_eq (h v hv))

theorem alternatives (members : List (Node × Node)) (h : ∀ m ∈ members, Interchangeable m.1 m.2) :
    Interchangeable (.alternatives (members.map Prod.fst)) (.alternatives (members.map Prod.snd)) := by
  refine alternatives_of fun v hv => ?_
  simp only [List.mem_map, exists_exists_and_eq_and]
  exact exists_congr fun m => and_congr_right fun hm => by rw [(h m hm).conforms_eq hv]

theorem alternatives_perm {ms ns : List Node} (h : ms.Perm ns) :
    Interchangeable (.alternatives ms) (.alternatives ns) :=
  alternatives_of fun _ _ => exists_congr fun _ => and_congr_left fun _ => h.mem_iff

theorem alternatives_repeated (n : Node) (ns : List Node) :
    Interchangeable (.alternatives (n :: ns)) (.alternatives (n :: n :: ns)) :=
  alternatives_of fun v _ => by simp only [List.mem_cons, or_self_left]

theorem alternatives_spliced (before inner after : List Node) :
    Interchangeable (.alternatives (before ++ .alternatives inner :: after))
      (.alternatives (before ++ inner ++ after)) := by
  refine alternatives_of fun v _ => ?_
  have hinner := conforms_alternatives_iff inner v
  simp only [List.mem_append, List.mem_cons, or_and_right, exists_or, exists_eq_left, hinner, or_assoc]

/-! ## Equal nodes -/

theorem atom {p q : Predicate} (hp : (Node.atom p).hasDistinctLiteral = true)
    (hq : (Node.atom q).hasDistinctLiteral = true) (h : p.same q = true) : Interchangeable (.atom p) (.atom q) := by
  refine of_required rfl rfl fun v hv => ?_
  rw [locations_atom, locations_atom, Predicate.test_eq_of_same_test hp hq h hv]

/-- Equal nodes are equal past the optional layer, if they have one, and then they both do. -/
theorem of_present (hopt : m.isOptional = n.isOptional) (h : Interchangeable m.unwrapOptional n.unwrapOptional) :
    Interchangeable m n := by
  cases m with
  | optional m' =>
    cases n with
    | optional n' => exact h.optionalOf
    | _ => cases hopt
  | _ =>
    cases n with
    | optional n' => cases hopt
    | _ => exact h

end Node.Interchangeable

theorem Node.unwrapOptional_of_same {m n : Node} (h : m.same n = true) :
    m.isOptional = n.isOptional ∧ m.unwrapOptional.same n.unwrapOptional = true := by
  cases m with
  | optional m' =>
    cases n with
    | optional n' => exact ⟨rfl, h⟩
    | _ => cases h
  | _ =>
    cases n with
    | optional n' => cases h
    | _ => exact ⟨rfl, h⟩

theorem Node.sameMembers_iff_zip : ∀ ms ns : List Node,
    Node.sameMembers ms ns = true ↔ ms.length = ns.length ∧ ∀ p ∈ ms.zip ns, p.1.same p.2 = true
  | [], [] => by simp [Node.sameMembers]
  | [], _ :: _ => ⟨nofun, nofun⟩
  | _ :: _, [] => ⟨nofun, nofun⟩
  | m :: ms, n :: ns => by
    rw [Node.sameMembers_cons, Bool.and_eq_true, Node.sameMembers_iff_zip ms ns, List.zip_cons_cons,
      List.forall_mem_cons, List.length_cons, List.length_cons, Nat.succ_inj, and_left_comm]

theorem Node.sameEntries_iff (b : List (Key × Node)) : ∀ a : List (Key × Node),
    Node.sameEntries a b = true ↔ ∀ e ∈ a, ∃ n, Entries.get? e.1 b = some n ∧ e.2.same n = true
  | [] => by simp [Node.sameEntries]
  | (k, m) :: rest => by
    rw [Node.sameEntries_cons, Bool.and_eq_true, Node.sameEntries_iff b rest, List.forall_mem_cons]
    refine and_congr_left fun _ => ?_
    cases Entries.get? k b <;> simp

/-- **Equal nodes are interchangeable.** -/
theorem Node.Interchangeable.of_same (m : Node) : ∀ {n : Node}, m.isWellFormed = true → n.isWellFormed = true →
    m.same n = true → Interchangeable m n := by
  induction m using Node.descent with
  | atom p =>
    intro n hm hn h
    cases n with
    | atom q => exact .atom hm hn h
    | _ => cases h
  | arrayOf element ih =>
    intro n hm hn h
    cases n with
    | arrayOf other =>
      exact (ih ((Node.everywhere_arrayOf _ _).1 hm).2 ((Node.everywhere_arrayOf _ _).1 hn).2 h).arrayOf
    | _ => cases h
  | mapOf as policy ih =>
    intro n hm hn h
    cases n with
    | mapOf bs q =>
      obtain ⟨hkeys, has⟩ := (Node.everywhere_mapOf _ _ _).1 hm
      have hbs := ((Node.everywhere_mapOf _ _ _).1 hn).2
      rw [Node.same_mapOf, Bool.and_eq_true, Bool.and_eq_true, beq_iff_eq, beq_iff_eq, Node.sameEntries_iff] at h
      obtain ⟨⟨rfl, hlen⟩, hsame⟩ := h
      obtain ⟨g, hg, hperm⟩ := Entries.exists_perm_of_matched (R := fun m n => m.same n = true)
        (of_decide_eq_true (Bool.and_eq_true _ _ ▸ hkeys).1) hlen hsame
      -- first every entry is replaced by its equal, in its own place, then the entries are reordered
      have hpaired : ∀ e ∈ as.map fun e => (e.1, e.2, g e), Interchangeable e.2.1 e.2.2 := by
        refine List.forall_mem_map.2 fun e he => ?_
        obtain ⟨hopt, hpresent⟩ := Node.unwrapOptional_of_same (hg e he)
        exact .of_present hopt (ih e he (Node.everywhere_unwrapOptional (has e he))
          (Node.everywhere_unwrapOptional (hbs _ (hperm.subset (List.mem_map_of_mem he)))) hpresent)
      have hmap := Interchangeable.mapOf _ policy hpaired
      have hleft : (as.map fun e => (e.1, e.2, g e)).map (fun e => (e.1, e.2.1)) = as := by
        rw [List.map_map]
        exact List.map_id as
      have hright : (as.map fun e => (e.1, e.2, g e)).map (fun e => (e.1, e.2.2)) = as.map fun e => (e.1, g e) := by
        rw [List.map_map]
        rfl
      rw [hleft, hright] at hmap
      exact hmap.trans (.mapOf_perm hperm policy)
    | _ => cases h
  | alternatives ms ih =>
    intro n hm hn h
    cases n with
    | alternatives ns =>
      obtain ⟨hlen, hsame⟩ := (Node.sameMembers_iff_zip ms ns).1 h
      have hms := ((Node.everywhere_alternatives _ _).1 hm).2
      have hns := ((Node.everywhere_alternatives _ _).1 hn).2
      have hzip := Interchangeable.alternatives (ms.zip ns) fun p hp =>
        ih p.1 (List.of_mem_zip hp).1 (hms _ (List.of_mem_zip hp).1) (hns _ (List.of_mem_zip hp).2) (hsame p hp)
      rwa [List.map_fst_zip (Nat.le_of_eq hlen), List.map_snd_zip (Nat.le_of_eq hlen.symm)] at hzip
    | _ => cases h
  | optional inner ih =>
    intro n hm hn h
    cases n with
    | optional other =>
      exact (ih ((Node.everywhere_optional _ _).1 hm).2 ((Node.everywhere_optional _ _).1 hn).2 h).optionalOf
    | _ => cases h

/-- **Alike nodes are interchangeable.** -/
theorem Node.Alike.interchangeable {m n : Node} (h : Node.Alike m n) : Node.Interchangeable m n := by
  induction h with
  | refl n => exact .refl n
  | symm _ ih => exact ih.symm
  | trans _ _ ihl ihr => exact ihl.trans ihr
  | arrayOf _ ih => exact ih.arrayOf
  | mapOf entries policy _ ih => exact .mapOf entries policy ih
  | alternatives members _ ih => exact .alternatives members ih
  | optional _ ih => exact ih.optionalOf
  | equal hm hn h => exact .of_same _ hm hn h
  | reordered h => exact .alternatives_perm h
  | repeated n ns => exact .alternatives_repeated n ns
  | spliced before inner after => exact .alternatives_spliced before inner after

/-- **Alike nodes get alike verdicts.**  To nodes that are equal, or rearrange the same choices anywhere, a value
conforms alike, and its mismatches are at the same locations, each as often. -/
theorem verdict_of_alike {m n : Node} (h : Node.Alike m n) {v : Value} (hv : v.isDistinct = true) :
    conforms m v = conforms n v ∧
      ((compare m v).map Mismatch.location).Perm ((compare n v).map Mismatch.location) :=
  ⟨h.interchangeable.conforms_eq hv, h.interchangeable.whole v hv⟩

/-- Under an entry that may be absent, a choice with a nested one and the same choices in a row; then the entries the
other way round and an integer as the float that it is. -/
theorem verdict_of_alike_under_optional :
    let m : Node := .mapOf [(.str "a", .optional (.alternatives [.atom (.kind .null),
      .alternatives [.atom (.equal (.int 1)), .atom (.kind .string)]])), (.sym "b", .atom (.kind .any))] .strict
    let n : Node := .mapOf [(.sym "b", .atom (.kind .any)), (.str "a", .optional (.alternatives
      [.atom (.equal (.float (Double.ofInt 1))), .atom (.kind .string), .atom (.kind .null)]))] .strict
    let v : Value := .map [(.sym "b", .null), (.str "a", .bool true)]
    Node.Alike m n ∧ v.isDistinct = true ∧ conforms m v = conforms n v ∧
      ((compare m v).map Mismatch.location).Perm ((compare n v).map Mismatch.location) := by
  intro m n v
  let one : Node := .atom (.equal (.int 1))
  let null : Node := .atom (.kind .null)
  let string : Node := .atom (.kind .string)
  have hturned : List.Perm ([null] ++ [one, string]) ([one, string] ++ [null]) := List.perm_append_comm
  have hchoice : Node.Alike (.alternatives [null, .alternatives [one, string]]) (.alternatives [one, string, null]) :=
    (Node.Alike.spliced [null] [one, string] []).trans (.reordered hturned)
  have hentries : Node.Alike m (.mapOf [(.str "a", .optional (.alternatives [one, string, null])),
      (.sym "b", .atom (.kind .any))] .strict) :=
    .mapOf [(.str "a", _, _), (.sym "b", _, _)] .strict
      (List.forall_mem_cons.2 ⟨hchoice.optional, List.forall_mem_singleton.2 (.refl _)⟩)
  have halike : Node.Alike m n := hentries.trans (.equal rfl rfl (by decide +kernel))
  exact ⟨halike, rfl, verdict_of_alike halike rfl⟩

end SchemaCheck
