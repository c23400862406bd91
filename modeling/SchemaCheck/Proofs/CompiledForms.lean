import SchemaCheck.Proofs.AlikeNodes
import SchemaCheck.Proofs.Compilation
/-!
# CompiledForms — what compiling forgets, and what it makes

Compiling forgets one thing about a schema: whether an empty sequence in it is a shape or the literal one.
`Schema.norm` makes them all literal.  This form of a schema is read back from its node (`schema_compile`), and nodes
are equal exactly if these forms of their schemas are (`same_compile`).  A node is made by compiling exactly if every
choice in it has two members or more and all keys are compared by the policy of the options (`exists_compile_eq_iff`).
-/
namespace SchemaCheck

/-! ## Normal forms, and schemas read back from nodes -/

/-- A sequence of schemas, the literal one if it is empty. -/
def Schema.ofItems : List Schema → Schema
  | [] => .value (.seq [])
  | items => .seq items

mutual

/-- Every empty sequence of schemas is the literal one. -/
def Schema.norm : Schema → Schema
  | .seq items => Schema.ofItems (Schema.normItems items)
  | .map entries => .map (Schema.normEntries entries)
  | .optional inner => .optional inner.norm
  | s => s

def Schema.normItems : List Schema → List Schema
  | [] => []
  | s :: rest => s.norm :: Schema.normItems rest

def Schema.normEntries : List (Key × Schema) → List (Key × Schema)
  | [] => []
  | (k, s) :: rest => (k, s.norm) :: Schema.normEntries rest

end

theorem Schema.normEntries_eq_map : ∀ entries : List (Key × Schema),
    Schema.normEntries entries = entries.map fun e => (e.1, e.2.norm)
  | [] => rfl
  | (k, s) :: rest => congrArg ((k, s.norm) :: ·) (Schema.normEntries_eq_map rest)

def Predicate.schema : Predicate → Schema
  | .equal v => .value v
  | .kind k => .kind k
  | .pattern p => .pattern p
  | .range r => .range r

mutual

/-- The schema that a node says. -/
def Node.schema : Node → Schema
  | .atom test => test.schema
  | .arrayOf element => .seq [element.schema]
  | .mapOf entries _ => .map (Node.entrySchemas entries)
  | .alternatives members => .seq (Node.memberSchemas members)
  | .optional inner => .optional inner.schema

def Node.memberSchemas : List Node → List Schema
  | [] => []
  | n :: rest => n.schema :: Node.memberSchemas rest

def Node.entrySchemas : List (Key × Node) → List (Key × Schema)
  | [] => []
  | (k, n) :: rest => (k, n.schema) :: Node.entrySchemas rest

end

/-- A choice is one between two members or more. -/
def Node.hasChoice : Node → Bool
  | .alternatives members => decide (2 ≤ members.length)
  | _ => true

/-- Every choice in it is one, and all keys are compared as the options say. -/
def Node.isCompiled (o : Options) (n : Node) : Bool := n.everywhere fun n => n.hasChoice && n.hasPolicy o.keyPolicy

/-! ## There and back -/

theorem schema_ofMembers (members : List Node) :
    (Node.ofMembers members).schema = Schema.ofItems (Node.memberSchemas members) := by
  rcases members with _ | ⟨m, _ | ⟨n, rest⟩⟩ <;> rfl

mutual

/-- **The normal form of a schema is what its node says.** -/
theorem schema_compile (o : Options) : ∀ s : Schema, (compile o s).schema = s.norm
  | .value _ | .kind _ | .pattern _ | .range _ => rfl
  | .seq items => (schema_ofMembers _).trans (congrArg Schema.ofItems (memberSchemas_compileItems o items))
  | .map entries => congrArg Schema.map (entrySchemas_compileEntries o entries)
  | .optional inner => congrArg Schema.optional (schema_compile o inner)

theorem memberSchemas_compileItems (o : Options) : ∀ items : List Schema,
    Node.memberSchemas (compileItems o items) = Schema.normItems items
  | [] => rfl
  | s :: rest => congrArg₂ List.cons (schema_compile o s) (memberSchemas_compileItems o rest)

theorem entrySchemas_compileEntries (o : Options) : ∀ entries : List (Key × Schema),
    Node.entrySchemas (compileEntries o entries) = Schema.normEntries entries
  | [] => rfl
  | (k, s) :: rest =>
    congrArg₂ (fun s rest => (k, s) :: rest) (schema_compile o s) (entrySchemas_compileEntries o rest)

end

theorem ofMembers_of_hasChoice {members : List Node} (h : (Node.alternatives members).hasChoice = true) :
    Node.ofMembers members = .alternatives members := by
  rcases members with _ | ⟨m, _ | ⟨n, rest⟩⟩
  · cases h
  · cases h
  · rfl

mutual

/-- **What a node says compiles to it**, if it is made as compiled nodes are. -/
theorem compile_schema (o : Options) : ∀ n : Node, n.isCompiled o = true → compile o n.schema = n
  | .atom (.equal _), _ | .atom (.kind _), _ | .atom (.pattern _), _ | .atom (.range _), _ => rfl
  | .arrayOf element, h => congrArg Node.arrayOf (compile_schema o element ((Node.everywhere_arrayOf _ _).1 h).2)
  | .mapOf entries policy, h => by
    rw [Node.isCompiled, Node.everywhere_mapOf] at h
    have hpolicy : policy = o.keyPolicy := eq_of_beq h.1
    exact congrArg₂ Node.mapOf (compileEntries_entrySchemas o entries h.2) hpolicy.symm
  | .alternatives members, h => by
    rw [Node.isCompiled, Node.everywhere_alternatives, Bool.and_eq_true] at h
    exact (congrArg Node.ofMembers (compileItems_memberSchemas o members h.2)).trans (ofMembers_of_hasChoice h.1.1)
  | .optional inner, h => congrArg Node.optional (compile_schema o inner ((Node.everywhere_optional _ _).1 h).2)

theorem compileItems_memberSchemas (o : Options) : ∀ members : List Node,
    (∀ n ∈ members, n.isCompiled o = true) → compileItems o (Node.memberSchemas members) = members
  | [], _ => rfl
  | n :: rest, h => congrArg₂ List.cons (compile_schema o n (h n List.mem_cons_self))
      (compileItems_memberSchemas o rest fun m hm => h m (List.mem_cons_of_mem n hm))

theorem compileEntries_entrySchemas (o : Options) : ∀ entries : List (Key × Node),
    (∀ e ∈ entries, e.2.isCompiled o = true) → compileEntries o (Node.entrySchemas entries) = entries
  | [], _ => rfl
  | (k, n) :: rest, h => congrArg₂ (fun n rest => (k, n) :: rest) (compile_schema o n (h (k, n) List.mem_cons_self))
      (compileEntries_entrySchemas o rest fun e he => h e (List.mem_cons_of_mem _ he))

end

theorem isCompiled_ofMembers {o : Options} {members : List Node} (h : ∀ n ∈ members, n.isCompiled o = true) :
    (Node.ofMembers members).isCompiled o = true := by
  rcases members with _ | ⟨m, _ | ⟨n, rest⟩⟩
  · rfl
  · exact (Node.everywhere_arrayOf _ _).2 ⟨rfl, h m List.mem_cons_self⟩
  · exact (Node.everywhere_alternatives _ _).2 ⟨rfl, h⟩

mutual

/-- **Compiling makes choices of two members or more**, and gives all keys the policy of the options. -/
theorem isCompiled_compile (o : Options) : ∀ s : Schema, (compile o s).isCompiled o = true
  | .value _ | .kind _ | .pattern _ | .range _ => rfl
  | .seq items => isCompiled_ofMembers (isCompiled_compileItems o items)
  | .map entries => (Node.everywhere_mapOf _ _ _).2 ⟨beq_self_eq_true o.keyPolicy, isCompiled_compileEntries o entries⟩
  | .optional inner => (Node.everywhere_optional _ _).2 ⟨rfl, isCompiled_compile o inner⟩

theorem isCompiled_compileItems (o : Options) : ∀ items : List Schema,
    ∀ n ∈ compileItems o items, n.isCompiled o = true
  | [] => fun _ hn => absurd hn List.not_mem_nil
  | s :: rest => List.forall_mem_cons.2 ⟨isCompiled_compile o s, isCompiled_compileItems o rest⟩

theorem isCompiled_compileEntries (o : Options) : ∀ entries : List (Key × Schema),
    ∀ e ∈ compileEntries o entries, e.2.isCompiled o = true
  | [] => fun _ he => absurd he List.not_mem_nil
  | (_, s) :: rest => List.forall_mem_cons.2 ⟨isCompiled_compile o s, isCompiled_compileEntries o rest⟩

end

/-- **The nodes that compiling makes.** -/
theorem exists_compile_eq_iff (o : Options) (n : Node) : (∃ s, compile o s = n) ↔ n.isCompiled o = true :=
  ⟨fun ⟨s, hs⟩ => hs ▸ isCompiled_compile o s, fun h => ⟨n.schema, compile_schema o n h⟩⟩

/-- **Schemas compile to one node exactly if they have one normal form.** -/
theorem compile_eq_iff (o : Options) (s t : Schema) : compile o s = compile o t ↔ s.norm = t.norm := by
  have hback : ∀ s : Schema, compile o s.norm = compile o s := fun s => by
    rw [← schema_compile o s, compile_schema o _ (isCompiled_compile o s)]
  refine ⟨fun h => ?_, fun h => ?_⟩
  · rw [← schema_compile o s, ← schema_compile o t, h]
  · rw [← hback s, ← hback t, h]

/-! ## Equal nodes -/

theorem Schema.sameItems_cons (s t : Schema) (ss ts : List Schema) :
    Schema.sameItems (s :: ss) (t :: ts) = (s.same t && Schema.sameItems ss ts) := rfl

theorem Schema.sameEntries_cons (k : Key) (s : Schema) (rest entries : List (Key × Schema)) :
    Schema.sameEntries ((k, s) :: rest) entries =
      ((match Entries.get? k entries with
        | some t => s.same t
        | none => false) && Schema.sameEntries rest entries) := rfl

theorem same_ofMembers (ms ns : List Node) : (Node.ofMembers ms).same (Node.ofMembers ns) = Node.sameMembers ms ns := by
  rcases ms with _ | ⟨m, _ | ⟨m', ms⟩⟩ <;> rcases ns with _ | ⟨n, _ | ⟨n', ns⟩⟩
  case cons.nil.cons.nil => exact (Bool.and_true _).symm
  case cons.nil.cons.cons | cons.cons.cons.nil => exact (Bool.and_false _).symm
  all_goals rfl

theorem same_ofItems (ss ts : List Schema) :
    (Schema.ofItems ss).same (Schema.ofItems ts) = Schema.sameItems ss ts := by
  cases ss <;> cases ts <;> rfl

mutual

/-- **Nodes are equal exactly if the normal forms of their schemas are.** -/
theorem same_compile (o : Options) : ∀ s t : Schema, (compile o s).same (compile o t) = s.norm.same t.norm
  | .value _, t | .kind _, t | .pattern _, t | .range _, t => by
    cases t with
    -- the node of a sequence, and its normal form, tell none, one and more schemas apart
    | seq items => rcases items with _ | ⟨_, _ | ⟨_, _⟩⟩ <;> rfl
    | _ => rfl
  | .seq items, t => by
    cases t with
    | seq others =>
      exact (same_ofMembers _ _).trans ((same_compileItems o items others).trans (same_ofItems _ _).symm)
    | _ => rcases items with _ | ⟨_, _ | ⟨_, _⟩⟩ <;> rfl
  | .map entries, t => by
    cases t with
    | seq items => rcases items with _ | ⟨_, _ | ⟨_, _⟩⟩ <;> rfl
    | map others =>
      have hlength : ∀ es, (compileEntries o es).length = (Schema.normEntries es).length := fun es => by
        rw [compileEntries_eq_map, Schema.normEntries_eq_map, List.length_map, List.length_map]
      have hmap : (compile o (.map entries)).same (compile o (.map others)) =
          (o.keyPolicy == o.keyPolicy && (compileEntries o entries).length == (compileEntries o others).length &&
            Node.sameEntries (compileEntries o entries) (compileEntries o others)) := rfl
      rw [hmap, beq_self_eq_true, Bool.true_and, hlength, hlength, same_compileEntries o others entries]
      rfl
    | _ => rfl
  | .optional inner, t => by
    cases t with
    | seq items => rcases items with _ | ⟨_, _ | ⟨_, _⟩⟩ <;> rfl
    | optional other => exact same_compile o inner other
    | _ => rfl

theorem same_compileItems (o : Options) : ∀ ss ts : List Schema,
    Node.sameMembers (compileItems o ss) (compileItems o ts) =
      Schema.sameItems (Schema.normItems ss) (Schema.normItems ts)
  | [], [] | [], _ :: _ | _ :: _, [] => rfl
  | s :: ss, t :: ts => congrArg₂ and (same_compile o s t) (same_compileItems o ss ts)

theorem same_compileEntries (o : Options) (fs : List (Key × Schema)) : ∀ es : List (Key × Schema),
    Node.sameEntries (compileEntries o es) (compileEntries o fs) =
      Schema.sameEntries (Schema.normEntries es) (Schema.normEntries fs)
  | [] => rfl
  | (k, s) :: es => by
    have hnode : Entries.get? k (compileEntries o fs) = (Entries.get? k fs).map (compile o) := by
      rw [compileEntries_eq_map, Entries.get?_map]
    have hnorm : Entries.get? k (Schema.normEntries fs) = (Entries.get? k fs).map Schema.norm := by
      rw [Schema.normEntries_eq_map, Entries.get?_map]
    rw [compileEntries, Schema.normEntries, Node.sameEntries_cons, Schema.sameEntries_cons, hnode, hnorm,
      same_compileEntries o fs es]
    cases Entries.get? k fs with
    | none => rfl
    | some t => exact congrArg (· && _) (same_compile o s t)

end

/-- Schemas that are not equal, and their nodes are. -/
example : let s : Schema := .map [(.str "a", .seq [.seq []])]
    let t : Schema := .map [(.str "a", .seq [.value (.seq [])])]
    s.same t = false ∧ (compile .default s).same (compile .default t) = true := by decide

/-! ## What equals a compiled node -/

theorem Predicate.same_refl {p : Predicate} (h : (Node.atom p).hasDistinctLiteral = true) : p.same p = true := by
  cases p with
  | equal v => exact Value.same_refl h
  | kind k => exact beq_self_eq_true k
  | pattern p => exact beq_self_eq_true p.source
  | range r => exact r.same_refl

theorem Node.same_self_of_unwrapOptional {n : Node} (h : n.unwrapOptional.same n.unwrapOptional = true) :
    n.same n = true := by
  cases n with
  | optional inner => exact h
  | _ => exact h

theorem Node.same_refl (n : Node) : n.isWellFormed = true → n.same n = true := by
  induction n using Node.descent with
  | atom p => exact fun h => Predicate.same_refl (p := p) h
  | arrayOf element ih => exact fun h => ih ((Node.everywhere_arrayOf _ _).1 h).2
  | mapOf entries policy ih =>
    intro h
    rw [Node.isWellFormed, Node.everywhere_mapOf, Bool.and_eq_true] at h
    rw [Node.same_mapOf, beq_self_eq_true, beq_self_eq_true, Bool.true_and, Bool.true_and, Node.sameEntries_iff]
    exact fun e he => ⟨e.2, Entries.get?_of_mem (of_decide_eq_true h.1.1) he,
      Node.same_self_of_unwrapOptional (ih e he (Node.everywhere_unwrapOptional (h.2 e he)))⟩
  | alternatives members ih =>
    intro h
    have hzip : members.zip members = members.map fun n => (n, n) := List.zipWith_self
    refine (Node.sameMembers_iff_zip members members).2 ⟨rfl, fun p hp => ?_⟩
    rw [hzip] at hp
    obtain ⟨n, hn, rfl⟩ := List.mem_map.1 hp
    exact ih n hn (((Node.everywhere_alternatives _ _).1 h).2 n hn)
  | optional inner ih => exact fun h => ih ((Node.everywhere_optional _ _).1 h).2

theorem Node.isCompiled_of_unwrapOptional {o : Options} {n : Node} (h : n.unwrapOptional.isCompiled o = true) :
    n.isCompiled o = true := by
  cases n with
  | optional inner => exact (Node.everywhere_optional _ _).2 ⟨rfl, h⟩
  | _ => exact h

/-- What equals a compiled node has its choices and its policies. -/
theorem Node.isCompiled_of_same {o : Options} (m : Node) : ∀ {n : Node}, m.same n = true → n.isCompiled o = true →
    m.isCompiled o = true := by
  induction m using Node.descent with
  | atom p => exact fun _ _ => rfl
  | arrayOf element ih =>
    intro n h hn
    cases n with
    | arrayOf other =>
      exact (Node.everywhere_arrayOf _ _).2 ⟨rfl, ih h ((Node.everywhere_arrayOf _ _).1 hn).2⟩
    | _ => cases h
  | mapOf as policy ih =>
    intro n h hn
    cases n with
    | mapOf bs q =>
      rw [Node.same_mapOf, Bool.and_eq_true, Bool.and_eq_true, beq_iff_eq, Node.sameEntries_iff] at h
      obtain ⟨⟨rfl, -⟩, hsame⟩ := h
      rw [Node.isCompiled, Node.everywhere_mapOf] at hn ⊢
      refine ⟨hn.1, fun e he => ?_⟩
      obtain ⟨y, hy, hey⟩ := hsame e he
      have hcompiled := Node.everywhere_unwrapOptional (hn.2 _ (Entries.mem_of_get? hy))
      exact Node.isCompiled_of_unwrapOptional (ih e he (Node.unwrapOptional_of_same hey).2 hcompiled)
    | _ => cases h
  | alternatives ms ih =>
    intro n h hn
    cases n with
    | alternatives ns =>
      obtain ⟨hlength, hsame⟩ := (Node.sameMembers_iff_zip ms ns).1 h
      rw [Node.isCompiled, Node.everywhere_alternatives] at hn ⊢
      refine ⟨?_, fun m hm => ?_⟩
      · rw [Node.hasChoice, hlength]
        exact hn.1
      · rw [← List.map_fst_zip (Nat.le_of_eq hlength)] at hm
        obtain ⟨p, hp, rfl⟩ := List.mem_map.1 hm
        exact ih p.1 (List.of_mem_zip hp).1 (hsame p hp) (hn.2 p.2 (List.of_mem_zip hp).2)
    | _ => cases h
  | optional inner ih =>
    intro n h hn
    cases n with
    | optional other =>
      exact (Node.everywhere_optional _ _).2 ⟨rfl, ih h ((Node.everywhere_optional _ _).1 hn).2⟩
    | _ => cases h

/-! ## Well-formed schemas -/

/-- No map in the value that a schema may stand for holds a key twice. -/
def Schema.hasDistinctLiteral : Schema → Bool
  | .value v => v.isDistinct
  | _ => true

/-- Neither a map of schemas in it nor a map in a literal has a key twice. -/
def Schema.isWellFormed (s : Schema) : Bool := s.everywhere fun s => s.hasDistinctKeys && s.hasDistinctLiteral

theorem keys_entrySchemas : ∀ entries : List (Key × Node),
    Entries.keys (Node.entrySchemas entries) = Entries.keys entries
  | [] => rfl
  | (k, _) :: rest => congrArg (k :: ·) (keys_entrySchemas rest)

mutual

/-- What a well-formed node says is well-formed. -/
theorem isWellFormed_schema : ∀ n : Node, n.isWellFormed = true → n.schema.isWellFormed = true
  | .atom (.equal _), h => h
  | .atom (.kind _), _ | .atom (.pattern _), _ | .atom (.range _), _ => rfl
  | .arrayOf element, h => (Schema.everywhere_seq _ _).2
      ⟨rfl, List.forall_mem_singleton.2 (isWellFormed_schema element ((Node.everywhere_arrayOf _ _).1 h).2)⟩
  | .mapOf entries policy, h => by
    rw [Node.isWellFormed, Node.everywhere_mapOf, Bool.and_eq_true] at h
    have hkeys : (Schema.map (Node.entrySchemas entries)).hasDistinctKeys = true := by
      rw [Schema.hasDistinctKeys, keys_entrySchemas]
      exact h.1.1
    exact (Schema.everywhere_map _ _).2
      ⟨Bool.and_eq_true_iff.2 ⟨hkeys, rfl⟩, isWellFormed_entrySchemas entries h.2⟩
  | .alternatives members, h => (Schema.everywhere_seq _ _).2
      ⟨rfl, isWellFormed_memberSchemas members ((Node.everywhere_alternatives _ _).1 h).2⟩
  | .optional inner, h =>
    Bool.and_eq_true_iff.2 ⟨rfl, isWellFormed_schema inner ((Node.everywhere_optional _ _).1 h).2⟩

theorem isWellFormed_memberSchemas : ∀ members : List Node, (∀ n ∈ members, n.isWellFormed = true) →
    ∀ s ∈ Node.memberSchemas members, s.isWellFormed = true
  | [], _ => fun _ hs => absurd hs List.not_mem_nil
  | n :: rest, h => List.forall_mem_cons.2 ⟨isWellFormed_schema n (h n List.mem_cons_self),
      isWellFormed_memberSchemas rest fun m hm => h m (List.mem_cons_of_mem n hm)⟩

theorem isWellFormed_entrySchemas : ∀ entries : List (Key × Node), (∀ e ∈ entries, e.2.isWellFormed = true) →
    ∀ e ∈ Node.entrySchemas entries, e.2.isWellFormed = true
  | [], _ => fun _ he => absurd he List.not_mem_nil
  | (k, n) :: rest, h => List.forall_mem_cons.2 ⟨isWellFormed_schema n (h (k, n) List.mem_cons_self),
      isWellFormed_entrySchemas rest fun e he => h e (List.mem_cons_of_mem _ he)⟩

end

/-- **Compiling loses nothing but the shape of empty sequences, and makes all nodes that are well-formed.**  Two schemas
have equal nodes exactly if they are equal once every empty sequence in them is the literal one; and a node equals that
of some schema exactly if every choice in it has two members or more and every map in it compares keys by the policy of
the options. -/
theorem compile_kernel_and_image (o : Options) :
    (∀ s t : Schema, (compile o s).same (compile o t) = true ↔ s.norm.same t.norm = true) ∧
    ∀ n : {n : Node // n.isWellFormed = true},
      (∃ s : {s : Schema // s.isWellFormed = true}, n.val.same (compile o s.val) = true) ↔
        n.val.isCompiled o = true := by
  refine ⟨fun s t => Bool.eq_iff_iff.1 (same_compile o s t), fun n => ⟨fun ⟨s, hs⟩ => ?_, fun h => ?_⟩⟩
  · exact n.val.isCompiled_of_same hs (isCompiled_compile o s.val)
  · refine ⟨⟨n.val.schema, isWellFormed_schema n.val n.property⟩, ?_⟩
    rw [compile_schema o n.val h]
    exact n.val.same_refl n.property

end SchemaCheck
