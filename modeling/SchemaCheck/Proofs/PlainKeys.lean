import Mathlib.Data.List.Basic
import SchemaCheck.Proofs.Compilation
import SchemaCheck.Proofs.Locations
import SchemaCheck.Validation
/-!
# PlainKeys — where the policy of keys decides nothing

Where no symbol is a key, neither in the node nor in the value, both policies take all keys as they are written.  Under
another policy a comparison then finds the same mismatches in the same order, but for the policy in what they name as
expected (`compare_withPolicy`), and this no text shows (`Node.chars_withPolicy`, `Mismatch.message_withPolicy`).
-/
namespace SchemaCheck

/-! ## Keys that no policy changes -/

/-- A key that every policy takes as it is written. -/
def Key.isPlain : Key → Bool
  | .sym _ => false
  | _ => true

theorem Key.normalize_of_isPlain {k : Key} (h : k.isPlain = true) (policy : KeyPolicy) : policy.normalize k = k := by
  cases k with
  | sym s => cases h
  | _ => cases policy <;> rfl

def Value.hasPlainKeys : Value → Bool
  | .map fields => fields.all fun f => f.1.isPlain
  | _ => true

def Schema.hasPlainKeys : Schema → Bool
  | .map entries => entries.all fun e => e.1.isPlain
  | _ => true

def Node.hasPlainKeys : Node → Bool
  | .mapOf entries _ => entries.all fun e => e.1.isPlain
  | _ => true

/-- No map in it has a symbol as a key. -/
def Value.isPlain (v : Value) : Bool := v.everywhere Value.hasPlainKeys

/-- No map in it declares a symbol; literals are not asked. -/
def Schema.isPlain (s : Schema) : Bool := s.everywhere Schema.hasPlainKeys

/-- No map in it declares a symbol; literals are not asked. -/
def Node.isPlain (n : Node) : Bool := n.everywhere Node.hasPlainKeys

theorem Value.isPlain_seq (items : List Value) :
    (Value.seq items).isPlain = true ↔ ∀ v ∈ items, v.isPlain = true := by
  rw [Value.isPlain, Value.everywhere_seq]
  exact and_iff_right rfl

theorem Value.isPlain_map (fields : List (Key × Value)) :
    (Value.map fields).isPlain = true ↔ ∀ f ∈ fields, f.1.isPlain = true ∧ f.2.isPlain = true := by
  rw [Value.isPlain, Value.everywhere_map, Value.hasPlainKeys, List.all_eq_true]
  exact forall₂_and.symm

theorem Schema.isPlain_seq (items : List Schema) :
    (Schema.seq items).isPlain = true ↔ ∀ s ∈ items, s.isPlain = true := by
  rw [Schema.isPlain, Schema.everywhere_seq]
  exact and_iff_right rfl

theorem Schema.isPlain_map (entries : List (Key × Schema)) :
    (Schema.map entries).isPlain = true ↔ ∀ e ∈ entries, e.1.isPlain = true ∧ e.2.isPlain = true := by
  rw [Schema.isPlain, Schema.everywhere_map, Schema.hasPlainKeys, List.all_eq_true]
  exact forall₂_and.symm

theorem Node.isPlain_mapOf (entries : List (Key × Node)) (policy : KeyPolicy) :
    (Node.mapOf entries policy).isPlain = true ↔ ∀ e ∈ entries, e.1.isPlain = true ∧ e.2.isPlain = true := by
  rw [Node.isPlain, Node.everywhere_mapOf, Node.hasPlainKeys, List.all_eq_true]
  exact forall₂_and.symm

theorem Node.isPlain_ofMembers {members : List Node} (h : ∀ n ∈ members, n.isPlain = true) :
    (Node.ofMembers members).isPlain = true :=
  match members with
  | [] => rfl
  | [n] => (Node.everywhere_arrayOf _ n).2 ⟨rfl, h n List.mem_cons_self⟩
  | _ :: _ :: _ => (Node.everywhere_alternatives _ _).2 ⟨rfl, h⟩

mutual

theorem isPlain_compile (o : Options) : ∀ s : Schema, s.isPlain = true → (compile o s).isPlain = true
  | .value _, _ => rfl
  | .kind _, _ => rfl
  | .pattern _, _ => rfl
  | .range _, _ => rfl
  | .seq items, h => Node.isPlain_ofMembers (isPlain_compileItems o items ((Schema.isPlain_seq items).1 h))
  | .map entries, h =>
    (Node.isPlain_mapOf _ _).2 (isPlain_compileEntries o entries ((Schema.isPlain_map entries).1 h))
  | .optional inner, h => by
    rw [Schema.isPlain, Schema.everywhere, Bool.and_eq_true] at h
    exact (Node.everywhere_optional _ _).2 ⟨rfl, isPlain_compile o inner h.2⟩

theorem isPlain_compileItems (o : Options) : ∀ items : List Schema, (∀ s ∈ items, s.isPlain = true) →
    ∀ n ∈ compileItems o items, n.isPlain = true
  | [], _ => List.forall_mem_nil _
  | s :: rest, h => by
    obtain ⟨hs, hrest⟩ := List.forall_mem_cons.1 h
    exact List.forall_mem_cons.2 ⟨isPlain_compile o s hs, isPlain_compileItems o rest hrest⟩

theorem isPlain_compileEntries (o : Options) : ∀ entries : List (Key × Schema),
    (∀ e ∈ entries, e.1.isPlain = true ∧ e.2.isPlain = true) →
      ∀ e ∈ compileEntries o entries, e.1.isPlain = true ∧ e.2.isPlain = true
  | [], _ => List.forall_mem_nil _
  | (k, s) :: rest, h => by
    obtain ⟨hs, hrest⟩ := List.forall_mem_cons.1 h
    exact List.forall_mem_cons.2 ⟨⟨hs.1, isPlain_compile o s hs.2⟩, isPlain_compileEntries o rest hrest⟩

end

/-! ## Another policy -/

mutual

/-- The node with all its maps under one policy. -/
def Node.withPolicy (policy : KeyPolicy) : Node → Node
  | .atom p => .atom p
  | .arrayOf element => .arrayOf (element.withPolicy policy)
  | .mapOf entries _ => .mapOf (Node.entriesWithPolicy policy entries) policy
  | .alternatives members => .alternatives (Node.membersWithPolicy policy members)
  | .optional inner => .optional (inner.withPolicy policy)

def Node.entriesWithPolicy (policy : KeyPolicy) : List (Key × Node) → List (Key × Node)
  | [] => []
  | (k, n) :: rest => (k, n.withPolicy policy) :: Node.entriesWithPolicy policy rest

def Node.membersWithPolicy (policy : KeyPolicy) : List Node → List Node
  | [] => []
  | n :: rest => n.withPolicy policy :: Node.membersWithPolicy policy rest

end

theorem Node.entriesWithPolicy_eq_map (policy : KeyPolicy) (entries : List (Key × Node)) :
    Node.entriesWithPolicy policy entries = entries.map fun e => (e.1, e.2.withPolicy policy) := by
  induction entries with
  | nil => rfl
  | cons e rest ih => rw [Node.entriesWithPolicy, ih, List.map_cons]

theorem Node.membersWithPolicy_eq_map (policy : KeyPolicy) (members : List Node) :
    Node.membersWithPolicy policy members = members.map (Node.withPolicy policy) := by
  induction members with
  | nil => rfl
  | cons n rest ih => rw [Node.membersWithPolicy, ih, List.map_cons]

theorem Node.isOptional_withPolicy (policy : KeyPolicy) (n : Node) :
    (n.withPolicy policy).isOptional = n.isOptional := by
  cases n <;> rfl

theorem Node.unwrapOptional_withPolicy (policy : KeyPolicy) (n : Node) :
    (n.withPolicy policy).unwrapOptional = n.unwrapOptional.withPolicy policy := by
  cases n <;> rfl

mutual

/-- The policy is not part of the text of a node. -/
theorem Node.chars_withPolicy (policy : KeyPolicy) : ∀ n : Node, (n.withPolicy policy).chars = n.chars
  | .atom _ => rfl
  | .arrayOf element => by rw [withPolicy, chars, chars, Node.chars_withPolicy policy element]
  | .mapOf entries _ => by rw [withPolicy, chars, chars, Node.entryChars_withPolicy policy entries]
  | .alternatives members => by rw [withPolicy, chars, chars, Node.memberChars_withPolicy policy members]
  | .optional inner => by rw [withPolicy, chars, chars, Node.chars_withPolicy policy inner]

theorem Node.entryChars_withPolicy (policy : KeyPolicy) : ∀ entries : List (Key × Node),
    Node.entryChars (Node.entriesWithPolicy policy entries) = Node.entryChars entries
  | [] => rfl
  | (k, n) :: rest => by
    rw [entriesWithPolicy, entryChars, entryChars, Node.chars_withPolicy policy n,
      Node.entryChars_withPolicy policy rest]

theorem Node.memberChars_withPolicy (policy : KeyPolicy) : ∀ members : List Node,
    Node.memberChars (Node.membersWithPolicy policy members) = Node.memberChars members
  | [] => rfl
  | n :: rest => by
    rw [membersWithPolicy, memberChars, memberChars, Node.chars_withPolicy policy n,
      Node.memberChars_withPolicy policy rest]

end

theorem Node.render_withPolicy (policy : KeyPolicy) (n : Node) : (n.withPolicy policy).render = n.render := by
  rw [render, render, n.chars_withPolicy policy]

theorem Node.withPolicy_ofMembers (policy : KeyPolicy) (members : List Node) :
    (Node.ofMembers members).withPolicy policy = Node.ofMembers (Node.membersWithPolicy policy members) := by
  rcases members with _ | ⟨m, _ | ⟨n, rest⟩⟩ <;> rfl

mutual

/-- Compiling under other options gives the same node under their policy. -/
theorem withPolicy_compile (o q : Options) : ∀ s : Schema, (compile o s).withPolicy q.keyPolicy = compile q s
  | .value _ => rfl
  | .kind _ => rfl
  | .pattern _ => rfl
  | .range _ => rfl
  | .seq items => by rw [compile, compile, Node.withPolicy_ofMembers, membersWithPolicy_compile o q items]
  | .map entries => by rw [compile, compile, Node.withPolicy, entriesWithPolicy_compile o q entries]
  | .optional inner => by rw [compile, compile, Node.withPolicy, withPolicy_compile o q inner]

theorem membersWithPolicy_compile (o q : Options) : ∀ items : List Schema,
    Node.membersWithPolicy q.keyPolicy (compileItems o items) = compileItems q items
  | [] => rfl
  | s :: rest => by
    rw [compileItems, compileItems, Node.membersWithPolicy, withPolicy_compile o q s,
      membersWithPolicy_compile o q rest]

theorem entriesWithPolicy_compile (o q : Options) : ∀ entries : List (Key × Schema),
    Node.entriesWithPolicy q.keyPolicy (compileEntries o entries) = compileEntries q entries
  | [] => rfl
  | (k, s) :: rest => by
    rw [compileEntries, compileEntries, Node.entriesWithPolicy, withPolicy_compile o q s,
      entriesWithPolicy_compile o q rest]

end

/-! ## Key sets under another policy -/

section Keys

variable {fields : List (Key × Value)} {entries : List (Key × Node)}

theorem filed_of_isPlain (p q : KeyPolicy) (hf : ∀ f ∈ fields, f.1.isPlain = true) :
    filed p fields = filed q fields := by
  refine List.foldl_ext _ _ _ fun groups f hmem => ?_
  rw [Key.normalize_of_isPlain (hf f hmem), Key.normalize_of_isPlain (hf f hmem)]

theorem missingKeys_withPolicy (p q : KeyPolicy) (he : ∀ e ∈ entries, e.1.isPlain = true)
    (present : Entries (List Value)) :
    missingKeys q (entries.map fun e => (e.1, e.2.withPolicy q)) present = missingKeys p entries present := by
  rw [missingKeys, missingKeys, List.filter_map, List.map_map]
  refine congrArg (List.map Prod.fst) (List.filter_congr fun e hmem => ?_)
  rw [Function.comp, Node.isOptional_withPolicy, Key.normalize_of_isPlain (he e hmem),
    Key.normalize_of_isPlain (he e hmem)]

theorem extraKeys_withPolicy (p q : KeyPolicy) (he : ∀ e ∈ entries, e.1.isPlain = true)
    (hf : ∀ f ∈ fields, f.1.isPlain = true) :
    extraKeys q (declaredKeys q (entries.map fun e => (e.1, e.2.withPolicy q))) fields =
      extraKeys p (declaredKeys p entries) fields := by
  have hdeclared : declaredKeys q (entries.map fun e => (e.1, e.2.withPolicy q)) = declaredKeys p entries := by
    rw [declaredKeys, declaredKeys, List.map_map]
    refine List.map_congr_left fun e hmem => ?_
    rw [Function.comp, Key.normalize_of_isPlain (he e hmem), Key.normalize_of_isPlain (he e hmem)]
  rw [hdeclared, extraKeys, extraKeys]
  refine congrArg (List.map Prod.fst) (List.filter_congr fun f hmem => ?_)
  rw [Key.normalize_of_isPlain (hf f hmem), Key.normalize_of_isPlain (hf f hmem)]

theorem keysAgree_withPolicy (p q : KeyPolicy) (he : ∀ e ∈ entries, e.1.isPlain = true)
    (hf : ∀ f ∈ fields, f.1.isPlain = true) :
    KeysAgree q (entries.map fun e => (e.1, e.2.withPolicy q)) fields ↔ KeysAgree p entries fields := by
  rw [← missing_and_extra_isEmpty_iff, ← missing_and_extra_isEmpty_iff, filed_of_isPlain q p hf,
    missingKeys_withPolicy p q he, extraKeys_withPolicy p q he hf]

theorem fieldsUnder_of_isPlain (p q : KeyPolicy) {k : Key} (hk : k.isPlain = true)
    (hf : ∀ f ∈ fields, f.1.isPlain = true) : fieldsUnder p k fields = fieldsUnder q k fields := by
  refine List.filter_congr fun f hmem => ?_
  rw [Key.normalize_of_isPlain (hf f hmem), Key.normalize_of_isPlain (hf f hmem), Key.normalize_of_isPlain hk,
    Key.normalize_of_isPlain hk]

end Keys

/-! ## Comparisons under another policy -/

/-- The mismatch as a comparison under another policy reports it. -/
def Mismatch.withPolicy (policy : KeyPolicy) (m : Mismatch) : Mismatch :=
  { m with expected := m.expected.withPolicy policy }

theorem Mismatch.withPolicy_under (policy : KeyPolicy) (s : Step) (ms : List Mismatch) :
    (ms.map (withPolicy policy)).map (under s) = (ms.map (under s)).map (withPolicy policy) := by
  rw [List.map_map, List.map_map]
  rfl

/-- What is shown of a mismatch does not show the policy. -/
theorem Mismatch.message_withPolicy (policy : KeyPolicy) (m : Mismatch) : (m.withPolicy policy).message = m.message := by
  rw [message, message, verb, verb, withPolicy, Node.render_withPolicy]
  rfl

/-- **The policy decides nothing where no symbol is a key.**  Under another one a comparison finds the same mismatches in
the same order, but for the policy in what they name as expected. -/
theorem compare_withPolicy (q : KeyPolicy) (n : Node) : ∀ v : Value, n.isPlain = true → v.isPlain = true →
    compare (n.withPolicy q) v = (compare n v).map (Mismatch.withPolicy q) := by
  induction n using Node.descent with
  | atom p =>
    intro v _ _
    rw [Node.withPolicy, compare_atom]
    cases p.test v <;> rfl
  | arrayOf element ih =>
    intro v hn hv
    rw [Node.withPolicy]
    by_cases hk : v.kind = .sequence
    · obtain ⟨items, rfl⟩ := Value.exists_seq_of_kind hk
      have helement := ((Node.everywhere_arrayOf _ element).1 hn).2
      rw [compare_arrayOf_seq, compare_arrayOf_seq, elementMismatches, elementMismatches, List.map_flatMap]
      refine List.flatMap_congr fun item hitem => ?_
      have hitem' := (Value.isPlain_seq items).1 hv item.1 (List.fst_mem_of_mem_zipIdx hitem)
      rw [ih item.1 helement hitem', Mismatch.withPolicy_under]
    · rw [compare_arrayOf_of_kind_ne _ hk, compare_arrayOf_of_kind_ne _ hk]
      rfl
  | mapOf entries p ih =>
    intro v hn hv
    rw [Node.withPolicy, Node.entriesWithPolicy_eq_map]
    by_cases hk : v.kind = .map
    · obtain ⟨fields, rfl⟩ := Value.exists_map_of_kind hk
      have hentries := (Node.isPlain_mapOf entries p).1 hn
      have hfields := (Value.isPlain_map fields).1 hv
      have he : ∀ e ∈ entries, e.1.isPlain = true := fun e hmem => (hentries e hmem).1
      have hf : ∀ f ∈ fields, f.1.isPlain = true := fun f hmem => (hfields f hmem).1
      by_cases hagree : KeysAgree p entries fields
      · rw [compare_mapOf_map hagree, compare_mapOf_map ((keysAgree_withPolicy p q he hf).2 hagree),
          List.flatMap_map, List.map_flatMap]
        refine List.flatMap_congr fun e hmem => ?_
        rw [entryMismatches, entryMismatches, fieldsUnder_of_isPlain q p (he e hmem) hf, List.map_flatMap]
        refine List.flatMap_congr fun f hf' => ?_
        rw [Node.unwrapOptional_withPolicy, ih e hmem f.2 (Node.everywhere_unwrapOptional (hentries e hmem).2)
          (hfields f (mem_fieldsUnder.1 hf').1).2, Mismatch.withPolicy_under]
      · rw [compare_mapOf_map_of_not_agree hagree,
          compare_mapOf_map_of_not_agree (mt (keysAgree_withPolicy p q he hf).1 hagree), filed_of_isPlain q p hf,
          missingKeys_withPolicy p q he, extraKeys_withPolicy p q he hf, ← Node.entriesWithPolicy_eq_map]
        rfl
    · rw [compare_mapOf_of_kind_ne _ _ hk, compare_mapOf_of_kind_ne _ _ hk]
      rfl
  | alternatives members ih =>
    intro v hn hv
    have hmembers := ((Node.everywhere_alternatives _ members).1 hn).2
    have hany : ((members.map (Node.withPolicy q)).any fun n => conforms n v) = members.any fun n => conforms n v := by
      rw [List.any_map, Bool.eq_iff_iff, List.any_eq_true, List.any_eq_true]
      refine exists_congr fun n => and_congr_right fun hmem => ?_
      rw [Function.comp, conforms, ih n hmem v (hmembers n hmem) hv, List.isEmpty_map, conforms]
    rw [Node.withPolicy, Node.membersWithPolicy_eq_map, compare_alternatives, compare_alternatives, hany]
    cases members.any fun n => conforms n v with
    | true => rfl
    | false => rw [← Node.membersWithPolicy_eq_map]; rfl
  | optional inner _ =>
    intro v _ _
    rw [Node.withPolicy, compare_optional, compare_optional]
    rfl

end SchemaCheck
