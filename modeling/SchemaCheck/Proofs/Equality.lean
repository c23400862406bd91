import SchemaCheck.Proofs.Entries
import SchemaCheck.Proofs.ExactNumber
import SchemaCheck.Proofs.Tree
/-!
# Equality — when two values are equal

`Value.canon` is what a value is once it is forgotten how it is held: a number is its rational, whether it is an integer
or a float, and a map is a finite function.  Two values are equal exactly when their canonical forms are, so equality of
values is an equivalence relation (`same_iff_canon_eq`).
-/
namespace SchemaCheck

/-! ## Canonical forms -/

/-- What values are up to equality. -/
inductive Canon where
  | null
  | bool (b : Bool)
  | number (q : ℚ)
  | infinity (negative : Bool)
  | nan
  | str (text : String)
  | sym (name : String)
  | seq (items : List Canon)
  /-- What stands under each key. -/
  | map (under : Key → Option Canon)

def Double.canon (x : Double) : Canon :=
  match x.rational? with
  | some q => .number q
  | none =>
    match x with
    | .nan => .nan
    | .number s _ => .infinity s

mutual

def Value.canon : Value → Canon
  | .null => .null
  | .bool b => .bool b
  | .int i => .number i.toInt
  | .float x => x.canon
  | .str s => .str s
  | .sym s => .sym s
  | .seq items => .seq (Value.canonItems items)
  | .map fields => .map (Value.canonFields fields)

def Value.canonItems : List Value → List Canon
  | [] => []
  | v :: rest => v.canon :: Value.canonItems rest

/-- The finite function that takes each key to what stands under it. -/
def Value.canonFields : List (Key × Value) → Key → Option Canon
  | [], _ => none
  | (k, v) :: rest, l => if k = l then some v.canon else Value.canonFields rest l

end

theorem Value.canonItems_eq_map : ∀ items : List Value, Value.canonItems items = items.map Value.canon
  | [] => rfl
  | v :: rest => by rw [Value.canonItems, Value.canonItems_eq_map rest, List.map_cons]

theorem Value.canonFields_eq (l : Key) : ∀ fields : List (Key × Value),
    Value.canonFields fields l = (Entries.get? l fields).map Value.canon
  | [] => rfl
  | (k, v) :: rest => by
    rw [Value.canonFields, Entries.get?, Value.canonFields_eq l rest]
    split <;> rfl

/-! ## Numbers -/

theorem Double.canon_of_rational? {x : Double} {q : ℚ} (h : x.rational? = some q) : x.canon = .number q := by
  unfold Double.canon
  rw [h]

theorem Double.canon_infinity (s : Bool) : (Double.number s Place.infinity).canon = .infinity s := rfl

/-- A float is finite, infinite or not a number. -/
theorem Double.trichotomy (x : Double) :
    (∃ q, x.rational? = some q) ∨ (∃ s, x = .number s Place.infinity) ∨ x = .nan := by
  cases x with
  | nan => exact .inr (.inr rfl)
  | number s p =>
    by_cases h : p = Place.infinity
    · exact .inr (.inl ⟨s, by rw [h]⟩)
    · exact .inl ⟨_, Double.rational?_number s h⟩

theorem Double.rational?_eq_some_iff (x : Double) (q : ℚ) : x.rational? = some q ↔ x.canon = .number q := by
  refine ⟨Double.canon_of_rational?, fun h => ?_⟩
  rcases x.trichotomy with ⟨r, hr⟩ | ⟨s, rfl⟩ | rfl
  · rw [Double.canon_of_rational? hr] at h
    rw [hr, Canon.number.inj h]
  · cases h
  · cases h

theorem Double.same_iff_canon_of_rational? {x : Double} {q : ℚ} (h : x.rational? = some q) (y : Double) :
    x.same y = true ↔ x.canon = y.canon := by
  rw [Double.same_iff_rational? h, Double.rational?_eq_some_iff, Double.canon_of_rational? h, eq_comm]

theorem Double.same_iff_canon (x y : Double) : x.same y = true ↔ x.canon = y.canon := by
  rcases x.trichotomy with ⟨q, hq⟩ | ⟨s, rfl⟩ | rfl
  · exact Double.same_iff_canon_of_rational? hq y
  all_goals rcases y.trichotomy with ⟨r, hr⟩ | ⟨t, rfl⟩ | rfl
  case inr.inl.inl | inr.inr.inl =>
    have hiff := Double.same_iff_canon_of_rational? hr
    exact ⟨fun h => ((hiff _).1 (Double.same_symm h)).symm, fun h => Double.same_symm ((hiff _).2 h.symm)⟩
  case inr.inl.inr.inl =>
    rw [Double.canon_infinity, Double.canon_infinity, Double.same, decide_eq_true_eq, Double.rank_infinity_eq_iff,
      Canon.infinity.injEq]
  case inr.inr.inr.inr => exact ⟨fun _ => rfl, fun _ => rfl⟩
  all_goals constructor <;> rintro ⟨⟩

theorem Double.equalsInt_iff_canon (x : Double) (i : Int64) : x.equalsInt i = true ↔ x.canon = .number i.toInt := by
  rw [Double.equalsInt_iff_rational?, Double.rational?_eq_some_iff]

/-- The forms that a float can have. -/
def Canon.isNumeric : Canon → Bool
  | .number _ | .infinity _ | .nan => true
  | _ => false

theorem Double.isNumeric_canon (x : Double) : x.canon.isNumeric = true := by
  rcases x.trichotomy with ⟨q, hq⟩ | ⟨s, rfl⟩ | rfl
  · rw [Double.canon_of_rational? hq]
    rfl
  · rfl
  · rfl

theorem Double.ne_canon {c : Canon} (h : c.isNumeric = false) (x : Double) : c ≠ x.canon := fun he => by
  rw [he, x.isNumeric_canon] at h
  cases h

/-! ## Sequences and maps -/

/-- Two sequences are equal when their elements are, one by one. -/
theorem Value.sameItems_iff_canon : ∀ {vs ws : List Value},
    (∀ v ∈ vs, ∀ w ∈ ws, v.same w = true ↔ v.canon = w.canon) →
      (Value.sameItems vs ws = true ↔ Value.canonItems vs = Value.canonItems ws)
  | [], [], _ => ⟨fun _ => rfl, fun _ => rfl⟩
  | [], _ :: _, _ => ⟨nofun, nofun⟩
  | _ :: _, [], _ => ⟨nofun, nofun⟩
  | v :: vs, w :: ws, h => by
    have hrest : ∀ x ∈ vs, ∀ y ∈ ws, x.same y = true ↔ x.canon = y.canon := fun x hx y hy =>
      h x (List.mem_cons_of_mem v hx) y (List.mem_cons_of_mem w hy)
    rw [Value.sameItems_cons, Bool.and_eq_true, h v List.mem_cons_self w List.mem_cons_self,
      Value.sameItems_iff_canon hrest, Value.canonItems, Value.canonItems, List.cons.injEq]

theorem Value.sameFields_iff (b : List (Key × Value)) : ∀ a : List (Key × Value),
    Value.sameFields a b = true ↔ ∀ f ∈ a, ∃ w, Entries.get? f.1 b = some w ∧ f.2.same w = true
  | [] => by simp [Value.sameFields]
  | (k, v) :: rest => by
    rw [Value.sameFields_cons, Bool.and_eq_true, Value.sameFields_iff b rest, List.forall_mem_cons]
    refine and_congr_left fun _ => ?_
    cases Entries.get? k b <;> simp

/-- Two maps are equal when they are as big and have, in some order, equal values under the same keys. -/
theorem Value.exists_perm_of_same_map {a b : List (Key × Value)} (ha : (Entries.keys a).Nodup)
    (h : (Value.map a).same (.map b) = true) :
    ∃ g : Key × Value → Value, (∀ f ∈ a, f.2.same (g f) = true) ∧ (a.map fun f => (f.1, g f)).Perm b := by
  rw [Value.same_map, Bool.and_eq_true, beq_iff_eq, Value.sameFields_iff] at h
  exact Entries.exists_perm_of_matched (R := fun v w => v.same w = true) ha h.1 h.2

theorem Value.mem_keys_iff_of_same_map {a b : List (Key × Value)} (ha : (Entries.keys a).Nodup)
    (h : (Value.map a).same (.map b) = true) (k : Key) : k ∈ Entries.keys a ↔ k ∈ Entries.keys b := by
  obtain ⟨g, -, hperm⟩ := Value.exists_perm_of_same_map ha h
  rw [← Entries.keys_map g a]
  exact (hperm.map Prod.fst).mem_iff

theorem Value.mem_keys_iff_canonFields (k : Key) (fields : List (Key × Value)) :
    k ∈ Entries.keys fields ↔ Value.canonFields fields k ≠ none := by
  rw [Value.canonFields_eq, Ne, Option.map_eq_none_iff, Entries.get?_eq_none_iff, not_not]

theorem Value.same_map_iff_canon {a b : List (Key × Value)} (ha : (Entries.keys a).Nodup) (hb : (Entries.keys b).Nodup)
    (h : ∀ f ∈ a, ∀ g ∈ b, f.2.same g.2 = true ↔ f.2.canon = g.2.canon) :
    (Value.map a).same (.map b) = true ↔ Value.canonFields a = Value.canonFields b := by
  constructor
  · intro hsame
    obtain ⟨g, hg, hperm⟩ := Value.exists_perm_of_same_map ha hsame
    have hcanon : ∀ f ∈ a, (g f).canon = f.2.canon := fun f hf =>
      ((h f hf _ (hperm.subset (List.mem_map_of_mem hf))).1 (hg f hf)).symm
    funext k
    have hkeys : (Entries.keys (a.map fun f => (f.1, g f))).Nodup := by
      rw [Entries.keys_map]
      exact ha
    rw [Value.canonFields_eq, Value.canonFields_eq, ← Entries.get?_perm hperm hkeys, Entries.get?_map_congr k hcanon]
  · intro hcanon
    have hkeys : ∀ k, k ∈ Entries.keys a ↔ k ∈ Entries.keys b := fun k => by
      rw [Value.mem_keys_iff_canonFields, Value.mem_keys_iff_canonFields, hcanon]
    rw [Value.same_map, Bool.and_eq_true, beq_iff_eq, Value.sameFields_iff]
    refine ⟨Entries.length_eq_of_mem_keys_iff ha hb hkeys, fun f hf => ?_⟩
    have hunder : (Entries.get? f.1 b).map Value.canon = some f.2.canon := by
      rw [← Value.canonFields_eq, ← hcanon, Value.canonFields_eq, Entries.get?_of_mem ha hf, Option.map_some]
    obtain ⟨w, hw, hwcanon⟩ := Option.map_eq_some_iff.1 hunder
    exact ⟨w, hw, (h f hf _ (Entries.mem_of_get? hw)).2 hwcanon.symm⟩

/-! ## Values -/

theorem Value.same_iff_canon (v : Value) : ∀ {w : Value}, v.isDistinct = true → w.isDistinct = true →
    (v.same w = true ↔ v.canon = w.canon) := by
  -- a value of another sort has another form; only a float has to be looked at to see which form that is
  induction v using Value.descent with
  | seq vs ih =>
    intro w hv hw
    rw [Value.isDistinct_seq] at hv
    cases w with
    | seq ws =>
      rw [Value.isDistinct_seq] at hw
      rw [Value.same_seq, Value.canon, Value.canon, Canon.seq.injEq]
      exact Value.sameItems_iff_canon fun x hx y hy => ih x hx (hv x hx) (hw y hy)
    | float y => exact ⟨nofun, fun h => absurd h (y.ne_canon rfl)⟩
    | _ => exact ⟨nofun, nofun⟩
  | map a ih =>
    intro w hv hw
    rw [Value.isDistinct_map] at hv
    cases w with
    | map b =>
      rw [Value.isDistinct_map] at hw
      rw [Value.canon, Value.canon, Canon.map.injEq]
      exact Value.same_map_iff_canon hv.1 hw.1 fun f hf g hg => ih f hf (hv.2 f hf) (hw.2 g hg)
    | float y => exact ⟨nofun, fun h => absurd h (y.ne_canon rfl)⟩
    | _ => exact ⟨nofun, nofun⟩
  | int i =>
    intro w _ _
    cases w with
    | int j =>
      rw [Value.same_int, beq_iff_eq, Value.canon, Value.canon, Canon.number.injEq, Int.cast_inj, Int64.toInt_inj]
    | float y => rw [Value.same_int_float, Double.equalsInt_iff_canon, eq_comm, Value.canon, Value.canon]
    | _ => exact ⟨nofun, nofun⟩
  | float x =>
    intro w _ _
    cases w with
    | int j => rw [Value.same_float_int, Double.equalsInt_iff_canon, Value.canon, Value.canon]
    | float y => rw [Value.same_float, Double.same_iff_canon, Value.canon, Value.canon]
    | _ => exact ⟨nofun, fun h => absurd h.symm (x.ne_canon rfl)⟩
  | null | bool _ | str _ | sym _ =>
    intro w _ _
    cases w with
    | float y => exact ⟨nofun, fun h => absurd h (y.ne_canon rfl)⟩
    | _ => simp [Value.same, Value.canon]

theorem Value.same_refl {v : Value} (hv : v.isDistinct = true) : v.same v = true := (v.same_iff_canon hv hv).2 rfl

theorem Value.same_symm {v w : Value} (hv : v.isDistinct = true) (hw : w.isDistinct = true) (h : v.same w = true) :
    w.same v = true := (w.same_iff_canon hw hv).2 ((v.same_iff_canon hv hw).1 h).symm

/-- Equal values are equal to the same values. -/
theorem Value.same_congr {u v w : Value} (hu : u.isDistinct = true) (hv : v.isDistinct = true)
    (hw : w.isDistinct = true) (h : v.same w = true) : u.same v = u.same w := by
  rw [Bool.eq_iff_iff, u.same_iff_canon hu hv, u.same_iff_canon hu hw, (v.same_iff_canon hv hw).1 h]

/-- **Values are equal exactly when they have one canonical form**, so equality of values is an equivalence relation. -/
theorem same_iff_canon_eq :
    (∀ v w : Value, v.isDistinct = true → w.isDistinct = true → (v.same w = true ↔ v.canon = w.canon)) ∧
    Equivalence fun v w : {v : Value // v.isDistinct = true} => v.1.same w.1 = true := by
  refine ⟨fun v w hv hw => v.same_iff_canon hv hw, fun v => Value.same_refl v.2, fun {v w} h => ?_,
    fun {u v w} h k => ?_⟩
  · exact Value.same_symm v.2 w.2 h
  · rw [← Value.same_congr u.2 v.2 w.2 k]
    exact h

/-- An integer past 2^53, next to a float that is whole, in maps of another order. -/
theorem same_iff_canon_eq_in_maps :
    let v : Value := .map [(.str "a", .int 9007199254740993), (.sym "a", .seq [.int 1, .float .nan])]
    let w : Value := .map [(.sym "a", .seq [.float (Double.ofInt 1), .float .nan]), (.str "a", .int 9007199254740993)]
    v.isDistinct = true ∧ w.isDistinct = true ∧ v.same w = true ∧ v.canon = w.canon := by
  intro v w
  have hsame : v.same w = true := by decide +kernel
  exact ⟨rfl, rfl, hsame, (same_iff_canon_eq.1 v w rfl rfl).1 hsame⟩

end SchemaCheck
