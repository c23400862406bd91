import Mathlib.Data.List.Forall2
/-!
# Results — computations that may fail, and related lists

When a computation that may fail succeeds, and when it fails, told by its parts: one that goes on with a result
(`bind_eq_ok_iff`, `bind_eq_error_iff`), and a run through a list, which succeeds on every element or fails with the
fault of the first one that fails (`mapM_eq_ok_iff`, `mapM_eq_error_iff`).
-/
namespace SchemaCheck

/-! ## Related lists -/

/-- What holds of all that the elements of a list are related to holds of all that the list is related to. -/
theorem forall_mem_of_forall₂ {α β : Type} {R : α → β → Prop} {P : β → Prop} {as : List α} {bs : List β}
    (h : List.Forall₂ R as bs) (hP : ∀ a ∈ as, ∀ b, R a b → P b) : ∀ b ∈ bs, P b := by
  induction h with
  | nil => exact List.forall_mem_nil P
  | cons hr _ ih =>
    have hrest := ih fun a ha => hP a (List.mem_cons_of_mem _ ha)
    exact List.forall_mem_cons.2 ⟨hP _ List.mem_cons_self _ hr, hrest⟩

theorem exists_mem_of_forall₂ {α β : Type} {R : α → β → Prop} {as : List α} {bs : List β} (h : List.Forall₂ R as bs) :
    ∀ a ∈ as, ∃ b ∈ bs, R a b :=
  forall_mem_of_forall₂ h.flip fun b hb _ hr => ⟨b, hb, hr⟩

/-- A relation between lists implies another if it does for what stands in the lists. -/
theorem forall₂_imp_of_mem {α β : Type} {R S : α → β → Prop} {as : List α} {bs : List β} (h : List.Forall₂ R as bs)
    (hRS : ∀ a ∈ as, ∀ b ∈ bs, R a b → S a b) : List.Forall₂ S as bs := by
  induction h with
  | nil => exact .nil
  | cons hr _ ih =>
    refine .cons (hRS _ List.mem_cons_self _ List.mem_cons_self hr) (ih fun a ha b hb => ?_)
    exact hRS a (List.mem_cons_of_mem _ ha) b (List.mem_cons_of_mem _ hb)

theorem forall₂_of_map_eq {α β γ : Type} {f : α → γ} {g : β → γ} {as : List α} {bs : List β}
    (h : as.map f = bs.map g) : List.Forall₂ (fun a b => f a = g b) as bs := by
  rw [← List.forall₂_map_left_iff (R := fun c b => c = g b), h, List.forall₂_map_left_iff]
  exact List.forall₂_same.2 fun _ _ => rfl

theorem map_eq_of_forall₂ {α β γ : Type} {f : α → γ} {g : β → γ} {as : List α} {bs : List β}
    (h : List.Forall₂ (fun a b => f a = g b) as bs) : as.map f = bs.map g := by
  induction h with
  | nil => rfl
  | cons hab _ ih => rw [List.map_cons, List.map_cons, hab, ih]

/-- In related lists the same is found, if related elements are chosen and seen alike. -/
theorem find?_map_of_forall₂ {α β γ : Type} {R : α → β → Prop} {p : α → Bool} {q : β → Bool} {f : α → γ} {g : β → γ}
    {as : List α} {bs : List β} (h : List.Forall₂ R as bs) (hR : ∀ a b, R a b → p a = q b ∧ f a = g b) :
    (as.find? p).map f = (bs.find? q).map g := by
  induction h with
  | nil => rfl
  | @cons a b _ _ hab _ ih =>
    obtain ⟨hp, hf⟩ := hR a b hab
    rw [List.find?_cons, List.find?_cons, hp]
    cases q b with
    | true => exact congrArg some hf
    | false => exact ih

/-- Lists are related when both are related to a third one, element by element. -/
theorem forall₂_trans_of_mem {α β γ : Type} {R : α → β → Prop} {S : β → γ → Prop} {T : α → γ → Prop} {as : List α}
    {bs : List β} {cs : List γ} (hR : List.Forall₂ R as bs) (hS : List.Forall₂ S bs cs)
    (h : ∀ a ∈ as, ∀ b ∈ bs, ∀ c, R a b → S b c → T a c) : List.Forall₂ T as cs := by
  induction hR generalizing cs with
  | nil =>
    obtain rfl := List.forall₂_nil_left_iff.1 hS
    exact .nil
  | cons hab _ ih =>
    obtain ⟨c, tail, hbc, htail, rfl⟩ := List.forall₂_cons_left_iff.1 hS
    refine .cons (h _ List.mem_cons_self _ List.mem_cons_self c hab hbc) (ih htail fun a ha b hb => ?_)
    exact h a (List.mem_cons_of_mem _ ha) b (List.mem_cons_of_mem _ hb)

theorem exists_forall₂_iff {α β : Type} {R : α → β → Prop} : ∀ as : List α,
    (∃ bs, List.Forall₂ R as bs) ↔ ∀ a ∈ as, ∃ b, R a b
  | [] => by simp
  | a :: rest => by
    simp only [List.forall₂_cons_left_iff, List.forall_mem_cons, ← exists_forall₂_iff rest]
    constructor
    · rintro ⟨bs, b, cs, hb, hcs, -⟩
      exact ⟨⟨b, hb⟩, cs, hcs⟩
    · rintro ⟨⟨b, hb⟩, cs, hcs⟩
      exact ⟨b :: cs, b, cs, hb, hcs, rfl⟩

/-- What a list is related to falls apart as the list does. -/
theorem exists_split_of_forall₂ {α β : Type} {R : α → β → Prop} {a : α} {as : List α} : ∀ (pre : List α) {bs : List β},
    List.Forall₂ R (pre ++ a :: as) bs → ∃ lead b cs, bs = lead ++ b :: cs ∧ R a b ∧ List.Forall₂ R as cs
  | [], _, h => by
    obtain ⟨b, cs, hb, hcs, rfl⟩ := List.forall₂_cons_left_iff.1 h
    exact ⟨[], b, cs, rfl, hb, hcs⟩
  | _ :: pre, _, h => by
    obtain ⟨x, xs, -, hxs, rfl⟩ := List.forall₂_cons_left_iff.1 h
    obtain ⟨lead, b, cs, rfl, hb, hcs⟩ := exists_split_of_forall₂ pre hxs
    exact ⟨x :: lead, b, cs, rfl, hb, hcs⟩

/-! ## Computations that may fail -/

section Results

variable {ε α β : Type}

theorem map_eq_ok_iff {f : α → β} {r : Except ε α} {b : β} : r.map f = .ok b ↔ ∃ a, r = .ok a ∧ f a = b := by
  cases r <;> simp [Except.map]

theorem bind_eq_ok_iff {f : α → Except ε β} {r : Except ε α} {b : β} :
    r.bind f = .ok b ↔ ∃ a, r = .ok a ∧ f a = .ok b := by
  cases r <;> simp [Except.bind]

theorem map_eq_error_iff {f : α → β} {r : Except ε α} {e : ε} : r.map f = .error e ↔ r = .error e := by
  cases r <;> simp [Except.map]

theorem bind_eq_error_iff {f : α → Except ε β} {r : Except ε α} {e : ε} :
    r.bind f = .error e ↔ r = .error e ∨ ∃ a, r = .ok a ∧ f a = .error e := by
  cases r <;> simp [Except.bind]

theorem toOption_eq_some_iff {r : Except ε α} {a : α} : r.toOption = some a ↔ r = .ok a := by
  cases r <;> simp [Except.toOption]

theorem mapM_eq_ok_iff {f : α → Except ε β} (as : List α) : ∀ bs : List β,
    as.mapM f = .ok bs ↔ List.Forall₂ (fun a b => f a = .ok b) as bs := by
  induction as with
  | nil =>
    intro bs
    cases bs <;> simp [pure, Except.pure]
  | cons a rest ih =>
    intro bs
    have hcons : (a :: rest).mapM f = (f a).bind fun b => (rest.mapM f).bind fun cs => .ok (b :: cs) := List.mapM_cons
    simp only [hcons, bind_eq_ok_iff, ih, List.forall₂_cons_left_iff, Except.ok.injEq]
    constructor
    · rintro ⟨b, hb, cs, hcs, rfl⟩
      exact ⟨b, cs, hb, hcs, rfl⟩
    · rintro ⟨b, cs, hb, hcs, rfl⟩
      exact ⟨b, hb, cs, hcs, rfl⟩

theorem exists_mapM_eq_ok_iff {f : α → Except ε β} (as : List α) :
    (∃ bs, as.mapM f = .ok bs) ↔ ∀ a ∈ as, ∃ b, f a = .ok b := by
  simp only [mapM_eq_ok_iff]
  exact exists_forall₂_iff as

/-- A run through a list fails with the fault of the first element that fails. -/
theorem mapM_eq_error_iff {f : α → Except ε β} {e : ε} : ∀ as : List α, as.mapM f = .error e ↔
    ∃ pre a post, as = pre ++ a :: post ∧ f a = .error e ∧ ∀ x ∈ pre, ∃ b, f x = .ok b
  | [] => by simp [pure, Except.pure]
  | a :: rest => by
    have hcons : (a :: rest).mapM f = (f a).bind fun b => (rest.mapM f).bind fun bs => .ok (b :: bs) := List.mapM_cons
    cases ha : f a with
    | error e' =>
      rw [hcons, ha]
      constructor
      · intro h
        cases h
        exact ⟨[], a, rest, rfl, ha, List.forall_mem_nil _⟩
      · rintro ⟨pre, x, post, hsplit, hx, hpre⟩
        cases pre with
        | nil =>
          cases hsplit
          rw [ha] at hx
          cases hx
          rfl
        | cons y pre =>
          cases hsplit
          obtain ⟨b, hb⟩ := hpre _ List.mem_cons_self
          rw [ha] at hb
          cases hb
    | ok b =>
      have hrun : (a :: rest).mapM f = .error e ↔ rest.mapM f = .error e := by
        rw [hcons, ha]
        cases rest.mapM f <;> simp [Except.bind]
      rw [hrun, mapM_eq_error_iff rest]
      constructor
      · rintro ⟨pre, x, post, rfl, hx, hpre⟩
        exact ⟨a :: pre, x, post, rfl, hx, List.forall_mem_cons.2 ⟨⟨b, ha⟩, hpre⟩⟩
      · rintro ⟨pre, x, post, hsplit, hx, hpre⟩
        cases pre with
        | nil =>
          cases hsplit
          rw [ha] at hx
          cases hx
        | cons y pre =>
          cases hsplit
          exact ⟨pre, x, post, rfl, hx, (List.forall_mem_cons.1 hpre).2⟩

/-- A run through what another run has given is one run. -/
theorem mapM_eq_of_forall₂ {γ : Type} {f : α → Except ε β} (g : β → Except ε γ) {as : List α} {bs : List β}
    (h : List.Forall₂ (fun a b => f a = .ok b) as bs) : bs.mapM g = as.mapM fun a => (f a).bind g := by
  induction h with
  | nil => rfl
  | cons ha _ ih => rw [List.mapM_cons, List.mapM_cons, ih, ha, Except.bind]

end Results

end SchemaCheck
