import SchemaCheck.Interval
import SchemaCheck.Proofs.ExactNumber
/-!
# Membership — what an interval holds

An interval is asked about a number, not about how the number is held: equal intervals hold equal values
(`Interval.contains_eq_of_same`).  An integer is rounded before it is compared with the bounds, and one that equals a
float is rounded to this float.
-/
namespace SchemaCheck

namespace Double

theorem same_cases {x y : Double} (h : x.same y = true) :
    (x = .nan ∧ y = .nan) ∨ ∃ s p t q, x = .number s p ∧ y = .number t q ∧ rank s p = rank t q := by
  cases x with
  | nan =>
    cases y with
    | nan => exact .inl ⟨rfl, rfl⟩
    | number t q => cases h
  | number s p =>
    cases y with
    | nan => cases h
    | number t q => exact .inr ⟨s, p, t, q, rfl, rfl, of_decide_eq_true h⟩

theorem isNaN_eq_of_same {x y : Double} (h : x.same y = true) : x.isNaN = y.isNaN := by
  rcases same_cases h with ⟨rfl, rfl⟩ | ⟨s, p, t, q, rfl, rfl, -⟩ <;> rfl

theorem le_eq_of_same {x x' y y' : Double} (hx : x.same x' = true) (hy : y.same y' = true) : x.le y = x'.le y' := by
  rcases same_cases hx with ⟨rfl, rfl⟩ | ⟨s, p, t, q, rfl, rfl, hpq⟩
  · rfl
  · rcases same_cases hy with ⟨rfl, rfl⟩ | ⟨s', p', t', q', rfl, rfl, hpq'⟩
    · rfl
    · rw [le, le, hpq, hpq']

theorem lt_eq_of_same {x x' y y' : Double} (hx : x.same x' = true) (hy : y.same y' = true) : x.lt y = x'.lt y' := by
  rcases same_cases hx with ⟨rfl, rfl⟩ | ⟨s, p, t, q, rfl, rfl, hpq⟩
  · rfl
  · rcases same_cases hy with ⟨rfl, rfl⟩ | ⟨s', p', t', q', rfl, rfl, hpq'⟩
    · rfl
    · rw [lt, lt, hpq, hpq']

end Double

/-- Equal values are equal as numbers, if they are numbers. -/
theorem Value.asDouble?_of_same {v w : Value} (h : v.same w = true) :
    (v.asDouble? = none ∧ w.asDouble? = none) ∨
      ∃ x y, v.asDouble? = some x ∧ w.asDouble? = some y ∧ x.same y = true := by
  cases v with
  | int i =>
    cases w with
    | int j =>
      rw [Value.same_int, beq_iff_eq] at h
      exact .inr ⟨_, _, rfl, rfl, h ▸ Double.same_refl _⟩
    | float y =>
      rw [Value.same_int_float, Double.equalsInt_iff_rational?] at h
      exact .inr ⟨_, _, rfl, rfl, Double.ofInt_same_of_rational? h⟩
    | _ => cases h
  | float x =>
    cases w with
    | int j =>
      rw [Value.same_float_int, Double.equalsInt_iff_rational?] at h
      exact .inr ⟨_, _, rfl, rfl, Double.same_symm (Double.ofInt_same_of_rational? h)⟩
    | float y => exact .inr ⟨_, _, rfl, rfl, h⟩
    | _ => cases h
  | _ =>
    cases w with
    | int _ | float _ => cases h
    | _ => exact .inl ⟨rfl, rfl⟩

namespace Interval

/-- Two bounds are compared with a number alike when they are equal. -/
theorem all_eq_of_sameBound {b c : Option Double} {p q : Double → Bool} (h : sameBound b c = true)
    (hpq : ∀ x y, x.same y = true → p x = q y) : b.all p = c.all q := by
  cases b <;> cases c
  case none.none => rfl
  case some.some x y => exact hpq x y h
  all_goals cases h

theorem containsDouble_eq_of_same {r s : Interval} {x y : Double} (hr : r.same s = true) (hx : x.same y = true) :
    r.containsDouble x = s.containsDouble y := by
  rw [same, Bool.and_eq_true, Bool.and_eq_true, beq_iff_eq] at hr
  obtain ⟨⟨hstart, hstop⟩, hinclusive⟩ := hr
  rw [containsDouble, containsDouble, Double.isNaN_eq_of_same hx,
    all_eq_of_sameBound hstart fun a b hab => Double.le_eq_of_same hab hx,
    all_eq_of_sameBound hstop fun a b hab => by
      rw [Double.le_eq_of_same hx hab, Double.lt_eq_of_same hx hab, hinclusive]]

/-- **Equal intervals hold equal values.** -/
theorem contains_eq_of_same {r s : Interval} {v w : Value} (hr : r.same s = true) (h : v.same w = true) :
    r.contains v = s.contains w := by
  rw [contains, contains]
  rcases Value.asDouble?_of_same h with ⟨hv, hw⟩ | ⟨x, y, hv, hw, hxy⟩
  · rw [hv, hw]
    rfl
  · rw [hv, hw]
    exact containsDouble_eq_of_same hr hxy

theorem same_refl (r : Interval) : r.same r = true := by
  have hbound : ∀ b : Option Double, sameBound b b = true := fun b => by
    cases b with
    | none => rfl
    | some x => exact Double.same_refl x
  rw [same, hbound, hbound, beq_self_eq_true]
  rfl

end Interval
end SchemaCheck
