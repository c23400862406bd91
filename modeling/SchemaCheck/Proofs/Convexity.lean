import Mathlib.Algebra.Order.Field.Rat
import Mathlib.Data.Rat.Lemmas
import Mathlib.Order.WithBot
import SchemaCheck.Interval
import SchemaCheck.Proofs.ExactNumber
/-!
# Convexity — intervals have no gaps

`Value.exact?` is what a number is, however it is held: a rational or an infinity.  Membership looks at the number that
this is rounded to, and rounding keeps the order of exact values (`Double.exactRank_mono`).  So an interval that holds
two numbers holds every number between them, and it holds both or neither of two numbers that are exactly one
(`contains_between`).
-/
namespace SchemaCheck

/-! ## Exact values -/

/-- The exact value among the rationals and both infinities; none for what is not a number. -/
def Double.exact? : Double → Option (WithBot (WithTop ℚ))
  | .nan => none
  | .number s p =>
    some (if p = Place.infinity then (if s then ⊥ else ⊤) else ((signedUnits s p / Place.unitsPerOne : ℚ) : WithTop ℚ))

/-- The exact value of a number, whether it is held as an integer or as a float. -/
def Value.exact? : Value → Option (WithBot (WithTop ℚ))
  | .int i => some ((i.toInt : ℚ) : WithTop ℚ)
  | .float x => x.exact?
  | _ => none

namespace Double

/-! ## Rounding -/

/-- The rank of the number that a rational is rounded to. -/
def roundedRank (q : ℚ) : Int := rank (decide (q.num < 0)) (Place.nearest q.num.natAbs q.den)

/-- The rank of the number that an exact value is rounded to. -/
def exactRank : WithBot (WithTop ℚ) → Int
  | none => rank true Place.infinity
  | some none => rank false Place.infinity
  | some (some q) => roundedRank q

theorem roundedRank_mono {q r : ℚ} (h : q ≤ r) : roundedRank q ≤ roundedRank r :=
  rank_nearest_mono q.den_pos r.den_pos ((Rat.le_iff q r).1 h)

theorem roundedRank_div (i : Int) {den : Nat} (h : 0 < den) :
    roundedRank (i / den) = rank (decide (i < 0)) (Place.nearest i.natAbs den) := by
  have hden : (den : ℚ) ≠ 0 := Nat.cast_ne_zero.2 (Nat.ne_of_gt h)
  have hsame : (i / den : ℚ).num * den = i * (i / den : ℚ).den := by
    have hmul : (i : ℚ) * (i / den : ℚ).den = (i / den : ℚ).num * den :=
      calc (i : ℚ) * (i / den : ℚ).den = (i / den) * den * (i / den : ℚ).den := by rw [div_mul_cancel₀ _ hden]
        _ = (i / den : ℚ).num * den := by rw [mul_right_comm, Rat.mul_den_eq_num]
    exact_mod_cast hmul.symm
  exact Int.le_antisymm (rank_nearest_mono (Rat.den_pos _) h (Int.le_of_eq hsame))
    (rank_nearest_mono h (Rat.den_pos _) (Int.le_of_eq hsame.symm))

/-- A number is not changed by rounding it. -/
theorem roundedRank_signedUnits (s : Bool) (p : Place) :
    roundedRank (signedUnits s p / Place.unitsPerOne) = rank s p := by
  have hnear : Place.nearest (signedUnits s p).natAbs Place.unitsPerOne = p :=
    Place.nearest_of_exact Place.unitsPerOne_pos (by rw [natAbs_signedUnits])
  have hsign : signedUnits (decide (signedUnits s p < 0)) p = signedUnits s p := by
    unfold signedUnits
    cases s with
    | false => rw [if_neg Bool.false_ne_true, decide_eq_false (Int.not_lt.2 (Int.natCast_nonneg _)),
        if_neg Bool.false_ne_true]
    | true =>
      by_cases hzero : p.units = 0
      · rw [hzero]
        rfl
      · rw [if_pos rfl, decide_eq_true (by omega), if_pos rfl]
  rw [roundedRank_div _ Place.unitsPerOne_pos, hnear, ← signedUnits_eq_iff, hsign]

theorem natAbs_rank_le (s : Bool) (p : Place) : (rank s p).natAbs ≤ Place.infinity.val := by
  have : p.val ≤ Place.infinity.val := Nat.le_of_lt_succ p.isLt
  unfold rank
  cases s <;> simp only [if_true, if_false, Bool.false_eq_true] <;> omega

theorem rank_infinity (s : Bool) :
    rank s Place.infinity = if s then -(Place.infinity.val : Int) else Place.infinity.val :=
  rfl

/-- **Rounding keeps the order of exact values.** -/
theorem exactRank_mono {a b : WithBot (WithTop ℚ)} (h : a ≤ b) : exactRank a ≤ exactRank b := by
  have hbounds (s : Bool) (p : Place) : rank true Place.infinity ≤ rank s p ∧ rank s p ≤ rank false Place.infinity := by
    have := natAbs_rank_le s p
    rw [rank_infinity, rank_infinity, if_pos rfl, if_neg Bool.false_ne_true]
    omega
  induction a using WithBot.recBotCoe with
  | bot =>
    induction b using WithBot.recBotCoe with
    | bot => exact Int.le_refl _
    | coe b =>
      induction b using WithTop.recTopCoe with
      | top => exact (hbounds _ _).1
      | coe r => exact (hbounds _ _).1
  | coe a =>
    induction b using WithBot.recBotCoe with
    | bot => exact absurd h (WithBot.bot_lt_coe a).not_ge
    | coe b =>
      rw [WithBot.coe_le_coe] at h
      induction b using WithTop.recTopCoe with
      | top =>
        induction a using WithTop.recTopCoe with
        | top => exact Int.le_refl _
        | coe q => exact (hbounds _ _).2
      | coe r =>
        induction a using WithTop.recTopCoe with
        | top => exact absurd h (WithTop.coe_lt_top r).not_ge
        | coe q => exact roundedRank_mono (WithTop.coe_le_coe.1 h)

/-! ## Order -/

variable {s t : Bool} {p q : Place}

theorem le_of_rank_le {x : Double} (h : rank s p ≤ rank t q) (hx : x.le (.number s p) = true) :
    x.le (.number t q) = true := by
  cases x with
  | nan => cases hx
  | number u r => exact decide_eq_true (Int.le_trans (of_decide_eq_true hx) h)

theorem le_of_le_rank {x : Double} (h : rank s p ≤ rank t q) (hx : le (.number t q) x = true) :
    le (.number s p) x = true := by
  cases x with
  | nan => cases hx
  | number u r => exact decide_eq_true (Int.le_trans h (of_decide_eq_true hx))

theorem lt_of_le_rank {x : Double} (h : rank s p ≤ rank t q) (hx : lt (.number t q) x = true) :
    lt (.number s p) x = true := by
  cases x with
  | nan => cases hx
  | number u r => exact decide_eq_true (Int.lt_of_le_of_lt h (of_decide_eq_true hx))

end Double

/-! ## Membership -/

open Double (rank exactRank)

/-- A number is compared as the number that its exact value is rounded to. -/
theorem Value.asDouble?_of_exact? {v : Value} {a : WithBot (WithTop ℚ)} (h : v.exact? = some a) :
    ∃ s p, v.asDouble? = some (.number s p) ∧ rank s p = exactRank a := by
  cases v with
  | int i =>
    cases h
    refine ⟨_, _, rfl, ?_⟩
    have hint := Double.roundedRank_div i.toInt Nat.one_pos
    rw [Nat.cast_one, div_one] at hint
    exact hint.symm
  | float x =>
    cases x with
    | nan => cases h
    | number s p =>
      refine ⟨s, p, rfl, ?_⟩
      cases h
      by_cases hp : p = Place.infinity
      · rw [if_pos hp, hp]
        cases s <;> rfl
      · rw [if_neg hp]
        exact (Double.roundedRank_signedUnits s p).symm
  | _ => cases h

theorem Interval.contains_iff_of_asDouble? {r : Interval} {v : Value} {s : Bool} {p : Place}
    (h : v.asDouble? = some (.number s p)) :
    r.contains v = true ↔ (∀ x ∈ r.start, x.le (.number s p) = true) ∧
      ∀ x ∈ r.stop, (if r.inclusive then Double.le (.number s p) x else Double.lt (.number s p) x) = true := by
  have hcontains : r.contains v = r.containsDouble (.number s p) := by
    rw [contains, h]
    rfl
  rw [hcontains, containsDouble, Bool.and_eq_true, Bool.and_eq_true, Option.all_eq_true, Option.all_eq_true]
  exact and_congr_left fun _ => and_iff_right rfl

/-- What lies between two members is a member. -/
theorem Interval.contains_of_between (r : Interval) {x y z : Value} {a b c : WithBot (WithTop ℚ)}
    (ha : x.exact? = some a) (hb : y.exact? = some b) (hc : z.exact? = some c) (hab : a ≤ b) (hbc : b ≤ c)
    (hx : r.contains x = true) (hz : r.contains z = true) : r.contains y = true := by
  obtain ⟨s, p, hxnumber, hxrank⟩ := Value.asDouble?_of_exact? ha
  obtain ⟨t, q, hynumber, hyrank⟩ := Value.asDouble?_of_exact? hb
  obtain ⟨u, o, hznumber, hzrank⟩ := Value.asDouble?_of_exact? hc
  have hlow : rank s p ≤ rank t q := by
    rw [hxrank, hyrank]
    exact Double.exactRank_mono hab
  have hhigh : rank t q ≤ rank u o := by
    rw [hyrank, hzrank]
    exact Double.exactRank_mono hbc
  rw [Interval.contains_iff_of_asDouble? hxnumber] at hx
  rw [Interval.contains_iff_of_asDouble? hznumber] at hz
  rw [Interval.contains_iff_of_asDouble? hynumber]
  -- the start is kept by the lower member, the end by the higher one
  refine ⟨fun bound hbound => Double.le_of_rank_le hlow (hx.1 bound hbound), fun bound hbound => ?_⟩
  have hstop := hz.2 bound hbound
  cases hinclusive : r.inclusive with
  | true =>
    rw [hinclusive, if_pos rfl] at hstop
    exact Double.le_of_le_rank hhigh hstop
  | false =>
    rw [hinclusive, if_neg Bool.false_ne_true] at hstop
    exact Double.lt_of_le_rank hhigh hstop

/-- **An interval has no gaps.**  It holds every number that lies, as its exact value is, between two numbers that it
holds, and it holds both or neither of two numbers that are exactly one, whether they are held as integers or as
floats. -/
theorem contains_between (r : Interval) :
    (∀ {x y z : Value} {a b c : WithBot (WithTop ℚ)}, x.exact? = some a → y.exact? = some b → z.exact? = some c →
      a ≤ b → b ≤ c → r.contains x = true → r.contains z = true → r.contains y = true) ∧
    ∀ {x y : Value} {a : WithBot (WithTop ℚ)}, x.exact? = some a → y.exact? = some a → r.contains x = r.contains y := by
  refine ⟨r.contains_of_between, fun {x y a} hx hy => Bool.eq_iff_iff.2 ⟨fun h => ?_, fun h => ?_⟩⟩
  · exact r.contains_of_between hx hy hx (le_refl a) (le_refl a) h h
  · exact r.contains_of_between hy hx hy (le_refl a) (le_refl a) h h

/-- An integer past 2^53 that is no float, between the floats on both sides of it, in an interval that ends at
infinity. -/
theorem contains_between_floats :
    let r : Interval := .halfOpen (Double.ofInt 9007199254740992) (.number false Place.infinity)
    let x : Value := .float (Double.ofInt 9007199254740992)
    let y : Value := .int 9007199254740993
    let z : Value := .float (Double.ofInt 9007199254740994)
    x.exact? = some ((9007199254740992 : ℚ) : WithTop ℚ) ∧ y.exact? = some ((9007199254740993 : ℚ) : WithTop ℚ) ∧
      z.exact? = some ((9007199254740994 : ℚ) : WithTop ℚ) ∧ r.contains x = true ∧ r.contains z = true ∧
      r.contains y = true := by
  intro r x y z
  have hx : x.exact? = some ((9007199254740992 : ℚ) : WithTop ℚ) := by decide +kernel
  have hy : y.exact? = some ((9007199254740993 : ℚ) : WithTop ℚ) := by decide +kernel
  have hz : z.exact? = some ((9007199254740994 : ℚ) : WithTop ℚ) := by decide +kernel
  have hrx : r.contains x = true := by decide +kernel
  have hrz : r.contains z = true := by decide +kernel
  have hxy : (((9007199254740992 : ℚ) : WithTop ℚ) : WithBot (WithTop ℚ)) ≤ ((9007199254740993 : ℚ) : WithTop ℚ) := by
    decide +kernel
  have hyz : (((9007199254740993 : ℚ) : WithTop ℚ) : WithBot (WithTop ℚ)) ≤ ((9007199254740994 : ℚ) : WithTop ℚ) := by
    decide +kernel
  exact ⟨hx, hy, hz, hrx, hrz, (contains_between r).1 hx hy hz hxy hyz hrx hrz⟩

end SchemaCheck
