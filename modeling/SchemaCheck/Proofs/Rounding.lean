import Mathlib.Order.Monotone.Basic
import Mathlib.Tactic.Ring
import SchemaCheck.Number.Double
/-!
# Rounding — which quotients are rounded to a place

`unitsAt` continues the magnitudes past infinity, each one step of its scale before the next one (`unitsAt_succ`).  A
quotient is rounded to a place or to one before it exactly when it lies before the middle between this place and the
next one, or in the middle of an even place and the next one (`nearest_le_iff`).  So rounding keeps the order of
quotients (`nearest_le_nearest`) and depends on the quotient alone (`nearest_congr`), and a quotient between the middles
before and after a place is rounded to it (`nearest_of_reaches`).
-/
namespace SchemaCheck
namespace Place

/-! ## Magnitudes past infinity -/

/-- The magnitude at a place, in units of 2^-1074, as if the places went on for ever. -/
def unitsAt (n : Nat) : Nat := (if n < binade then n else binade + n % binade) * 2 ^ (n / binade - 1)

theorem unitsPerOne_eq {k : Nat} (h : k = 1074) : unitsPerOne = 2 ^ k := by
  subst h
  decide +kernel

theorem units_eq_unitsAt (p : Place) : p.units = unitsAt p.val := rfl

/-- Over one scale, magnitudes are the multiples of its step. -/
theorem unitsAt_step {k m : Nat} (hm : m ≤ 2 * binade) (hk : k = 0 ∨ binade ≤ m) :
    unitsAt (k * binade + m) = m * 2 ^ k := by
  unfold unitsAt
  unfold binade at *
  by_cases hlow : m < 0x10000000000000
  · have hk0 : k = 0 := hk.resolve_right (by omega)
    subst hk0
    rw [if_pos (by omega), show (0 * 0x10000000000000 + m) / 0x10000000000000 - 1 = 0 by omega, Nat.zero_mul,
      Nat.zero_add]
  · rw [if_neg (by omega)]
    by_cases hlast : m = 2 * 0x10000000000000
    · subst hlast
      rw [show (k * 0x10000000000000 + 2 * 0x10000000000000) / 0x10000000000000 - 1 = k + 1 by omega,
        show (k * 0x10000000000000 + 2 * 0x10000000000000) % 0x10000000000000 = 0 by omega, Nat.pow_succ]
      omega
    · rw [show (k * 0x10000000000000 + m) / 0x10000000000000 - 1 = k by omega,
        show 0x10000000000000 + (k * 0x10000000000000 + m) % 0x10000000000000 = m by omega]

/-- **The next magnitude is one step of the scale further on.** -/
theorem unitsAt_succ (n : Nat) : unitsAt (n + 1) = unitsAt n + 2 ^ (n / binade - 1) := by
  by_cases h : n < binade
  · have hstep := fun m (hm : m ≤ 2 * binade) => unitsAt_step hm (k := 0) (.inl rfl)
    simp only [Nat.zero_mul, Nat.zero_add, Nat.pow_zero, Nat.mul_one] at hstep
    rw [hstep n (by omega), hstep (n + 1) (by unfold binade at *; omega),
      show n / binade - 1 = 0 by rw [Nat.div_eq_of_lt h], Nat.pow_zero]
  · obtain ⟨k, m, hm, hmlt, rfl⟩ : ∃ k m, binade ≤ m ∧ m < 2 * binade ∧ n = k * binade + m :=
      ⟨n / binade - 1, binade + n % binade, by omega, by unfold binade; omega, by unfold binade at *; omega⟩
    rw [Nat.add_assoc, unitsAt_step (by omega) (.inr (by omega)), unitsAt_step (by omega) (.inr hm),
      show (k * binade + m) / binade - 1 = k by unfold binade at *; omega, Nat.succ_mul]

theorem unitsAt_strictMono : StrictMono unitsAt :=
  strictMono_nat_of_lt_succ fun n => by
    have := Nat.two_pow_pos (n / binade - 1)
    rw [unitsAt_succ]
    omega

/-! ## Rounding a quotient -/

theorem roundEven_le_iff {num den : Nat} (h : 0 < den) (n : Nat) :
    roundEven num den ≤ n ↔ 2 * num < (2 * n + 1) * den ∨ 2 * num = (2 * n + 1) * den ∧ n % 2 = 0 := by
  have hdiv : den * (num / den) + num % den = num := Nat.div_add_mod num den
  have hmod : num % den < den := Nat.mod_lt num h
  have hexpand : (2 * n + 1) * den = 2 * (den * n) + den := by ring
  unfold roundEven
  rw [hexpand]
  rcases Nat.lt_trichotomy n (num / den) with hlt | heq | hgt
  · have : den * (n + 1) ≤ den * (num / den) := Nat.mul_le_mul_left den hlt
    rw [Nat.mul_succ] at this
    dsimp only
    split_ifs <;> omega
  · subst heq
    dsimp only
    split_ifs <;> omega
  · have : den * (num / den + 1) ≤ den * n := Nat.mul_le_mul_left den hgt
    rw [Nat.mul_succ] at this
    dsimp only
    split_ifs <;> omega

theorem le_roundEven {num den n : Nat} (h : 0 < den) (hn : n * den ≤ num) : n ≤ roundEven num den := by
  have hq : n ≤ num / den := (Nat.le_div_iff_mul_le h).2 hn
  unfold roundEven
  dsimp only
  split_ifs <;> omega

theorem roundEven_le {num den n : Nat} (h : 0 < den) (hn : num ≤ n * den) : roundEven num den ≤ n := by
  rw [roundEven_le_iff h, Nat.add_mul, Nat.one_mul, Nat.mul_assoc]
  omega

/-- The quotient, in units of 2^-1074, lies before the middle between the magnitudes at this place and at the next one,
or in the middle if the place is even. -/
def Reaches (units den n : Nat) : Prop :=
  2 * units < (unitsAt n + unitsAt (n + 1)) * den ∨ 2 * units = (unitsAt n + unitsAt (n + 1)) * den ∧ n % 2 = 0

/-- The place of a quotient, if places went on for ever. -/
def placeOf (units den : Nat) : Nat :=
  let step := Nat.log2 (units / den) - 52
  step * binade + roundEven units (den * 2 ^ step)

theorem nearest_eq (num den : Nat) : nearest num den = ofNat (placeOf (num * unitsPerOne) den) := rfl

/-- A quotient is less than 2^53 steps of its scale, and not less than 2^52 unless the scale is the first one. -/
theorem quotient_bounds (units : Nat) {den : Nat} (h : 0 < den) :
    units < 2 * binade * (den * 2 ^ (Nat.log2 (units / den) - 52)) ∧
      (Nat.log2 (units / den) - 52 = 0 ∨ binade * (den * 2 ^ (Nat.log2 (units / den) - 52)) ≤ units) := by
  have hfloor : units / den < 2 ^ (Nat.log2 (units / den) + 1) := Nat.lt_log2_self
  have hupper : 2 ^ (Nat.log2 (units / den) + 1) ≤ 2 * binade * 2 ^ (Nat.log2 (units / den) - 52) :=
    calc 2 ^ (Nat.log2 (units / den) + 1) ≤ 2 ^ (53 + (Nat.log2 (units / den) - 52)) :=
          Nat.pow_le_pow_right (by decide) (by omega)
      _ = 2 * binade * 2 ^ (Nat.log2 (units / den) - 52) := Nat.pow_add 2 53 _
  refine ⟨?_, ?_⟩
  · have := (Nat.div_lt_iff_lt_mul h).1 (Nat.lt_of_lt_of_le hfloor hupper)
    rwa [Nat.mul_assoc, Nat.mul_comm (2 ^ _)] at this
  · by_cases hk : Nat.log2 (units / den) - 52 = 0
    · exact .inl hk
    · have hne : units / den ≠ 0 := fun h0 => hk (by rw [h0]; rfl)
      have hlower : binade * 2 ^ (Nat.log2 (units / den) - 52) ≤ units / den :=
        calc binade * 2 ^ (Nat.log2 (units / den) - 52) = 2 ^ (52 + (Nat.log2 (units / den) - 52)) :=
              (Nat.pow_add 2 52 _).symm
          _ = 2 ^ Nat.log2 (units / den) := by rw [show 52 + (Nat.log2 (units / den) - 52) = Nat.log2 (units / den) by omega]
          _ ≤ units / den := Nat.log2_self_le hne
      have := (Nat.le_div_iff_mul_le h).1 hlower
      rw [Nat.mul_assoc, Nat.mul_comm (2 ^ _)] at this
      exact .inr this

theorem placeOf_le_iff (units : Nat) {den : Nat} (h : 0 < den) (n : Nat) :
    placeOf units den ≤ n ↔ Reaches units den n := by
  obtain ⟨hupper, hlower⟩ := quotient_bounds units h
  unfold placeOf Reaches
  dsimp only
  generalize Nat.log2 (units / den) - 52 = k at hupper hlower
  have hstep : 0 < den * 2 ^ k := Nat.mul_pos h (Nat.two_pow_pos k)
  have hnext : unitsAt n < unitsAt (n + 1) := unitsAt_strictMono (Nat.lt_succ_self n)
  by_cases hbelow : k ≠ 0 ∧ n < k * binade + binade
  · -- the place is before those of the scale
    have hlow := hlower.resolve_left hbelow.1
    have hleast : binade ≤ roundEven units (den * 2 ^ k) := le_roundEven hstep hlow
    have hmost : unitsAt (n + 1) ≤ binade * 2 ^ k := by
      rw [← unitsAt_step (k := k) (m := binade) (by omega) (.inr (Nat.le_refl _))]
      exact unitsAt_strictMono.monotone (by omega)
    have hsum : (unitsAt n + unitsAt (n + 1)) * den < 2 * units :=
      calc (unitsAt n + unitsAt (n + 1)) * den < (2 * (binade * 2 ^ k)) * den :=
            Nat.mul_lt_mul_of_pos_right (by omega) h
        _ = 2 * (binade * (den * 2 ^ k)) := by ring
        _ ≤ 2 * units := Nat.mul_le_mul_left 2 hlow
    exact iff_of_false (by omega) (by omega)
  by_cases habove : k * binade + 2 * binade ≤ n
  · -- the place is past those of the scale
    have hmost : roundEven units (den * 2 ^ k) ≤ 2 * binade := roundEven_le hstep (Nat.le_of_lt hupper)
    have hleast : 2 * binade * 2 ^ k ≤ unitsAt n := by
      rw [← unitsAt_step (k := k) (m := 2 * binade) (by omega) (.inr (by omega))]
      exact unitsAt_strictMono.monotone habove
    have hsum : 2 * units < (unitsAt n + unitsAt (n + 1)) * den :=
      calc 2 * units < 2 * (2 * binade * (den * 2 ^ k)) := by omega
        _ = (2 * (2 * binade * 2 ^ k)) * den := by ring
        _ ≤ (unitsAt n + unitsAt (n + 1)) * den := Nat.mul_le_mul_right den (by omega)
    exact iff_of_true (by omega) (.inl hsum)
  · have hk : k * binade ≤ n := by
      by_cases hk : k = 0
      · subst hk
        omega
      · omega
    obtain ⟨m, rfl⟩ := Nat.exists_eq_add_of_le hk
    have hm : k = 0 ∨ binade ≤ m := by omega
    have hsum : (unitsAt (k * binade + m) + unitsAt (k * binade + m + 1)) * den = (2 * m + 1) * (den * 2 ^ k) := by
      rw [Nat.add_assoc, unitsAt_step (by omega) hm, unitsAt_step (by omega) (by omega)]
      ring
    have heven : (k * binade + m) % 2 = m % 2 := by
      unfold binade
      omega
    rw [hsum, heven, Nat.add_le_add_iff_left, roundEven_le_iff hstep]

/-- **A quotient is rounded to a place or to one before it** exactly when it lies before the middle between this place
and the next one, or in the middle of an even place and the next one. -/
theorem nearest_le_iff (num : Nat) {den : Nat} (h : 0 < den) {p : Place} (hp : p ≠ infinity) :
    (nearest num den).val ≤ p.val ↔ Reaches (num * unitsPerOne) den p.val := by
  have hval : p.val < 2047 * binade := by
    have hne : p.val ≠ 2047 * binade := fun he => hp (Fin.ext he)
    have := p.isLt
    omega
  rw [← placeOf_le_iff _ h, nearest_eq, ofNat]
  dsimp only
  omega

/-- **A quotient that reaches a place, and not only one before it, is rounded to this place.** -/
theorem nearest_of_reaches {num den : Nat} {p : Place} (h : 0 < den)
    (hp : p ≠ infinity → Reaches (num * unitsPerOne) den p.val)
    (hbefore : ∀ n, p.val = n + 1 → ¬ Reaches (num * unitsPerOne) den n) : nearest num den = p := by
  have hle : (nearest num den).val ≤ p.val := by
    by_cases hinfinity : p = infinity
    · rw [hinfinity]
      exact Nat.le_of_lt_succ (nearest num den).isLt
    · exact (nearest_le_iff num h hinfinity).2 (hp hinfinity)
  have hge : p.val ≤ (nearest num den).val := by
    by_contra hlt
    obtain ⟨n, hn⟩ := Nat.exists_eq_add_one_of_ne_zero (n := p.val) (by omega)
    have hplace : n < 2047 * binade := by
      have := p.isLt
      omega
    have hfinite : (⟨n, Nat.lt_succ_of_lt hplace⟩ : Place) ≠ infinity := fun he =>
      Nat.ne_of_lt hplace (congrArg Fin.val he)
    exact hbefore n hn ((nearest_le_iff num h hfinite).1 (by dsimp only; omega))
  exact Fin.ext (Nat.le_antisymm hle hge)

/-- A smaller quotient reaches no further. -/
theorem Reaches.of_le {units den units' den' n : Nat} (h : Reaches units' den' n) (hden : 0 < den) (hden' : 0 < den')
    (hle : units * den' ≤ units' * den) : Reaches units den n := by
  unfold Reaches at *
  generalize unitsAt n + unitsAt (n + 1) = sum at *
  have hscaled : 2 * units * den' ≤ 2 * units' * den := by
    rw [Nat.mul_assoc, Nat.mul_assoc]
    exact Nat.mul_le_mul_left 2 hle
  rcases h with hlt | ⟨heq, heven⟩
  · have : 2 * units * den' < sum * den * den' :=
      calc 2 * units * den' ≤ 2 * units' * den := hscaled
        _ < sum * den' * den := Nat.mul_lt_mul_of_pos_right hlt hden
        _ = sum * den * den' := Nat.mul_right_comm sum den' den
    exact .inl (Nat.lt_of_mul_lt_mul_right this)
  · rw [heq, Nat.mul_right_comm sum] at hscaled
    have hle : 2 * units ≤ sum * den := Nat.le_of_mul_le_mul_right hscaled hden'
    rcases Nat.lt_or_eq_of_le hle with hlt | heq
    · exact .inl hlt
    · exact .inr ⟨heq, heven⟩

/-- **Rounding keeps the order of quotients.** -/
theorem nearest_le_nearest {num den num' den' : Nat} (hden : 0 < den) (hden' : 0 < den')
    (h : num * den' ≤ num' * den) : (nearest num den).val ≤ (nearest num' den').val := by
  by_cases hp : nearest num' den' = infinity
  · rw [hp]
    exact Nat.le_of_lt_succ (nearest num den).isLt
  · have hunits : num * unitsPerOne * den' ≤ num' * unitsPerOne * den := by
      rw [Nat.mul_right_comm, Nat.mul_right_comm num']
      exact Nat.mul_le_mul_right unitsPerOne h
    have hreach := (nearest_le_iff num' hden' hp).1 (Nat.le_refl _)
    exact (nearest_le_iff num hden hp).2 (hreach.of_le hden hden' hunits)

/-- **One quotient, one place**, however the quotient is written. -/
theorem nearest_congr {num den num' den' : Nat} (hden : 0 < den) (hden' : 0 < den')
    (h : num * den' = num' * den) : nearest num den = nearest num' den' :=
  Fin.ext (Nat.le_antisymm (nearest_le_nearest hden hden' (Nat.le_of_eq h))
    (nearest_le_nearest hden' hden (Nat.le_of_eq h.symm)))

end Place
end SchemaCheck
