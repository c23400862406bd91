import SchemaCheck.Number.Layout
import SchemaCheck.Proofs.Magnitude
import SchemaCheck.Proofs.Numerals
/-!
# DecimalText — decimals written and read

Digits and an exponent are read as the number nearest to the decimal that they say, however small or great it is
(`ofDecimal_eq`), and zeros at the end of the digits change no more than the exponent (`nearest_shift`).  So the text of
a decimal, whether it is written out or with an exponent, is read as the number nearest to this decimal
(`readMagnitude?_place`, `readMagnitude?_scientific`).
-/
namespace SchemaCheck

open Json (AllDigits NoDigit)

namespace Double

/-! ## Digits -/

theorem digitsValue_eq (ds : List Char) : digitsValue ds = Nat.ofDigitChars 10 ds 0 := by
  rw [digitsValue, Nat.ofDigitChars_eq_foldl]
  rfl

theorem digitsValue_toDigits (n : Nat) : digitsValue (Nat.toDigits 10 n) = n := by
  rw [digitsValue_eq, Nat.ofDigitChars_ten_toDigits]

theorem digitsValue_zeros_append (z : Nat) (ds : List Char) :
    digitsValue (List.replicate z '0' ++ ds) = digitsValue ds := by
  rw [digitsValue_eq, digitsValue_eq, Nat.ofDigitChars_append, Nat.ofDigitChars_replicate_zero, Nat.mul_zero]

theorem digitsValue_append_zeros (z : Nat) (ds : List Char) :
    digitsValue (ds ++ List.replicate z '0') = digitsValue ds * 10 ^ z := by
  rw [digitsValue_eq, digitsValue_eq, Nat.ofDigitChars_append, Nat.ofDigitChars_replicate_zero, Nat.mul_comm]

theorem allDigits_toDigits (n : Nat) : AllDigits (Nat.toDigits 10 n) := fun _ hc =>
  Nat.isDigit_of_mem_toDigits (by decide) (by decide) hc

theorem lt_ten_pow_length (n : Nat) : n < 10 ^ (Nat.toDigits 10 n).length :=
  (Nat.length_toDigits_le_iff (by decide) Nat.length_toDigits_pos).1 (Nat.le_refl _)

theorem ten_pow_le {n : Nat} (h : n ≠ 0) : 10 ^ ((Nat.toDigits 10 n).length - 1) ≤ n := by
  by_cases hone : (Nat.toDigits 10 n).length - 1 = 0
  · rw [hone]
    exact Nat.pos_of_ne_zero h
  · have := mt (Nat.length_toDigits_le_iff (b := 10) (n := n) (by decide) (Nat.pos_of_ne_zero hone)).2 (by omega)
    omega

/-! ## Powers of ten -/

theorem tenUp_eq (e : Int) : tenUp e = 10 ^ e.toNat := Nat.pow_eq

theorem tenDown_eq (e : Int) : tenDown e = 10 ^ (-e).toNat := Nat.pow_eq

theorem tenDown_pos (e : Int) : 0 < tenDown e := Nat.pow_pos (by decide)

/-- Zeros at the end of the digits raise the exponent. -/
theorem nearest_shift (n z : Nat) (e : Int) : Place.nearest (n * 10 ^ z * tenUp e) (tenDown e) =
    Place.nearest (n * tenUp (e + z)) (tenDown (e + z)) := by
  refine Place.nearest_congr (tenDown_pos e) (tenDown_pos _) ?_
  have hpow : 10 ^ z * 10 ^ e.toNat * 10 ^ (-(e + z)).toNat = 10 ^ (e + z).toNat * 10 ^ (-e).toNat := by
    rw [← Nat.pow_add, ← Nat.pow_add, ← Nat.pow_add]
    congr 1
    omega
  rw [tenUp_eq, tenDown_eq, tenUp_eq, tenDown_eq]
  calc n * 10 ^ z * 10 ^ e.toNat * 10 ^ (-(e + z)).toNat
      = n * (10 ^ z * 10 ^ e.toNat * 10 ^ (-(e + z)).toNat) := by ring
    _ = n * 10 ^ (e + z).toNat * 10 ^ (-e).toNat := by rw [hpow]; ring

/-! ## Decimals out of range -/

theorem nearest_of_small {n : Nat} {e : Int} (h : e + (Nat.toDigits 10 n).length < -400) :
    Place.nearest (n * tenUp e) (tenDown e) = Place.zero := by
  have hn := lt_ten_pow_length n
  have hone : 2 * Place.unitsPerOne < 10 ^ 400 := by decide +kernel
  generalize hk : 400 = k at hone
  have hup : tenUp e = 1 := by rw [tenUp_eq, show e.toNat = 0 by omega, Nat.pow_zero]
  have hlt : 2 * (n * tenUp e * Place.unitsPerOne) < tenDown e :=
    calc 2 * (n * tenUp e * Place.unitsPerOne) = n * (2 * Place.unitsPerOne) := by rw [hup]; ring
      _ ≤ n * 10 ^ k := Nat.mul_le_mul_left n (Nat.le_of_lt hone)
      _ < 10 ^ (Nat.toDigits 10 n).length * 10 ^ k := Nat.mul_lt_mul_of_pos_right hn (Nat.pow_pos (by decide))
      _ = 10 ^ ((Nat.toDigits 10 n).length + k) := (Nat.pow_add _ _ _).symm
      _ ≤ tenDown e := by rw [tenDown_eq]; exact Nat.pow_le_pow_right (by decide) (by omega)
  have hsum : Place.unitsAt Place.zero.val + Place.unitsAt (Place.zero.val + 1) = 1 := by decide
  refine Place.nearest_of_reaches (tenDown_pos e) (fun _ => .inl ?_) fun n hn => by cases hn
  rw [hsum, Nat.one_mul]
  exact hlt

theorem nearest_of_large {n : Nat} {e : Int} (hn : n ≠ 0) (h : 400 < e + (Nat.toDigits 10 n).length) :
    Place.nearest (n * tenUp e) (tenDown e) = Place.infinity := by
  have hone : Place.unitsAt Place.infinity.val < 10 ^ 400 * Place.unitsPerOne := by decide +kernel
  generalize hk : 400 = k at hone
  have hpow : 10 ^ k * tenDown e ≤ n * tenUp e :=
    calc 10 ^ k * tenDown e = 10 ^ (k + (-e).toNat) := by rw [tenDown_eq, Nat.pow_add]
      _ ≤ 10 ^ ((Nat.toDigits 10 n).length - 1 + e.toNat) := Nat.pow_le_pow_right (by decide) (by omega)
      _ = 10 ^ ((Nat.toDigits 10 n).length - 1) * tenUp e := by rw [tenUp_eq, Nat.pow_add]
      _ ≤ n * tenUp e := Nat.mul_le_mul_right _ (ten_pow_le hn)
  refine Place.nearest_of_reaches (tenDown_pos e) (fun h => absurd rfl h) fun m hm hreach => ?_
  have hbefore : Place.unitsAt m < Place.unitsAt (m + 1) := Place.unitsAt_strictMono (Nat.lt_succ_self m)
  have hlt : (Place.unitsAt m + Place.unitsAt (m + 1)) * tenDown e < 2 * (n * tenUp e * Place.unitsPerOne) :=
    calc (Place.unitsAt m + Place.unitsAt (m + 1)) * tenDown e
        < 2 * (10 ^ k * Place.unitsPerOne) * tenDown e :=
          Nat.mul_lt_mul_of_pos_right (by rw [hm] at hone; omega) (tenDown_pos e)
      _ = 2 * (10 ^ k * tenDown e * Place.unitsPerOne) := by ring
      _ ≤ 2 * (n * tenUp e * Place.unitsPerOne) := Nat.mul_le_mul_left 2 (Nat.mul_le_mul_right _ hpow)
  unfold Place.Reaches at hreach
  omega

/-- **Digits and an exponent are read as the number nearest to the decimal**, also where it is out of range. -/
theorem ofDecimal_eq (negative : Bool) (n : Nat) (e : Int) :
    ofDecimal negative n e = .number negative (Place.nearest (n * tenUp e) (tenDown e)) := by
  unfold ofDecimal
  dsimp only
  by_cases hn : n = 0
  · rw [if_pos (.inl hn), Place.nearest_of_eq_zero (tenDown_pos e) (by rw [hn, Nat.zero_mul])]
  by_cases hsmall : e + (Nat.toDigits 10 n).length < -400
  · rw [if_pos (.inr hsmall), nearest_of_small hsmall]
  by_cases hlarge : 400 < e + (Nat.toDigits 10 n).length
  · rw [if_neg (by simp [hn, hsmall]), if_pos hlarge, nearest_of_large hn hlarge]
  · rw [if_neg (by simp [hn, hsmall]), if_neg hlarge]

/-! ## Reading -/

theorem readInt?_digits {ds : List Char} (hne : ds ≠ []) (h : AllDigits ds) :
    readInt? ds = some (digitsValue ds : Int) := by
  have hall : ds.all Char.isDigit = true := List.all_eq_true.2 h
  have hempty : ds.isEmpty = false := List.isEmpty_eq_false_iff.2 hne
  unfold readInt?
  split
  · exact absurd List.mem_cons_self (h.not_mem (by decide))
  · exact absurd List.mem_cons_self (h.not_mem (by decide))
  · simp [hall, hempty]

theorem readInt?_neg {ds : List Char} (hne : ds ≠ []) (h : AllDigits ds) :
    readInt? ('-' :: ds) = some (-(digitsValue ds : Int)) := by
  have hall : ds.all Char.isDigit = true := List.all_eq_true.2 h
  have hempty : ds.isEmpty = false := List.isEmpty_eq_false_iff.2 hne
  simp [readInt?, hall, hempty]

theorem toList_toString_natCast (n : Nat) : (toString (n : Int)).toList = Nat.toDigits 10 n := by
  rw [Int.toString_eq_repr, Int.repr_eq_if, if_pos (Int.natCast_nonneg n), Int.toNat_natCast, Nat.toList_repr]

theorem toList_toString_negSucc (n : Nat) :
    (toString (Int.negSucc n)).toList = '-' :: Nat.toDigits 10 (n + 1) := by
  rw [Int.toString_eq_repr, Int.repr_eq_if, if_neg (by omega), String.toList_append, Nat.toList_repr]
  rfl

theorem mem_toString_int {i : Int} {c : Char} (h : c ∈ (toString i).toList) : c.isDigit = true ∨ c = '-' := by
  cases i with
  | ofNat n =>
    rw [Int.ofNat_eq_natCast, toList_toString_natCast] at h
    exact .inl (allDigits_toDigits n c h)
  | negSucc n =>
    rw [toList_toString_negSucc] at h
    rcases List.mem_cons.1 h with hsign | hdigit
    · exact .inr hsign
    · exact .inl (allDigits_toDigits _ c hdigit)

/-- **An integer is read back from its text.** -/
theorem readInt?_toString (i : Int) : readInt? (toString i).toList = some i := by
  cases i with
  | ofNat n =>
    rw [Int.ofNat_eq_natCast, toList_toString_natCast, readInt?_digits Nat.toDigits_ne_nil (allDigits_toDigits n),
      digitsValue_toDigits]
  | negSucc n =>
    rw [toList_toString_negSucc, readInt?_neg Nat.toDigits_ne_nil (allDigits_toDigits _), digitsValue_toDigits]
    rfl

/-- The part of a text between its whole digits and its exponent, and the digits in it. -/
inductive IsPoint : List Char → List Char → Prop where
  | none : IsPoint [] []
  | point {fraction : List Char} : AllDigits fraction → IsPoint ('.' :: fraction) fraction

/-- The exponent that a text ends with, or none, and how great it is. -/
inductive IsScale : List Char → Int → Prop where
  | none : IsScale [] 0
  | exponent (e : Int) : IsScale ('e' :: (toString e).toList) e

theorem IsScale.noDigit {scale : List Char} {e : Int} (h : IsScale scale e) : NoDigit scale := by
  cases h with
  | none => exact fun _ hc => by cases hc
  | exponent e => exact fun _ hc => by cases hc; rfl

/-- **What the text of a decimal is read as.** -/
theorem readMagnitude?_eq (negative : Bool) {whole point fraction scale : List Char} {e : Int} (hne : whole ≠ [])
    (hwhole : AllDigits whole) (hpoint : IsPoint point fraction) (hscale : IsScale scale e) :
    readMagnitude? negative (whole ++ (point ++ scale)) =
      some (ofDecimal negative (digitsValue (whole ++ fraction)) (e - fraction.length)) := by
  have hafter : NoDigit (point ++ scale) := by
    cases hpoint with
    | none => exact hscale.noDigit
    | point h => exact fun _ hc => by cases hc; rfl
  have hempty : whole.isEmpty = false := List.isEmpty_eq_false_iff.2 hne
  unfold readMagnitude?
  rw [Json.takeWhile_digits hwhole hafter, Json.dropWhile_digits hwhole hafter]
  cases hpoint with
  | none =>
    cases hscale with
    | none => simp [hempty]
    | exponent e => simp [hempty, -Int.toString_eq_repr, readInt?_toString]
  | point hfraction =>
    simp only [List.cons_append]
    rw [Json.takeWhile_digits hfraction hscale.noDigit, Json.dropWhile_digits hfraction hscale.noDigit]
    cases hscale with
    | none => simp [hempty]
    | exponent e => simp [hempty, -Int.toString_eq_repr, readInt?_toString]

/-! ## Decimals -/

/-- The number nearest to a decimal. -/
def nearestTo (negative : Bool) (d : Decimal) : Double :=
  .number negative (Place.nearest (digitsValue d.digits * tenUp (d.point - d.digits.length))
    (tenDown (d.point - d.digits.length)))

/-- A text whose digits are those of the decimal with zeros after them, and whose exponent makes up for the zeros. -/
theorem readMagnitude?_of_zeros (negative : Bool) {d : Decimal} {whole point fraction scale : List Char} {e : Int}
    (hne : whole ≠ []) (hdigits : AllDigits (whole ++ fraction)) (hpoint : IsPoint point fraction)
    (hscale : IsScale scale e) {z : Nat} (hvalue : digitsValue (whole ++ fraction) = digitsValue d.digits * 10 ^ z)
    (he : e - fraction.length + z = d.point - d.digits.length) :
    readMagnitude? negative (whole ++ (point ++ scale)) = some (nearestTo negative d) := by
  have hwhole : AllDigits whole := fun c hc => hdigits c (List.mem_append_left _ hc)
  rw [readMagnitude?_eq negative hne hwhole hpoint hscale, hvalue, ofDecimal_eq, nearest_shift, he, nearestTo]

theorem allDigits_zeros (z : Nat) : AllDigits (List.replicate z '0') := fun c hc => by
  rw [List.eq_of_mem_replicate hc]
  rfl

theorem allDigits_append {as bs : List Char} (ha : AllDigits as) (hb : AllDigits bs) : AllDigits (as ++ bs) :=
  List.forall_mem_append.2 ⟨ha, hb⟩

/-- **A decimal that is written out is read as the number nearest to it.** -/
theorem readMagnitude?_place (negative : Bool) (l : Layout) {d : Decimal} (hne : d.digits ≠ [])
    (hd : AllDigits d.digits) : readMagnitude? negative (l.place d) = some (nearestTo negative d) := by
  have hlength : 0 < d.digits.length := List.length_pos_iff.2 hne
  unfold Layout.place
  by_cases hlow : d.point ≤ 0
  · -- a zero stands before the point, and zeros after it up to the digits
    rw [if_pos hlow]
    have hfraction : AllDigits (List.replicate (-d.point).toNat '0' ++ d.digits) := allDigits_append (allDigits_zeros _) hd
    have hvalue : digitsValue (['0'] ++ (List.replicate (-d.point).toNat '0' ++ d.digits)) =
        digitsValue d.digits * 10 ^ 0 := by
      rw [Nat.pow_zero, Nat.mul_one]
      exact (digitsValue_zeros_append 1 _).trans (digitsValue_zeros_append _ _)
    have hread := readMagnitude?_of_zeros negative (List.cons_ne_nil '0' []) (allDigits_append (allDigits_zeros 1) hfraction)
      (.point hfraction) .none hvalue (by simp; omega)
    rw [List.append_nil] at hread
    exact hread
  rw [if_neg hlow]
  dsimp only
  by_cases hwhole : d.digits.length ≤ d.point.toNat
  · -- zeros fill up to the point, and perhaps one stands after it
    rw [if_pos hwhole]
    have hcons : d.digits ++ List.replicate (d.point.toNat - d.digits.length) '0' ≠ [] :=
      List.append_ne_nil_of_left_ne_nil hne _
    have hdigits := allDigits_append hd (allDigits_zeros (d.point.toNat - d.digits.length))
    cases l.fraction with
    | false =>
      have hvalue := digitsValue_append_zeros (d.point.toNat - d.digits.length) d.digits
      rw [← List.append_nil (d.digits ++ _)] at hvalue hdigits
      exact readMagnitude?_of_zeros negative hcons hdigits .none .none hvalue (by simp; omega)
    | true =>
      have hzeros := List.replicate_append_replicate (n := d.point.toNat - d.digits.length) (m := 1) (a := '0')
      have hvalue := digitsValue_append_zeros (d.point.toNat - d.digits.length + 1) d.digits
      rw [← hzeros, ← List.append_assoc] at hvalue
      exact readMagnitude?_of_zeros negative hcons (allDigits_append hdigits (allDigits_zeros 1)) (.point (allDigits_zeros 1))
        .none hvalue (by simp; omega)
  · -- the point stands among the digits
    rw [if_neg hwhole]
    have htake : d.digits.take d.point.toNat ≠ [] := by
      rw [Ne, List.take_eq_nil_iff, not_or]
      exact ⟨by omega, hne⟩
    have hdrop : AllDigits (d.digits.drop d.point.toNat) := fun c hc => hd c (List.mem_of_mem_drop hc)
    have hjoined := List.take_append_drop d.point.toNat d.digits
    have hread := readMagnitude?_of_zeros (d := d) (z := 0) negative htake (by rw [hjoined]; exact hd) (.point hdrop)
      .none (by rw [hjoined, Nat.pow_zero, Nat.mul_one]) (by simp; omega)
    rw [List.append_nil] at hread
    exact hread

/-- **A decimal that is written with an exponent is read as the number nearest to it.** -/
theorem readMagnitude?_scientific (negative : Bool) {d : Decimal} (hne : d.digits ≠ []) (hd : AllDigits d.digits) :
    readMagnitude? negative (Layout.scientific d) = some (nearestTo negative d) := by
  unfold Layout.scientific
  cases hdigits : d.digits with
  | nil => exact absurd hdigits hne
  | cons c more =>
    rw [hdigits] at hd
    have hvalue : digitsValue ([c] ++ more) = digitsValue d.digits * 10 ^ 0 := by
      rw [hdigits, Nat.pow_zero, Nat.mul_one]
      rfl
    have hlength : (d.digits.length : Int) = more.length + 1 := by rw [hdigits]; rfl
    cases more with
    | nil =>
      exact readMagnitude?_of_zeros negative (List.cons_ne_nil c []) hd .none (.exponent (d.point - 1)) hvalue
        (by simp at hlength ⊢; omega)
    | cons b rest =>
      have hmore : AllDigits (b :: rest) := fun a ha => hd a (List.mem_cons_of_mem c ha)
      exact readMagnitude?_of_zeros negative (List.cons_ne_nil c []) hd (.point hmore) (.exponent (d.point - 1)) hvalue
        (by simp at hlength ⊢; omega)

end Double
end SchemaCheck
