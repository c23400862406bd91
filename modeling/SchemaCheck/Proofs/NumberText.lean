import SchemaCheck.Proofs.DecimalText
/-!
# NumberText — numbers read back from their text

The bounds of the vicinity of a magnitude are the middles to the magnitudes before and after it (`low_ofPlace`,
`high_ofPlace`), so whatever multiple of a power of ten it contains is rounded to this magnitude
(`nearest_of_contains`).  The shortest digits of a magnitude are such a multiple (`exists_grid_of_shortest`).  So a
number is read back from its text, whatever the layout (`ofText?_text`).
-/
namespace SchemaCheck

open Json (AllDigits)

/-! ## Vicinities -/

namespace Vicinity

theorem high_ofPlace (p : Place) : (ofPlace p).high = 2 * (Place.unitsAt p.val + Place.unitsAt (p.val + 1)) := by
  have hhigh : (ofPlace p).high = 4 * Place.unitsAt p.val + 2 * 2 ^ (p.val / binade - 1) := rfl
  rw [hhigh, Place.unitsAt_succ]
  omega

theorem low_ofPlace {p : Place} {n : Nat} (hn : p.val = n + 1) :
    (ofPlace p).low = 2 * (Place.unitsAt n + Place.unitsAt (n + 1)) := by
  have hlow : (ofPlace p).low = 4 * Place.unitsAt p.val -
      if p.significand = binade ∧ 0 < p.scale then 2 ^ (p.val / binade - 1) else 2 * 2 ^ (p.val / binade - 1) := rfl
  have hsucc := Place.unitsAt_succ n
  rw [hlow, hn, hsucc]
  by_cases hfirst : p.significand = binade ∧ 0 < p.scale
  · -- the magnitude before it is over the scale before
    have hstep : 2 ^ ((n + 1) / binade - 1) = 2 * 2 ^ (n / binade - 1) := by
      have hscale : (n + 1) / binade - 1 = n / binade - 1 + 1 := by
        unfold Place.significand Place.scale binade at hfirst
        unfold binade
        split at hfirst <;> omega
      rw [hscale, Nat.pow_succ, Nat.mul_comm]
    rw [if_pos hfirst, hstep]
    omega
  · have hstep : (n + 1) / binade - 1 = n / binade - 1 := by
      unfold Place.significand Place.scale binade at hfirst
      unfold binade
      split at hfirst <;> omega
    rw [if_neg hfirst, hstep]
    omega

/-- The quotient that a multiple of a power of ten is, in units of 2^-1074. -/
theorem contains_iff (v : Vicinity) (grid : Int) (c : Nat) : v.contains grid c = true ↔
    (v.low * tenDown grid < 4 * (c * tenUp grid * Place.unitsPerOne) ∨
      v.closed = true ∧ v.low * tenDown grid = 4 * (c * tenUp grid * Place.unitsPerOne)) ∧
    (4 * (c * tenUp grid * Place.unitsPerOne) < v.high * tenDown grid ∨
      v.closed = true ∧ 4 * (c * tenUp grid * Place.unitsPerOne) = v.high * tenDown grid) := by
  have hone : c * tenUp grid * one = 4 * (c * tenUp grid * Place.unitsPerOne) := Nat.mul_left_comm _ _ _
  unfold contains
  dsimp only
  rw [hone]
  cases v.closed with
  | true =>
    simp only [if_true, decide_eq_true_eq, true_and]
    omega
  | false =>
    simp only [Bool.false_eq_true, if_false, decide_eq_true_eq, false_and, or_false]

/-- **What is in the vicinity of a magnitude is rounded to it.** -/
theorem nearest_of_contains {p : Place} (hzero : p ≠ Place.zero) {grid : Int} {c : Nat}
    (h : (ofPlace p).contains grid c = true) : Place.nearest (c * tenUp grid) (tenDown grid) = p := by
  obtain ⟨n, hn⟩ := Nat.exists_eq_add_one_of_ne_zero fun h0 => hzero (Fin.ext h0)
  have heven : (ofPlace p).closed = true → p.val % 2 = 0 := fun hc => of_decide_eq_true hc
  obtain ⟨hlow, hhigh⟩ := (contains_iff _ grid c).1 h
  rw [low_ofPlace hn, Nat.mul_assoc 2] at hlow
  rw [high_ofPlace, Nat.mul_assoc 2] at hhigh
  refine Place.nearest_of_reaches (Double.tenDown_pos grid) (fun _ => ?_) fun m hm => ?_
  · unfold Place.Reaches
    rcases hhigh with hlt | ⟨hclosed, heq⟩
    · exact .inl (by omega)
    · exact .inr ⟨by omega, heven hclosed⟩
  · obtain rfl : n = m := by omega
    unfold Place.Reaches
    rcases hlow with hlt | ⟨hclosed, heq⟩
    · omega
    · have := heven hclosed
      omega

theorem contains_of_hit {v : Vicinity} {tiesToEven : Bool} {grid : Int} {c : Nat} (h : v.hit tiesToEven grid = some c) :
    v.contains grid c = true := by
  unfold hit at h
  dsimp only at h
  split at h
  · rename_i hc hnext
    by_cases hnear : v.isNearer tiesToEven grid (v.floor grid) = true
    · simp only [hnear, if_true, Option.some.injEq] at h
      exact h ▸ hc
    · simp only [hnear, Option.some.injEq] at h
      exact h ▸ hnext
  · rename_i hc _
    exact Option.some.inj h ▸ hc
  · rename_i _ hnext
    exact Option.some.inj h ▸ hnext
  · cases h

/-- A magnitude is in its own vicinity. -/
theorem contains_exact {p : Place} (hzero : p ≠ Place.zero) :
    (ofPlace p).contains (-1074) (p.units * Nat.pow 5 1074) = true := by
  obtain ⟨n, hn⟩ := Nat.exists_eq_add_one_of_ne_zero fun h0 => hzero (Fin.ext h0)
  have hbefore : Place.unitsAt n < Place.unitsAt (n + 1) := Place.unitsAt_strictMono (Nat.lt_succ_self n)
  have hafter : Place.unitsAt p.val < Place.unitsAt (p.val + 1) := Place.unitsAt_strictMono (Nat.lt_succ_self _)
  have hup : tenUp (-1074) = 1 := rfl
  have hten : Nat.pow 5 1074 * Place.unitsPerOne = tenDown (-1074) := by decide +kernel
  have hexact : 4 * (p.units * Nat.pow 5 1074 * tenUp (-1074) * Place.unitsPerOne) =
      4 * Place.unitsAt p.val * tenDown (-1074) := by
    rw [hup, Nat.mul_one, Nat.mul_assoc, hten, Nat.mul_assoc]
    rfl
  have hpos := Double.tenDown_pos (-1074)
  rw [contains_iff, hexact, low_ofPlace hn, high_ofPlace]
  refine ⟨.inl (Nat.mul_lt_mul_of_pos_right ?_ hpos), .inl (Nat.mul_lt_mul_of_pos_right ?_ hpos)⟩
  · rw [hn]
    omega
  · omega

end Vicinity

/-- **The shortest digits of a magnitude** are those of a multiple of a power of ten in its vicinity. -/
theorem Place.exists_grid_of_shortest {p : Place} (hzero : p ≠ zero) (tiesToEven : Bool) : ∃ c grid,
    p.shortest tiesToEven = Decimal.ofGrid c grid ∧ (Vicinity.ofPlace p).contains grid c = true := by
  unfold shortest
  dsimp only
  cases hfound : (List.range 17).findSome? fun (n : Nat) =>
      ((Vicinity.ofPlace p).hit tiesToEven ((Vicinity.ofPlace p).lead - n)).map
        (Decimal.ofGrid · ((Vicinity.ofPlace p).lead - n)) with
  | none => exact ⟨_, _, rfl, Vicinity.contains_exact hzero⟩
  | some d =>
    obtain ⟨n, -, hn⟩ := List.exists_of_findSome?_eq_some hfound
    obtain ⟨c, hc, hd⟩ := Option.map_eq_some_iff.1 hn
    exact ⟨c, _, hd.symm, Vicinity.contains_of_hit hc⟩

/-! ## Texts -/

/-- The digits of a multiple of a power of ten are those of its text up to the zeros at the end. -/
theorem Decimal.exists_zeros_of_ofGrid (c : Nat) (grid : Int) :
    ∃ z, Nat.toDigits 10 c = (ofGrid c grid).digits ++ List.replicate z '0' := by
  have hzeros : ∀ d ∈ (Nat.toDigits 10 c).reverse.takeWhile (· == '0'), d = '0' := fun d hd =>
    eq_of_beq (List.all_eq_true.1 List.all_takeWhile d hd)
  have hsplit : (Nat.toDigits 10 c).reverse.takeWhile (· == '0') ++ (Nat.toDigits 10 c).reverse.dropWhile (· == '0') =
      (Nat.toDigits 10 c).reverse := List.takeWhile_append_dropWhile
  rw [List.eq_replicate_of_mem hzeros] at hsplit
  have hreverse := congrArg List.reverse hsplit
  rw [List.reverse_append, List.reverse_reverse, List.reverse_replicate] at hreverse
  exact ⟨_, hreverse.symm⟩

theorem Decimal.nearestTo_ofGrid (negative : Bool) (c : Nat) (grid : Int) :
    Double.nearestTo negative (ofGrid c grid) = .number negative (Place.nearest (c * tenUp grid) (tenDown grid)) := by
  obtain ⟨z, hz⟩ := exists_zeros_of_ofGrid c grid
  have hvalue : c = Double.digitsValue (ofGrid c grid).digits * 10 ^ z := by
    rw [← Double.digitsValue_append_zeros, ← hz, Double.digitsValue_toDigits]
  have hpoint : (ofGrid c grid).point - (ofGrid c grid).digits.length = grid + z := by
    have hlength := congrArg List.length hz
    rw [List.length_append, List.length_replicate] at hlength
    have : (ofGrid c grid).point = grid + (Nat.toDigits 10 c).length := rfl
    omega
  have hshift := Double.nearest_shift (Double.digitsValue (ofGrid c grid).digits) z grid
  rw [← hvalue] at hshift
  rw [Double.nearestTo, hpoint, hshift]

theorem Decimal.allDigits_ofGrid (c : Nat) (grid : Int) : AllDigits (ofGrid c grid).digits := by
  obtain ⟨z, hz⟩ := exists_zeros_of_ofGrid c grid
  have hall := Double.allDigits_toDigits c
  rw [hz] at hall
  exact fun d hd => hall d (List.mem_append_left _ hd)

theorem Decimal.digits_ofGrid_ne_nil {c : Nat} (hc : c ≠ 0) (grid : Int) : (ofGrid c grid).digits ≠ [] := fun hnil => by
  obtain ⟨z, hz⟩ := exists_zeros_of_ofGrid c grid
  have hvalue := Double.digitsValue_append_zeros z (ofGrid c grid).digits
  rw [← hz, Double.digitsValue_toDigits, hnil] at hvalue
  exact hc (hvalue.trans (Nat.zero_mul _))

/-- The shortest digits of a magnitude are read back as it. -/
theorem Place.shortest_reads {p : Place} (hzero : p ≠ zero) (tiesToEven : Bool) :
    (p.shortest tiesToEven).digits ≠ [] ∧ AllDigits (p.shortest tiesToEven).digits ∧
      ∀ negative, Double.nearestTo negative (p.shortest tiesToEven) = .number negative p := by
  obtain ⟨c, grid, hshortest, hcontains⟩ := exists_grid_of_shortest hzero tiesToEven
  have hnearest := Vicinity.nearest_of_contains hzero hcontains
  have hc : c ≠ 0 := fun hc => by
    rw [nearest_of_eq_zero (Double.tenDown_pos grid) (by rw [hc, Nat.zero_mul])] at hnearest
    exact hzero hnearest.symm
  rw [hshortest]
  exact ⟨Decimal.digits_ofGrid_ne_nil hc grid, Decimal.allDigits_ofGrid c grid, fun negative => by
    rw [Decimal.nearestTo_ofGrid, hnearest]⟩

/-- The text of a finite magnitude is that of a decimal to which this magnitude is the nearest. -/
theorem Layout.exists_decimal_of_magnitude (l : Layout) {p : Place} (hinfinity : p ≠ Place.infinity) :
    ∃ d : Decimal, d.digits ≠ [] ∧ AllDigits d.digits ∧
      (∀ negative, Double.nearestTo negative d = .number negative p) ∧
      (l.magnitude p = l.place d ∨ l.magnitude p = scientific d) := by
  unfold magnitude
  rw [if_neg hinfinity]
  by_cases hzero : p = Place.zero
  · rw [if_pos hzero, hzero]
    refine ⟨⟨['0'], 1⟩, List.cons_ne_nil _ _, Double.allDigits_zeros 1, fun negative => ?_, .inl rfl⟩
    exact congrArg _ (Place.nearest_of_eq_zero (Double.tenDown_pos _) (Nat.zero_mul _))
  · obtain ⟨hne, hdigits, hreads⟩ := Place.shortest_reads hzero l.tiesToEven
    rw [if_neg hzero]
    refine ⟨_, hne, hdigits, hreads, ?_⟩
    dsimp only
    split
    · exact .inl rfl
    · exact .inr rfl

namespace Double

/-- **A finite magnitude is read back from its text**, whatever the layout. -/
theorem readMagnitude?_magnitude (negative : Bool) (l : Layout) {p : Place} (hinfinity : p ≠ Place.infinity) :
    readMagnitude? negative (l.magnitude p) = some (.number negative p) := by
  obtain ⟨d, hne, hdigits, hnearest, htext⟩ := l.exists_decimal_of_magnitude hinfinity
  rw [← hnearest negative]
  rcases htext with htext | htext
  · rw [htext, readMagnitude?_place negative l hne hdigits]
  · rw [htext, readMagnitude?_scientific negative hne hdigits]

/-! ## Characters -/

theorem mem_place {l : Layout} {d : Decimal} (hd : AllDigits d.digits) {c : Char} (h : c ∈ l.place d) :
    c.isDigit = true ∨ c = '.' := by
  have hzeros (n : Nat) : c ∈ List.replicate n '0' → c.isDigit = true := allDigits_zeros n c
  unfold Layout.place at h
  dsimp only at h
  split at h
  · simp only [List.cons_append, List.mem_cons, List.mem_append] at h
    rcases h with rfl | rfl | h | h
    · exact .inl rfl
    · exact .inr rfl
    · exact .inl (hzeros _ h)
    · exact .inl (hd c h)
  split at h
  · simp only [List.mem_append] at h
    rcases h with (h | h) | h
    · exact .inl (hd c h)
    · exact .inl (hzeros _ h)
    · split at h
      · simp only [List.mem_cons, List.not_mem_nil, or_false] at h
        rcases h with rfl | rfl
        · exact .inr rfl
        · exact .inl rfl
      · cases h
  · simp only [List.mem_append, List.mem_cons] at h
    rcases h with h | rfl | h
    · exact .inl (hd c (List.mem_of_mem_take h))
    · exact .inr rfl
    · exact .inl (hd c (List.mem_of_mem_drop h))

theorem mem_scientific {d : Decimal} (hd : AllDigits d.digits) {c : Char} (h : c ∈ Layout.scientific d) :
    c.isDigit = true ∨ c ∈ ['.', 'e', '-'] := by
  unfold Layout.scientific at h
  rcases List.mem_append.1 h with hrest | hscale
  · cases hdigits : d.digits with
    | nil =>
      rw [hdigits] at hrest
      cases hrest
    | cons a more =>
      rw [hdigits] at hd
      have hmem : c ∈ a :: more ∨ c = '.' := by
        rw [hdigits] at hrest
        cases more with
        | nil => exact .inl hrest
        | cons b more =>
          simp only [List.mem_cons] at hrest ⊢
          tauto
      rcases hmem with hdigit | rfl
      · exact .inl (hd c hdigit)
      · exact .inr List.mem_cons_self
  · rcases List.mem_cons.1 hscale with rfl | hexponent
    · exact .inr (by decide)
    · rcases mem_toString_int hexponent with hdigit | rfl
      · exact .inl hdigit
      · exact .inr (by decide)

/-- The text of a finite magnitude starts with a digit. -/
theorem exists_digit_of_magnitude (l : Layout) {p : Place} (hinfinity : p ≠ Place.infinity) :
    ∃ c rest, l.magnitude p = c :: rest ∧ c.isDigit = true := by
  obtain ⟨d, hne, hdigits, -, htext⟩ := l.exists_decimal_of_magnitude hinfinity
  obtain ⟨a, more, ha⟩ := List.exists_cons_of_ne_nil hne
  have hdigit : a.isDigit = true := hdigits a (ha ▸ List.mem_cons_self)
  rcases htext with htext | htext
  · rw [htext, Layout.place, ha]
    by_cases hlow : d.point ≤ 0
    · exact ⟨'0', _, if_pos hlow, rfl⟩
    · obtain ⟨n, hn⟩ := Nat.exists_eq_add_one_of_ne_zero (n := d.point.toNat) (by omega)
      rw [if_neg hlow, hn]
      dsimp only
      split <;> exact ⟨a, _, rfl, hdigit⟩
  · rw [htext, Layout.scientific, ha]
    cases more <;> exact ⟨a, _, rfl, hdigit⟩

/-- The characters of the texts of numbers, beside the digits. -/
def marks : List Char := ['-', '.', 'e', 'i', 'n', 'f', 'N', 'a']

theorem mem_chars {l : Layout} {x : Double} {c : Char} (h : c ∈ l.chars x) : c.isDigit = true ∨ c ∈ marks := by
  cases x with
  | nan => exact .inr ((by simp [marks] : "NaN".toList ⊆ marks) h)
  | number negative p =>
    rcases List.mem_append.1 h with hsign | hmagnitude
    · cases negative with
      | false => cases hsign
      | true => exact .inr (List.mem_singleton.1 hsign ▸ List.mem_cons_self)
    · by_cases hinfinity : p = Place.infinity
      · rw [Layout.magnitude, if_pos hinfinity] at hmagnitude
        exact .inr ((by simp [marks] : "inf".toList ⊆ marks) hmagnitude)
      obtain ⟨d, -, hdigits, -, htext⟩ := l.exists_decimal_of_magnitude hinfinity
      rcases htext with htext | htext
      · rw [htext] at hmagnitude
        exact (mem_place hdigits hmagnitude).imp_right fun hpoint => by rw [hpoint]; decide
      · rw [htext] at hmagnitude
        exact (mem_scientific hdigits hmagnitude).imp_right fun hmark =>
          (by decide : ['.', 'e', '-'] ⊆ marks) hmark

/-- The text of a number as a value is no text of an integer. -/
theorem exists_mark_of_chars (x : Double) : ∃ c ∈ Layout.value.chars x, c ∈ ['.', 'e', 'i', 'N'] := by
  cases x with
  | nan => exact ⟨'N', List.mem_cons_self, by decide⟩
  | number negative p =>
    have hpart {c : Char} (h : c ∈ Layout.value.magnitude p) : c ∈ Layout.value.chars (.number negative p) :=
      List.mem_append_right _ h
    by_cases hinfinity : p = Place.infinity
    · refine ⟨'i', hpart ?_, by decide⟩
      rw [Layout.magnitude, if_pos hinfinity]
      exact List.mem_cons_self
    obtain ⟨d, -, -, -, htext⟩ := Layout.value.exists_decimal_of_magnitude hinfinity
    rcases htext with htext | htext
    · refine ⟨'.', hpart ?_, by decide⟩
      rw [htext, Layout.place]
      dsimp only
      split
      · exact List.mem_cons_of_mem _ List.mem_cons_self
      · split
        · exact List.mem_append_right _ List.mem_cons_self
        · exact List.mem_append_right _ List.mem_cons_self
    · refine ⟨'e', hpart ?_, by decide⟩
      rw [htext]
      exact List.mem_append_right _ List.mem_cons_self

/-! ## Reading back -/

/-- A text that starts with a digit is no word. -/
theorem ofList_map_toLower_ne {d : Char} (hd : d.isDigit = true) (rest : List Char) {word : String}
    (hword : ∀ c ∈ word.toList.head?, c.isDigit = false) : String.ofList ((d :: rest).map Char.toLower) ≠ word := by
  have hlower : d.toLower = d := by
    have hdigit := (Char.isDigit_iff_toNat.1 hd).2
    have hnine : '9'.toNat < 'A'.toNat := by decide
    exact dif_neg fun hletter => Nat.not_lt.2 (UInt32.le_iff_toNat_le.1 hletter.1) (Nat.lt_of_le_of_lt hdigit hnine)
  intro he
  have hhead : d ∈ word.toList.head? := by
    rw [← he, String.toList_ofList, List.map_cons, hlower]
    exact rfl
  rw [hword d hhead] at hd
  cases hd

theorem ofText?_digit {d : Char} (hd : d.isDigit = true) (rest : List Char) :
    ofText? (String.ofList (d :: rest)) = readMagnitude? false (d :: rest) := by
  unfold ofText?
  rw [String.toList_ofList]
  split
  · rename_i heq
    cases heq
    cases hd
  · rename_i heq
    cases heq
    cases hd
  · dsimp only
    split
    · rename_i h
      exact absurd h (ofList_map_toLower_ne hd rest (by simp))
    · rename_i h
      exact absurd h (ofList_map_toLower_ne hd rest (by simp))
    · rename_i h
      exact absurd h (ofList_map_toLower_ne hd rest (by simp))
    · rfl

theorem ofText?_minus_digit {d : Char} (hd : d.isDigit = true) (rest : List Char) :
    ofText? (String.ofList ('-' :: d :: rest)) = readMagnitude? true (d :: rest) := by
  simp only [ofText?, String.toList_ofList]
  split
  · rename_i h
    exact absurd h (ofList_map_toLower_ne hd rest (by simp))
  · rename_i h
    exact absurd h (ofList_map_toLower_ne hd rest (by simp))
  · rename_i h
    exact absurd h (ofList_map_toLower_ne hd rest (by simp))
  · rfl

/-- **A number is read back from its text**, whatever the layout. -/
theorem ofText?_text (l : Layout) (x : Double) : ofText? (l.text x) = some x := by
  cases x with
  | nan => exact (by decide +kernel : ofText? "NaN" = some .nan)
  | number negative p =>
    by_cases hinfinity : p = Place.infinity
    · subst hinfinity
      cases negative with
      | false => exact (by decide +kernel : ofText? "inf" = some (.number false Place.infinity))
      | true => exact (by decide +kernel : ofText? "-inf" = some (.number true Place.infinity))
    obtain ⟨d, rest, hmagnitude, hd⟩ := exists_digit_of_magnitude l hinfinity
    have hread := readMagnitude?_magnitude negative l hinfinity
    rw [hmagnitude] at hread
    unfold Layout.text Layout.chars
    dsimp only
    rw [hmagnitude]
    cases negative with
    | false => exact (ofText?_digit hd rest).trans hread
    | true => exact (ofText?_minus_digit hd rest).trans hread

end Double

end SchemaCheck
