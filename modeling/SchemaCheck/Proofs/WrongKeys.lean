import SchemaCheck.Proofs.KeyText
import SchemaCheck.Proofs.Walk
/-!
# WrongKeys — what a report of wrong keys says

A map is reported to have wrong keys when a key is asked for that no field has, or a field has a key that is not
declared; then this is its one mismatch, and it has both lists of keys (`wrong_keys_are_named`).  They are read off from
its words: a key ends where its line ends, since its text is delimited, and the line after the last one is a heading
(`keyLines_append_inj`), so no two reports have the same words (`wrongKeys_of_verb?_eq`).
-/
namespace SchemaCheck

/-! ## The keys -/

/-- The keys, as declared, of the entries that may not be absent and under whose key there is no field. -/
def keysWithoutField (policy : KeyPolicy) (entries : List (Key × Node)) (fields : List (Key × Value)) : List Key :=
  (entries.filter fun e => !e.2.isOptional && fields.all fun f => policy.normalize f.1 != policy.normalize e.1).map
    Prod.fst

/-- The keys, as the fields spell them, under which there is no entry. -/
def keysWithoutEntry (policy : KeyPolicy) (entries : List (Key × Node)) (fields : List (Key × Value)) : List Key :=
  (fields.filter fun f => entries.all fun e => policy.normalize e.1 != policy.normalize f.1).map Prod.fst

theorem missingKeys_filed (policy : KeyPolicy) (entries : List (Key × Node)) (fields : List (Key × Value)) :
    missingKeys policy entries (filed policy fields) = keysWithoutField policy entries fields := by
  unfold missingKeys keysWithoutField
  refine congrArg _ (List.filter_congr fun e _ => congrArg _ ?_)
  rw [Bool.eq_iff_iff, Option.isNone_iff_eq_none, get?_filed_eq_none_iff, List.all_eq_true]
  simp

theorem extraKeys_declared (policy : KeyPolicy) (entries : List (Key × Node)) (fields : List (Key × Value)) :
    extraKeys policy (declaredKeys policy entries) fields = keysWithoutEntry policy entries fields := by
  unfold extraKeys keysWithoutEntry
  refine congrArg _ (List.filter_congr fun f _ => ?_)
  rw [Bool.eq_iff_iff, Bool.not_eq_true', ← Bool.not_eq_true, List.contains_iff_mem, declaredKeys, List.mem_map,
    List.all_eq_true]
  simp

theorem keysAgree_iff_lists (policy : KeyPolicy) (entries : List (Key × Node)) (fields : List (Key × Value)) :
    KeysAgree policy entries fields ↔
      keysWithoutField policy entries fields = [] ∧ keysWithoutEntry policy entries fields = [] := by
  rw [← missing_and_extra_isEmpty_iff, missingKeys_filed, extraKeys_declared, Bool.and_eq_true, List.isEmpty_iff,
    List.isEmpty_iff]

/-! ## The words -/

/-- A line for each key. -/
def keyLines (keys : List Key) : List Char := Text.inRow '\n' '\t' Key.chars keys

/-- The lines of the keys end here: the text is at its end, or another heading comes. -/
def EndsKeys (rest : List Char) : Prop := rest = [] ∨ ∃ more, rest = '\n' :: 'e' :: more

theorem EndsKeys.endsWord {rest : List Char} (h : EndsKeys rest) : Text.EndsWord rest := by
  rcases h with rfl | ⟨more, rfl⟩
  · exact fun c hc => by cases hc
  · exact fun c hc => by cases hc; rfl

theorem EndsKeys.ne_keyLine {rest : List Char} (h : EndsKeys rest) (cs : List Char) : rest ≠ '\n' :: '\t' :: cs := by
  rcases h with rfl | ⟨more, rfl⟩ <;> exact fun he => by cases he

/-- **The lines of keys tell the keys**, and where these lines end. -/
theorem keyLines_append_inj {r s : List Char} (hr : EndsKeys r) (hs : EndsKeys s) {ks ls : List Key}
    (h : keyLines ks ++ r = keyLines ls ++ s) : ks = ls ∧ r = s :=
  Text.inRow_append_inj rfl hr.endsWord hs.endsWord hr.ne_keyLine hs.ne_keyLine (fun k _ => k.delimited_chars) h

theorem keyList_eq (heading : String) (keys : List Key) :
    Reason.keyList heading keys = if keys = [] then [] else heading.toList ++ keyLines keys := by
  cases keys <;> rfl

/-- A list of keys under its heading, followed by what does not start with this heading. -/
theorem keyList_append_inj {heading : String} {r s : List Char} (hr : EndsKeys r) (hs : EndsKeys s)
    (hr' : ∀ cs, r ≠ heading.toList ++ cs) (hs' : ∀ cs, s ≠ heading.toList ++ cs) {ks ls : List Key}
    (h : Reason.keyList heading ks ++ r = Reason.keyList heading ls ++ s) : ks = ls ∧ r = s := by
  rw [keyList_eq, keyList_eq] at h
  by_cases hks : ks = []
  · rw [if_pos hks, List.nil_append] at h
    by_cases hls : ls = []
    · rw [if_pos hls, List.nil_append] at h
      exact ⟨hks.trans hls.symm, h⟩
    · rw [if_neg hls, List.append_assoc] at h
      exact absurd h (hr' _)
  · rw [if_neg hks, List.append_assoc] at h
    by_cases hls : ls = []
    · rw [if_pos hls, List.nil_append] at h
      exact absurd h.symm (hs' _)
    · rw [if_neg hls, List.append_assoc] at h
      exact keyLines_append_inj hr hs (List.append_cancel_left h)

theorem endsKeys_extra (extra : List Key) : EndsKeys (Reason.keyList "\nextra keys were:" extra) := by
  cases extra with
  | nil => exact .inl rfl
  | cons k extra => exact .inr ⟨_, rfl⟩

theorem extra_ne_missing (extra : List Key) (cs : List Char) :
    Reason.keyList "\nextra keys were:" extra ≠ "\nmissing keys were:".toList ++ cs := by
  cases extra <;> exact fun h => by cases h

/-- **The words of a report of wrong keys tell which keys are missing and which are extra.** -/
theorem wrongKeys_of_verb?_eq {missing extra missing' extra' : List Key}
    (h : (Reason.wrongKeys missing extra).verb? = (Reason.wrongKeys missing' extra').verb?) :
    missing = missing' ∧ extra = extra' := by
  have hwords := String.ofList_injective (Option.some.inj h)
  rw [List.append_assoc, List.append_assoc] at hwords
  obtain ⟨hmissing, hrest⟩ := keyList_append_inj (endsKeys_extra extra) (endsKeys_extra extra')
    (extra_ne_missing extra) (extra_ne_missing extra') (List.append_cancel_left hwords)
  have hend : ∀ cs, [] ≠ "\nextra keys were:".toList ++ cs := fun cs he => by cases he
  obtain ⟨hextra, -⟩ := keyList_append_inj (.inl rfl) (.inl rfl) hend hend (congrArg (· ++ []) hrest)
  exact ⟨hmissing, hextra⟩

/-! ## The report -/

/-- **A report of wrong keys names the missing and the extra ones.**  There is one at the root exactly when there are
such keys; then it is the only mismatch, the node is expected, and its reason has the missing keys as declared and the
extra ones as the fields spell them.  Its words have been said for no other pair of lists. -/
theorem wrong_keys_are_named (policy : KeyPolicy) (entries : List (Key × Node)) (fields : List (Key × Value)) :
    ((∃ m ∈ compare (.mapOf entries policy) (.map fields), m.location = [] ∧
        ∃ missing extra, m.reason = .wrongKeys missing extra) ↔
      keysWithoutField policy entries fields ≠ [] ∨ keysWithoutEntry policy entries fields ≠ []) ∧
    (keysWithoutField policy entries fields ≠ [] ∨ keysWithoutEntry policy entries fields ≠ [] →
      compare (.mapOf entries policy) (.map fields) =
        [⟨[], .map fields, .mapOf entries policy,
          .wrongKeys (keysWithoutField policy entries fields) (keysWithoutEntry policy entries fields)⟩]) ∧
    ∀ missing extra missing' extra' : List Key,
      (Reason.wrongKeys missing extra).verb? = (Reason.wrongKeys missing' extra').verb? →
      missing = missing' ∧ extra = extra' := by
  have hagree : ¬ KeysAgree policy entries fields ↔
      keysWithoutField policy entries fields ≠ [] ∨ keysWithoutEntry policy entries fields ≠ [] := by
    rw [keysAgree_iff_lists, not_and_or]
  have hone : ¬ KeysAgree policy entries fields → compare (.mapOf entries policy) (.map fields) =
      [⟨[], .map fields, .mapOf entries policy,
        .wrongKeys (keysWithoutField policy entries fields) (keysWithoutEntry policy entries fields)⟩] := fun hk => by
    rw [compare_mapOf_map_of_not_agree hk, missingKeys_filed, extraKeys_declared]
    rfl
  rw [← hagree]
  refine ⟨⟨?_, fun hk => ?_⟩, hone, fun _ _ _ _ => wrongKeys_of_verb?_eq⟩
  · rintro ⟨m, hm, hroot, -⟩ hk
    -- where the keys agree, every mismatch is under a key
    rw [compare_mapOf_map hk] at hm
    obtain ⟨e, -, he⟩ := List.mem_flatMap.1 hm
    obtain ⟨f, -, -, part, -, rfl⟩ := mem_entryMismatches.1 he
    cases hroot
  · rw [hone hk]
    exact ⟨_, List.mem_singleton_self _, rfl, _, _, rfl⟩

/-- A missing key whose text looks like the heading and the line of an extra one. -/
theorem wrong_keys_are_named_with_heading_in_key :
    compare (.mapOf [(.sym "a", .atom (.kind .any)), (.sym "b\nextra keys were:\n\t:c", .atom (.kind .any))] .indifferent)
        (.map [(.str "a", .null), (.sym "c", .null)]) =
      [⟨[], .map [(.str "a", .null), (.sym "c", .null)],
        .mapOf [(.sym "a", .atom (.kind .any)), (.sym "b\nextra keys were:\n\t:c", .atom (.kind .any))] .indifferent,
        .wrongKeys [.sym "b\nextra keys were:\n\t:c"] [.sym "c"]⟩] ∧
    (Reason.wrongKeys [.sym "b\nextra keys were:\n\t:c"] []).verb? ≠ (Reason.wrongKeys [.sym "b"] [.sym "c"]).verb? := by
  constructor
  · exact (wrong_keys_are_named _ _ _).2.1 (.inl (by decide))
  · intro h
    exact absurd ((wrong_keys_are_named .strict [] []).2.2 _ _ _ _ h).2 (by decide)

end SchemaCheck
