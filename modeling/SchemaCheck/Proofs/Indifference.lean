import SchemaCheck.Proofs.Acceptance
import SchemaCheck.Proofs.Spelling
/-!
# Indifference — what conforms strictly conforms under indifferent access

Under indifferent access an entry is compared with the fields of both spellings of its key.  A map that conforms strictly
has no field besides those declared, so a second spelling could only be declared by a second entry.  Where no map
declares a string and a symbol of one text, therefore, no value is turned away that conforms strictly
(`conforms_indifferent_of_strict`).
-/
namespace SchemaCheck

/-- Entries without twins that agree strictly with fields agree with them under indifferent access, and no field comes
under an entry that it did not come under before. -/
theorem compare_mapOf_indifferent {α : Type} {es : List (Key × α)} {l r : α → Node} {v : Value}
    (ht : Key.areTwinFree (Entries.keys es) = true)
    (hopt : ∀ e ∈ es, (r e.2).isOptional = false → (l e.2).isOptional = false)
    (hes : ∀ e ∈ es, ∀ w, compare (l e.2).unwrapOptional w = [] → compare (r e.2).unwrapOptional w = [])
    (h : compare (.mapOf (es.map fun e => (e.1, l e.2)) .strict) v = []) :
    compare (.mapOf (es.map fun e => (e.1, r e.2)) .indifferent) v = [] := by
  obtain ⟨fields, rfl, hkeys, hfields⟩ := (compare_mapOf_eq_nil_iff _ _ v).1 h
  have hdeclared : ∀ f ∈ fields, ∃ e ∈ es, e.1 = f.1 := fun f hf => by
    obtain ⟨_, hmem, hk⟩ := hkeys.declared f hf
    obtain ⟨e, he, rfl⟩ := List.mem_map.1 hmem
    exact ⟨e, he, hk⟩
  refine (compare_mapOf_eq_nil_iff _ _ _).2 ⟨fields, rfl, ⟨?_, fun f hf => ?_⟩, ?_⟩
  · refine List.forall_mem_map.2 fun e he hreq => ?_
    obtain ⟨f, hf, hk⟩ := hkeys.required _ (List.mem_map_of_mem he) (hopt e he hreq)
    exact ⟨f, hf, congrArg Key.indifferent hk⟩
  · obtain ⟨e, he, hk⟩ := hdeclared f hf
    exact ⟨_, List.mem_map_of_mem he, congrArg Key.indifferent hk⟩
  · refine List.forall_mem_map.2 fun e he f hf hk => ?_
    -- the entry that declares the field strictly is this one, as the two are not twins
    obtain ⟨e', he', hk'⟩ := hdeclared f hf
    have hsame : e'.1 = e.1 := Key.eq_of_indifferent_eq ht (List.mem_map_of_mem he') (List.mem_map_of_mem he)
      ((congrArg Key.indifferent hk').trans hk)
    exact hes e he f.2 (hfields _ (List.mem_map_of_mem he) f hf (hk'.symm.trans hsame))

/-- Strict comparison finds something wherever indifferent comparison does. -/
theorem compare_indifferent_eq_nil (s : Schema) : ∀ v : Value, s.isTwinFree = true →
    compare (compile Options.default s) v = [] →
      compare (compile Options.default.withIndifferentAccess s) v = [] := by
  induction s using Schema.descent with
  | value u => exact fun v _ h => h
  | kind k => exact fun v _ h => h
  | pattern p => exact fun v _ h => h
  | range r => exact fun v _ h => h
  | seq items ih =>
    intro v hs h
    have hitems := ((Schema.everywhere_seq _ items).1 hs).2
    match items with
    | [] => exact h
    | [s] =>
      rw [compile_seq_single, compare_arrayOf_eq_nil_iff] at h ⊢
      obtain ⟨xs, rfl, hxs⟩ := h
      exact ⟨xs, rfl, fun x hx => ih s List.mem_cons_self x (hitems s List.mem_cons_self) (hxs x hx)⟩
    | s :: t :: rest =>
      rw [compile_seq_many, compare_alternatives_eq_nil_iff] at h ⊢
      obtain ⟨_, hn, hv⟩ := h
      obtain ⟨x, hx, rfl⟩ := List.mem_map.1 hn
      exact ⟨_, List.mem_map_of_mem hx, ih x hx v (hitems x hx) hv⟩
  | map entries ih =>
    intro v hs h
    obtain ⟨htwins, hentries⟩ := (Schema.everywhere_map _ entries).1 hs
    rw [compile_map] at h ⊢
    refine compare_mapOf_indifferent htwins (fun e _ hreq => ?_) (fun e he w hw => ?_) h
    · rw [isOptional_compile] at hreq ⊢
      exact hreq
    · rw [compile_unwrapOptional] at hw ⊢
      exact ih e he w (Schema.everywhere_unwrapOptional (hentries e he)) hw
  | optional inner _ =>
    intro v _ h
    rw [compile, compare_optional] at h
    cases h

/-- **Indifferent access turns no value away that conforms strictly**, if no map of the schema declares a string and a
symbol of one text. -/
theorem conforms_indifferent_of_strict {s : Schema} (hs : s.isTwinFree = true) {v : Value}
    (hv : conforms (compile Options.default s) v = true) :
    conforms (compile Options.default.withIndifferentAccess s) v = true :=
  List.isEmpty_iff.2 (compare_indifferent_eq_nil s v hs (List.isEmpty_iff.1 hv))

/-- A symbol and a string of different texts, one of them for an entry that may be absent, in an element and in a choice;
under an entry for anything the value holds twins. -/
theorem conforms_indifferent_of_strict_beside_twins :
    let s : Schema := .map [(.sym "tags", .seq [.map [(.sym "on", .optional (.kind .bool)), (.str "off", .kind .any)]]),
      (.str "mode", .seq [.value (.int 1), .kind .string])]
    let v : Value := .map [(.str "mode", .str "x"), (.sym "tags", .seq [.map [(.str "off",
      .map [(.sym "a", .null), (.str "a", .null)])]])]
    s.isTwinFree = true ∧ conforms (compile Options.default s) v = true ∧
      conforms (compile Options.default.withIndifferentAccess s) v = true := by
  intro s v
  have hs : s.isTwinFree = true := by decide +kernel
  have hv : conforms (compile Options.default s) v = true := by decide +kernel
  exact ⟨hs, hv, conforms_indifferent_of_strict hs hv⟩

end SchemaCheck
