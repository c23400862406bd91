import SchemaCheck.Matcher
/-!
# MatcherRuns — what a matcher answers in the course of a run

A run serves one request after the other with one matcher.  `Tells` says what a request is answered, told by the
requests before it and not by the state of the matcher: a verdict by whether the keys were made indifferent before, a
message by the last question and by whether the keys were made indifferent before that question.  The matcher answers
so in every run, and asking it for a text changes no other answer (`answers_told_by_history`).
-/
namespace SchemaCheck
namespace Matcher

/-! ## Runs -/

inductive Request where
  /-- Does this value conform? -/
  | ask (v : Value)
  | withIndifferentAccess
  | failureMessage
  | failureMessageWhenNegated
  | description

inductive Answer where
  | verdict (conforms : Bool)
  | text (t : String)
  | done
  deriving DecidableEq

/-- A request for a text. -/
def Request.isQuery : Request → Bool
  | .failureMessage | .failureMessageWhenNegated | .description => true
  | _ => false

/-- The answer to a request, and the matcher after it. -/
def serve (m : Matcher) : Request → Answer × Matcher
  | .ask v => (.verdict (m.ask v).1, (m.ask v).2)
  | .withIndifferentAccess => (.done, m.withIndifferentAccess)
  | .failureMessage => (.text m.failureMessage, m)
  | .failureMessageWhenNegated => (.text m.failureMessageWhenNegated, m)
  | .description => (.text m.description, m)

/-- The matcher after a run. -/
def after (m : Matcher) (run : List Request) : Matcher := run.foldl (fun m r => (m.serve r).2) m

/-- The answers of a run. -/
def answers : Matcher → List Request → List Answer
  | _, [] => []
  | m, r :: run => (m.serve r).1 :: answers (m.serve r).2 run

/-! ## What the requests before tell -/

/-- Options are in force after a run if they are indifferent exactly when the run made them so. -/
def InForce (o : Options) (run : List Request) : Prop :=
  o.indifferentAccess = true ↔ .withIndifferentAccess ∈ run

/-- A value is the last one that a run asked about, and these are the requests before. -/
def AskedLast (v : Value) (early run : List Request) : Prop :=
  ∃ late, run = early ++ .ask v :: late ∧ ∀ w, .ask w ∉ late

/-- What a request is answered after a run with a matcher for a schema. -/
inductive Tells (s : Schema) (run : List Request) : Request → Answer → Prop where
  | verdict {o : Options} (v : Value) (ho : InForce o run) :
      Tells s run (.ask v) (.verdict (Validation.of (compile o s) v).isValid)
  | indifferent : Tells s run .withIndifferentAccess .done
  | failure {o : Options} {v : Value} {early : List Request} (hlast : AskedLast v early run) (ho : InForce o early) :
      Tells s run .failureMessage (.text ((Validation.of (compile o s) v).failureMessage?.getD ""))
  | failureOfNothing (hnone : ∀ v, .ask v ∉ run) :
      Tells s run .failureMessage (.text ("no value was matched against schema\n" ++ s.render))
  | negated {v : Value} {early : List Request} (hlast : AskedLast v early run) :
      Tells s run .failureMessageWhenNegated
        (.text ("expected\n" ++ v.render ++ "\nnot to match schema\n" ++ s.render))
  | negatedOfNothing (hnone : ∀ v, .ask v ∉ run) :
      Tells s run .failureMessageWhenNegated (.text ("no value was matched against schema\n" ++ s.render))
  | description : Tells s run .description (.text ("conform to schema\n" ++ s.render))

/-! ## The matcher after a run -/

theorem after_append (m : Matcher) (run later : List Request) : m.after (run ++ later) = (m.after run).after later :=
  List.foldl_append

theorem schema_serve (m : Matcher) (r : Request) : (m.serve r).2.schema = m.schema := by cases r <;> rfl

theorem schema_after (run : List Request) : ∀ m : Matcher, (m.after run).schema = m.schema := by
  induction run with
  | nil => exact fun _ => rfl
  | cons r run ih => exact fun m => (ih (m.serve r).2).trans (m.schema_serve r)

theorem options_serve (m : Matcher) (r : Request) :
    (m.serve r).2.options.indifferentAccess = true ↔
      m.options.indifferentAccess = true ∨ r = .withIndifferentAccess := by
  cases r <;> simp [serve, ask, Matcher.withIndifferentAccess, Options.withIndifferentAccess]

theorem options_after (run : List Request) : ∀ m : Matcher,
    (m.after run).options.indifferentAccess = true ↔
      m.options.indifferentAccess = true ∨ .withIndifferentAccess ∈ run := by
  induction run with
  | nil => exact fun m => by simp [after]
  | cons r run ih =>
    intro m
    have hrun : m.after (r :: run) = (m.serve r).2.after run := rfl
    rw [hrun, ih, options_serve, or_assoc, List.mem_cons, eq_comm (a := r)]

/-- The options of a matcher are those in force. -/
theorem inForce_after (s : Schema) (run : List Request) : InForce ((ofSchema s).after run).options run := by
  rw [InForce, options_after]
  exact or_iff_right Bool.false_ne_true

theorem last_serve (m : Matcher) {r : Request} (h : ∀ v, r ≠ .ask v) : (m.serve r).2.last = m.last := by
  cases r with
  | ask v => exact absurd rfl (h v)
  | _ => rfl

/-- Without another question, the last one and its outcome stay as they are. -/
theorem last_after (run : List Request) : ∀ m : Matcher, (∀ v, .ask v ∉ run) → (m.after run).last = m.last := by
  induction run with
  | nil => exact fun _ _ => rfl
  | cons r run ih =>
    intro m h
    have hr : ∀ v, r ≠ .ask v := fun v hr => h v (hr ▸ List.mem_cons_self)
    exact (ih (m.serve r).2 fun v hv => h v (List.mem_cons_of_mem r hv)).trans (m.last_serve hr)

/-- The outcome of the last question stays the one under the options that were in force then. -/
theorem last_after_of_askedLast {s : Schema} {v : Value} {early run : List Request} (h : AskedLast v early run) :
    ((ofSchema s).after run).last =
      some (v, Validation.of (compile ((ofSchema s).after early).options s) v) := by
  obtain ⟨late, rfl, hlate⟩ := h
  have hask : (ofSchema s).after (early ++ .ask v :: late) = (((ofSchema s).after early).ask v).2.after late :=
    after_append _ early _
  have hschema : ((ofSchema s).after early).schema = s := schema_after early _
  rw [hask, last_after late _ hlate, ask, hschema]

/-- A run has a last question or none. -/
theorem exists_askedLast (run : List Request) : (∀ v, .ask v ∉ run) ∨ ∃ v early, AskedLast v early run := by
  induction run with
  | nil => exact .inl fun _ => List.not_mem_nil
  | cons r run ih =>
    rcases ih with hnone | ⟨v, early, late, rfl, hlate⟩
    · cases r with
      | ask v => exact .inr ⟨v, [], run, rfl, hnone⟩
      | _ => exact .inl fun w => by simp [hnone w]
    · exact .inr ⟨v, r :: early, late, rfl, hlate⟩

/-! ## Answers -/

/-- **What a matcher answers next is told by the run before.** -/
theorem tells_serve (s : Schema) (run : List Request) (r : Request) :
    Tells s run r (((ofSchema s).after run).serve r).1 := by
  have hschema : ((ofSchema s).after run).schema = s := schema_after run _
  have hnothing : ((ofSchema s).after run).nothingMatched = "no value was matched against schema\n" ++ s.render :=
    congrArg (fun t : Schema => "no value was matched against schema\n" ++ t.render) hschema
  cases r with
  | ask v =>
    rw [serve, ask, hschema]
    exact .verdict v (inForce_after s run)
  | withIndifferentAccess => exact .indifferent
  | failureMessage =>
    rw [serve, Matcher.failureMessage]
    rcases exists_askedLast run with hnone | ⟨v, early, hlast⟩
    · rw [last_after run _ hnone, hnothing]
      exact .failureOfNothing hnone
    · rw [last_after_of_askedLast hlast]
      exact .failure hlast (inForce_after s early)
  | failureMessageWhenNegated =>
    rw [serve, Matcher.failureMessageWhenNegated]
    rcases exists_askedLast run with hnone | ⟨v, early, hlast⟩
    · rw [last_after run _ hnone, hnothing]
      exact .negatedOfNothing hnone
    · rw [last_after_of_askedLast hlast, hschema]
      exact .negated hlast
  | description =>
    have hdescription : ((ofSchema s).after run).description = "conform to schema\n" ++ s.render :=
      congrArg (fun t : Schema => "conform to schema\n" ++ t.render) hschema
    rw [serve, hdescription]
    exact .description

theorem answers_append (run later : List Request) : ∀ m : Matcher,
    m.answers (run ++ later) = m.answers run ++ (m.after run).answers later := by
  induction run with
  | nil => exact fun _ => rfl
  | cons r run ih => exact fun m => congrArg ((m.serve r).1 :: ·) (ih (m.serve r).2)

theorem length_answers (run : List Request) : ∀ m : Matcher, (m.answers run).length = run.length := by
  induction run with
  | nil => exact fun _ => rfl
  | cons r run ih => exact fun m => congrArg (· + 1) (ih (m.serve r).2)

/-- The message of a mismatch is never empty. -/
theorem failureMessage?_getD_eq_empty_iff (r : Validation) : r.failureMessage?.getD "" = "" ↔ r.isValid = true := by
  rw [← r.failureMessage?_eq_none_iff]
  cases h : r.failureMessage? with
  | none => exact iff_of_true rfl rfl
  | some message =>
    obtain ⟨m, -, rfl⟩ := Option.map_eq_some_iff.1 h
    have hmessage : m.message ≠ "" := fun he => by
      have := congrArg String.toList he
      simp [Mismatch.message] at this
    exact iff_of_false hmessage (Option.some_ne_none _)

/-- **A matcher answers by the history of its run.**  Whatever was requested before and is requested later, a question
is answered by whether the value conforms under the options in force, and a message explains the last value asked about
under the options that were in force then, or says that there was none; the explanation is empty exactly if that value
conformed.  A request for a text may be left out of a run without a change of the other answers.  And of the two
assertions about a value, that it conforms and that it does not, exactly one fails, whatever the schema, the options and
the matcher's past. -/
theorem answers_told_by_history (s : Schema) :
    (∀ before r later, ∃ a, ((ofSchema s).answers (before ++ r :: later))[before.length]? = some a ∧
      Tells s before r a) ∧
    (∀ (o : Options) (v : Value), (Validation.of (compile o s) v).failureMessage?.getD "" = "" ↔
      (Validation.of (compile o s) v).isValid = true) ∧
    (∀ before q later, q.isQuery = true → ((ofSchema s).answers (before ++ q :: later)).eraseIdx before.length =
      (ofSchema s).answers (before ++ later)) ∧
    ∀ (o : Options) (last : Option (Value × Validation)) (v : Value),
      ((Matcher.mk s o last).complaint? v).isSome = !((Matcher.mk s o last).negatedComplaint? v).isSome := by
  refine ⟨fun before r later => ⟨_, ?_, tells_serve s before r⟩, fun o v => failureMessage?_getD_eq_empty_iff _,
    fun before q later hq => ?_, fun o last v => ?_⟩
  · rw [answers_append, List.getElem?_append_right (Nat.le_of_eq (length_answers before _)), length_answers,
      Nat.sub_self]
    rfl
  · rw [answers_append, answers_append, List.eraseIdx_append_of_length_le (Nat.le_of_eq (length_answers before _)),
      length_answers, Nat.sub_self, answers, List.eraseIdx_cons_zero]
    cases q with
    | failureMessage | failureMessageWhenNegated | description => rfl
    | _ => cases hq
  · rw [complaint?, negatedComplaint?]
    cases h : (Matcher.mk s o last).ask v with
    | mk ok m => cases ok <;> rfl

/-- A message between a question and a change of options, left out: the two verdicts about a key of the other kind stay
as they are. -/
theorem answers_told_by_history_message :
    let s : Schema := .map [(.sym "a", .kind .integer)]
    let v : Value := .map [(.str "a", .int 1)]
    Request.failureMessage.isQuery = true ∧
      ((ofSchema s).answers ([.ask v] ++ .failureMessage :: [.withIndifferentAccess, .ask v])).eraseIdx 1 =
        (ofSchema s).answers [.ask v, .withIndifferentAccess, .ask v] ∧
      (ofSchema s).answers [.ask v, .withIndifferentAccess, .ask v] = [.verdict false, .done, .verdict true] := by
  intro s v
  exact ⟨rfl, (answers_told_by_history s).2.2.1 [.ask v] .failureMessage [.withIndifferentAccess, .ask v] rfl,
    by decide +kernel⟩

end Matcher
end SchemaCheck
