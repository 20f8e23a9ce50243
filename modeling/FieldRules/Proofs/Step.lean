import FieldRules.Proofs.Presence

/-!
# The second pass, step by step

The second pass does one step a rule: it passes the rule over, or judges it and goes on, or ends (`StepCase`).
The sets that it fills are its standing. `judge_cons` takes the pass apart into its steps, and `judge_reach`
says that a run which gets through some rules goes on as a run from where it then stands.
-/

namespace FieldRules.Engine

/-- Where the second pass stands: the fields closed to what is below them, and those found unset, by either pass. -/
structure Standing where
  closed : List String
  unset : List String

/-- Where the pass stands after a verdict on the field of a rule. -/
def Standing.after (standing : Standing) (rule : FieldRule) (verdict : Verdict) : Standing where
  closed := if verdict.hasErrors || verdict.unset then rule.field :: standing.closed else standing.closed
  unset := if verdict.unset then rule.field :: standing.unset else standing.unset

/-- What the second pass does at one rule: it goes on, perhaps with a finding, or it ends. -/
inductive Step
  | next (standing : Standing) (found : List Finding)
  | done (result : Except Abort (List Finding))

/-- The second pass at one rule. -/
def step (subject : Json) (known : List String) (standing : Standing) (rule : FieldRule) : Traced Step :=
  if waitsFor rule standing.closed then .pure (.next standing [])
  else
    let traced := rule.validate { subject, known }
    ⟨match traced.result with
      | .error error => .done (.error ⟨rule.field, .validation, error⟩)
      | .ok verdict =>
        if verdict.hasErrors && rule.stopAll then .done (.ok [⟨rule.field, verdict.codes⟩])
        else .next (standing.after rule verdict) (if verdict.hasErrors then [⟨rule.field, verdict.codes⟩] else []),
      traced.calls⟩

/-- Everything that a step can do. -/
inductive StepCase (subject : Json) (known : List String) (standing : Standing) (rule : FieldRule) : Step → Prop
  | passedOver (waits : waitsFor rule standing.closed = true) :
    StepCase subject known standing rule (.next standing [])
  | gaveUp {error : SubjectError} (opens : waitsFor rule standing.closed = false)
    (failed : (rule.validate { subject, known }).result = .error error) :
    StepCase subject known standing rule (.done (.error ⟨rule.field, .validation, error⟩))
  | fine {verdict : Verdict} (opens : waitsFor rule standing.closed = false)
    (judged : (rule.validate { subject, known }).result = .ok verdict) (fine : verdict.hasErrors = false) :
    StepCase subject known standing rule (.next (standing.after rule verdict) [])
  | faulty {verdict : Verdict} (opens : waitsFor rule standing.closed = false)
    (judged : (rule.validate { subject, known }).result = .ok verdict) (faulty : verdict.hasErrors = true)
    (goesOn : rule.stopAll = false) :
    StepCase subject known standing rule (.next (standing.after rule verdict) [⟨rule.field, verdict.codes⟩])
  | stopped {verdict : Verdict} (opens : waitsFor rule standing.closed = false)
    (judged : (rule.validate { subject, known }).result = .ok verdict) (faulty : verdict.hasErrors = true)
    (stops : rule.stopAll = true) :
    StepCase subject known standing rule (.done (.ok [⟨rule.field, verdict.codes⟩]))

/-- A run with findings and questions put before its own. -/
def putFirst (found : List Finding) (calls : List Call) (run : Traced (Except Abort (List Finding))) :
    Traced (Except Abort (List Finding)) :=
  ⟨run.result.map (found ++ ·), calls ++ run.calls⟩

theorem putFirst_nil (calls : List Call) (run : Traced (Except Abort (List Finding))) :
    putFirst [] calls run = .after calls run := by
  obtain ⟨result, calls⟩ := run
  cases result <;> rfl

theorem putFirst_putFirst (found found' : List Finding) (calls calls' : List Call)
    (run : Traced (Except Abort (List Finding))) :
    putFirst found calls (putFirst found' calls' run) = putFirst (found ++ found') (calls ++ calls') run := by
  obtain ⟨result, calls⟩ := run
  cases result <;> simp [putFirst, Except.map]

section
variable (subject : Json) (known : List String) (standing : Standing) (rule : FieldRule)

theorem step_case : StepCase subject known standing rule (step subject known standing rule).result := by
  unfold step
  cases hw : waitsFor rule standing.closed with
  | true => exact .passedOver hw
  | false =>
    cases hv : (rule.validate { subject, known }).result with
    | error error =>
      simp only [Bool.false_eq_true, if_false, hv]
      exact .gaveUp hw hv
    | ok verdict =>
      simp only [Bool.false_eq_true, if_false, hv]
      cases hf : verdict.hasErrors with
      | false => exact .fine hw hv hf
      | true =>
        cases hs : rule.stopAll with
        | false => exact .faulty hw hv hf hs
        | true => exact .stopped hw hv hf hs

/-- **The second pass is its steps**, one after another until one of them ends it. -/
theorem judge_cons (rules : List FieldRule) :
    judge subject known (rule :: rules) standing.closed =
      match (step subject known standing rule).result with
      | .done result => ⟨result, (step subject known standing rule).calls⟩
      | .next standing' found =>
        putFirst found (step subject known standing rule).calls (judge subject known rules standing'.closed) := by
  unfold step
  rw [judge]
  cases waitsFor rule standing.closed with
  | true =>
    simp only [if_true, Traced.pure, putFirst_nil]
    rfl
  | false =>
    simp only [Bool.false_eq_true, if_false]
    cases (rule.validate { subject, known }).result with
    | error error => simp [Traced.after, Traced.pure]
    | ok verdict =>
      cases hf : verdict.hasErrors with
      | false => simp [Standing.after, hf, putFirst_nil]
      | true => cases hs : rule.stopAll <;> simp [Standing.after, hf, putFirst, Traced.after, Traced.pure]

/-! ## Getting through some rules -/

/-- Where the pass stands after one rule, unless it ends there. -/
def advance : Option Standing :=
  match (step subject known standing rule).result with
  | .next standing _ => some standing
  | .done _ => none

/-- Where the pass stands after some rules, unless it ends at one of them. -/
def reach (rules : List FieldRule) : Option Standing :=
  rules.foldlM (advance subject known) standing

theorem reach_append_singleton {rules : List FieldRule} {reached : Standing} :
    reach subject known standing (rules ++ [rule]) = some reached ↔
      ∃ before, reach subject known standing rules = some before ∧
        ∃ found, (step subject known before rule).result = .next reached found := by
  have one : ∀ before, advance subject known before rule = some reached ↔
      ∃ found, (step subject known before rule).result = .next reached found := by
    intro before
    unfold advance
    cases (step subject known before rule).result <;> simp
  simp [reach, List.foldlM_append, Option.bind_eq_some_iff, one]

/-- **A run that gets through some rules goes on from where it then stands**, with what it found and asked so far
put first. -/
theorem judge_reach {rules : List FieldRule} {reached : Standing}
    (h : reach subject known standing rules = some reached) :
    ∃ found calls, ∀ rest, judge subject known (rules ++ rest) standing.closed =
      putFirst found calls (judge subject known rest reached.closed) := by
  induction rules generalizing standing with
  | nil =>
    cases h
    exact ⟨[], [], fun rest => (putFirst_nil [] _).symm⟩
  | cons rule rules ih =>
    rw [reach, List.foldlM_cons] at h
    cases hs : (step subject known standing rule).result with
    | done result => simp [advance, hs] at h
    | next standing' found =>
      obtain ⟨found', calls', run⟩ := ih standing' (by simpa [reach, advance, hs] using h)
      refine ⟨found ++ found', (step subject known standing rule).calls ++ calls', fun rest => ?_⟩
      rw [List.cons_append, judge_cons, hs]
      simp only [run, putFirst_putFirst]

end

end FieldRules.Engine
