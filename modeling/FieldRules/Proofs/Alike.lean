import Mathlib.Data.List.Forall2
import FieldRules.Engine

/-!
# Chains that answer alike

A validation is decided by what its rules answer, and of an answer with codes only by whether there are any. An
observer who sees of a list of codes what a *view* shows, and of everything else all there is, cannot tell two
validations apart whose rules look alike to him one by one (`validate_alike`). A view that shows the codes
themselves makes the two validations equal (`validate_eq_of_alike`).
-/

namespace FieldRules

/-! ## What an observer sees -/

section
variable {ε α β γ : Type}

/-- A success changed, after the same questions. -/
def Traced.mapOk (f : α → β) (traced : Traced (Except ε α)) : Traced (Except ε β) :=
  ⟨traced.result.map f, traced.calls⟩

theorem Traced.mapOk_after (f : α → β) (calls : List Call) (traced : Traced (Except ε α)) :
    (Traced.after calls traced).mapOk f = .after calls (traced.mapOk f) :=
  rfl

theorem Traced.mapOk_mapOk (f : α → β) (g : β → γ) (traced : Traced (Except ε α)) :
    (traced.mapOk f).mapOk g = traced.mapOk (g ∘ f) := by
  obtain ⟨result, calls⟩ := traced
  cases result <;> rfl

theorem Traced.mapOk_injective {f : α → β} (h : Function.Injective f) :
    Function.Injective (fun traced : Traced (Except ε α) => traced.mapOk f) := by
  rintro ⟨result, calls⟩ ⟨result', calls'⟩ same
  simp only [mapOk, Traced.mk.injEq] at same
  obtain ⟨results, rfl⟩ := same
  cases result with
  | error error => cases result' with
    | error error' => simpa [Except.map] using results
    | ok value' => cases results
  | ok value => cases result' with
    | error error' => cases results
    | ok value' =>
      have values : f value = f value' := by simpa [Except.map] using results
      rw [h values]

/-- What a view shows of a verdict. -/
def Verdict.seen (view : List String → β) (verdict : Verdict) : Bool × β :=
  (verdict.unset, view verdict.codes)

/-- What a view shows of a finding. -/
def Finding.seen (view : List String → β) (finding : Finding) : String × β :=
  (finding.field, view finding.codes)

theorem Finding.seen_id_injective : Function.Injective (Finding.seen id) := by
  rintro ⟨field, codes⟩ ⟨field', codes'⟩ same
  simpa [seen] using same

/-- A view tells whether there are codes. -/
def TellsFaults (view : List String → β) : Prop :=
  ∀ codes codes', view codes = view codes' → codes.isEmpty = codes'.isEmpty

theorem tellsFaults_id : TellsFaults id := by
  intro codes codes' same
  rw [show codes = codes' from same]

end

namespace FieldRule

variable {β : Type}

/-- A rule on one payload and a rule on another look alike: they are for the same field, both end the validation or
neither does, they agree on whether the field is set, and their verdicts look the same, after the same questions. -/
structure Alike (view : List String → β) (subject subject' : Json) (rule rule' : FieldRule) : Prop where
  field : rule'.field = rule.field
  stopAll : rule'.stopAll = rule.stopAll
  isSet : rule'.isSet rule'.field subject' = rule.isSet rule.field subject
  verdict : ∀ known, (rule'.validate { subject := subject', known }).mapOk (Verdict.seen view) =
    (rule.validate { subject, known }).mapOk (Verdict.seen view)

variable {view : List String → β} {subject subject' : Json} {rule rule' : FieldRule}

/-- Rules that look alike ask the same and give the same error, or verdicts that look the same. -/
theorem Alike.verdict_cases (alike : Alike view subject subject' rule rule') (known : List String) :
    (rule'.validate { subject := subject', known }).calls = (rule.validate { subject, known }).calls ∧
      ((∃ error, (rule.validate { subject, known }).result = .error error ∧
          (rule'.validate { subject := subject', known }).result = .error error) ∨
        ∃ verdict verdict', (rule.validate { subject, known }).result = .ok verdict ∧
          (rule'.validate { subject := subject', known }).result = .ok verdict' ∧
            verdict'.unset = verdict.unset ∧ view verdict'.codes = view verdict.codes) := by
  have same := alike.verdict known
  simp only [Traced.mapOk, Traced.mk.injEq] at same
  obtain ⟨results, calls⟩ := same
  refine ⟨calls, ?_⟩
  cases hr : (rule.validate { subject, known }).result with
  | error error => cases hr' : (rule'.validate { subject := subject', known }).result with
    | error error' =>
      rw [hr, hr'] at results
      exact Or.inl ⟨error, rfl, by simpa [Except.map] using results⟩
    | ok verdict' =>
      rw [hr, hr'] at results
      cases results
  | ok verdict => cases hr' : (rule'.validate { subject := subject', known }).result with
    | error error' =>
      rw [hr, hr'] at results
      cases results
    | ok verdict' =>
      rw [hr, hr'] at results
      refine Or.inr ⟨verdict, verdict', rfl, rfl, ?_⟩
      simpa [Except.map, Verdict.seen] using results

end FieldRule

/-! ## Both passes -/

namespace Engine

open FieldRule (Alike)

variable {β : Type} {view : List String → β} {subject subject' : Json} {rules rules' : List FieldRule}

theorem waitsFor_of_field {rule rule' : FieldRule} (h : rule'.field = rule.field) (fields : List String) :
    waitsFor rule' fields = waitsFor rule fields := by
  rw [waitsFor, waitsFor, FieldRule.dependencies, FieldRule.dependencies, h]

/-- **The first pass** looks at nothing but fields and at whether they are set. -/
theorem findPresence_alike
    (h : List.Forall₂ (fun rule rule' : FieldRule => rule'.field = rule.field ∧
      rule'.isSet rule'.field subject' = rule.isSet rule.field subject) rules rules')
    (presence : Presence) : findPresence subject' rules' presence = findPresence subject rules presence := by
  induction h generalizing presence with
  | nil => rfl
  | @cons rule rule' rules rules' alike _ ih =>
    obtain ⟨field, isSet⟩ := alike
    rw [findPresence, findPresence, waitsFor_of_field field, isSet, field]
    cases waitsFor rule presence.unset with
    | true => exact ih presence
    | false =>
      cases rule.isSet rule.field subject with
      | error error => rfl
      | ok set => cases set <;> exact ih _

/-- A finding put first looks the same on runs that look the same. -/
theorem seen_cons {finding finding' : Finding} {run run' : Traced (Except Abort (List Finding))}
    (first : finding'.seen view = finding.seen view)
    (rest : run'.mapOk (List.map (Finding.seen view)) = run.mapOk (List.map (Finding.seen view))) :
    Traced.mapOk (List.map (Finding.seen view)) ⟨run'.result.map (finding' :: ·), run'.calls⟩ =
      Traced.mapOk (List.map (Finding.seen view)) ⟨run.result.map (finding :: ·), run.calls⟩ := by
  obtain ⟨result, calls⟩ := run
  obtain ⟨result', calls'⟩ := run'
  simp only [Traced.mapOk, Traced.mk.injEq] at rest ⊢
  refine ⟨?_, rest.2⟩
  cases result <;> cases result' <;> simp_all [Except.map]

/-- **The second pass** looks the same on chains that look alike, from wherever it goes on. -/
theorem judge_alike (tells : TellsFaults view) (h : List.Forall₂ (Alike view subject subject') rules rules')
    (known closed : List String) :
    (judge subject' known rules' closed).mapOk (List.map (Finding.seen view)) =
      (judge subject known rules closed).mapOk (List.map (Finding.seen view)) := by
  induction h generalizing closed with
  | nil => rfl
  | @cons rule rule' rules rules' alike _ ih =>
    rw [judge, judge, waitsFor_of_field alike.field]
    cases waitsFor rule closed with
    | true => exact ih closed
    | false =>
      obtain ⟨calls, ⟨error, failed, failed'⟩ | ⟨verdict, verdict', judged, judged', unset, codes⟩⟩ :=
        alike.verdict_cases known
      · simp [failed, failed', calls, alike.field]
      · have faults : verdict'.hasErrors = verdict.hasErrors := by
          rw [Verdict.hasErrors, Verdict.hasErrors, tells _ _ codes]
        have first : Finding.seen view ⟨rule.field, verdict'.codes⟩ =
            Finding.seen view ⟨rule.field, verdict.codes⟩ := by
          rw [Finding.seen, Finding.seen, codes]
        simp only [Bool.false_eq_true, if_false, judged, judged', calls, alike.field, alike.stopAll, faults, unset,
          Traced.mapOk_after]
        refine congrArg (Traced.after _) ?_
        cases verdict.hasErrors with
        | false => exact ih _
        | true =>
          cases rule.stopAll with
          | true => simp [Traced.mapOk, Traced.pure, Except.map, first]
          | false => exact seen_cons first (ih _)

/-- **A validation** looks the same by chains that look alike. -/
theorem validate_alike {engine engine' : Engine} (tells : TellsFaults view)
    (h : List.Forall₂ (Alike view subject subject') engine.rules engine'.rules) :
    (engine'.validate subject').mapOk (List.map (Finding.seen view)) =
      (engine.validate subject).mapOk (List.map (Finding.seen view)) := by
  have presence := findPresence_alike (h.imp fun _ _ alike => ⟨alike.field, alike.isSet⟩) ⟨[], []⟩
  rw [validate, validate, presence]
  cases findPresence subject engine.rules ⟨[], []⟩ with
  | error abort => rfl
  | ok found => exact judge_alike tells h found.set found.unset

/-- **Two validations are equal** when their rules differ in nothing that they answer. -/
theorem validate_eq_of_alike {engine engine' : Engine}
    (h : List.Forall₂ (Alike id subject subject') engine.rules engine'.rules) :
    engine'.validate subject' = engine.validate subject :=
  Traced.mapOk_injective (Finding.seen_id_injective.list_map) (validate_alike tellsFaults_id h)

end Engine

end FieldRules
