import FieldRules.FieldRule
import FieldRules.Proofs.Ancestry

/-!
# One rule and what it reads

A rule answers two questions about a payload, whether its field is set and what is wrong with it, and reads the
payload once for each. Both answers follow from the one reading: a payload that cannot be read gives the same
error twice (`validate_of_read_error`), the verdict is `unset` exactly when the field is not set
(`isSet_of_validate`), and a field that is set can fail to be judged only by an outside component
(`validate_error`). Of the set fields the verdict looks for those that the rule excludes (`validate_congr_excluded`).
-/

namespace FieldRules

/-- The error comes from an outside component, not from the shape of the payload. -/
def SubjectError.IsExternal : SubjectError → Prop
  | external .. => True
  | _ => False

/-! ## Errors of a reading -/

theorem Subject.walk_error {value : Json} {position : Option String} {keys : List String} {error : SubjectError}
    (h : walk value position keys = .error error) : ¬ error.IsExternal := by
  induction keys generalizing value position with
  | nil => simp [walk] at h
  | cons key keys ih =>
    cases value with
    | obj members =>
      simp only [walk] at h
      cases hm : members.lookup key with
      | none => simp [hm] at h
      | some next =>
        rw [hm] at h
        cases next with
        | null => simp at h
        | _ => exact ih h
    | _ =>
      simp only [walk, Except.error.injEq] at h
      subst h
      exact id

namespace FieldRule

theorem convert_error {type : RuleType} {trim : Bool} {path : String} {value : Json} {error : SubjectError}
    (h : convert type trim path value = .error error) : ¬ error.IsExternal := by
  have mismatch : error = .typeMismatch path type value.kind := by
    cases type <;> cases value <;> simp only [convert, Except.error.injEq, reduceCtorEq] at h
    case int.int n =>
      split at h
      · cases h
      · exact (Except.error.inj h).symm
    all_goals exact h.symm
  rw [mismatch]
  exact id

/-- Only a text can be there and count as unset. -/
theorem convert_eq_none {type : RuleType} {trim : Bool} {path : String} {value : Json}
    (h : convert type trim path value = .ok none) : ∃ text, value = .str text := by
  cases type <;> cases value <;> simp only [convert, Except.ok.injEq, reduceCtorEq] at h
  case str.str text => exact ⟨text, rfl⟩
  case int.int n => split at h <;> cases h

theorem read_error {rule : FieldRule} {path : String} {subject : Json} {error : SubjectError}
    (h : rule.read path subject = .error error) : ¬ error.IsExternal := by
  unfold read at h
  cases hr : Subject.resolve subject path with
  | error e =>
    rw [hr] at h
    cases h
    exact Subject.walk_error hr
  | ok found =>
    rw [hr] at h
    cases found with
    | none => cases h
    | some value => exact convert_error h

theorem read_eq_none {rule : FieldRule} {path : String} {subject : Json} (h : rule.read path subject = .ok none) :
    Subject.resolve subject path = .ok none ∨ ∃ text, Subject.resolve subject path = .ok (some (.str text)) := by
  unfold read at h
  cases hr : Subject.resolve subject path with
  | error e => rw [hr] at h; cases h
  | ok found =>
    rw [hr] at h
    cases found with
    | none => exact Or.inl rfl
    | some value =>
      obtain ⟨text, rfl⟩ := convert_eq_none h
      exact Or.inr ⟨text, rfl⟩

/-! ## Presence -/

theorem isSet_eq_error_iff {rule : FieldRule} {path : String} {subject : Json} {error : SubjectError} :
    rule.isSet path subject = .error error ↔ rule.read path subject = .error error := by
  unfold isSet
  cases rule.read path subject <;> simp [Except.map]

theorem isSet_eq_ok_iff {rule : FieldRule} {path : String} {subject : Json} {set : Bool} :
    rule.isSet path subject = .ok set ↔ ∃ value, rule.read path subject = .ok value ∧ value.isSome = set := by
  unfold isSet
  cases rule.read path subject <;> simp [Except.map]

/-- **Nothing is set below an unset field**, whichever rules read the two: what is below is unset as well, or
cannot be read at all. -/
theorem isSet_below_unset {above below : FieldRule} {ancestor path : String} {subject : Json}
    (h : Path.IsAncestor ancestor path) (unset : above.isSet ancestor subject = .ok false) :
    below.isSet path subject ≠ .ok true := by
  obtain ⟨value, hr, hv⟩ := isSet_eq_ok_iff.1 unset
  obtain rfl : value = none := by simpa using hv
  intro hb
  obtain ⟨other, ho, hs⟩ := isSet_eq_ok_iff.1 hb
  unfold read at ho
  rcases read_eq_none hr with missing | ⟨text, found⟩
  · rw [Subject.resolve_below_unset h missing] at ho
    cases ho
    simp at hs
  · obtain ⟨error, he⟩ := Subject.resolve_below_text h found
    rw [he] at ho
    cases ho

/-! ## Verdicts -/

end FieldRule

/-- Checks can only fail to end by an outside component. -/
theorem Check.runAll_error {path : String} {known : List String} {value : Json} {checks : List Check}
    {codes : List String} {error : SubjectError} (h : (runAll path known value checks codes).result = .error error) :
    error.IsExternal := by
  induction checks generalizing codes with
  | nil => cases h
  | cons check checks ih =>
    cases check with
    | stopIfFailed =>
      simp only [runAll] at h
      split at h
      · exact ih h
      · cases h
    | exclusive fields code => exact ih h
    | external name component code =>
      simp only [runAll] at h
      split at h
      · cases h
        trivial
      · exact ih h
    | test condition code => exact ih h

theorem any_contains_congr {fields known known' : List String} (h : ∀ field ∈ fields, field ∈ known ↔ field ∈ known') :
    fields.any known.contains = fields.any known'.contains := by
  rw [Bool.eq_iff_iff]
  simp only [List.any_eq_true, List.contains_iff_mem]
  exact exists_congr fun field => and_congr_right (h field)

/-- The fields that a check excludes. -/
def Check.excluded : Check → List String
  | exclusive fields _ => fields
  | _ => []

/-- **Checks look for excluded fields only** among those known to be set. -/
theorem Check.runAll_congr_excluded {path : String} {known known' : List String} {value : Json} {checks : List Check}
    {codes : List String} (h : ∀ check ∈ checks, ∀ field ∈ check.excluded, field ∈ known ↔ field ∈ known') :
    runAll path known value checks codes = runAll path known' value checks codes := by
  induction checks generalizing codes with
  | nil => rfl
  | cons check checks ih =>
    obtain ⟨here, later⟩ := List.forall_mem_cons.1 h
    cases check with
    | stopIfFailed => simp only [runAll, ih later]
    | exclusive fields code =>
      have same : fields.any known.contains = fields.any known'.contains := any_contains_congr here
      simp only [runAll, ih later, same]
    | external name component code => simp only [runAll, ih later]
    | test condition code => simp only [runAll, ih later]

namespace FieldRule

variable {rule : FieldRule} {situation : Situation}

theorem validate_of_read_error {error : SubjectError}
    (h : rule.read (situation.path rule.field) situation.subject = .error error) :
    rule.validate situation = .pure (.error error) := by
  simp only [validate, h]

theorem validate_of_read_none (h : rule.read (situation.path rule.field) situation.subject = .ok none) :
    rule.validate situation = .pure (.ok rule.unsetVerdict) := by
  simp only [validate, h]

theorem validate_of_read_some {value : Json}
    (h : rule.read (situation.path rule.field) situation.subject = .ok (some value)) :
    rule.validate situation =
      ⟨(Check.runAll (situation.path rule.field) situation.known value rule.checks []).result.map
          fun codes => { codes := codes },
        (Check.runAll (situation.path rule.field) situation.known value rule.checks []).calls⟩ := by
  simp only [validate, h]

/-- Every way to a verdict: the field is unset, or its value went through the checks. -/
theorem validate_eq_ok_iff {verdict : Verdict} : (rule.validate situation).result = .ok verdict ↔
    rule.read (situation.path rule.field) situation.subject = .ok none ∧ verdict = rule.unsetVerdict ∨
      ∃ value codes, rule.read (situation.path rule.field) situation.subject = .ok (some value) ∧
        (Check.runAll (situation.path rule.field) situation.known value rule.checks []).result = .ok codes ∧
        verdict = { codes := codes } := by
  cases hr : rule.read (situation.path rule.field) situation.subject with
  | error error => simp [validate_of_read_error hr, Traced.pure]
  | ok found =>
    cases found with
    | none => simp [validate_of_read_none hr, Traced.pure, eq_comm]
    | some value =>
      rw [validate_of_read_some hr]
      cases hc : (Check.runAll (situation.path rule.field) situation.known value rule.checks []).result <;>
        simp [Except.map, hc, eq_comm (b := verdict)]

/-- Every way to no verdict: the field cannot be read, or a check of its value gave up. -/
theorem validate_eq_error_iff {error : SubjectError} : (rule.validate situation).result = .error error ↔
    rule.read (situation.path rule.field) situation.subject = .error error ∨
      ∃ value, rule.read (situation.path rule.field) situation.subject = .ok (some value) ∧
        (Check.runAll (situation.path rule.field) situation.known value rule.checks []).result = .error error := by
  cases hr : rule.read (situation.path rule.field) situation.subject with
  | error other => simp [validate_of_read_error hr, Traced.pure]
  | ok found =>
    cases found with
    | none => simp [validate_of_read_none hr, Traced.pure]
    | some value =>
      rw [validate_of_read_some hr]
      cases hc : (Check.runAll (situation.path rule.field) situation.known value rule.checks []).result <;>
        simp [Except.map, hc]

/-- **The two answers of a rule agree**: a verdict is `unset` exactly when the field is not set. -/
theorem isSet_of_validate {verdict : Verdict} (h : (rule.validate situation).result = .ok verdict) :
    rule.isSet (situation.path rule.field) situation.subject = .ok (!verdict.unset) := by
  rcases validate_eq_ok_iff.1 h with ⟨hr, rfl⟩ | ⟨value, codes, hr, -, rfl⟩
  · exact isSet_eq_ok_iff.2 ⟨none, hr, rfl⟩
  · exact isSet_eq_ok_iff.2 ⟨some value, hr, rfl⟩

/-- A rule that cannot be judged cannot be read either, or an outside component failed. -/
theorem validate_error {error : SubjectError} (h : (rule.validate situation).result = .error error) :
    rule.isSet (situation.path rule.field) situation.subject = .error error ∨
      rule.isSet (situation.path rule.field) situation.subject = .ok true ∧ error.IsExternal := by
  rcases validate_eq_error_iff.1 h with hr | ⟨value, hr, hc⟩
  · exact Or.inl (isSet_eq_error_iff.2 hr)
  · exact Or.inr ⟨isSet_eq_ok_iff.2 ⟨some value, hr, rfl⟩, Check.runAll_error hc⟩

/-- A verdict depends on the set fields by which of the excluded ones are among them. -/
theorem validate_congr_excluded {subject : Json} {known known' : List String} {override : Option String}
    (h : ∀ check ∈ rule.checks, ∀ field ∈ check.excluded, field ∈ known ↔ field ∈ known') :
    rule.validate { subject, known, override } = rule.validate { subject, known := known', override } := by
  unfold validate
  simp only [Check.runAll_congr_excluded h]
  rfl

/-- A verdict looks at the set fields as a set: their order and how often each is listed count nothing. -/
theorem validate_congr_known {subject : Json} {known known' : List String} {override : Option String}
    (h : ∀ field, field ∈ known ↔ field ∈ known') :
    rule.validate { subject, known, override } = rule.validate { subject, known := known', override } :=
  validate_congr_excluded fun _ _ field _ => h field

end FieldRule

end FieldRules
