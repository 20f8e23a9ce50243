import FieldRules.Proofs.Settings
import FieldRules.Proofs.WrittenNumbers

/-!
# A test among other directives

Directives are read one by one, so a rule with one more directive is built exactly when it is built without it and the
directive can be read (`build_insert_succeeds_iff`). Where all the others pass, the verdict is that of the one, wherever
it stands and whatever breaks there are (`result_of_test`, `decidedBy_of_check?`).
-/

namespace FieldRules

/-! ## Runs -/

namespace Check

variable {path : String} {known : List String} {value : Json} {before after checks rest : List Check}
  {codes : List String}

/-- A check that passes leaves the codes as they are, and goes on unless it is a break behind a failure. -/
theorem result_cons_of_passes {check : Check} (passes : check.judge known value = .passes)
    (goesOn : check ≠ .stopIfFailed ∨ codes = []) :
    (runAll path known value (check :: checks) codes).result = (runAll path known value checks codes).result := by
  by_cases stops : check = .stopIfFailed
  · obtain rfl := goesOn.resolve_left (not_not.2 stops)
    rw [stops]
    rfl
  · rw [runAll_cons stops, passes]
    rfl

/-- Checks that pass add no code. -/
theorem result_of_passes (passes : ∀ check ∈ checks, check.judge known value = .passes) :
    (runAll path known value checks codes).result = .ok codes := by
  induction checks with
  | nil => rfl
  | cons check checks ih =>
    obtain ⟨here, later⟩ := List.forall_mem_cons.1 passes
    by_cases ends : check = .stopIfFailed ∧ codes ≠ []
    · obtain ⟨rfl, some⟩ := ends
      have failed : codes.isEmpty = false := by simpa using some
      rw [runAll, failed]
      rfl
    · rw [result_cons_of_passes here (by tauto), ih later]

/-- Checks are gone on with behind those that pass. -/
theorem result_append_of_passes (passes : ∀ check ∈ checks, check.judge known value = .passes) :
    (runAll path known value (checks ++ rest) []).result = (runAll path known value rest []).result := by
  induction checks with
  | nil => rfl
  | cons check checks ih =>
    obtain ⟨here, later⟩ := List.forall_mem_cons.1 passes
    rw [List.cons_append, result_cons_of_passes here (Or.inr rfl), ih later]

/-- **A test among checks that pass** settles what is found. -/
theorem result_of_test {condition : Test} {code : String}
    (passes : ∀ other ∈ before ++ after, other.judge known value = .passes) :
    (runAll path known value (before ++ .test condition code :: after) []).result =
      .ok (if condition.holds value then [] else [code]) := by
  obtain ⟨first, last⟩ := List.forall_mem_append.1 passes
  rw [result_append_of_passes first, runAll]
  split <;> exact result_of_passes last

end Check

/-! ## Rules -/

namespace FieldRule

variable {type : RuleType} {field defaultCode text code : String} {directives before after : List String}
  {components : Option ComponentLookup} {rule : FieldRule}

/-- A rule for integers reads those that fit in 64 bits with sign, and no others. -/
theorem read_integer (built : build .int field directives defaultCode components = .ok rule) {path : String}
    {subject : Json} {n : Int} (there : Subject.resolve subject path = .ok (some (.int n))) :
    (-2 ^ 63 ≤ n ∧ n < 2 ^ 63 → rule.read path subject = .ok (some (.int n))) ∧
      (¬ (-2 ^ 63 ≤ n ∧ n < 2 ^ 63) → rule.read path subject = .error (.typeMismatch path .int (Json.int n).kind)) := by
  obtain ⟨clauses, -, rfl⟩ := build_eq_ok_iff.1 built
  rw [read, there]
  exact ⟨fun fits => if_pos fits, fun large => if_neg large⟩

/-- A rule is built when each of its directives can be read. -/
theorem build_succeeds_iff_forall : Succeeds (build type field directives defaultCode components) ↔
    ∀ text ∈ directives, Succeeds
      ((RuleContext.ofRule type field directives defaultCode components).readDirective (Directive.parse text)) := by
  constructor
  · rintro ⟨rule, built⟩
    exact (checks_of_build built).2.1
  · intro each
    obtain ⟨clauses, read⟩ := exists_map_eq_ok each
    exact ⟨_, build_eq_ok_iff.2 ⟨clauses, read, rfl⟩⟩

/-- A directive that is no marker leaves what the others are read for. -/
theorem ofRule_insert (noMarker : Directive.isNamed type.marker text = false) :
    RuleContext.ofRule type field (before ++ text :: after) defaultCode components =
      RuleContext.ofRule type field (before ++ after) defaultCode components := by
  have markers : (before ++ text :: after).filter (Directive.isNamed type.marker) =
      (before ++ after).filter (Directive.isNamed type.marker) := by
    simp [List.filter_append, noMarker]
  rw [RuleContext.ofRule, RuleContext.ofRule, RuleType.defaultCode_congr markers]

/-- **A rule with one more directive** is built when it is built without, and the directive can be read. -/
theorem build_insert_succeeds_iff (noMarker : Directive.isNamed type.marker text = false) :
    Succeeds (build type field (before ++ text :: after) defaultCode components) ↔
      Succeeds (build type field (before ++ after) defaultCode components) ∧
        Succeeds ((RuleContext.ofRule type field (before ++ after) defaultCode components).readDirective
          (Directive.parse text)) := by
  rw [build_succeeds_iff_forall, build_succeeds_iff_forall, ofRule_insert noMarker]
  simp only [List.forall_mem_append, List.forall_mem_cons]
  exact ⟨fun ⟨first, here, last⟩ => ⟨⟨first, last⟩, here⟩, fun ⟨⟨first, last⟩, here⟩ => ⟨first, here, last⟩⟩

/-- A rule decides by a condition in one of its directives: the directive passes where the condition holds and gives a
code where it does not, and where the others pass, so does the rule. -/
structure DecidedBy (rule : FieldRule) (situation : Situation) (judge : String → Judgement) (text : String)
    (others : List String) (code : String) (condition : Prop) : Prop where
  passes : condition → judge text = .passes
  fails : ¬ condition → judge text = .fails code
  accepts : (∀ other ∈ others, judge other = .passes) → condition →
    (rule.validate situation).result = .ok { codes := [] }
  refuses : (∀ other ∈ others, judge other = .passes) → ¬ condition →
    (rule.validate situation).result = .ok { codes := [code] }

/-- **A directive with a test decides** by what the test says of the value that is read. -/
theorem decidedBy_of_check? (built : build type field (before ++ text :: after) defaultCode components = .ok rule)
    (noMarker : Directive.isNamed type.marker text = false) {test : Test}
    (asks : (RuleContext.ofRule type field (before ++ after) defaultCode components).check? text =
      some (.test test code)) {situation : Situation} {value : Json}
    (reads : rule.read (situation.path field) situation.subject = .ok (some value)) {condition : Prop}
    (same : test.holds value = true ↔ condition) :
    rule.DecidedBy situation
      ((RuleContext.ofRule type field (before ++ after) defaultCode components).judge situation.known value) text
      (before ++ after) code condition := by
  obtain ⟨rfl, -, checks⟩ := checks_of_build built
  rw [ofRule_insert noMarker] at checks
  have run (passes : ∀ other ∈ before ++ after, (RuleContext.ofRule type rule.field (before ++ after) defaultCode
      components).judge situation.known value other = .passes) :
      (rule.validate situation).result = .ok { codes := if test.holds value then [] else [code] } := by
    have pass := RuleContext.forall_check (p := (· = .passes)) passes
    rw [List.filterMap_append] at pass
    rw [validate_of_read_some reads, checks, List.filterMap_append, List.filterMap_cons, asks,
      Check.result_of_test pass]
    rfl
  have judged : (RuleContext.ofRule type rule.field (before ++ after) defaultCode components).judge situation.known
      value text = if test.holds value then .passes else .fails code :=
    RuleContext.judge_of_check? asks
  rw [← same]
  constructor
  · exact fun holds => by rw [judged, if_pos holds]
  · exact fun misses => by rw [judged, if_neg misses]
  · exact fun passes holds => by rw [run passes, if_pos holds]
  · exact fun passes misses => by rw [run passes, if_neg misses]

end FieldRule

end FieldRules
