import FieldRules.Proofs.Settings

/-!
# Presence and verdict

A rule is asked twice about a payload: in the first pass whether its field is set, and in the second what is wrong
with it. Both answers go back to one reading of the payload (`FieldRule.read`), so for no type, path or payload can they
contradict each other: what cannot be read gives the same error twice, an unset field has nothing wrong with it but that
it is required (`required_of_build`), and a set one is judged unless a component breaks down (`verdict_of_isSet`).
-/

namespace FieldRules

/-! ## What requires a field -/

/-- The code with which directives require their field: that of the last one that does, its own or the default of the
rule. -/
def requiredCode? (type : RuleType) (directives : List String) (defaultCode : String) : Option String :=
  (directives.filter (Directive.isNamed "REQ")).getLast?.bind fun text =>
    (Directive.parse text).code? 1 (type.defaultCode directives defaultCode)

namespace RuleContext

variable {context : RuleContext} {text : String} {clause : Clause}

/-- A directive that requires the field does so with its code. -/
theorem required?_of_isNamed (read : context.readDirective (Directive.parse text) = .ok clause)
    (named : Directive.isNamed "REQ" text = true) :
    clause.required? = (Directive.parse text).code? 1 context.defaultCode ∧ clause.required?.isSome = true := by
  have asked : context.readKeyword (Directive.parse text) .required = .ok clause :=
    readKeyword_of_readDirective read (beq_iff_eq.1 named)
  obtain ⟨code, hc, rfl⟩ := map_eq_ok_iff.1 asked
  rw [codeAt_eq_ok_iff.1 hc]
  exact ⟨rfl, rfl⟩

end RuleContext

namespace FieldRule

variable {type : RuleType} {field defaultCode : String} {directives : List String}
  {components : Option ComponentLookup} {rule : FieldRule}

/-- **The last directive that requires the field counts**, and there is a code exactly where there is one. -/
theorem required_of_build (built : build type field directives defaultCode components = .ok rule) :
    rule.required = requiredCode? type directives defaultCode ∧
      (rule.required.isSome = true ↔ ∃ text ∈ directives, Directive.isNamed "REQ" text = true) := by
  obtain ⟨clauses, read, rfl⟩ := build_eq_ok_iff.1 built
  have kept := filterMap_eq_filterMap_filter read fun _ _ _ => RuleContext.required?_eq_none_of_not_isNamed
  rw [requiredCode?, ofClauses, kept]
  rcases List.eq_nil_or_concat (directives.filter (Directive.isNamed "REQ")) with none | ⟨before, last, found⟩
  · simpa [none] using List.filter_eq_nil_iff.1 none
  · rw [List.concat_eq_append] at found
    have listed : last ∈ directives.filter (Directive.isNamed "REQ") := by simp [found]
    obtain ⟨inside, named⟩ := List.mem_filter.1 listed
    obtain ⟨clause, -, hc⟩ := exists_ok_of_mem read inside
    obtain ⟨own, some⟩ := RuleContext.required?_of_isNamed hc named
    obtain ⟨code, hcode⟩ := Option.isSome_iff_exists.1 some
    have asked : [last].filterMap (fun text => (RuleContext.readDirective
        { field, type, components, defaultCode := type.defaultCode directives defaultCode }
        (Directive.parse text)).toOption.bind Clause.required?) = [code] := by
      simp [hc, Except.toOption, hcode]
    rw [found, List.filterMap_append, asked, List.getLast?_concat, List.getLast?_concat, Option.bind_some, ← own]
    exact ⟨hcode.symm, fun _ => ⟨last, inside, named⟩, fun _ => rfl⟩

end FieldRule

/-! ## The two answers -/

/-- Checks are given up for nothing but a component that breaks down, with the path that was read. -/
theorem Check.external_of_runAll {path : String} {known : List String} {value : Json} {checks : List Check}
    {codes : List String} {error : SubjectError} (h : (runAll path known value checks codes).result = .error error) :
    ∃ component reason, error = .external path component reason := by
  induction checks generalizing codes with
  | nil => cases h
  | cons check checks ih =>
    by_cases stops : check = .stopIfFailed
    · subst stops
      rw [runAll] at h
      split at h
      · exact ih h
      · cases h
    · rw [runAll_cons stops] at h
      cases judged : check.judge known value with
      | passes =>
        rw [judged] at h
        exact ih h
      | fails code =>
        rw [judged] at h
        exact ih h
      | breaksDown component reason =>
        rw [judged] at h
        cases h
        exact ⟨component, reason, rfl⟩

namespace FieldRule

variable {type : RuleType} {field defaultCode : String} {directives : List String}
  {components : Option ComponentLookup} {rule : FieldRule} {situation : Situation}

/-- Nothing is wrong with a field that is unset but that it may be required. -/
theorem validate_of_unset (built : build type field directives defaultCode components = .ok rule)
    (reads : rule.read (situation.path field) situation.subject = .ok none) :
    rule.validate situation =
      .pure (.ok { unset := true, codes := (requiredCode? type directives defaultCode).toList }) := by
  obtain ⟨required, -⟩ := required_of_build built
  obtain ⟨rfl, -⟩ := checks_of_build built
  rw [validate_of_read_none reads, unsetVerdict, required]

/-- A field that is set is judged, unless a component breaks down. -/
theorem result_of_isSet (set : rule.isSet (situation.path rule.field) situation.subject = .ok true) :
    (∃ codes, (rule.validate situation).result = .ok { unset := false, codes }) ∨
      ∃ component reason, (rule.validate situation).result =
        .error (.external (situation.path rule.field) component reason) := by
  obtain ⟨read, hr, some⟩ := isSet_eq_ok_iff.1 set
  obtain ⟨value, rfl⟩ := Option.isSome_iff_exists.1 some
  rw [validate_of_read_some hr]
  cases run : (Check.runAll (situation.path rule.field) situation.known value rule.checks []).result with
  | ok codes => exact Or.inl ⟨codes, rfl⟩
  | error error =>
    obtain ⟨component, reason, rfl⟩ := Check.external_of_runAll run
    exact Or.inr ⟨component, reason, rfl⟩

/-- **Whether a field is set agrees with what is wrong with it.** Let a rule be built, of whichever type, and let it be
asked about a path of a payload, its own field or another one, with any fields known to be set. Where the question
whether the field is set has an error for an answer, so has the verdict, the same one, and no component is called.
Where the field is not set, the verdict says so, and its codes are the one that the field is required with, or none
where no directive requires it. Where the field is set, the verdict does not say otherwise, and there is none only where
a component breaks down. -/
theorem verdict_of_isSet (built : build type field directives defaultCode components = .ok rule)
    (situation : Situation) :
    ((requiredCode? type directives defaultCode).isSome = true ↔
      ∃ text ∈ directives, Directive.isNamed "REQ" text = true) ∧
    (∀ error, rule.isSet (situation.path field) situation.subject = .error error →
      rule.validate situation = .pure (.error error)) ∧
    (rule.isSet (situation.path field) situation.subject = .ok false →
      rule.validate situation =
        .pure (.ok { unset := true, codes := (requiredCode? type directives defaultCode).toList })) ∧
    (rule.isSet (situation.path field) situation.subject = .ok true →
      (∃ codes, (rule.validate situation).result = .ok { unset := false, codes }) ∨
        ∃ component reason, (rule.validate situation).result =
          .error (.external (situation.path field) component reason)) := by
  obtain ⟨required, some⟩ := required_of_build built
  obtain ⟨named, -⟩ := checks_of_build built
  refine ⟨required ▸ some, fun error unread => ?_, fun unset => ?_, fun set => ?_⟩
  · rw [← named] at unread
    exact validate_of_read_error (isSet_eq_error_iff.1 unread)
  · obtain ⟨read, reads, absent⟩ := isSet_eq_ok_iff.1 unset
    obtain rfl : read = none := by simpa using absent
    exact validate_of_unset built reads
  · rw [← named] at set ⊢
    exact result_of_isSet set

/-- A count that is required twice, and left to a component that is out of order. -/
def countDirectives : List String :=
  ["INT:BAD", "REQ:FIRST", "EXT:service", "REQ"]

def countComponents : ComponentLookup := fun _ =>
  some fun _ => .error "out of order"

def countRule : FieldRule :=
  (build .int "n" countDirectives "" (some countComponents)).toOption.getD
    ⟨"", .str, none, false, false, [], .empty⟩

/-- A payload with a value beside a number, read in its place. -/
def countSituation (value : Json) : Situation where
  subject := .obj [("n", .int 1), ("m", value)]
  known := ["n"]
  override := some "m"

theorem verdict_of_isSet_count :
    build .int "n" countDirectives "" (some countComponents) = .ok countRule ∧
      countRule.validate (countSituation (.float 1.5)) = .pure (.error (.typeMismatch "m" .int .float)) ∧
      countRule.validate (countSituation .null) = .pure (.ok { unset := true, codes := ["BAD"] }) ∧
      ∃ component reason, (countRule.validate (countSituation (.int 0))).result =
        .error (.external "m" component reason) := by
  have built : build .int "n" countDirectives "" (some countComponents) = .ok countRule := rfl
  obtain ⟨-, unread, -⟩ := verdict_of_isSet built (countSituation (.float 1.5))
  obtain ⟨-, -, unset, -⟩ := verdict_of_isSet built (countSituation .null)
  obtain ⟨-, -, -, set⟩ := verdict_of_isSet built (countSituation (.int 0))
  refine ⟨built, unread _ rfl, unset rfl, (set rfl).resolve_left ?_⟩
  rintro ⟨codes, judged⟩
  cases judged

end FieldRule

end FieldRules
