import FieldRules.Proofs.Admission
import FieldRules.Proofs.References
import FieldRules.Proofs.Report
import Mathlib.Data.List.Basic

/-!
# Exclusions take effect

A rule that excludes other fields is judged against the fields that the chain has found set. So an exclusion sees a
field only if some rule of the chain is for it: then a value that is there and is no text makes the exclusion report
(`exclusion_reports`), wherever the two rules stand. A value that no rule is for is never looked for
(`undeclared_not_excluded`).
-/

namespace FieldRules

open FieldRules.Path (IsAncestor)

/-! ## The rule of an exclusion -/

namespace FieldRule

/-- Without trimming only the empty text counts as unset. -/
theorem eq_empty_of_convert_eq_none {type : RuleType} {path : String} {value : Json}
    (h : convert type false path value = .ok none) : value = .str "" := by
  obtain ⟨text, rfl⟩ := convert_eq_none h
  cases type <;> simp only [convert, Except.ok.injEq, reduceCtorEq] at h
  simpa using h

/-- No rule finds the empty text set. -/
theorem convert_empty_ne_some {type : RuleType} {trim : Bool} {path : String} {read : Json} :
    convert type trim path (.str "") ≠ .ok (some read) := by
  have blank : Text.trim "" = "" := rfl
  cases type <;> simp [convert, blank]

variable {type : RuleType} {field defaultCode marker text names code : String} {components : Option ComponentLookup}
  {rule : FieldRule}

/-- A rule that is built from a marker and an exclusion has the exclusion as its only check. -/
theorem exclusive_of_build (built : build type field [marker, text] defaultCode components = .ok rule)
    (typed : (Directive.parse marker).name = type.marker) (written : Directive.decompose text = ["MEX", names, code]) :
    rule.field = field ∧ rule.type = type ∧ rule.trim = false ∧ rule.checks = [.exclusive (membersOf names)
      (if code = "" then type.defaultCode [marker, text] defaultCode else code)] := by
  obtain ⟨clauses, read, rfl⟩ := build_eq_ok_iff.1 built
  have counted : clauses.length = 2 := by simpa using (congrArg List.length read).symm
  obtain ⟨first, second, rfl⟩ := List.length_eq_two.1 counted
  obtain ⟨readMarker, readSecond⟩ := List.cons.inj read
  have readText := (List.cons.inj readSecond).1
  -- a marker is no keyword, so the first clause is that of the marker
  obtain rfl : first = .marker := by
    rcases RuleContext.readDirective_cases readMarker with ⟨-, rfl⟩ | ⟨keyword, named, -⟩
    · rfl
    · exact absurd (named.symm.trans typed) (keyword.name_ne_marker type)
  obtain ⟨named, arguments⟩ := List.cons.inj written
  have members : (Directive.parse text).members 1 = membersOf names := by
    rw [Directive.members, Directive.part?, Directive.parts, arguments]
    rfl
  have coded : (Directive.parse text).part? 2 = some code := by
    rw [Directive.part?, Directive.parts, arguments]
    rfl
  rcases RuleContext.readDirective_cases readText with ⟨marked, -⟩ | ⟨keyword, named', asked⟩
  · exact absurd (named.symm.trans marked) (Keyword.name_ne_marker .exclusive type)
  · obtain rfl : keyword = .exclusive := Option.some.inj
      ((Keyword.ofName?_name keyword).symm.trans (by rw [← named', named]; rfl))
    simp only [RuleContext.readKeyword, bind_eq_ok_iff, RuleContext.orBadParameter_eq_ok_iff,
      RuleContext.readExcluded_eq_ok_iff, RuleContext.codeAt_eq_ok_iff, Except.ok.injEq, members] at asked
    obtain ⟨_, ⟨-, -, rfl⟩, given, hc, rfl⟩ := asked
    have own : given = if code = "" then type.defaultCode [marker, text] defaultCode else code := by
      simp only [Directive.code?, coded, String.isEmpty_iff, Option.ite_none_left_eq_some, Option.some.injEq] at hc
      exact hc.2.symm
    rw [← own]
    exact ⟨rfl, rfl, rfl, rfl⟩

/-- A field that is there and found set by some rule is set for an exclusion, unless it cannot be read. -/
theorem isPresent_of_present {other : FieldRule} {subject : Json} (plain : rule.trim = false)
    (same : other.field = rule.field) (present : Engine.IsPresent subject other) {read : Option Json}
    (answer : rule.read rule.field subject = .ok read) : ∃ value, read = some value := by
  obtain ⟨_, hr, hs⟩ := isSet_eq_ok_iff.1 present
  obtain ⟨there, rfl⟩ := Option.isSome_iff_exists.1 hs
  rw [FieldRule.read, same] at hr
  rw [FieldRule.read] at answer
  cases found : Subject.resolve subject rule.field with
  | error error =>
    rw [found] at hr
    cases hr
  | ok value =>
    rw [found] at hr answer
    cases value with
    | none => cases hr
    | some value =>
      cases read with
      | some read => exact ⟨read, rfl⟩
      | none =>
        have answer : convert rule.type rule.trim rule.field value = .ok none := answer
        rw [plain] at answer
        obtain rfl := eq_empty_of_convert_eq_none answer
        exact absurd hr convert_empty_ne_some

end FieldRule

/-! ## What a validation makes of it -/

namespace Engine

variable {engine : Engine} {subject : Json} {findings : List Finding} {rule : FieldRule} {i : Nat}

/-- Where a validation succeeds, a declared field that is there and holds no text is found set. -/
theorem mem_setFields_of_resolve (validated : (engine.validate subject).result = .ok findings)
    (declared : rule ∈ engine.rules) {value : Json} (found : Subject.resolve subject rule.field = .ok (some value))
    (noText : ∀ text, value ≠ .str text) : rule.field ∈ setFields subject engine.rules := by
  rcases validate_cases engine subject with ⟨abort, -, failed⟩ | ⟨presence, -, described, -⟩
  · rw [failed] at validated
    cases validated
  -- an ancestor that is unset would leave nothing there
  have opens : ¬ waitsFor rule presence.unset = true := by
    rw [described.waitsFor_iff]
    rintro ⟨other, -, above, absent⟩
    obtain ⟨read, hr, hs⟩ := FieldRule.isSet_eq_ok_iff.1 absent
    obtain rfl : read = none := by simpa using hs
    rcases FieldRule.read_eq_none hr with missing | ⟨text, there⟩
    · rw [Subject.resolve_below_unset above missing] at found
      cases found
    · obtain ⟨error, he⟩ := Subject.resolve_below_text above there
      rw [he] at found
      cases found
  obtain ⟨set, answer⟩ := (described.answered rule declared).resolve_left opens
  refine mem_setFields.2 ⟨rule, declared, rfl, ?_⟩
  cases set with
  | true => exact answer
  | false =>
    obtain ⟨read, hr, hs⟩ := FieldRule.isSet_eq_ok_iff.1 answer
    obtain rfl : read = none := by simpa using hs
    rcases FieldRule.read_eq_none hr with missing | ⟨text, there⟩
    · rw [missing] at found
      cases found
    · rw [there] at found
      exact absurd (Option.some.inj (Except.ok.inj found)).symm (noText text)

/-- A rule is due where no rule is for an ancestor of its field and none ends the validation. -/
theorem due_of_no_ancestor {rules : List FieldRule} (noAncestor : ∀ other ∈ rules, ¬ IsAncestor other.field rule.field)
    (noStop : ∀ other ∈ rules, other.stopAll = false) : Due subject rules i rule := by
  refine ⟨fun other ho above => absurd above (noAncestor other ho), ?_⟩
  rintro earlier ⟨j, -, hj, -⟩
  have listed := List.mem_of_getElem? hj
  exact ⟨noAncestor earlier listed, noStop earlier listed⟩

/-- What a rule that is due finds is reported. -/
theorem exists_finding_of_due (validated : (engine.validate subject).result = .ok findings)
    (hi : engine.rules[i]? = some rule) (due : Due subject engine.rules i rule) {finding : Finding}
    (faulty : findingAt subject engine.rules i = some finding) : finding ∈ findings := by
  cases outcome_of_validate validated with
  | ended positions increasing mem found judged =>
    have reported : Reported subject engine.rules i := (reported_iff hi).2 ⟨due, by simp [faulty]⟩
    have listed : findingAt subject engine.rules i ∈ findings.map some :=
      found ▸ List.mem_map_of_mem ((mem i).2 ⟨Nat.zero_le i, reported⟩)
    rw [faulty] at listed
    obtain ⟨other, ho, same⟩ := List.mem_map.1 listed
    exact Option.some.inj same ▸ ho

/-- A rule that is due is judged. -/
theorem exists_verdict_of_due (validated : (engine.validate subject).result = .ok findings)
    (hi : engine.rules[i]? = some rule) (due : Due subject engine.rules i rule) :
    ∃ verdict, (rule.validate { subject, known := setFields subject engine.rules }).result = .ok verdict :=
  (validate_succeeds_iff.1 ⟨findings, validated⟩).2 i rule hi due

end Engine

open Engine

namespace Blueprint

/-- A rule of a marker and an exclusion is built for the type that the marker names. -/
theorem exclusive_of_buildRule {blueprint : Blueprint} {field marker text names code : String} {type : RuleType}
    {rule : FieldRule} (built : blueprint.buildRule [field, marker, text] = .ok rule)
    (typed : (Directive.parse marker).name = type.marker) (written : Directive.decompose text = ["MEX", names, code]) :
    rule.field = field ∧ rule.type = type ∧ rule.trim = false ∧ rule.checks = [.exclusive (membersOf names)
      (if code = "" then type.defaultCode [marker, text] blueprint.defaultCode else code)] := by
  obtain ⟨directives, asked, resolved, first, hb⟩ := buildRule_eq_ok_iff.1 built
  have plain : Directive.reference? marker = none := by
    have other : (Directive.parse marker).name ≠ "RULE" := by
      rw [typed]
      cases type <;> decide
    unfold Directive.reference?
    split
    · next name reference parts =>
      rw [if_neg fun named => other ((List.cons.inj parts).1.trans named)]
    · rfl
  obtain rfl : directives = [marker, text] :=
    (Except.ok.inj ((resolveDirectives_of_plain plain).symm.trans resolved)).symm
  obtain rfl : asked = type := by
    rw [RuleType.ofDirectives?, List.findSome?_cons, typed, RuleType.ofMarker?_marker] at first
    exact (Option.some.inj first).symm
  exact FieldRule.exclusive_of_build hb typed written

/-- **An exclusion of declared fields takes effect.** In a rule set that is built, let a rule have an exclusion behind
its marker, let some rule be for a field that is excluded, wherever it stands, and none for an ancestor of the field
that excludes, and let no rule end the validation. Where a validation succeeds and finds the field set, and holds a
value at the excluded one that is no text, it reports the field with the code of the exclusion: the written one, or the
default of the rule for an empty one. -/
theorem exclusion_reports (blueprint : Blueprint) (engine : Engine) (built : blueprint.build = .ok engine)
    (field marker text names code : String) (type : RuleType) (listed : [field, marker, text] ∈ blueprint.rules)
    (typed : (Directive.parse marker).name = type.marker) (written : Directive.decompose text = ["MEX", names, code])
    (excluded : String) (named : excluded ∈ membersOf names) (declared : excluded ∈ engine.fields) (subject : Json)
    (findings : List Finding) (validated : (engine.validate subject).result = .ok findings)
    (set : field ∈ setFields subject engine.rules)
    (noAncestor : ∀ other ∈ engine.fields, ¬ IsAncestor other field)
    (noStop : ∀ rule ∈ engine.rules, rule.stopAll = false)
    (value : Json) (found : Subject.resolve subject excluded = .ok (some value))
    (noText : ∀ text, value ≠ .str text) :
    ∃ finding ∈ findings, finding.field = field ∧
      (if code = "" then type.defaultCode [marker, text] blueprint.defaultCode else code) ∈ finding.codes := by
  obtain ⟨rule, declaredRule, hb⟩ := exists_rule built listed
  obtain ⟨rfl, rfl, plain, checks⟩ := exclusive_of_buildRule hb typed written
  obtain ⟨i, hi⟩ := List.mem_iff_getElem?.1 declaredRule
  have due : Due subject engine.rules i rule :=
    due_of_no_ancestor (fun other ho => noAncestor _ (List.mem_map_of_mem ho)) noStop
  obtain ⟨verdict, judged⟩ := exists_verdict_of_due validated hi due
  -- the field that excludes is read, and the one that is excluded is known to be set
  obtain ⟨other, ho, same, present⟩ := mem_setFields.1 set
  obtain ⟨read, hread⟩ : ∃ read, rule.read rule.field subject = .ok (some read) := by
    rcases FieldRule.validate_eq_ok_iff.1 judged with ⟨hr, -⟩ | ⟨read, _, hr, -⟩
    · exact (FieldRule.isPresent_of_present plain same present hr).elim fun _ h => by cases h
    · exact ⟨read, hr⟩
  obtain ⟨excluding, he, rfl⟩ := List.mem_map.1 declared
  have known : (membersOf names).any (setFields subject engine.rules).contains = true :=
    List.any_eq_true.2 ⟨_, named, List.contains_iff_mem.2 (mem_setFields_of_resolve validated he found noText)⟩
  have fails : (rule.validate { subject, known := setFields subject engine.rules }).result =
      .ok { codes := [if code = "" then rule.type.defaultCode [marker, text] blueprint.defaultCode else code] } := by
    rw [FieldRule.validate_of_read_some hread, checks, Check.runAll, if_pos known]
    rfl
  refine ⟨_, exists_finding_of_due validated hi due ((findingAt_of_validate hi fails).trans (if_pos rfl)), rfl, ?_⟩
  exact List.mem_singleton_self _

/-- A field that excludes another, for which a later rule is, and a third for which there is none. -/
def excludingRules : Blueprint where
  rules := [["x", "STR", "MEX: y , z:BOTH"], ["y", "INT"]]

def excludingEngine : Engine :=
  excludingRules.build.toOption.getD ⟨"", [], .empty⟩

def excludingPayload : Json :=
  .obj [("x", .str "a"), ("y", .int 5)]

theorem exclusion_reports_excluding :
    excludingRules.build = .ok excludingEngine ∧
      (excludingEngine.validate excludingPayload).result = .ok [⟨"x", ["BOTH"]⟩] ∧
      ∃ finding ∈ [Finding.mk "x" ["BOTH"]], finding.field = "x" ∧ "BOTH" ∈ finding.codes :=
  ⟨rfl, rfl, exclusion_reports excludingRules excludingEngine rfl "x" "STR" "MEX: y , z:BOTH" " y , z" "BOTH" .str
    (by decide) (by decide) (by decide) "y" (by decide) (by decide) excludingPayload _ rfl (by decide) (by decide)
    (by decide) (.int 5) rfl (by simp)⟩

/-- A payload that holds the third field as well as the one that excludes it. -/
def undeclaredPayload : Json :=
  .obj [("x", .str "a"), ("z", .int 5)]

/-- **An exclusion overlooks a field that no rule is for**, whatever the payload holds there. -/
theorem undeclared_not_excluded :
    excludingRules.build = .ok excludingEngine ∧ ["x", "STR", "MEX: y , z:BOTH"] ∈ excludingRules.rules ∧
      (Directive.parse "STR").name = RuleType.str.marker ∧
      Directive.decompose "MEX: y , z:BOTH" = ["MEX", " y , z", "BOTH"] ∧ "z" ∈ membersOf " y , z" ∧
      "x" ∈ setFields undeclaredPayload excludingEngine.rules ∧
      (∀ other ∈ excludingEngine.fields, ¬ IsAncestor other "x") ∧
      (∀ rule ∈ excludingEngine.rules, rule.stopAll = false) ∧
      Subject.resolve undeclaredPayload "z" = .ok (some (.int 5)) ∧
      (excludingEngine.validate undeclaredPayload).result = .ok [] :=
  ⟨rfl, by decide, by decide, by decide, by decide, by decide, by decide, by decide, rfl, rfl⟩

end Blueprint

end FieldRules
