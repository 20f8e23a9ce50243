import FieldRules.Proofs.Building
import FieldRules.Proofs.Report

/-!
# The codes of findings

Every code that a validation reports was recorded when the engine was built. A directive that names a code takes
it from one place, its own part or the default of the rule (`readKeyword_code?`), and is not built without one;
the rule records it (`FieldRule.IsCoded`); and a verdict adds recorded codes only, each once (`validate_codes`).
-/

namespace FieldRules

/-! ## Codes of directives -/

theorem Directive.code?_ne_empty {directive : Directive} {index : Nat} {default code : String}
    (h : directive.code? index default = some code) : code ≠ "" := by
  unfold Directive.code? at h
  simp only [Option.ite_none_left_eq_some, Option.some.injEq] at h
  obtain ⟨some, rfl⟩ := h
  simpa using some

/-- The part in which a directive with a keyword carries its code, if it has one. -/
def Keyword.codeIndex : Keyword → Option Nat
  | required => some 1
  | exclusive | external | oneOf | pattern | is => some 2
  | length | range => some 3
  | stopAll | stopIfFailed | trim => none

namespace RuleContext

variable {context : RuleContext} {directive : Directive} {keyword : Keyword} {clause : Clause}

theorem codeAt_eq_ok_iff {field defaultCode code : String} {index : Nat} :
    codeAt field defaultCode index directive = .ok code ↔ directive.code? index defaultCode = some code := by
  unfold codeAt
  cases directive.code? index defaultCode <;> simp

theorem orBadParameter_eq_ok_iff {α : Type} {field : String} {result : Except ParameterFault α} {value : α} :
    orBadParameter field directive result = .ok value ↔ result = .ok value := by
  cases result <;> simp [orBadParameter]

/-- The fields excluded are those listed, of which the field of the rule is none. -/
theorem readExcluded_eq_ok_iff {field : String} {members fields : List String} :
    readExcluded field members = .ok fields ↔ members ≠ [] ∧ field ∉ members ∧ fields = members := by
  unfold readExcluded
  cases members with
  | nil => simp
  | cons member members =>
    by_cases h : field ∈ member :: members
    · simp [h]
    · simp [h, eq_comm]

/-- The values allowed are those listed, of which there are some. -/
theorem nonempty_eq_ok_iff {α : Type} {values kept : List α} :
    nonempty values = .ok kept ↔ values ≠ [] ∧ kept = values := by
  cases values <;> simp [nonempty, eq_comm]

theorem findComponent_eq_ok_iff {field name : String} {components : Option ComponentLookup} {component : Component} :
    findComponent field name components = .ok component ↔
      ∃ lookup, components = some lookup ∧ lookup name = some component := by
  cases components with
  | none => simp [findComponent]
  | some lookup => cases found : lookup name <;> simp [findComponent, found]

theorem testClause_eq_ok_iff {index : Nat} {test : Except ParameterFault Test} :
    context.testClause directive index test = .ok clause ↔
      ∃ condition code, test = .ok condition ∧ directive.code? index context.defaultCode = some code ∧
        clause = .check (.test condition code) := by
  simp only [testClause, bind_eq_ok_iff, orBadParameter_eq_ok_iff, codeAt_eq_ok_iff, Except.ok.injEq]
  constructor
  · rintro ⟨condition, ht, code, hc, rfl⟩
    exact ⟨condition, code, ht, hc, rfl⟩
  · rintro ⟨condition, code, ht, hc, rfl⟩
    exact ⟨condition, ht, code, hc, rfl⟩

/-- **The code of a directive** comes from the one part where its keyword has it, else from the default. -/
theorem readKeyword_code? (h : context.readKeyword directive keyword = .ok clause) :
    clause.code? = keyword.codeIndex.bind fun index => directive.code? index context.defaultCode := by
  cases keyword with
  | required =>
    obtain ⟨code, hc, rfl⟩ := map_eq_ok_iff.1 h
    exact (codeAt_eq_ok_iff.1 hc).symm
  | stopAll | stopIfFailed | trim =>
    cases h
    rfl
  | exclusive =>
    simp only [readKeyword, bind_eq_ok_iff, codeAt_eq_ok_iff, Except.ok.injEq] at h
    obtain ⟨fields, -, code, hc, rfl⟩ := h
    exact hc.symm
  | external =>
    simp only [readKeyword, bind_eq_ok_iff, codeAt_eq_ok_iff, Except.ok.injEq] at h
    obtain ⟨component, -, code, hc, rfl⟩ := h
    exact hc.symm
  | oneOf | length | range | pattern | is =>
    obtain ⟨condition, code, -, hc, rfl⟩ := testClause_eq_ok_iff.1 h
    exact hc.symm

/-- What a keyword can ask for in a directive, whatever the parameters and the code. -/
inductive AskedBy (directive : Directive) : Keyword → Clause → Prop
  | required (code : String) : AskedBy directive .required (.required code)
  | stopAll : AskedBy directive .stopAll .stopAll
  | stopIfFailed : AskedBy directive .stopIfFailed (.check .stopIfFailed)
  | trim : AskedBy directive .trim .trim
  | exclusive (code : String) : AskedBy directive .exclusive (.check (.exclusive (directive.members 1) code))
  | external (name : String) (component : Component) (code : String) :
    AskedBy directive .external (.check (.external name component code))
  | test {keyword : Keyword} (tests : keyword ∈ [.oneOf, .length, .range, .pattern, .is]) (condition : Test)
    (code : String) : AskedBy directive keyword (.check (.test condition code))

theorem askedBy_of_readKeyword (h : context.readKeyword directive keyword = .ok clause) :
    AskedBy directive keyword clause := by
  cases keyword with
  | required =>
    obtain ⟨code, -, rfl⟩ := map_eq_ok_iff.1 h
    exact .required code
  | stopAll =>
    cases h
    exact .stopAll
  | stopIfFailed =>
    cases h
    exact .stopIfFailed
  | trim =>
    cases h
    exact .trim
  | exclusive =>
    simp only [readKeyword, bind_eq_ok_iff, orBadParameter_eq_ok_iff, readExcluded_eq_ok_iff, Except.ok.injEq] at h
    obtain ⟨_, ⟨-, -, rfl⟩, code, -, rfl⟩ := h
    exact .exclusive code
  | external =>
    simp only [readKeyword, bind_eq_ok_iff, Except.ok.injEq] at h
    obtain ⟨component, -, code, -, rfl⟩ := h
    exact .external _ component code
  | oneOf | length | range | pattern | is =>
    obtain ⟨condition, code, -, -, rfl⟩ := testClause_eq_ok_iff.1 h
    exact .test (by simp) condition code

/-- A directive is read as a marker, or as what its keyword asks for. -/
theorem readDirective_cases (h : context.readDirective directive = .ok clause) :
    directive.name = context.type.marker ∧ clause = .marker ∨
      ∃ keyword, directive.name = keyword.name ∧ context.readKeyword directive keyword = .ok clause := by
  unfold readDirective at h
  split at h
  · next marker =>
    obtain ⟨-, -, hc⟩ := bind_eq_ok_iff.1 h
    exact Or.inl ⟨marker, (Except.ok.inj hc).symm⟩
  · split at h
    · cases h
    · next keyword named =>
      split at h
      · obtain ⟨-, -, hc⟩ := bind_eq_ok_iff.1 h
        exact Or.inr ⟨keyword, Keyword.ofName?_eq_some_iff.1 named, hc⟩
      · cases h

/-- A directive that is named by a keyword is read as what the keyword asks for. -/
theorem readKeyword_of_readDirective (h : context.readDirective directive = .ok clause)
    (named : directive.name = keyword.name) : context.readKeyword directive keyword = .ok clause := by
  rcases readDirective_cases h with ⟨marker, -⟩ | ⟨found, other, asked⟩
  · exact absurd (named.symm.trans marker) (keyword.name_ne_marker context.type)
  · obtain rfl : found = keyword := Option.some.inj <|
      calc some found = Keyword.ofName? found.name := (Keyword.ofName?_name found).symm
        _ = Keyword.ofName? keyword.name := by rw [← other, named]
        _ = some keyword := Keyword.ofName?_name keyword
    exact asked

theorem readDirective_code_ne_empty (h : context.readDirective directive = .ok clause) {code : String}
    (hc : clause.code? = some code) : code ≠ "" := by
  rcases readDirective_cases h with ⟨-, rfl⟩ | ⟨keyword, -, hk⟩
  · cases hc
  · rw [readKeyword_code? hk] at hc
    obtain ⟨index, -, hd⟩ := Option.bind_eq_some_iff.1 hc
    exact Directive.code?_ne_empty hd

end RuleContext

/-! ## Codes of rules -/

theorem Clause.code?_of_required? {clause : Clause} {code : String} (h : clause.required? = some code) :
    clause.code? = some code := by
  cases clause <;> first | exact h | cases h

theorem Clause.code?_of_check? {clause : Clause} {check : Check} (h : clause.check? = some check) :
    clause.code? = check.code? := by
  cases clause with
  | check step =>
    cases h
    rfl
  | _ => cases h

namespace FieldRule

/-- The rule records every code that it can report, and the empty text is none of them. -/
structure IsCoded (rule : FieldRule) : Prop where
  nonempty : ∀ code, code ∈ rule.codes → code ≠ ""
  required : ∀ code, rule.required = some code → code ∈ rule.codes
  checks : ∀ check ∈ rule.checks, ∀ code, check.code? = some code → code ∈ rule.codes

theorem mem_codes_ofClauses {context : RuleContext} {clauses : List Clause} {code : String} :
    code ∈ (ofClauses context clauses).codes ↔
      code = context.defaultCode ∧ context.defaultCode ≠ "" ∨ ∃ clause ∈ clauses, clause.code? = some code := by
  simp [ofClauses, CodeSet.mem_insertNonempty, CodeSet.mem_ofList]

/-- **A rule that is built records its codes.** -/
theorem isCoded_of_build {type : RuleType} {field : String} {directives : List String} {defaultCode : String}
    {components : Option ComponentLookup} {rule : FieldRule}
    (h : build type field directives defaultCode components = .ok rule) : rule.IsCoded := by
  obtain ⟨clauses, hc, rfl⟩ := build_eq_ok_iff.1 h
  constructor
  · intro code hm
    rcases mem_codes_ofClauses.1 hm with ⟨rfl, some⟩ | ⟨clause, hcl, hcode⟩
    · exact some
    · obtain ⟨text, -, hr⟩ := exists_mem_of_ok hc hcl
      exact RuleContext.readDirective_code_ne_empty hr hcode
  · intro code hr
    have last : code ∈ clauses.filterMap Clause.required? := List.mem_of_getLast? hr
    obtain ⟨clause, hcl, hcode⟩ := List.mem_filterMap.1 last
    exact mem_codes_ofClauses.2 (Or.inr ⟨clause, hcl, Clause.code?_of_required? hcode⟩)
  · intro check hk code hcode
    obtain ⟨clause, hcl, hcheck⟩ := List.mem_filterMap.1 hk
    exact mem_codes_ofClauses.2 (Or.inr ⟨clause, hcl, (Clause.code?_of_check? hcheck).trans hcode⟩)

end FieldRule

/-! ## Codes of verdicts -/

/-- A list of allowed codes, none twice. -/
def IsCodeList (allowed : CodeSet) (codes : List String) : Prop :=
  codes.Nodup ∧ ∀ code ∈ codes, code ∈ allowed

theorem IsCodeList.addCode {allowed : CodeSet} {code : String} {codes : List String} (h : IsCodeList allowed codes)
    (hc : code ∈ allowed) : IsCodeList allowed (Verdict.addCode code codes) := by
  unfold Verdict.addCode
  split
  · exact h
  · next hn =>
    have fresh : code ∉ codes := by simpa using hn
    refine ⟨List.nodup_append.2 ⟨h.1, by simp, fun x hx y hy => ?_⟩, fun x hx => ?_⟩
    · rw [List.mem_singleton.1 hy]
      exact fun e => fresh (e ▸ hx)
    · rcases List.mem_append.1 hx with hx | hx
      · exact h.2 x hx
      · rw [List.mem_singleton.1 hx]
        exact hc

/-- **Checks add codes of their own**, and none twice. -/
theorem Check.runAll_codes {allowed : CodeSet} {path : String} {known : List String} {value : Json}
    {checks : List Check} {codes result : List String}
    (own : ∀ check ∈ checks, ∀ code, check.code? = some code → code ∈ allowed)
    (start : IsCodeList allowed codes) (h : (runAll path known value checks codes).result = .ok result) :
    IsCodeList allowed result := by
  induction checks generalizing codes with
  | nil =>
    cases h
    exact start
  | cons check checks ih =>
    obtain ⟨hcheck, hchecks⟩ := List.forall_mem_cons.1 own
    cases check with
    | stopIfFailed =>
      simp only [runAll] at h
      split at h
      · exact ih hchecks start h
      · cases h
        exact start
    | exclusive fields code =>
      simp only [runAll] at h
      split at h
      · exact ih hchecks (start.addCode (hcheck code rfl)) h
      · exact ih hchecks start h
    | external name component code =>
      simp only [runAll] at h
      split at h
      · cases h
      · next accepted _ =>
        cases accepted with
        | true => exact ih hchecks start h
        | false => exact ih hchecks (start.addCode (hcheck code rfl)) h
    | test condition code =>
      simp only [runAll] at h
      split at h
      · exact ih hchecks start h
      · exact ih hchecks (start.addCode (hcheck code rfl)) h

/-- A verdict has recorded codes only, none twice. -/
theorem FieldRule.validate_codes {rule : FieldRule} (coded : rule.IsCoded) {situation : Situation} {verdict : Verdict}
    (h : (rule.validate situation).result = .ok verdict) : IsCodeList rule.codes verdict.codes := by
  rcases validate_eq_ok_iff.1 h with ⟨-, rfl⟩ | ⟨value, codes, -, hc, rfl⟩
  · unfold unsetVerdict
    cases required : rule.required with
    | none => exact ⟨.nil, by simp⟩
    | some code => exact ⟨by simp, by simpa using coded.required code required⟩
  · exact Check.runAll_codes coded.checks ⟨.nil, by simp⟩ hc

/-! ## Codes of engines -/

namespace Blueprint

theorem mem_codesOf {defaultCode code : String} {rules : List FieldRule} :
    code ∈ codesOf defaultCode rules ↔
      code = defaultCode ∧ defaultCode ≠ "" ∨ ∃ rule ∈ rules, code ∈ rule.codes := by
  have gathered : code ∈ rules.foldr (fun rule codes => rule.codes.union codes) CodeSet.empty ↔
      ∃ rule ∈ rules, code ∈ rule.codes := by
    induction rules with
    | nil => simp [CodeSet.not_mem_empty]
    | cons rule rules ih => simp [CodeSet.mem_union, ih]
  rw [codesOf, CodeSet.mem_insertNonempty, gathered]

/-- An engine records the codes of its rules, each of which records its own. -/
theorem isCoded_of_build {blueprint : Blueprint} {engine : Engine} (built : blueprint.build = .ok engine)
    {rule : FieldRule} (hr : rule ∈ engine.rules) :
    rule.IsCoded ∧ ∀ code, code ∈ rule.codes → code ∈ engine.codes := by
  obtain ⟨-, -, he⟩ := build_eq_ok_iff.1 built
  obtain ⟨tokens, -, hb⟩ := exists_buildRule built hr
  obtain ⟨directives, type, -, -, hf⟩ := buildRule_eq_ok_iff.1 hb
  refine ⟨FieldRule.isCoded_of_build hf, fun code hc => ?_⟩
  rw [he]
  exact mem_codesOf.2 (Or.inr ⟨rule, hr, hc⟩)

theorem code_ne_empty_of_build {blueprint : Blueprint} {engine : Engine} (built : blueprint.build = .ok engine)
    {code : String} (hc : code ∈ engine.codes) : code ≠ "" := by
  obtain ⟨-, -, he⟩ := build_eq_ok_iff.1 built
  rw [he] at hc
  rcases mem_codesOf.1 hc with ⟨rfl, some⟩ | ⟨rule, hr, hcode⟩
  · exact some
  · exact (isCoded_of_build built hr).1.nonempty code hcode

/-- **Findings carry recorded codes.** Of an engine that is built, every finding names a field of the chain and has
at least one code, none twice, and each of them is a code in use; the empty text never is. -/
theorem codes_of_findings (blueprint : Blueprint) (engine : Engine) (built : blueprint.build = .ok engine) :
    ¬ "" ∈ engine.codes ∧
      ∀ subject findings, (engine.validate subject).result = .ok findings → ∀ finding ∈ findings,
        finding.field ∈ engine.fields ∧ finding.codes ≠ [] ∧ finding.codes.Nodup ∧
          ∀ code ∈ finding.codes, code ≠ "" ∧ code ∈ engine.codes := by
  refine ⟨fun he => code_ne_empty_of_build built he rfl, fun subject findings h finding hf => ?_⟩
  obtain ⟨rule, hr, verdict, judged, faulty, rfl⟩ := Engine.exists_rule_of_finding h hf
  obtain ⟨coded, recorded⟩ := isCoded_of_build built hr
  obtain ⟨nodup, mem⟩ := FieldRule.validate_codes coded judged
  refine ⟨List.mem_map_of_mem hr, by simpa [Verdict.hasErrors] using faulty, nodup, fun code hc => ?_⟩
  exact ⟨coded.nonempty code (mem code hc), recorded code (mem code hc)⟩

/-- Two directives with the code of the marker, and one with a code of its own. -/
def sharedCodeRules : Blueprint where
  rules := [["a", "STR:BAD", "MEX:b", "IN:x", "LEN:2:*:SHORT"], ["b", "INT", "REQ:BAD"]]

def sharedCodeEngine : Engine :=
  sharedCodeRules.build.toOption.getD ⟨"", [], .empty⟩

def sharedCodePayload : Json :=
  .obj [("a", .str "y"), ("b", .int 1)]

theorem codes_of_findings_shared :
    sharedCodeRules.build = .ok sharedCodeEngine ∧ ¬ "" ∈ sharedCodeEngine.codes ∧
      (sharedCodeEngine.validate sharedCodePayload).result = .ok [⟨"a", ["BAD", "SHORT"]⟩] ∧
      ["BAD", "SHORT"].Nodup ∧ "BAD" ∈ sharedCodeEngine.codes := by
  have built : sharedCodeRules.build = .ok sharedCodeEngine := rfl
  have result : (sharedCodeEngine.validate sharedCodePayload).result = .ok [⟨"a", ["BAD", "SHORT"]⟩] := rfl
  obtain ⟨noEmpty, findings⟩ := codes_of_findings sharedCodeRules sharedCodeEngine built
  obtain ⟨-, -, nodup, codes⟩ := findings sharedCodePayload _ result _ (List.mem_singleton_self _)
  exact ⟨built, noEmpty, result, nodup, (codes "BAD" (by simp)).2⟩

end Blueprint

end FieldRules
