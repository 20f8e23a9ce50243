import FieldRules.Cli.Run
import FieldRules.Proofs.Codes
import FieldRules.Proofs.JsonReport
import Mathlib

/-!
# The exit status

What a run of `validate` leaves is settled by what it loads and what the engine finds there (`Finds`). The status, the
lines for a reader and the document for a program all tell the same (`status_of_run_validate`): they are made from the
codes of the findings, one after another, and no finding is without codes, so that nothing found means nothing shown.
A run that cannot load what it needs, or that the engine gives up, shows nothing.
-/

namespace FieldRules.Cli

/-! ## What is loaded -/

/-- The blueprint that a rule set stands for under some arguments: a default code among them takes the place of that of
the rule set, and a rule set without name is called after its file. -/
def ValidateArguments.blueprint (arguments : ValidateArguments) (set : RuleSet) : Blueprint where
  name := if set.name = "" then (FilePath.stem? arguments.rules).getD "" else set.name
  rules := set.rules
  defaultCode := arguments.defaultCode.getD set.defaultCode
  registry := set.registry

/-- Where the text of the payload comes from: the standard input, unless the arguments name a file. -/
def ValidateArguments.source (arguments : ValidateArguments) (files : FileReader) (stdin : Except ReadFault String) :
    Except ReadFault String :=
  match arguments.payload with
  | none => stdin
  | some path => if isStdin path then stdin else files path

/-- Everything that a validation needs can be loaded, and the rules compile. -/
structure Loads (files : FileReader) (stdin : Except ReadFault String) (arguments : ValidateArguments)
    (engine : Engine) (catalog : Catalog) (payload : Json) : Prop where
  engine_built : ∃ set, RuleSet.shape.load files arguments.rules = .ok set ∧
    (arguments.blueprint set).build = .ok engine
  catalog_loaded : (arguments.catalog = none ∧ catalog = .empty) ∨
    ∃ path, arguments.catalog = some path ∧ Catalog.shape.load files path = .ok catalog
  payload_read : ∃ text, arguments.source files stdin = .ok text ∧ Json.parse text = .ok payload

/-- Everything can be loaded, and the engine finds something, with messages in a catalog. -/
def Finds (files : FileReader) (stdin : Except ReadFault String) (arguments : ValidateArguments) (catalog : Catalog)
    (findings : List Finding) : Prop :=
  ∃ engine payload, Loads files stdin arguments engine catalog payload ∧
    (engine.validate payload).result = .ok findings

section
variable {files : FileReader} {stdin : Except ReadFault String} {arguments : ValidateArguments} {engine : Engine}
  {catalog : Catalog} {payload : Json} {errors : List RenderedError} {findings : List Finding}

theorem loadEngine_eq_ok_iff : loadEngine files arguments.rules arguments.defaultCode = .ok engine ↔
    ∃ set, RuleSet.shape.load files arguments.rules = .ok set ∧ (arguments.blueprint set).build = .ok engine := by
  unfold loadEngine
  cases RuleSet.shape.load files arguments.rules with
  | error fault => simp
  | ok set =>
    have same : RuleSet.blueprint { set with
        name := if set.name.isEmpty then (FilePath.stem? arguments.rules).getD set.name else set.name,
        defaultCode := arguments.defaultCode.getD set.defaultCode } none = arguments.blueprint set := by
      by_cases unnamed : set.name = "" <;> simp [RuleSet.blueprint, ValidateArguments.blueprint, unnamed]
    simp only [same, Except.ok.injEq, exists_eq_left']
    cases (arguments.blueprint set).build <;> simp

theorem loadCatalog_eq_ok_iff : loadCatalog files arguments.catalog = .ok catalog ↔
    (arguments.catalog = none ∧ catalog = .empty) ∨
      ∃ path, arguments.catalog = some path ∧ Catalog.shape.load files path = .ok catalog := by
  cases arguments.catalog with
  | none => simp [loadCatalog, eq_comm]
  | some path =>
    simp only [loadCatalog, reduceCtorEq, false_and, false_or, Option.some.injEq, exists_eq_left']
    cases Catalog.shape.load files path <;> simp

theorem payloadText_eq_ok_iff {text : String} : payloadText files stdin arguments.payload = .ok text ↔
    arguments.source files stdin = .ok text := by
  have fromStdin : payloadText.fromStdin stdin = .ok text ↔ stdin = .ok text := by
    cases stdin <;> simp [payloadText.fromStdin]
  unfold payloadText ValidateArguments.source
  cases arguments.payload with
  | none => exact fromStdin
  | some path =>
    by_cases standard : isStdin path = true
    · simpa [standard] using fromStdin
    · simp only [standard, if_false, Bool.false_eq_true]
      cases files path <;> simp

theorem loadPayload_eq_ok_iff : loadPayload files stdin arguments.payload = .ok payload ↔
    ∃ text, arguments.source files stdin = .ok text ∧ Json.parse text = .ok payload := by
  rw [loadPayload, bind_eq_ok_iff]
  refine exists_congr fun text => and_congr payloadText_eq_ok_iff ?_
  cases Json.parse text <;> simp

/-- **What is shown** are the codes of the findings, where everything can be loaded and the engine does not give up. -/
theorem findErrors_eq_ok_iff : findErrors files stdin arguments = .ok errors ↔
    ∃ catalog findings, Finds files stdin arguments catalog findings ∧ errors = catalog.render findings := by
  simp only [findErrors, bind_eq_ok_iff, loadEngine_eq_ok_iff, loadCatalog_eq_ok_iff, loadPayload_eq_ok_iff]
  constructor
  · rintro ⟨engine, built, catalog, loaded, payload, read, h⟩
    cases result : (engine.validate payload).result with
    | error abort => simp [result] at h
    | ok findings =>
      simp only [result, Except.ok.injEq] at h
      exact ⟨catalog, findings, ⟨engine, payload, ⟨built, loaded, read⟩, result⟩, h.symm⟩
  · rintro ⟨catalog, findings, ⟨engine, payload, ⟨built, loaded, read⟩, result⟩, rfl⟩
    exact ⟨engine, built, catalog, loaded, payload, read, by simp [result]⟩

/-- Nothing is found in a payload that cannot be read. -/
theorem not_finds_of_unreadable {text : String} {fault : JsonFault} (given : arguments.source files stdin = .ok text)
    (broken : Json.parse text = .error fault) : ¬ Finds files stdin arguments catalog findings := by
  rintro ⟨engine, payload, ⟨-, -, text', given', read⟩, -⟩
  obtain rfl : text = text' := Except.ok.inj (given.symm.trans given')
  rw [broken] at read
  cases read

/-- Nothing is shown only when nothing was found: a finding has codes. -/
theorem Finds.render_eq_nil_iff (h : Finds files stdin arguments catalog findings) :
    catalog.render findings = [] ↔ findings = [] := by
  obtain ⟨engine, payload, -, result⟩ := h
  have coded (finding : Finding) (hf : finding ∈ findings) : finding.codes ≠ [] := by
    obtain ⟨rule, -, verdict, -, faulty, rfl⟩ := Engine.exists_rule_of_finding result hf
    simpa [Verdict.hasErrors] using faulty
  simp only [Catalog.render, List.flatMap_eq_nil_iff, List.map_eq_nil_iff]
  constructor
  · intro none
    exact List.eq_nil_iff_forall_not_mem.2 fun finding hf => coded finding hf (none finding hf)
  · rintro rfl finding hf
    cases hf

end

/-! ## What is written -/

/-- A code of a finding on a line of its own, with its message where that says more. -/
def errorEntry (catalog : Catalog) (field code : String) : String :=
  let message := (catalog.message? code).getD code
  field ++ ": " ++ code ++ (if message = code then "" else " (" ++ message ++ ")") ++ "\n"

theorem errorLine_eq (catalog : Catalog) (field code : String) :
    errorLine ⟨field, code, (catalog.message? code).getD code⟩ = errorEntry catalog field code := by
  unfold errorLine errorEntry
  by_cases same : (catalog.message? code).getD code = code
  · simp [same]
  · simp [same, String.append_assoc]

theorem textReport_render (catalog : Catalog) (findings : List Finding) (some : catalog.render findings ≠ []) :
    textReport (catalog.render findings) =
      String.join (findings.flatMap fun finding => finding.codes.map (errorEntry catalog finding.field)) := by
  rw [textReport, if_neg (by simpa using some), Catalog.render, List.map_flatMap]
  simp [Function.comp_def, errorLine_eq]

/-- A line of a finding has a colon, which the report on a valid payload has not. -/
theorem textReport_ne_valid {errors : List RenderedError} (some : errors ≠ []) : textReport errors ≠ "valid\n" := by
  obtain ⟨error, others, rfl⟩ := List.exists_cons_of_ne_nil some
  have line : ':' ∈ (errorLine error).toList := by
    unfold errorLine
    split <;> simp
  have shown : ':' ∈ (textReport (error :: others)).toList := by
    simp [textReport, String.toList_join, line]
  intro same
  rw [same] at shown
  exact absurd shown (by decide)

theorem member?_reportValue (errors : List RenderedError) :
    (reportValue errors).member? "valid" = some (.bool errors.isEmpty) := by
  simp [reportValue, Json.member?]

/-! ## Runs -/

/-- A run that could not do its work writes nothing but why. -/
theorem failure_eq (stdout : String) (diagnostic : Diagnostic) :
    (failure stdout diagnostic).status = 2 ∧ (failure stdout diagnostic).stdout = stdout := by
  simp only [failure]
  split <;> exact ⟨rfl, rfl⟩

section
variable {files : FileReader} {stdin : Except ReadFault String} {arguments : ValidateArguments} {catalog : Catalog}
  {findings : List Finding}

/-- A run that comes to the findings reports them. -/
theorem Finds.run_eq (h : Finds files stdin arguments catalog findings) :
    (run files stdin (.validate arguments)).status = (if findings = [] then 0 else 1) ∧
      (run files stdin (.validate arguments)).stdout = report arguments.format (catalog.render findings) := by
  have shown := findErrors_eq_ok_iff.2 ⟨catalog, findings, h, rfl⟩
  simp [run, runValidate, shown, h.render_eq_nil_iff]

/-- A run comes to the findings, or has nothing to report. -/
theorem finds_or_fails (files : FileReader) (stdin : Except ReadFault String) (arguments : ValidateArguments) :
    (∃ catalog findings, Finds files stdin arguments catalog findings) ∨
      (run files stdin (.validate arguments)).status = 2 ∧ (run files stdin (.validate arguments)).stdout = "" := by
  cases shown : findErrors files stdin arguments with
  | error diagnostic => exact Or.inr (by simpa [run, runValidate, shown] using failure_eq "" diagnostic)
  | ok errors =>
    obtain ⟨catalog, findings, found, -⟩ := findErrors_eq_ok_iff.1 shown
    exact Or.inl ⟨catalog, findings, found⟩

/-- The status tells whether what is found is nothing. -/
theorem status_iff (valid : Bool) :
    (run files stdin (.validate arguments)).status = (if valid then 0 else 1) ↔
      ∃ catalog findings, Finds files stdin arguments catalog findings ∧ (findings = [] ↔ valid = true) := by
  constructor
  · intro told
    rcases finds_or_fails files stdin arguments with ⟨catalog, findings, found⟩ | ⟨failed, -⟩
    · refine ⟨catalog, findings, found, ?_⟩
      rw [found.run_eq.1] at told
      by_cases none : findings = [] <;> cases valid <;> simp_all
    · rw [failed] at told
      cases valid <;> cases told
  · rintro ⟨catalog, findings, found, same⟩
    simp only [found.run_eq.1, same]

/-- The text for a reader. -/
theorem Finds.text_eq (h : Finds files stdin arguments catalog findings) (format : arguments.format = .text) :
    (run files stdin (.validate arguments)).stdout =
      if findings = [] then "valid\n"
      else String.join (findings.flatMap fun finding => finding.codes.map (errorEntry catalog finding.field)) := by
  rw [h.run_eq.2, format]
  by_cases none : findings = []
  · subst none
    rfl
  · rw [if_neg none]
    exact textReport_render catalog findings (mt h.render_eq_nil_iff.1 none)

/-- The document for a program: its verdict is that of the status. -/
theorem verdict_iff (format : arguments.format = .json) (verdict : Bool) :
    (∃ document, Json.parse (run files stdin (.validate arguments)).stdout = .ok document ∧
      document.member? "valid" = some (.bool verdict)) ↔
        (run files stdin (.validate arguments)).status = if verdict then 0 else 1 := by
  rcases finds_or_fails files stdin arguments with ⟨catalog, findings, found⟩ | ⟨failed, silent⟩
  · have read : Json.parse (run files stdin (.validate arguments)).stdout =
        .ok (reportValue (catalog.render findings)) := by
      rw [found.run_eq.2, format]
      exact parse_jsonReport _
    have empty : (catalog.render findings).isEmpty = true ↔ findings = [] := by
      rw [List.isEmpty_iff, found.render_eq_nil_iff]
    simp only [read, found.run_eq.1, Except.ok.injEq, exists_eq_left', member?_reportValue, Option.some.injEq,
      Json.bool.injEq]
    rw [Bool.eq_iff_iff, empty]
    cases verdict <;> simp
  · -- nothing is written then, and nothing is no document
    cases verdict <;> simp [silent, failed, Json.parse_empty]

end

/-- **The status of a run tells what the engine finds.** It is 0 when everything can be loaded and nothing is found, 1
when something is found, and else 2, with nothing written. For a reader, nothing found is one word, and what is found is
a line for each code of each finding in order, which never reads like that word. For a program, the document says
whether the payload is valid as the status does. -/
theorem status_of_run_validate (files : FileReader) (stdin : Except ReadFault String) (arguments : ValidateArguments) :
    let output := run files stdin (.validate arguments)
    (output.status = 0 ↔ ∃ catalog, Finds files stdin arguments catalog []) ∧
    (output.status = 1 ↔ ∃ catalog findings, Finds files stdin arguments catalog findings ∧ findings ≠ []) ∧
    (output.status = 0 ∨ output.status = 1 ∨ output.status = 2 ∧ output.stdout = "") ∧
    (arguments.format = .text →
      (output.status = 0 → output.stdout = "valid\n") ∧ (output.status = 1 → output.stdout ≠ "valid\n") ∧
      ∀ catalog findings, Finds files stdin arguments catalog findings → findings ≠ [] →
        output.stdout =
          String.join (findings.flatMap fun finding => finding.codes.map (errorEntry catalog finding.field))) ∧
    (arguments.format = .json → ∀ verdict,
      (∃ document, Json.parse output.stdout = .ok document ∧ document.member? "valid" = some (.bool verdict)) ↔
        output.status = if verdict then 0 else 1) := by
  have clean_iff : (run files stdin (.validate arguments)).status = 0 ↔
      ∃ catalog, Finds files stdin arguments catalog [] := (status_iff true).trans (by simp)
  have faulty_iff : (run files stdin (.validate arguments)).status = 1 ↔
      ∃ catalog findings, Finds files stdin arguments catalog findings ∧ findings ≠ [] :=
    (status_iff false).trans (by simp)
  refine ⟨clean_iff, faulty_iff, ?_, fun format => ⟨fun clean => ?_, fun faulty => ?_, ?_⟩,
    fun format => verdict_iff format⟩
  · rcases finds_or_fails files stdin arguments with ⟨catalog, findings, found⟩ | failed
    · by_cases none : findings = []
      · exact Or.inl (found.run_eq.1.trans (if_pos none))
      · exact Or.inr (Or.inl (found.run_eq.1.trans (if_neg none)))
    · exact Or.inr (Or.inr failed)
  · obtain ⟨catalog, found⟩ := clean_iff.1 clean
    exact found.text_eq format
  · obtain ⟨catalog, findings, found, some⟩ := faulty_iff.1 faulty
    rw [found.run_eq.2, format]
    exact textReport_ne_valid (mt found.render_eq_nil_iff.1 some)
  · intro catalog findings found some
    exact (found.text_eq format).trans (if_neg some)

/-! ## Runs on two names -/

/-- A rule document, a catalog with a message for one of its codes, and no other file. -/
def nameFiles : FileReader := fun path =>
  if path = "names.json" then
    .ok "\x7b\"rules\": [[\"name\", \"STR\", \"LEN:1:3:LONG\"], [\"nick\", \"STR\", \"REQ:NONE\"]]\x7d"
  else if path = "messages.toml" then .ok "[messages]\nLONG = \"three letters at most\""
  else .error .notFound

def nameArguments (format : ReportFormat) : ValidateArguments where
  rules := "names.json"
  payload := none
  defaultCode := some "BAD"
  catalog := some "messages.toml"
  format := format

def nameRules : RuleSet where
  rules := [["name", "STR", "LEN:1:3:LONG"], ["nick", "STR", "REQ:NONE"]]

def nameEngine : Engine :=
  ((nameArguments .text).blueprint nameRules).build.toOption.getD ⟨"", [], .empty⟩

def nameCatalog : Catalog :=
  ⟨Dict.ofList [("LONG", "three letters at most")]⟩

theorem loads_names {text : String} {payload : Json} (format : ReportFormat) (read : Json.parse text = .ok payload) :
    Loads nameFiles (.ok text) (nameArguments format) nameEngine nameCatalog payload where
  engine_built := ⟨nameRules, by cbv, rfl⟩
  catalog_loaded := Or.inr ⟨"messages.toml", rfl, by cbv⟩
  payload_read := ⟨text, rfl, read⟩

/-- Two names that are as they should be. -/
def cleanNames : String :=
  "\x7b\"name\": \"abc\", \"nick\": \"b\"\x7d"

/-- One name that is too long, without the other. -/
def faultyNames : String :=
  "\x7b\"name\": \"abcd\"\x7d"

/-- A text that is cut short. -/
def brokenNames : String :=
  "\x7b\"name\""

theorem finds_cleanNames (format : ReportFormat) :
    Finds nameFiles (.ok cleanNames) (nameArguments format) nameCatalog [] := by
  have read : Json.parse cleanNames = .ok (.obj [("name", .str "abc"), ("nick", .str "b")]) := by cbv
  exact ⟨nameEngine, _, loads_names format read, rfl⟩

theorem finds_faultyNames (format : ReportFormat) :
    Finds nameFiles (.ok faultyNames) (nameArguments format) nameCatalog
      [⟨"name", ["LONG"]⟩, ⟨"nick", ["NONE"]⟩] := by
  have read : Json.parse faultyNames = .ok (.obj [("name", .str "abcd")]) := by cbv
  exact ⟨nameEngine, _, loads_names format read, rfl⟩

theorem not_finds_brokenNames (format : ReportFormat) {catalog : Catalog} {findings : List Finding} :
    ¬ Finds nameFiles (.ok brokenNames) (nameArguments format) catalog findings := by
  have broken : Json.parse brokenNames = .error .truncated := by cbv
  exact not_finds_of_unreadable rfl broken

/-- One code has a message that is not the code, and the other has none. -/
theorem status_of_run_validate_names :
    let output (payload : String) (format : ReportFormat) :=
      run nameFiles (.ok payload) (.validate (nameArguments format))
    ((output cleanNames .text).status = 0 ∧ (output cleanNames .text).stdout = "valid\n") ∧
      ((output faultyNames .text).status = 1 ∧
        (output faultyNames .text).stdout = "name: LONG (three letters at most)\nnick: NONE\n") ∧
      ((output faultyNames .json).status = 1 ∧ ∃ document, Json.parse (output faultyNames .json).stdout = .ok document ∧
        document.member? "valid" = some (.bool false)) ∧
      (output brokenNames .json).status = 2 ∧ (output brokenNames .json).stdout = "" := by
  intro output
  obtain ⟨clean_iff, -, -, said, -⟩ := status_of_run_validate nameFiles (.ok cleanNames) (nameArguments .text)
  have clean := clean_iff.2 ⟨_, finds_cleanNames .text⟩
  obtain ⟨-, faulty_iff, -, listed, -⟩ := status_of_run_validate nameFiles (.ok faultyNames) (nameArguments .text)
  obtain ⟨-, -, lines⟩ := listed rfl
  obtain ⟨-, told_iff, -, -, document⟩ := status_of_run_validate nameFiles (.ok faultyNames) (nameArguments .json)
  have told := told_iff.2 ⟨_, _, finds_faultyNames .json, List.cons_ne_nil _ _⟩
  obtain ⟨zero_iff, one_iff, outcome, -⟩ := status_of_run_validate nameFiles (.ok brokenNames) (nameArguments .json)
  refine ⟨⟨clean, (said rfl).1 clean⟩,
    ⟨faulty_iff.2 ⟨_, _, finds_faultyNames .text, List.cons_ne_nil _ _⟩,
      lines _ _ (finds_faultyNames .text) (List.cons_ne_nil _ _)⟩,
    ⟨told, (document rfl false).2 told⟩, ?_⟩
  rcases outcome with zero | one | failed
  · obtain ⟨catalog, found⟩ := zero_iff.1 zero
    exact absurd found (not_finds_brokenNames .json)
  · obtain ⟨catalog, findings, found, -⟩ := one_iff.1 one
    exact absurd found (not_finds_brokenNames .json)
  · exact failed

end FieldRules.Cli
