import FieldRules.Proofs.Breaks
import FieldRules.Proofs.DeclaredCodes
import Mathlib.Data.List.Perm.Basic

/-!
# Settings stand anywhere

Some directives of a rule are evaluated on a value, in their order. The others are settings: the marker, which may
carry the default code, whether the field is required, whether blanks count, whether the validation ends. Directives
are read one by one, against a default code that is found before, so what a directive asks for does not depend on where
it stands, and of the settings only the order among those for the same thing counts. Moving settings leaves the rule as
it is (`ofClauses_of_moved`), and a setting at the end reaches the directives before it (`build_append_trim`,
`build_append_marker`).
-/

namespace FieldRules

/-! ## Directives by what they are for -/

namespace Directive

/-- A directive has a name. -/
def isNamed (name text : String) : Bool :=
  (parse text).name == name

/-- A directive is evaluated on the value of the field. -/
def isEvaluated (text : String) : Bool :=
  isBreak text || judges text

end Directive

/-- The second list is the first with settings moved: the directives that are evaluated keep their order, those that
require the field keep theirs, and so do the markers of the type. The other settings may come to stand anywhere. -/
structure SettingsMoved (type : RuleType) (directives directives' : List String) : Prop where
  perm : directives'.Perm directives
  evaluated : directives'.filter Directive.isEvaluated = directives.filter Directive.isEvaluated
  required : directives'.filter (Directive.isNamed "REQ") = directives.filter (Directive.isNamed "REQ")
  markers : directives'.filter (Directive.isNamed type.marker) = directives.filter (Directive.isNamed type.marker)

theorem SettingsMoved.symm {type : RuleType} {directives directives' : List String}
    (moved : SettingsMoved type directives directives') : SettingsMoved type directives' directives :=
  ⟨moved.perm.symm, moved.evaluated.symm, moved.required.symm, moved.markers.symm⟩

/-! ## The default code -/

namespace RuleType

variable {type : RuleType} {directives directives' : List String} {fallback : String}

/-- The default of a rule depends on its markers alone. -/
theorem defaultCode_congr (markers : directives'.filter (Directive.isNamed type.marker) =
    directives.filter (Directive.isNamed type.marker)) :
    type.defaultCode directives' fallback = type.defaultCode directives fallback := by
  have found (directives : List String) :
      (directives.map Directive.parse).find? (fun directive => directive.name == type.marker) =
        (directives.filter (Directive.isNamed type.marker)).head?.map Directive.parse := by
    rw [List.find?_map, List.head?_filter]
    rfl
  rw [defaultCode, defaultCode, found, found, markers]

/-- Without a marker the default of a rule is that of the whole. -/
theorem defaultCode_of_no_marker (others : ∀ text ∈ directives, (Directive.parse text).name ≠ type.marker) :
    type.defaultCode directives fallback = fallback := by
  have none : type.markerCode? directives = none := by
    rw [Option.eq_none_iff_forall_ne_some]
    rintro code carried
    obtain ⟨before, text, after, rfl, marker, -⟩ := markerCode?_eq_some_iff.1 carried
    exact others text (by simp) marker
  rw [defaultCode_eq, none, Option.getD_none]

/-- The code that a marker carries is the default of the directives before it. -/
theorem defaultCode_append_marker {text code : String}
    (others : ∀ text ∈ directives, (Directive.parse text).name ≠ type.marker)
    (marker : Directive.decompose text = [type.marker, code]) (nonempty : code ≠ "") :
    type.defaultCode (directives ++ [text]) fallback = code := by
  obtain ⟨named, arguments⟩ := List.cons.inj marker
  have carried : type.markerCode? (directives ++ [text]) = some code :=
    markerCode?_eq_some_iff.2 ⟨directives, text, [], rfl, named, others,
      by rw [Directive.part?, Directive.parts, arguments]; rfl, nonempty⟩
  rw [defaultCode_eq, carried, Option.getD_some]

end RuleType

/-! ## What clauses make of directives -/

/-- What is taken from the results of a list is what is taken from those of the members that matter. -/
theorem filterMap_eq_filterMap_filter {ε α β γ : Type} {f : α → Except ε β} {g : β → Option γ} {p : α → Bool}
    {xs : List α} {ys : List β} (h : xs.map f = ys.map .ok)
    (silent : ∀ x ∈ xs, ∀ y, f x = .ok y → p x = false → g y = none) :
    ys.filterMap g = (xs.filter p).filterMap fun x => (f x).toOption.bind g := by
  induction xs generalizing ys with
  | nil => cases ys with
    | nil => rfl
    | cons y ys => cases h
  | cons x xs ih => cases ys with
    | nil => cases h
    | cons y ys =>
      obtain ⟨hy, hys⟩ := List.cons.inj h
      have rest := ih hys fun x hx => silent x (List.mem_cons_of_mem _ hx)
      cases matters : p x with
      | true => simp [matters, hy, rest, List.filterMap_cons, Except.toOption]
      | false => simp [matters, silent x (List.mem_cons_self ..) y hy matters, rest]

namespace RuleContext

variable {context : RuleContext} {directives directives' : List String} {text : String} {clause : Clause}
  {clauses clauses' : List Clause}

/-- Only a directive that is evaluated asks for a check. -/
theorem check?_eq_none_of_not_isEvaluated (read : context.readDirective (Directive.parse text) = .ok clause)
    (setting : Directive.isEvaluated text = false) : clause.check? = none := by
  obtain ⟨noBreak, silent⟩ := Bool.or_eq_false_iff.1 setting
  have cases := check?_cases read
  rw [noBreak, silent] at cases
  simpa [check?, read, Except.toOption] using cases

/-- Only a directive that requires the field asks for that. -/
theorem required?_eq_none_of_not_isNamed (read : context.readDirective (Directive.parse text) = .ok clause)
    (other : Directive.isNamed "REQ" text = false) : clause.required? = none := by
  rcases readDirective_cases read with ⟨-, rfl⟩ | ⟨keyword, named, asked⟩
  · rfl
  · cases askedBy_of_readKeyword asked with
    | required => simp [Directive.isNamed, named, Keyword.name] at other
    | _ => rfl

/-- **Directives with their settings moved make up the same rule.** -/
theorem ofClauses_of_moved (moved : SettingsMoved context.type directives directives')
    (read : directives.map (fun text => context.readDirective (Directive.parse text)) = clauses.map .ok)
    (read' : directives'.map (fun text => context.readDirective (Directive.parse text)) = clauses'.map .ok) :
    FieldRule.ofClauses context clauses' = FieldRule.ofClauses context clauses := by
  have perm : clauses'.Perm clauses := by
    rw [← List.map_perm_map_iff (f := Except.ok (ε := RuleError)) fun _ _ => Except.ok.inj, ← read, ← read']
    exact moved.perm.map _
  have required : clauses'.filterMap Clause.required? = clauses.filterMap Clause.required? := by
    rw [filterMap_eq_filterMap_filter read' fun _ _ _ => required?_eq_none_of_not_isNamed,
      filterMap_eq_filterMap_filter read fun _ _ _ => required?_eq_none_of_not_isNamed, moved.required]
  have checks : clauses'.filterMap Clause.check? = clauses.filterMap Clause.check? := by
    rw [filterMap_eq_filterMap_filter read' fun _ _ _ => check?_eq_none_of_not_isEvaluated,
      filterMap_eq_filterMap_filter read fun _ _ _ => check?_eq_none_of_not_isEvaluated, moved.evaluated]
  have codes : (FieldRule.ofClauses context clauses').codes = (FieldRule.ofClauses context clauses).codes :=
    CodeSet.ext_mem fun code => by simp only [FieldRule.mem_codes_ofClauses, perm.mem_iff]
  simp only [FieldRule.ofClauses] at codes ⊢
  rw [required, checks, codes, perm.any_eq, perm.any_eq]

end RuleContext

namespace FieldRule

variable {type : RuleType} {field defaultCode : String} {directives directives' before : List String}
  {components : Option ComponentLookup} {rule : FieldRule}

/-- What can be built can be built with its settings moved, and is the same rule. -/
theorem build_moved (moved : SettingsMoved type directives directives')
    (built : build type field directives defaultCode components = .ok rule) :
    build type field directives' defaultCode components = .ok rule := by
  obtain ⟨clauses, read, rfl⟩ := build_eq_ok_iff.1 built
  obtain ⟨clauses', read'⟩ : ∃ clauses' : List Clause, directives'.map (fun text => RuleContext.readDirective
      { field, type, components, defaultCode := type.defaultCode directives defaultCode } (Directive.parse text)) =
        clauses'.map .ok :=
    exists_map_eq_ok fun text ht => (exists_ok_of_mem read (moved.perm.mem_iff.1 ht)).imp fun _ h => h.2
  rw [build_eq_ok_iff, RuleType.defaultCode_congr moved.markers]
  exact ⟨clauses', read', (RuleContext.ofClauses_of_moved moved read read').symm⟩

/-- A rule with one more directive at the end has one more clause. -/
theorem build_append_eq_ok_iff {text : String} {context : RuleContext}
    (here : context = RuleContext.ofRule type field (before ++ [text]) defaultCode components) :
    build type field (before ++ [text]) defaultCode components = .ok rule ↔
      ∃ clauses clause, before.map (fun text => context.readDirective (Directive.parse text)) = clauses.map .ok ∧
        context.readDirective (Directive.parse text) = .ok clause ∧ rule = ofClauses context (clauses ++ [clause]) := by
  subst here
  rw [build_eq_ok_iff]
  constructor
  · rintro ⟨all, read, rfl⟩
    rw [List.map_append, List.append_eq_map_iff] at read
    obtain ⟨clauses, last, rfl, read, readLast⟩ := read
    obtain ⟨clause, rfl, hc⟩ := List.map_eq_singleton_iff.1 readLast
    exact ⟨clauses, clause, read.symm, hc.symm, rfl⟩
  · rintro ⟨clauses, clause, read, readLast, rfl⟩
    refine ⟨clauses ++ [clause], ?_, rfl⟩
    rw [List.map_append, List.map_append, List.map_singleton, List.map_singleton]
    exact congrArg₂ _ read (congrArg ([·]) readLast)

/-- A trim at the end trims for the whole rule. -/
theorem build_append_trim : build .str field (before ++ ["TRIM"]) defaultCode components = .ok rule ↔
    ∃ plain, build .str field before defaultCode components = .ok plain ∧ rule = { plain with trim := true } := by
  have default : RuleType.str.defaultCode (before ++ ["TRIM"]) defaultCode =
      RuleType.str.defaultCode before defaultCode :=
    RuleType.defaultCode_congr (by rw [List.filter_append]; exact List.append_nil _)
  have here : RuleContext.ofRule .str field before defaultCode components =
      RuleContext.ofRule .str field (before ++ ["TRIM"]) defaultCode components := by
    rw [RuleContext.ofRule, RuleContext.ofRule, default]
  have asks (context : RuleContext) (str : context.type = .str) :
      context.readDirective (Directive.parse "TRIM") = .ok .trim := by
    obtain ⟨field, type, defaultCode, components⟩ := context
    cases str
    rfl
  have rules (context : RuleContext) (clauses : List Clause) : ofClauses context (clauses ++ [.trim]) =
      { ofClauses context clauses with trim := true } := by
    have silent : [Clause.trim].filterMap Clause.code? = [] := rfl
    simp [ofClauses, Clause.required?, Clause.check?, silent, Clause.isTrim, Clause.isStopAll]
  rw [build_append_eq_ok_iff here]
  simp only [build_eq_ok_iff]
  constructor
  · rintro ⟨clauses, clause, read, last, rfl⟩
    obtain rfl := Except.ok.inj ((asks _ rfl).symm.trans last)
    exact ⟨_, ⟨clauses, read, rfl⟩, rules ..⟩
  · rintro ⟨_, ⟨clauses, read, rfl⟩, rfl⟩
    exact ⟨clauses, .trim, read, asks _ rfl, (rules ..).symm⟩

/-- A marker at the end gives the directives before it their default. -/
theorem build_append_marker {text code : String} (others : ∀ text ∈ before, (Directive.parse text).name ≠ type.marker)
    (marker : Directive.decompose text = [type.marker, code]) (nonempty : code ≠ "") :
    build type field (before ++ [text]) defaultCode components = .ok rule ↔
      build type field before code components = .ok rule := by
  have here : RuleContext.ofRule type field before code components =
      RuleContext.ofRule type field (before ++ [text]) defaultCode components := by
    rw [RuleContext.ofRule, RuleContext.ofRule, RuleType.defaultCode_of_no_marker others,
      RuleType.defaultCode_append_marker others marker nonempty]
  have asks (context : RuleContext) (same : context.type = type) :
      context.readDirective (Directive.parse text) = .ok .marker := by
    obtain ⟨named, arguments⟩ := List.cons.inj marker
    have size : (Directive.parse text).size = 2 := congrArg List.length marker
    rw [RuleContext.readDirective, same, if_pos named, RuleContext.expectParts, size]
    rfl
  have rules (context : RuleContext) (clauses : List Clause) :
      ofClauses context (clauses ++ [.marker]) = ofClauses context clauses := by
    have silent : [Clause.marker].filterMap Clause.code? = [] := rfl
    simp [ofClauses, Clause.required?, Clause.check?, silent, Clause.isTrim, Clause.isStopAll]
  rw [build_append_eq_ok_iff here, build_eq_ok_iff]
  constructor
  · rintro ⟨clauses, clause, read, last, rfl⟩
    obtain rfl := Except.ok.inj ((asks _ rfl).symm.trans last)
    exact ⟨clauses, read, rules ..⟩
  · rintro ⟨clauses, read, rfl⟩
    exact ⟨clauses, .marker, read, asks _ rfl, (rules ..).symm⟩

/-- A rule that trims reads a text without the blanks around it, and finds nothing where there are only blanks. -/
theorem read_of_trim (str : rule.type = .str) (trims : rule.trim = true) {path : String} {subject : Json}
    {text : String} (there : Subject.resolve subject path = .ok (some (.str text))) :
    rule.read path subject = .ok (if (Text.trim text).isEmpty then none else some (.str (Text.trim text))) := by
  rw [read, there, str, trims]
  rfl

/-- **Settings may stand anywhere.** When the directives of a rule are put into another order, and those that are
evaluated keep theirs, and so do those that require the field and the markers, then they make up the same rule, or none
as before. In particular a trim counts for the presence of the field and for every directive when it is written last,
and the code of a marker that is written last is the default for the directives before it. -/
theorem build_of_settingsMoved (type : RuleType) (field : String) (directives : List String) (defaultCode : String)
    (components : Option ComponentLookup) :
    (∀ directives', SettingsMoved type directives directives' → ∀ rule,
      build type field directives' defaultCode components = .ok rule ↔
        build type field directives defaultCode components = .ok rule) ∧
    (∀ rule, build .str field (directives ++ ["TRIM"]) defaultCode components = .ok rule ↔
      ∃ plain, build .str field directives defaultCode components = .ok plain ∧ rule = { plain with trim := true }) ∧
    (∀ rule path subject text, build .str field (directives ++ ["TRIM"]) defaultCode components = .ok rule →
      Subject.resolve subject path = .ok (some (.str text)) →
        rule.read path subject = .ok (if (Text.trim text).isEmpty then none else some (.str (Text.trim text)))) ∧
    ∀ marker code, Directive.decompose marker = [type.marker, code] → code ≠ "" →
      (∀ text ∈ directives, (Directive.parse text).name ≠ type.marker) → ∀ rule,
        build type field (directives ++ [marker]) defaultCode components = .ok rule ↔
          build type field directives code components = .ok rule := by
  refine ⟨fun directives' moved rule => ⟨build_moved moved.symm, build_moved moved⟩, fun rule => build_append_trim,
    fun rule path subject text built there => ?_,
    fun marker code carried nonempty others rule => build_append_marker others carried nonempty⟩
  obtain ⟨plain, plainBuilt, rfl⟩ := build_append_trim.1 built
  obtain ⟨_, -, rfl⟩ := build_eq_ok_iff.1 plainBuilt
  exact read_of_trim rfl rfl there

/-- Directives that judge a text, and the code that they fall back to. -/
def sizeDirectives : List String :=
  ["STR:BAD", "TRIM", "REQ", "LEN:2:5", "BREAK", "MEX:b"]

/-- The same with the settings behind. -/
def sizeDirectivesMoved : List String :=
  ["LEN:2:5", "REQ", "BREAK", "MEX:b", "STR:BAD", "TRIM"]

def sizeRule : FieldRule :=
  (build .str "a" sizeDirectives "" none).toOption.getD ⟨"", .str, none, false, false, [], .empty⟩

theorem build_of_settingsMoved_size :
    SettingsMoved .str sizeDirectives sizeDirectivesMoved ∧
      build .str "a" sizeDirectivesMoved "" none = .ok sizeRule ∧ sizeRule.trim = true ∧
      sizeRule.codes.codes = ["BAD"] ∧ sizeRule.required = some "BAD" ∧
      sizeRule.read "a" (.obj [("a", .str " xyz ")]) = .ok (some (.str "xyz")) ∧
      build .str "a" ["LEN:2:5", "REQ", "BREAK", "MEX:b", "STR:BAD"] "" none =
        .ok { sizeRule with trim := false } ∧
      build .str "a" ["LEN:2:5", "REQ", "BREAK", "MEX:b"] "BAD" none = .ok { sizeRule with trim := false } := by
  have moved : SettingsMoved .str sizeDirectives sizeDirectivesMoved := by
    constructor <;> decide
  obtain ⟨anywhere, -⟩ := build_of_settingsMoved .str "a" sizeDirectives "" none
  have built : build .str "a" sizeDirectivesMoved "" none = .ok sizeRule := (anywhere _ moved _).2 rfl
  obtain ⟨-, trimmed, reads, -⟩ :=
    build_of_settingsMoved .str "a" ["LEN:2:5", "REQ", "BREAK", "MEX:b", "STR:BAD"] "" none
  obtain ⟨plain, plainBuilt, same⟩ := (trimmed sizeRule).1 built
  obtain ⟨-, -, -, marked⟩ := build_of_settingsMoved .str "a" ["LEN:2:5", "REQ", "BREAK", "MEX:b"] "" none
  have plainRule : build .str "a" ["LEN:2:5", "REQ", "BREAK", "MEX:b", "STR:BAD"] "" none =
      .ok { sizeRule with trim := false } := rfl
  exact ⟨moved, built, congrArg FieldRule.trim same, by decide, by decide,
    reads sizeRule "a" (.obj [("a", .str " xyz ")]) " xyz " built rfl, plainRule,
    (marked "STR:BAD" "BAD" (by decide) (by decide) (by decide) _).1 plainRule⟩

end FieldRule

end FieldRules
