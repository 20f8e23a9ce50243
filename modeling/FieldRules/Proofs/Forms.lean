import FieldRules.Proofs.Codes

/-!
# Directives read in steps

What a directive asks for is read in three steps: its keyword is looked up and its parts are counted (`findKeyword`),
its parameters are read (`readForm`), and its code is filled in. Only the last step looks at the default code of the
rule (`readKeyword_eq`), which is that of its marker before it is that of the whole (`defaultCode_eq`).
-/

namespace FieldRules

/-! ## The default of a rule -/

namespace RuleType

variable {type : RuleType} {directives : List String} {code : String}

/-- The code that the first marker of the type carries. -/
def markerCode? (type : RuleType) (directives : List String) : Option String :=
  ((directives.map Directive.parse).find? fun directive => directive.name == type.marker).bind fun directive =>
    (directive.part? 1).filter fun code => !code.isEmpty

theorem markerCode?_ne_empty (h : type.markerCode? directives = some code) : code ≠ "" := by
  obtain ⟨directive, -, hc⟩ := Option.bind_eq_some_iff.1 h
  simpa using (Option.filter_eq_some_iff.1 hc).2

/-- The default of a rule is the code of its marker; without one it is that of the whole. -/
theorem defaultCode_eq (type : RuleType) (directives : List String) (fallback : String) :
    type.defaultCode directives fallback = (type.markerCode? directives).getD fallback := by
  unfold defaultCode markerCode?
  cases (directives.map Directive.parse).find? _ with
  | none => rfl
  | some directive =>
    simp only [Option.bind_some]
    cases directive.part? 1 with
    | none => rfl
    | some code => cases h : code.isEmpty <;> simp [Option.filter, h]

/-- A rule has a default when its marker carries a code or the whole has one. -/
theorem defaultCode_ne_empty_iff {fallback : String} : type.defaultCode directives fallback ≠ "" ↔
    (type.markerCode? directives).isSome ∨ fallback ≠ "" := by
  rw [defaultCode_eq]
  cases hc : type.markerCode? directives with
  | none => simp
  | some code => simp [markerCode?_ne_empty hc]

end RuleType

/-! ## Keyword, parameters, code -/

namespace RuleContext

/-- The context under another default code. -/
def withDefault (context : RuleContext) (code : String) : RuleContext :=
  { context with defaultCode := code }

variable {context : RuleContext} {directive : Directive} {keyword : Keyword}

/-- The keyword of a directive that has as many parts as the keyword takes. -/
def findKeyword (context : RuleContext) (directive : Directive) : Except RuleError Keyword :=
  match Keyword.ofName? directive.name with
  | none => .error (.unknownOperation context.field context.type directive.name)
  | some keyword =>
    if keyword.appliesTo context.type then
      (fun _ => keyword) <$> expectParts context.field keyword.minParts keyword.maxParts directive
    else .error (.unknownOperation context.field context.type directive.name)

theorem readDirective_eq : context.readDirective directive =
    if directive.name = context.type.marker then (fun _ => .marker) <$> expectParts context.field 1 2 directive
    else context.findKeyword directive >>= context.readKeyword directive := by
  unfold readDirective findKeyword
  split
  · rfl
  · cases Keyword.ofName? directive.name with
    | none => rfl
    | some keyword =>
      dsimp only
      split
      · cases expectParts context.field keyword.minParts keyword.maxParts directive <;> rfl
      · rfl

theorem readDirective_withDefault (code : String) : (context.withDefault code).readDirective directive =
    if directive.name = context.type.marker then (fun _ => .marker) <$> expectParts context.field 1 2 directive
    else context.findKeyword directive >>= (context.withDefault code).readKeyword directive :=
  readDirective_eq

/-- A directive named like a reference asks for nothing. -/
theorem readDirective_reference (named : directive.name = "RULE") :
    context.readDirective directive = .error (.unknownOperation context.field context.type "RULE") := by
  have noMarker : directive.name ≠ context.type.marker := by
    rw [named]
    cases context.type <;> decide
  have noKeyword : Keyword.ofName? directive.name = none := by
    rw [named]
    decide
  rw [readDirective_eq, if_neg noMarker, findKeyword, noKeyword, named]
  rfl

theorem expectParts_eq_ok_iff {field : String} {min max : Nat} :
    expectParts field min max directive = .ok () ↔ min ≤ directive.size ∧ directive.size ≤ max := by
  unfold expectParts
  split <;> simp_all

theorem findKeyword_eq_ok_iff : context.findKeyword directive = .ok keyword ↔
    directive.name = keyword.name ∧ keyword.appliesTo context.type = true ∧
      keyword.minParts ≤ directive.size ∧ directive.size ≤ keyword.maxParts := by
  rw [← Keyword.ofName?_eq_some_iff, findKeyword]
  cases Keyword.ofName? directive.name with
  | none => simp
  | some found =>
    dsimp only
    constructor
    · intro h
      split at h
      · next applies =>
        obtain ⟨_, counted, rfl⟩ := map_eq_ok_iff.1 h
        exact ⟨rfl, applies, expectParts_eq_ok_iff.1 counted⟩
      · cases h
    · rintro ⟨named, applies, counted⟩
      obtain rfl := Option.some.inj named
      rw [if_pos applies, expectParts_eq_ok_iff.2 counted]
      rfl

/-- A directive with a keyword is read as the keyword asks when the type knows it and it has as many parts as it
takes. -/
theorem readDirective_keyword {arguments : List String} (applies : keyword.appliesTo context.type = true)
    (counted : keyword.minParts ≤ arguments.length + 1 ∧ arguments.length + 1 ≤ keyword.maxParts) :
    context.readDirective ⟨keyword.name, arguments⟩ = context.readKeyword ⟨keyword.name, arguments⟩ keyword := by
  have found : context.findKeyword ⟨keyword.name, arguments⟩ = .ok keyword :=
    findKeyword_eq_ok_iff.2 ⟨rfl, applies, counted⟩
  rw [readDirective_eq, if_neg (keyword.name_ne_marker context.type), found]
  rfl

/-- What a directive with a keyword asks for, but for its code. -/
def readForm (context : RuleContext) (directive : Directive) (keyword : Keyword) :
    Except RuleError (String → Clause) :=
  let part := (directive.part? 1).getD ""
  let testForm (test : Except ParameterFault Test) :=
    (fun condition code => .check (.test condition code)) <$> orBadParameter context.field directive test
  match keyword with
  | .required => .ok .required
  | .stopAll => .ok fun _ => .stopAll
  | .stopIfFailed => .ok fun _ => .check .stopIfFailed
  | .trim => .ok fun _ => .trim
  | .exclusive =>
    (fun fields code => .check (.exclusive fields code)) <$>
      orBadParameter context.field directive (readExcluded context.field (directive.members 1))
  | .external =>
    (fun component code => .check (.external part component code)) <$>
      findComponent context.field part context.components
  | .oneOf => testForm (oneOfTest context.type (directive.members 1))
  | .length => testForm (.length <$> Bounds.read Numeral.readCount? directive)
  | .range => testForm (rangeTest context.type directive)
  | .pattern => testForm (.fullMatch <$> readPattern part)
  | .is => testForm (.equals <$> readTruth part)

theorem readForm_withDefault (code : String) :
    (context.withDefault code).readForm directive keyword = context.readForm directive keyword := by
  cases keyword <;> rfl

/-- **A directive is read in two steps**: first its parameters, which have nothing to do with any default, and then its
code. -/
theorem readKeyword_eq : context.readKeyword directive keyword =
    context.readForm directive keyword >>= fun form =>
      match keyword.codeIndex with
      | none => .ok (form "")
      | some index => form <$> codeAt context.field context.defaultCode index directive := by
  cases keyword with
  | required | stopAll | stopIfFailed | trim => rfl
  | exclusive =>
    simp only [readKeyword, readForm]
    cases orBadParameter context.field directive (readExcluded context.field (directive.members 1)) <;> rfl
  | external =>
    simp only [readKeyword, readForm]
    cases findComponent context.field ((directive.part? 1).getD "") context.components <;> rfl
  | oneOf | length | range | pattern | is =>
    simp only [readKeyword, readForm, testClause]
    cases orBadParameter context.field directive _ <;> rfl

end RuleContext

end FieldRules
