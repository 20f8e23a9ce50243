import FieldRules.Proofs.Codes

/-!
# Rules bound to another field

A rule can be made to read another path than that of its own field. The field goes into building as well: a rule may
not exclude itself, and errors name the field. But where the same directives can be read for two fields, they ask for
the same (`readDirective_withField`), and so the two rules differ in their field alone (`build_rebound`). What is left
is the path that is read, and a rule that is given a path judges as the rule that is bound to it
(`validate_of_override`).
-/

namespace FieldRules

namespace RuleContext

/-- The context for another field. -/
def withField (context : RuleContext) (field : String) : RuleContext :=
  { context with field }

variable {context : RuleContext} {directive : Directive} {keyword : Keyword} {field : String} {clause clause' : Clause}

/-- A component that is found for two fields is the same one. -/
theorem findComponent_withField {name field' : String} {components : Option ComponentLookup}
    {component component' : Component} (h : findComponent field name components = .ok component)
    (h' : findComponent field' name components = .ok component') : component' = component := by
  cases components with
  | none => cases h
  | some lookup =>
    simp only [findComponent] at h h'
    cases found : lookup name with
    | none =>
      rw [found] at h
      cases h
    | some known =>
      rw [found] at h h'
      exact (Except.ok.inj h').symm.trans (Except.ok.inj h)

/-- A keyword that can be read for two fields asks for the same. -/
theorem readKeyword_withField (h : context.readKeyword directive keyword = .ok clause)
    (h' : (context.withField field).readKeyword directive keyword = .ok clause') : clause' = clause := by
  cases keyword with
  | required =>
    obtain ⟨code, hc, rfl⟩ := map_eq_ok_iff.1 h
    obtain ⟨code', hc', rfl⟩ := map_eq_ok_iff.1 h'
    have same : some code' = some code := (codeAt_eq_ok_iff.1 hc').symm.trans (codeAt_eq_ok_iff.1 hc)
    rw [Option.some.inj same]
  | stopAll | stopIfFailed | trim =>
    cases h
    cases h'
    rfl
  | exclusive =>
    simp only [readKeyword, bind_eq_ok_iff, orBadParameter_eq_ok_iff, readExcluded_eq_ok_iff, codeAt_eq_ok_iff,
      Except.ok.injEq] at h h'
    obtain ⟨_, ⟨-, -, rfl⟩, code, hc, rfl⟩ := h
    obtain ⟨_, ⟨-, -, rfl⟩, code', hc', rfl⟩ := h'
    have same : some code' = some code := hc'.symm.trans hc
    rw [Option.some.inj same]
  | external =>
    simp only [readKeyword, bind_eq_ok_iff, codeAt_eq_ok_iff, Except.ok.injEq] at h h'
    obtain ⟨component, found, code, hc, rfl⟩ := h
    obtain ⟨component', found', code', hc', rfl⟩ := h'
    have same : some code' = some code := hc'.symm.trans hc
    rw [Option.some.inj same, findComponent_withField found found']
  | oneOf | length | range | pattern | is =>
    obtain ⟨condition, code, ht, hc, rfl⟩ := testClause_eq_ok_iff.1 h
    obtain ⟨condition', code', ht', hc', rfl⟩ := testClause_eq_ok_iff.1 h'
    have same : some code' = some code := hc'.symm.trans hc
    have test : Except.ok condition' = Except.ok (ε := ParameterFault) condition := ht'.symm.trans ht
    rw [Option.some.inj same, Except.ok.inj test]

/-- **A directive that can be read for two fields asks for the same.** -/
theorem readDirective_withField (h : context.readDirective directive = .ok clause)
    (h' : (context.withField field).readDirective directive = .ok clause') : clause' = clause := by
  rcases readDirective_cases h with ⟨marker, rfl⟩ | ⟨keyword, named, read⟩
  · rcases readDirective_cases h' with ⟨-, rfl⟩ | ⟨keyword, named, -⟩
    · rfl
    · exact absurd (named.symm.trans marker) (keyword.name_ne_marker _)
  · rcases readDirective_cases h' with ⟨marker, -⟩ | ⟨keyword', named', read'⟩
    · exact absurd (named.symm.trans marker) (keyword.name_ne_marker _)
    · have same : some keyword' = some keyword := by
        rw [← Keyword.ofName?_name keyword', ← named', named, Keyword.ofName?_name]
      rw [Option.some.inj same] at read'
      exact readKeyword_withField read read'

end RuleContext

namespace FieldRule

variable {type : RuleType} {field field' defaultCode : String} {directives : List String}
  {components : Option ComponentLookup} {rule rule' : FieldRule}

/-- **Rules built of the same directives differ in their field alone.** -/
theorem build_rebound (built : build type field directives defaultCode components = .ok rule)
    (built' : build type field' directives defaultCode components = .ok rule') :
    rule' = { rule with field := field' } := by
  obtain ⟨clauses, read, rfl⟩ := build_eq_ok_iff.1 built
  obtain ⟨clauses', read', rfl⟩ := build_eq_ok_iff.1 built'
  have same : clauses'.map Except.ok = clauses.map (Except.ok (ε := RuleError)) := by
    rw [← read, ← read']
    refine List.map_congr_left fun text ht => ?_
    obtain ⟨clause, -, h⟩ := exists_ok_of_mem read ht
    obtain ⟨clause', -, h'⟩ := exists_ok_of_mem read' ht
    rw [h, h', RuleContext.readDirective_withField h h']
  obtain rfl := List.map_inj_right (fun _ _ => Except.ok.inj) |>.1 same
  rfl

/-- **A rule that is given a path judges as the rule that is bound to it.** Where the same directives make up rules for
two fields, what the rule for the one makes of a payload when it is told to read the other is what the rule for the
other makes of it: the same verdict with its codes in their order, or the same error with the same path in it, and the
same calls of components. -/
theorem validate_of_override (built : build type field directives defaultCode components = .ok rule)
    (built' : build type field' directives defaultCode components = .ok rule') (subject : Json)
    (known : List String) :
    rule.validate { subject, known, override := some field' } = rule'.validate { subject, known } := by
  have bound : rule'.field = field' := by
    obtain ⟨_, -, rfl⟩ := build_eq_ok_iff.1 built'
    rfl
  obtain rfl := build_rebound built built'
  -- the path is read before anything else, and only it is what the two runs take from field and override
  have path : Situation.path { subject, known, override := some field' } rule.field =
      Situation.path { subject, known } field' := rfl
  simp only [validate, path]
  rfl

/-- Directives of a text with an exclusion and a component. -/
def phoneDirectives : List String :=
  ["STR:BAD", "TRIM", "REQ:NEED", "MEX:mail:BOTH", "EXT:directory", "LEN:3:9"]

/-- A component that does not answer for texts with more than six characters, and accepts none that are shorter. -/
def phoneComponents : ComponentLookup := fun _ =>
  some fun value => if (value.length?.getD 0) > 6 then .error "closed" else .ok false

def phoneRule (field : String) : FieldRule :=
  (build .str field phoneDirectives "" (some phoneComponents)).toOption.getD
    ⟨"", .str, none, false, false, [], .empty⟩

def phoneBook (first second : String) : Json :=
  .obj [("home", .str first), ("office", .str second)]

theorem validate_of_override_phone :
    build .str "home" phoneDirectives "" (some phoneComponents) = .ok (phoneRule "home") ∧
      build .str "office" phoneDirectives "" (some phoneComponents) = .ok (phoneRule "office") ∧
      (phoneRule "home").validate ⟨phoneBook "" " 42 ", ["mail"], some "office"⟩ =
        ⟨.ok { codes := ["BOTH", "BAD"] }, [⟨"directory", .str "42"⟩]⟩ ∧
      (phoneRule "home").validate ⟨phoneBook "42" " ", [], some "office"⟩ =
        ⟨.ok { unset := true, codes := ["NEED"] }, []⟩ ∧
      (phoneRule "home").validate ⟨phoneBook "42" "1234567", [], some "office"⟩ =
        ⟨.error (.external "office" "directory" "closed"), [⟨"directory", .str "1234567"⟩]⟩ := by
  have home : build .str "home" phoneDirectives "" (some phoneComponents) = .ok (phoneRule "home") := rfl
  have office : build .str "office" phoneDirectives "" (some phoneComponents) = .ok (phoneRule "office") := rfl
  refine ⟨home, office, ?_, ?_, ?_⟩
  · exact (validate_of_override home office (phoneBook "" " 42 ") ["mail"]).trans rfl
  · exact (validate_of_override home office (phoneBook "42" " ") []).trans rfl
  · exact (validate_of_override home office (phoneBook "42" "1234567") []).trans rfl

end FieldRule

end FieldRules
