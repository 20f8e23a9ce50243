import FieldRules.Proofs.Forms

/-!
# Rule sets rule by rule

A rule set is built one rule after the other, and nothing passes from a rule to the next: what comes of a rule in a set
is what comes of the set that has no other rule (`Blueprint.only`). So a set is refused with the error of the first
rule that cannot be built alone, and else it is the rules built alone, in their order (`build_ruleWise`). An error in
a rule names the field of the rule, whichever step of reading its directives raises it (`Names`).
-/

namespace FieldRules

section
variable {ε α β : Type}

/-- Where a list is cut before a member: before its first one, or later and after it. -/
theorem exists_cut_cons_iff {p q : α → Prop} {x : α} {xs : List α} :
    (∃ before y after, x :: xs = before ++ y :: after ∧ (∀ z ∈ before, p z) ∧ q y) ↔
      q x ∨ p x ∧ ∃ before y after, xs = before ++ y :: after ∧ (∀ z ∈ before, p z) ∧ q y := by
  constructor
  · rintro ⟨before, y, after, cut, all, here⟩
    rcases List.cons_eq_append_iff.1 cut with ⟨rfl, same⟩ | ⟨rest, rfl, rfl⟩
    · obtain ⟨rfl, rfl⟩ := List.cons.inj same
      exact Or.inl here
    · obtain ⟨first, all⟩ := List.forall_mem_cons.1 all
      exact Or.inr ⟨first, rest, y, after, rfl, all, here⟩
  · rintro (here | ⟨first, before, y, after, rfl, all, here⟩)
    · exact ⟨[], x, xs, rfl, by simp, here⟩
    · exact ⟨x :: before, y, after, rfl, List.forall_mem_cons.2 ⟨first, all⟩, here⟩

/-- Going through a list fails with the error of the first member that fails. -/
theorem mapM_eq_error_iff {f : α → Except ε β} {xs : List α} {error : ε} :
    xs.mapM f = .error error ↔
      ∃ before x after, xs = before ++ x :: after ∧ (∀ y ∈ before, ∃ b, f y = .ok b) ∧ f x = .error error := by
  induction xs with
  | nil => simp [pure, Except.pure]
  | cons x xs ih =>
    rw [exists_cut_cons_iff, ← ih, List.mapM_cons]
    cases hx : f x with
    | error first => simp [bind, Except.bind]
    | ok b => cases xs.mapM f <;> simp [bind, Except.bind, pure, Except.pure]

theorem map_eq_error_iff {x : Except ε α} {f : α → β} {error : ε} : (f <$> x) = .error error ↔ x = .error error := by
  cases x <;> simp [Functor.map, Except.map]

end

/-! ## The field that an error names -/

/-- Whatever error the result is, it names the field. -/
def Names {α : Type} (field : String) (result : Except RuleError α) : Prop :=
  ∀ error, result = .error error → error.field? = some field

namespace Names

variable {α β : Type} {field : String}

theorem ok (a : α) : Names field (.ok a) := by
  intro error h
  cases h

theorem error {error : RuleError} (h : error.field? = some field) :
    Names field (.error error : Except RuleError α) := by
  intro other same
  cases same
  exact h

theorem bind {x : Except RuleError α} {f : α → Except RuleError β} (h : Names field x) (next : ∀ a, Names field (f a)) :
    Names field (x >>= f) := by
  cases x with
  | error error => exact .error (h error rfl)
  | ok a => exact next a

theorem map {x : Except RuleError α} {f : α → β} (h : Names field x) : Names field (f <$> x) := by
  cases x with
  | error error => exact .error (h error rfl)
  | ok a => exact .ok (f a)

theorem mapM {f : α → Except RuleError β} {xs : List α} (each : ∀ x, Names field (f x)) : Names field (xs.mapM f) := by
  intro error h
  obtain ⟨-, x, -, -, -, failed⟩ := mapM_eq_error_iff.1 h
  exact each x error failed

end Names

namespace RuleContext

variable {context : RuleContext} {directive : Directive}

theorem names_expectParts {field : String} {min max : Nat} : Names field (expectParts field min max directive) := by
  unfold expectParts
  split
  · exact .ok ()
  · exact .error rfl

theorem names_codeAt {field defaultCode : String} {index : Nat} :
    Names field (codeAt field defaultCode index directive) := by
  unfold codeAt
  split
  · exact .ok _
  · exact .error rfl

theorem names_orBadParameter {α : Type} {field : String} {result : Except ParameterFault α} :
    Names field (orBadParameter field directive result) := by
  cases result with
  | error fault => exact .error rfl
  | ok value => exact .ok value

theorem names_findComponent {field name : String} {components : Option ComponentLookup} :
    Names field (findComponent field name components) := by
  unfold findComponent
  split
  · exact .error rfl
  · split
    · exact .error rfl
    · exact .ok _

theorem names_readForm {keyword : Keyword} : Names context.field (context.readForm directive keyword) := by
  cases keyword with
  | required | stopAll | stopIfFailed | trim => exact .ok _
  | external => exact names_findComponent.map
  | exclusive | oneOf | length | range | pattern | is => exact names_orBadParameter.map

theorem names_readKeyword {keyword : Keyword} : Names context.field (context.readKeyword directive keyword) := by
  rw [readKeyword_eq]
  refine names_readForm.bind fun form => ?_
  cases keyword.codeIndex with
  | none => exact .ok _
  | some index => exact names_codeAt.map

theorem names_findKeyword : Names context.field (context.findKeyword directive) := by
  unfold findKeyword
  split
  · exact .error rfl
  · split
    · exact names_expectParts.map
    · exact .error rfl

theorem names_readDirective : Names context.field (context.readDirective directive) := by
  rw [readDirective_eq]
  split
  · exact names_expectParts.map
  · exact names_findKeyword.bind fun keyword => names_readKeyword

end RuleContext

theorem FieldRule.names_build {type : RuleType} {field : String} {directives : List String} {defaultCode : String}
    {components : Option ComponentLookup} : Names field (build type field directives defaultCode components) :=
  Names.bind (.mapM fun _ => RuleContext.names_readDirective) fun clauses => .ok (ofClauses _ clauses)

namespace Blueprint

variable {blueprint : Blueprint} {tokens : List String} {error : RuleError}

theorem names_resolveDirectives {registry : Option RuleRegistry} {field first : String} {rest : List String} :
    Names field (resolveDirectives registry (field :: first :: rest)) := by
  rw [resolveDirectives]
  split
  · exact .ok _
  · split
    · exact .error rfl
    · split
      · exact .error rfl
      · exact .ok _

/-- **An error in a rule names its first token**, and it is there in every rule that has one. -/
theorem field_of_buildRule_error (h : blueprint.buildRule tokens = .error error) :
    error.field? = tokens.head? ∧ error ≠ .noRules := by
  match tokens with
  | [] | [_] =>
    cases h
    exact ⟨rfl, by simp⟩
  | field :: first :: rest =>
    have named : Names field (blueprint.buildRule (field :: first :: rest)) := by
      refine Names.bind names_resolveDirectives fun directives => ?_
      split
      · exact .error rfl
      · exact FieldRule.names_build
    refine ⟨named error h, ?_⟩
    rintro rfl
    cases named .noRules h

/-! ## Rules alone -/

/-- The rule set with a single rule. -/
def only (blueprint : Blueprint) (tokens : List String) : Blueprint :=
  { blueprint with rules := [tokens] }

variable {rule : FieldRule} {engine : Engine}

theorem build_only (tokens : List String) : (blueprint.only tokens).build =
    (fun rule => ⟨blueprint.name, [rule], codesOf blueprint.defaultCode [rule]⟩) <$> blueprint.buildRule tokens := by
  have alone : (blueprint.only tokens).build = [tokens].mapM blueprint.buildRule >>= fun rules =>
      .ok ⟨blueprint.name, rules, codesOf blueprint.defaultCode rules⟩ := rfl
  rw [alone, List.mapM_cons, List.mapM_nil]
  cases blueprint.buildRule tokens <;> rfl

theorem build_only_eq_error_iff : (blueprint.only tokens).build = .error error ↔
    blueprint.buildRule tokens = .error error := by
  rw [build_only, map_eq_error_iff]

theorem build_only_succeeds_iff : (∃ engine, (blueprint.only tokens).build = .ok engine) ↔
    ∃ rule, blueprint.buildRule tokens = .ok rule := by
  simp only [build_only, map_eq_ok_iff]
  constructor
  · rintro ⟨_, rule, built, -⟩
    exact ⟨rule, built⟩
  · rintro ⟨rule, built⟩
    exact ⟨_, rule, built, rfl⟩

/-- **A rule set is refused** for having no rules, or with the error of the first rule that cannot be built. -/
theorem build_eq_error_iff : blueprint.build = .error error ↔
    blueprint.rules = [] ∧ error = .noRules ∨
      ∃ before tokens after, blueprint.rules = before ++ tokens :: after ∧
        (∀ earlier ∈ before, ∃ rule, blueprint.buildRule earlier = .ok rule) ∧
        blueprint.buildRule tokens = .error error := by
  rw [← mapM_eq_error_iff, build]
  cases hr : blueprint.rules with
  | nil => simp [pure, Except.pure, eq_comm]
  | cons tokens rest =>
    simp only [List.isEmpty_cons, Bool.false_eq_true, if_false, reduceCtorEq, false_and, false_or]
    cases (tokens :: rest).mapM blueprint.buildRule <;> simp [bind, Except.bind]

/-- A rule that cannot be built fails every set that it is in. -/
theorem build_fails_of_mem (ht : tokens ∈ blueprint.rules) (failed : blueprint.buildRule tokens = .error error) :
    ∃ error, blueprint.build = .error error := by
  cases built : blueprint.build with
  | error error => exact ⟨error, rfl⟩
  | ok engine =>
    obtain ⟨rule, -, hb⟩ := exists_rule built ht
    rw [failed] at hb
    cases hb

/-- The first token of a rule that is built is its field. -/
theorem head?_of_buildRule (h : blueprint.buildRule tokens = .ok rule) : tokens.head? = some rule.field := by
  match tokens with
  | [] | [_] => cases h
  | field :: first :: rest => rw [field_of_buildRule h, fieldOf, List.headD_cons, List.head?_cons]

/-- A rule set that is built is its rules built alone, in their order. -/
theorem parts_of_build (built : blueprint.build = .ok engine) : ∃ parts : List Engine,
    blueprint.rules.map (fun tokens => (blueprint.only tokens).build) = parts.map .ok ∧
      parts.map Engine.rules = engine.rules.map ([·]) ∧
      ∀ code, code ∈ engine.codes ↔ ∃ part ∈ parts, code ∈ part.codes := by
  obtain ⟨nonempty, chain, whole⟩ := build_eq_ok_iff.1 built
  let part (rule : FieldRule) : Engine := ⟨blueprint.name, [rule], codesOf blueprint.defaultCode [rule]⟩
  refine ⟨engine.rules.map part, ?_, by simp [part], fun code => ?_⟩
  · have each : ∀ tokens ∈ blueprint.rules, ∀ rule, blueprint.buildRule tokens = .ok rule →
        (blueprint.only tokens).build = .ok (part rule) :=
      fun tokens _ rule h => (build_only tokens).trans (map_eq_ok_iff.2 ⟨rule, h, rfl⟩)
    rw [← map_eq_ok_map chain each, List.map_map]
    rfl
  · have own (rule : FieldRule) : code ∈ (part rule).codes ↔
        code = blueprint.defaultCode ∧ blueprint.defaultCode ≠ "" ∨ code ∈ rule.codes := by
      simp [part, mem_codesOf]
    rw [whole, mem_codesOf]
    constructor
    · rintro (default | ⟨rule, hr, hc⟩)
      · -- The default is in use by any of the rules, and there is one.
        obtain ⟨tokens, ht⟩ := List.exists_mem_of_ne_nil _ nonempty
        obtain ⟨rule, hr, -⟩ := exists_rule built ht
        exact ⟨part rule, List.mem_map_of_mem hr, (own rule).2 (Or.inl default)⟩
      · exact ⟨part rule, List.mem_map_of_mem hr, (own rule).2 (Or.inr hc)⟩
    · rintro ⟨_, hp, hc⟩
      obtain ⟨rule, hr, rfl⟩ := List.mem_map.1 hp
      exact ((own rule).1 hc).imp id fun hc => ⟨rule, hr, hc⟩

theorem fields_of_build (built : blueprint.build = .ok engine) :
    engine.fields.map some = blueprint.rules.map List.head? := by
  obtain ⟨-, chain, -⟩ := build_eq_ok_iff.1 built
  have heads : (blueprint.rules.map List.head?).map (.ok : _ → Except RuleError (Option String)) =
      (engine.rules.map fun rule => some rule.field).map .ok :=
    map_eq_ok_map chain fun tokens _ rule h => congrArg _ (head?_of_buildRule h)
  rw [Engine.fields, List.map_map]
  exact ((List.map_inj_right fun _ _ => Except.ok.inj).1 heads).symm

/-- **A rule set is built rule by rule.** It is refused for having no rules exactly when it has none. Else it is refused
exactly when one of its rules is refused alone, and then with the error of the first such rule; an error of a rule names
the first token of the rule, if there is one. When it is built, its fields are the first tokens in their order, its
chain is made up of the rules built alone, one after the other, and the codes in use are those in use by any of
them. -/
theorem build_ruleWise (blueprint : Blueprint) :
    (blueprint.build = .error .noRules ↔ blueprint.rules = []) ∧
    (blueprint.rules ≠ [] →
      ((∃ error, blueprint.build = .error error) ↔
        ∃ tokens ∈ blueprint.rules, ∃ error, (blueprint.only tokens).build = .error error) ∧
      ∀ error, blueprint.build = .error error ↔
        ∃ before tokens after, blueprint.rules = before ++ tokens :: after ∧
          (∀ earlier ∈ before, ∃ engine, (blueprint.only earlier).build = .ok engine) ∧
          (blueprint.only tokens).build = .error error) ∧
    (∀ tokens error, (blueprint.only tokens).build = .error error → error.field? = tokens.head?) ∧
    ∀ engine, blueprint.build = .ok engine →
      engine.fields.map some = blueprint.rules.map List.head? ∧
      ∃ parts : List Engine, blueprint.rules.map (fun tokens => (blueprint.only tokens).build) = parts.map .ok ∧
        parts.map Engine.rules = engine.rules.map ([·]) ∧
        ∀ code, code ∈ engine.codes ↔ ∃ part ∈ parts, code ∈ part.codes := by
  refine ⟨?_, fun nonempty => ⟨?_, fun error => ?_⟩, fun tokens error failed => ?_, fun engine built => ?_⟩
  · rw [build_eq_error_iff]
    constructor
    · rintro (⟨empty, -⟩ | ⟨before, tokens, after, -, -, failed⟩)
      · exact empty
      · exact absurd rfl (field_of_buildRule_error failed).2
    · exact fun empty => Or.inl ⟨empty, rfl⟩
  · simp only [build_only_eq_error_iff]
    constructor
    · rintro ⟨error, failed⟩
      rcases build_eq_error_iff.1 failed with ⟨empty, -⟩ | ⟨before, tokens, after, cut, -, failed⟩
      · exact absurd empty nonempty
      · exact ⟨tokens, by simp [cut], error, failed⟩
    · rintro ⟨tokens, ht, error, failed⟩
      exact build_fails_of_mem ht failed
  · simp only [build_only_eq_error_iff, build_only_succeeds_iff]
    rw [build_eq_error_iff]
    exact or_iff_right fun ⟨empty, _⟩ => nonempty empty
  · exact (field_of_buildRule_error (build_only_eq_error_iff.1 failed)).1
  · exact ⟨fields_of_build built, parts_of_build built⟩

/-- Two rules that cannot be built, of which the later one is faulty in its first directive, behind one that can. -/
def faultyRules : Blueprint where
  rules := [["a", "INT", "REQ:NO_A"], ["b", "STR", "TRIM", "LEN:1"], ["c"]]

/-- Rules with codes of their own and the default of the whole. -/
def soundRules : Blueprint where
  rules := [["a", "INT", "REQ:NO_A"], ["b", "STR", "IN:x,y"]]
  defaultCode := "BAD"

def soundEngine : Engine :=
  soundRules.build.toOption.getD ⟨"", [], .empty⟩

theorem build_ruleWise_faulty :
    faultyRules.rules ≠ [] ∧ (faultyRules.only ["c"]).build = .error (.ruleTooShort ["c"]) ∧
      faultyRules.build = .error (.arity "b" "LEN" 3 4 2) ∧
      (RuleError.arity "b" "LEN" 3 4 2).field? = ["b", "STR", "TRIM", "LEN:1"].head? ∧
      soundRules.build = .ok soundEngine ∧ soundEngine.fields.map some = [some "a", some "b"] ∧
      ∃ parts : List Engine, soundRules.rules.map (fun tokens => (soundRules.only tokens).build) = parts.map .ok ∧
        parts.map Engine.rules = soundEngine.rules.map ([·]) := by
  have nonempty : faultyRules.rules ≠ [] := by simp [faultyRules]
  obtain ⟨-, refused, named, -⟩ := build_ruleWise faultyRules
  have alone : (faultyRules.only ["b", "STR", "TRIM", "LEN:1"]).build = .error (.arity "b" "LEN" 3 4 2) := rfl
  have first : faultyRules.build = .error (.arity "b" "LEN" 3 4 2) := by
    refine ((refused nonempty).2 _).2 ⟨[["a", "INT", "REQ:NO_A"]], _, [["c"]], rfl, ?_, alone⟩
    exact List.forall_mem_singleton.2 ⟨_, rfl⟩
  have built : soundRules.build = .ok soundEngine := rfl
  obtain ⟨fields, parts, alone', chain, -⟩ := (build_ruleWise soundRules).2.2.2 soundEngine built
  exact ⟨nonempty, rfl, first, named _ _ alone, built, fields, parts, alone', chain⟩

end Blueprint

end FieldRules
