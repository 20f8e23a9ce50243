import FieldRules.Proofs.Alike
import FieldRules.Proofs.Forms

/-!
# The default code is a label

Rules are built under a default code, which stands wherever a directive names none. Two default codes that are not empty
give chains that differ in labels only (`FieldRule.Relabelled`): the same directives are refused, and whether a check
fails never depends on the code that it would add. The empty text is no code, so a rule set that is built without a
default names a code in every directive, and a default given later is used by none of them (`build_of_no_default`).
-/

namespace FieldRules

/-! ## Results that agree -/

/-- The same error, or values that are related. -/
inductive Agree {ε α β : Type} (related : α → β → Prop) : Except ε α → Except ε β → Prop
  | error (error : ε) : Agree related (.error error) (.error error)
  | ok {a : α} {b : β} (h : related a b) : Agree related (.ok a) (.ok b)

namespace Agree

variable {ε α β γ δ : Type} {related : α → β → Prop} {related' : γ → δ → Prop}

theorem refl (x : Except ε α) : Agree Eq x x := by
  cases x with
  | error error => exact .error error
  | ok a => exact .ok rfl

theorem bind {x : Except ε α} {y : Except ε β} {f : α → Except ε γ} {g : β → Except ε δ} (h : Agree related x y)
    (next : ∀ a b, related a b → Agree related' (f a) (g b)) : Agree related' (x >>= f) (y >>= g) := by
  cases h with
  | error error => exact .error error
  | ok h => exact next _ _ h

theorem map {x : Except ε α} {y : Except ε β} {f : α → γ} {g : β → δ} (h : Agree related x y)
    (next : ∀ a b, related a b → related' (f a) (g b)) : Agree related' (f <$> x) (g <$> y) := by
  cases h with
  | error error => exact .error error
  | ok h => exact .ok (next _ _ h)

/-- Results agree along a list where they agree at each member. -/
theorem mapM {f : γ → Except ε α} {g : γ → Except ε β} {xs : List γ} (each : ∀ x, Agree related (f x) (g x)) :
    Agree (List.Forall₂ related) (xs.mapM f) (xs.mapM g) := by
  induction xs with
  | nil => exact .ok .nil
  | cons x xs ih =>
    rw [List.mapM_cons, List.mapM_cons]
    exact (each x).bind fun _ _ first => ih.bind fun _ _ later => .ok (.cons first later)

end Agree

/-- Where the members of a list succeed once more, with related results, the results are related in their order. -/
theorem exists_map_eq_ok_forall₂ {ε α β γ : Type} {related : β → γ → Prop} {f : α → Except ε β} {f' : α → Except ε γ}
    {xs : List α} {ys : List β} (h : xs.map f = ys.map .ok)
    (each : ∀ x ∈ xs, ∀ y, f x = .ok y → ∃ y', f' x = .ok y' ∧ related y y') :
    ∃ ys', xs.map f' = ys'.map .ok ∧ List.Forall₂ related ys ys' := by
  induction xs generalizing ys with
  | nil => cases ys with
    | nil => exact ⟨[], rfl, .nil⟩
    | cons y ys => cases h
  | cons x xs ih => cases ys with
    | nil => cases h
    | cons y ys =>
      obtain ⟨hy, hys⟩ := List.cons.inj h
      obtain ⟨y', hy', first⟩ := each x (List.mem_cons_self ..) y hy
      obtain ⟨ys', hys', later⟩ := ih hys fun x hx => each x (List.mem_cons_of_mem _ hx)
      exact ⟨y' :: ys', by rw [List.map_cons, List.map_cons, hy', hys'], .cons first later⟩

/-! ## Relabelling -/

/-- The same check, whatever code it adds. -/
inductive Check.Relabelled : Check → Check → Prop
  | stopIfFailed : Relabelled .stopIfFailed .stopIfFailed
  | exclusive (fields : List String) (code code' : String) :
    Relabelled (.exclusive fields code) (.exclusive fields code')
  | external (name : String) (component : Component) (code code' : String) :
    Relabelled (.external name component code) (.external name component code')
  | test (condition : Test) (code code' : String) : Relabelled (.test condition code) (.test condition code')

/-- The same clause, whatever code it adds. -/
inductive Clause.Relabelled : Clause → Clause → Prop
  | marker : Relabelled .marker .marker
  | required (code code' : String) : Relabelled (.required code) (.required code')
  | stopAll : Relabelled .stopAll .stopAll
  | trim : Relabelled .trim .trim
  | check {step step' : Check} (h : step.Relabelled step') : Relabelled (.check step) (.check step')

/-- The same rule, whatever codes it adds. -/
structure FieldRule.Relabelled (rule rule' : FieldRule) : Prop where
  field : rule'.field = rule.field
  type : rule'.type = rule.type
  required : rule'.required.isSome = rule.required.isSome
  stopAll : rule'.stopAll = rule.stopAll
  trim : rule'.trim = rule.trim
  checks : List.Forall₂ Check.Relabelled rule.checks rule'.checks

namespace Clause

variable {clauses clauses' : List Clause}

theorem any_relabelled {p : Clause → Bool} (same : ∀ clause clause', Relabelled clause clause' → p clause' = p clause)
    (h : List.Forall₂ Relabelled clauses clauses') : clauses'.any p = clauses.any p := by
  induction h with
  | nil => rfl
  | cons first _ ih => rw [List.any_cons, List.any_cons, same _ _ first, ih]

theorem checks_relabelled (h : List.Forall₂ Relabelled clauses clauses') :
    List.Forall₂ Check.Relabelled (clauses.filterMap check?) (clauses'.filterMap check?) := by
  induction h with
  | nil => exact .nil
  | cons first _ ih =>
    cases first with
    | check step => exact .cons step ih
    | _ => exact ih

theorem isSome_required_relabelled (h : List.Forall₂ Relabelled clauses clauses') :
    (clauses'.filterMap required?).getLast?.isSome = (clauses.filterMap required?).getLast?.isSome := by
  have any : ∀ clauses : List Clause, (clauses.filterMap required?).getLast?.isSome =
      clauses.any fun clause => clause.required?.isSome := by
    intro clauses
    rw [Bool.eq_iff_iff, List.getLast?_isSome, List.any_eq_true, Ne, List.filterMap_eq_nil_iff]
    simp [Option.isSome_iff_ne_none]
  rw [any, any]
  refine any_relabelled (fun clause clause' same => ?_) h
  cases same <;> rfl

/-- Clauses with other codes make up the same rule with other codes. -/
theorem ofClauses_relabelled {context context' : RuleContext} (field : context'.field = context.field)
    (type : context'.type = context.type) (h : List.Forall₂ Relabelled clauses clauses') :
    (FieldRule.ofClauses context clauses).Relabelled (FieldRule.ofClauses context' clauses') where
  field := field
  type := type
  required := isSome_required_relabelled h
  stopAll := any_relabelled (fun _ _ same => by cases same <;> rfl) h
  trim := any_relabelled (fun _ _ same => by cases same <;> rfl) h
  checks := checks_relabelled h

end Clause

/-! ## Relabelled rules judge alike -/

theorem Verdict.isEmpty_addCode (code : String) (codes : List String) : (addCode code codes).isEmpty = false := by
  unfold addCode
  split
  · next there => cases codes with
    | nil => cases there
    | cons => rfl
  · simp

/-- Codes added on the same condition leave both lists empty or neither. -/
theorem Verdict.isEmpty_ite_addCode {codes codes' : List String} (same : codes'.isEmpty = codes.isEmpty)
    (passes : Bool) (code code' : String) :
    (if passes then codes' else addCode code' codes').isEmpty =
      (if passes then codes else addCode code codes).isEmpty := by
  cases passes with
  | true => exact same
  | false => simp [isEmpty_addCode]

/-- **Checks ask and fail alike** under other codes, from lists of codes that are both empty or both not. -/
theorem Check.runAll_relabelled {checks checks' : List Check} (h : List.Forall₂ Relabelled checks checks')
    (path : String) (known : List String) (value : Json) {codes codes' : List String}
    (same : codes'.isEmpty = codes.isEmpty) :
    (runAll path known value checks' codes').mapOk List.isEmpty =
      (runAll path known value checks codes).mapOk List.isEmpty := by
  induction h generalizing codes codes' with
  | nil => simp [runAll, Traced.mapOk, Traced.pure, Except.map, same]
  | cons first _ ih =>
    cases first with
    | stopIfFailed =>
      rw [runAll, runAll, same]
      split
      · exact ih same
      · simp [Traced.mapOk, Traced.pure, Except.map, same]
    | exclusive fields code code' =>
      rw [runAll, runAll]
      refine ih ?_
      cases fields.any known.contains with
      | true => simp [Verdict.isEmpty_addCode]
      | false => exact same
    | external name component code code' =>
      rw [runAll, runAll]
      cases component value with
      | error reason => rfl
      | ok accepted =>
        rw [Traced.mapOk_after, Traced.mapOk_after, ih (Verdict.isEmpty_ite_addCode same accepted code code')]
    | test condition code code' =>
      rw [runAll, runAll]
      exact ih (Verdict.isEmpty_ite_addCode same (condition.holds value) code code')

namespace FieldRule

variable {rule rule' : FieldRule}

theorem Relabelled.read (h : Relabelled rule rule') (path : String) (subject : Json) :
    rule'.read path subject = rule.read path subject := by
  rw [FieldRule.read, FieldRule.read, h.type, h.trim]

/-- Of the verdict on a value only its codes are to be seen. -/
theorem seen_judged (run : Traced (Except SubjectError (List String))) :
    (run.mapOk fun codes : List String => ({ codes } : Verdict)).mapOk (Verdict.seen List.isEmpty) =
      (run.mapOk List.isEmpty).mapOk fun empty => (false, empty) := by
  rw [Traced.mapOk_mapOk, Traced.mapOk_mapOk]
  rfl

/-- A rule with other codes looks alike to who sees only whether there are codes. -/
theorem Relabelled.alike (h : Relabelled rule rule') (subject : Json) :
    Alike List.isEmpty subject subject rule rule' where
  field := h.field
  stopAll := h.stopAll
  isSet := by rw [isSet, isSet, h.read, h.field]
  verdict known := by
    rw [validate, validate, h.read, h.field]
    cases rule.read _ subject with
    | error error => rfl
    | ok value? => cases value? with
      | none =>
        have isEmpty_toList (code? : Option String) : code?.toList.isEmpty = !code?.isSome := by
          cases code? <;> rfl
        have required : rule'.required.toList.isEmpty = rule.required.toList.isEmpty := by
          rw [isEmpty_toList, isEmpty_toList, h.required]
        simp [Traced.mapOk, Traced.pure, Except.map, unsetVerdict, Verdict.seen, required]
      | some value =>
        have checked : (Check.runAll rule.field known value rule'.checks []).mapOk List.isEmpty =
            (Check.runAll rule.field known value rule.checks []).mapOk List.isEmpty :=
          Check.runAll_relabelled h.checks rule.field known value rfl
        exact (seen_judged (Check.runAll ..)).trans ((congrArg _ checked).trans (seen_judged (Check.runAll ..)).symm)

end FieldRule

/-! ## Building under another default -/

theorem Directive.exists_code? (directive : Directive) (index : Nat) {default : String} (h : default ≠ "") :
    ∃ code, directive.code? index default = some code := by
  unfold code?
  cases directive.part? index with
  | none => simp [h]
  | some code => by_cases hc : code = "" <;> simp [h, hc]

theorem Directive.code?_of_no_default {directive : Directive} {index : Nat} {code : String}
    (h : directive.code? index "" = some code) (default : String) : directive.code? index default = some code := by
  unfold code? at h ⊢
  cases hp : directive.part? index with
  | none => simp [hp] at h
  | some own => by_cases hc : own = "" <;> simp_all

namespace RuleContext

variable {context : RuleContext} {directive : Directive} {keyword : Keyword} {form : String → Clause} {code : String}

/-! ### From one default to another -/

theorem relabelled_of_readForm (h : context.readForm directive keyword = .ok form) (code code' : String) :
    (form code).Relabelled (form code') := by
  cases keyword with
  | required => cases h; exact .required code code'
  | stopAll => cases h; exact .stopAll
  | stopIfFailed => cases h; exact .check .stopIfFailed
  | trim => cases h; exact .trim
  | exclusive =>
    obtain ⟨fields, -, rfl⟩ := map_eq_ok_iff.1 h
    exact .check (.exclusive fields code code')
  | external =>
    obtain ⟨component, -, rfl⟩ := map_eq_ok_iff.1 h
    exact .check (.external _ component code code')
  | oneOf | length | range | pattern | is =>
    obtain ⟨condition, -, rfl⟩ := map_eq_ok_iff.1 h
    exact .check (.test condition code code')

theorem codeAt_agree {field defaultCode defaultCode' : String} {index : Nat} (some : defaultCode ≠ "")
    (some' : defaultCode' ≠ "") : Agree (fun _ _ => True) (codeAt field defaultCode index directive)
      (codeAt field defaultCode' index directive) := by
  obtain ⟨code, hc⟩ := directive.exists_code? index some
  obtain ⟨code', hc'⟩ := directive.exists_code? index some'
  rw [codeAt_eq_ok_iff.2 hc, codeAt_eq_ok_iff.2 hc']
  exact .ok trivial

/-- **A directive is refused alike** under two default codes, and asks for the same but for its code. -/
theorem readKeyword_relabelled (some : context.defaultCode ≠ "") (some' : code ≠ "") (keyword : Keyword) :
    Agree Clause.Relabelled (context.readKeyword directive keyword)
      ((context.withDefault code).readKeyword directive keyword) := by
  rw [readKeyword_eq, readKeyword_eq, readForm_withDefault]
  cases hf : context.readForm directive keyword with
  | error error => exact .error error
  | ok form =>
    cases keyword.codeIndex with
    | none => exact .ok (relabelled_of_readForm hf "" "")
    | some index => exact (codeAt_agree some some').map fun own own' _ => relabelled_of_readForm hf own own'

theorem readDirective_relabelled (some : context.defaultCode ≠ "") (some' : code ≠ "") (directive : Directive) :
    Agree Clause.Relabelled (context.readDirective directive) ((context.withDefault code).readDirective directive) := by
  rw [readDirective_eq, readDirective_withDefault]
  split
  · exact (Agree.refl (expectParts context.field 1 2 directive)).map fun _ _ _ => .marker
  · refine (Agree.refl (context.findKeyword directive)).bind ?_
    rintro keyword _ rfl
    exact readKeyword_relabelled some some' keyword

/-! ### From no default to any -/

/-- **A directive that needs no default** asks for the same under any. -/
theorem readKeyword_of_no_default {clause : Clause}
    (h : (context.withDefault "").readKeyword directive keyword = .ok clause) (code : String) :
    (context.withDefault code).readKeyword directive keyword = .ok clause := by
  rw [readKeyword_eq, bind_eq_ok_iff] at h ⊢
  obtain ⟨form, hf, h⟩ := h
  refine ⟨form, hf, ?_⟩
  cases hi : keyword.codeIndex with
  | none => simpa only [hi] using h
  | some index =>
    rw [hi] at h
    obtain ⟨own, hc, rfl⟩ := map_eq_ok_iff.1 h
    exact map_eq_ok_iff.2 ⟨own, codeAt_eq_ok_iff.2 (Directive.code?_of_no_default (codeAt_eq_ok_iff.1 hc) code), rfl⟩

theorem readDirective_of_no_default {clause : Clause}
    (h : (context.withDefault "").readDirective directive = .ok clause) (code : String) :
    (context.withDefault code).readDirective directive = .ok clause := by
  rw [readDirective_withDefault] at h ⊢
  split at h
  · next marker =>
    rw [if_pos marker]
    exact h
  · next marker =>
    rw [if_neg marker]
    obtain ⟨keyword, hk, h⟩ := bind_eq_ok_iff.1 h
    exact bind_eq_ok_iff.2 ⟨keyword, hk, readKeyword_of_no_default h code⟩

end RuleContext

namespace FieldRule

variable {type : RuleType} {field : String} {directives : List String} {components : Option ComponentLookup}

/-- A rule is refused alike under two default codes, and built the same but for its codes. -/
theorem build_relabelled {code code' : String} (some : code ≠ "") (some' : code' ≠ "") :
    Agree Relabelled (build type field directives code components) (build type field directives code' components) := by
  have own : type.defaultCode directives code ≠ "" := RuleType.defaultCode_ne_empty_iff.2 (Or.inr some)
  have own' : type.defaultCode directives code' ≠ "" := RuleType.defaultCode_ne_empty_iff.2 (Or.inr some')
  refine Agree.bind (Agree.mapM fun text => RuleContext.readDirective_relabelled own own' (Directive.parse text)) ?_
  exact fun clauses clauses' h => .ok (Clause.ofClauses_relabelled rfl rfl h)

/-- A rule records a code besides, and is the same in all else. -/
structure Extends (code : String) (rule rule' : FieldRule) : Prop where
  same : rule' = { rule with codes := rule'.codes }
  keeps : ∀ x, x ∈ rule.codes → x ∈ rule'.codes
  adds : ∀ x, x ∈ rule'.codes → x ∈ rule.codes ∨ x = code ∧ code ≠ ""

theorem Extends.refl (code : String) (rule : FieldRule) : rule.Extends code rule where
  same := rfl
  keeps _ hx := hx
  adds _ hx := Or.inl hx

theorem extends_ofClauses (context : RuleContext) (clauses : List Clause) (code : String) :
    (ofClauses (context.withDefault "") clauses).Extends code (ofClauses (context.withDefault code) clauses) where
  same := rfl
  keeps x hx := by
    rcases mem_codes_ofClauses.1 hx with ⟨rfl, some⟩ | own
    · exact absurd rfl some
    · exact mem_codes_ofClauses.2 (Or.inr own)
  adds x hx := by
    rcases mem_codes_ofClauses.1 hx with default | own
    · exact Or.inr default
    · exact Or.inl (mem_codes_ofClauses.2 (Or.inr own))

/-- **A rule that needs no default** is built under any, and is the same but for the default that it records. -/
theorem build_of_no_default {rule : FieldRule} (h : build type field directives "" components = .ok rule)
    (code : String) : ∃ rule', build type field directives code components = .ok rule' ∧ rule.Extends code rule' := by
  cases marked : type.markerCode? directives with
  | some own =>
    -- The rule falls back to the code of its marker under either default.
    have same : build type field directives code components = build type field directives "" components := by
      simp only [build, RuleType.defaultCode_eq, marked, Option.getD_some]
    exact ⟨rule, same.trans h, .refl code rule⟩
  | none =>
    have unmarked (default : String) : type.defaultCode directives default = default := by
      rw [RuleType.defaultCode_eq, marked, Option.getD_none]
    let context : RuleContext := { field, type, components, defaultCode := "" }
    obtain ⟨clauses, hc, rfl⟩ := build_eq_ok_iff.1 h
    rw [unmarked] at hc ⊢
    have read : (directives.map id).map (fun text => (context.withDefault code).readDirective (Directive.parse text)) =
        (clauses.map id).map .ok :=
      map_eq_ok_map hc fun text _ clause ht => RuleContext.readDirective_of_no_default
        (show (context.withDefault "").readDirective (Directive.parse text) = .ok clause from ht) code
    rw [List.map_id, List.map_id] at read
    refine ⟨ofClauses (context.withDefault code) clauses, ?_, extends_ofClauses context clauses code⟩
    rw [build_eq_ok_iff, unmarked]
    exact ⟨clauses, read, rfl⟩

end FieldRule

namespace Engine

variable {engine engine' : Engine} {code : String}

/-- Codes that rules record besides change no validation. -/
theorem validate_extends (h : List.Forall₂ (FieldRule.Extends code) engine.rules engine'.rules) (subject : Json) :
    engine'.validate subject = engine.validate subject := by
  refine validate_eq_of_alike (h.imp fun rule rule' extended => ?_)
  rw [extended.same]
  exact ⟨rfl, rfl, rfl, fun _ => rfl⟩

/-- Rules that differ in codes only find faults in the same fields, and ask and fail alike. -/
theorem validate_relabelled (h : List.Forall₂ FieldRule.Relabelled engine.rules engine'.rules) (subject : Json) :
    (engine'.validate subject).mapOk (List.map Finding.field) =
      (engine.validate subject).mapOk (List.map Finding.field) := by
  have tells : TellsFaults List.isEmpty := fun _ _ same => same
  have seen := congrArg (Traced.mapOk (List.map Prod.fst))
    (validate_alike tells (h.imp fun _ _ relabelled => relabelled.alike subject))
  rw [Traced.mapOk_mapOk, Traced.mapOk_mapOk, List.map_comp_map] at seen
  exact seen

end Engine

namespace Blueprint

/-- The rule set under another default code. -/
def withDefault (blueprint : Blueprint) (code : String) : Blueprint :=
  { blueprint with defaultCode := code }

variable {blueprint : Blueprint}

theorem buildRule_relabelled {code code' : String} (some : code ≠ "") (some' : code' ≠ "") (tokens : List String) :
    Agree FieldRule.Relabelled ((blueprint.withDefault code).buildRule tokens)
      ((blueprint.withDefault code').buildRule tokens) := by
  refine (Agree.refl (resolveDirectives blueprint.registry tokens)).bind ?_
  rintro directives _ rfl
  cases RuleType.ofDirectives? directives with
  | none => exact .error _
  | some type => exact FieldRule.build_relabelled some some'

theorem build_relabelled {code code' : String} (some : code ≠ "") (some' : code' ≠ "") :
    Agree (fun engine engine' : Engine => List.Forall₂ FieldRule.Relabelled engine.rules engine'.rules)
      (blueprint.withDefault code).build (blueprint.withDefault code').build := by
  unfold build
  by_cases empty : blueprint.rules.isEmpty = true
  · rw [if_pos (show (blueprint.withDefault code).rules.isEmpty = true from empty),
      if_pos (show (blueprint.withDefault code').rules.isEmpty = true from empty)]
    exact .error _
  · rw [if_neg (show ¬ (blueprint.withDefault code).rules.isEmpty = true from empty),
      if_neg (show ¬ (blueprint.withDefault code').rules.isEmpty = true from empty)]
    refine Agree.bind (Agree.mapM (buildRule_relabelled some some')) ?_
    exact fun rules rules' h => .ok h

/-- Rules that are built without a default are built under any, and record nothing but the default besides. -/
theorem buildRule_of_no_default {tokens : List String} {rule : FieldRule}
    (h : (blueprint.withDefault "").buildRule tokens = .ok rule) (code : String) :
    ∃ rule', (blueprint.withDefault code).buildRule tokens = .ok rule' ∧ rule.Extends code rule' := by
  obtain ⟨directives, type, resolved, typed, built⟩ := buildRule_eq_ok_iff.1 h
  obtain ⟨rule', built', extended⟩ := FieldRule.build_of_no_default built code
  exact ⟨rule', buildRule_eq_ok_iff.2 ⟨directives, type, resolved, typed, built'⟩, extended⟩

/-- The codes in use differ by the default that is recorded besides. -/
theorem mem_codesOf_extends {code : String} {rules rules' : List FieldRule}
    (h : List.Forall₂ (FieldRule.Extends code) rules rules') (x : String) :
    x ∈ codesOf code rules' ↔ x ∈ codesOf "" rules ∨ x = code ∧ code ≠ "" := by
  have recorded : (∃ rule' ∈ rules', x ∈ rule'.codes) ∨ x = code ∧ code ≠ "" ↔
      (∃ rule ∈ rules, x ∈ rule.codes) ∨ x = code ∧ code ≠ "" := by
    induction h with
    | nil => simp
    | @cons rule rule' rules rules' first _ ih =>
      have here : x ∈ rule'.codes ∨ x = code ∧ code ≠ "" ↔ x ∈ rule.codes ∨ x = code ∧ code ≠ "" :=
        ⟨fun h => h.elim (first.adds x) Or.inr, fun h => h.imp_left (first.keeps x)⟩
      simp only [List.exists_mem_cons_iff]
      rw [or_assoc, ih, or_left_comm, here, or_left_comm, ← or_assoc]
  rw [mem_codesOf, mem_codesOf, or_comm, recorded]
  simp

theorem exists_build_of_no_default {engine : Engine} (built : (blueprint.withDefault "").build = .ok engine)
    (code : String) : ∃ engine', (blueprint.withDefault code).build = .ok engine' ∧
      List.Forall₂ (FieldRule.Extends code) engine.rules engine'.rules ∧
      ∀ x, x ∈ engine'.codes ↔ x ∈ engine.codes ∨ x = code ∧ code ≠ "" := by
  obtain ⟨some, hrules, recorded⟩ := build_eq_ok_iff.1 built
  obtain ⟨rules', hrules', extended⟩ := exists_map_eq_ok_forall₂ hrules fun tokens _ rule h =>
    buildRule_of_no_default h code
  refine ⟨⟨blueprint.name, rules', codesOf code rules'⟩, build_eq_ok_iff.2 ⟨some, hrules', rfl⟩, extended, ?_⟩
  rw [recorded]
  exact mem_codesOf_extends extended

/-- **The default code is a label.** A rule set that is built without a default is built under any: every validation is
the same, and the default is all that is in use besides. Under two defaults that are not empty a rule set is either
refused for the same reason or built both times; then every validation asks the components the same, and gives up alike
or finds faults in the same fields in the same order. -/
theorem validate_of_default (blueprint : Blueprint) :
    (∀ engine, (blueprint.withDefault "").build = .ok engine → ∀ code,
      ∃ engine', (blueprint.withDefault code).build = .ok engine' ∧
        (∀ subject, engine'.validate subject = engine.validate subject) ∧
        ∀ x, x ∈ engine'.codes ↔ x ∈ engine.codes ∨ x = code ∧ code ≠ "") ∧
    ∀ code code', code ≠ "" → code' ≠ "" →
      (∃ error, (blueprint.withDefault code).build = .error error ∧
        (blueprint.withDefault code').build = .error error) ∨
      ∃ engine engine', (blueprint.withDefault code).build = .ok engine ∧
        (blueprint.withDefault code').build = .ok engine' ∧
        ∀ subject, (engine'.validate subject).calls = (engine.validate subject).calls ∧
          (engine'.validate subject).result.map (List.map Finding.field) =
            (engine.validate subject).result.map (List.map Finding.field) := by
  constructor
  · intro engine built code
    obtain ⟨engine', built', extended, recorded⟩ := exists_build_of_no_default built code
    exact ⟨engine', built', Engine.validate_extends extended, recorded⟩
  · intro code code' some some'
    have agree : Agree _ (blueprint.withDefault code).build (blueprint.withDefault code').build :=
      build_relabelled some some'
    generalize (blueprint.withDefault code).build = first, (blueprint.withDefault code').build = second at agree ⊢
    cases agree with
    | error error => exact Or.inl ⟨error, rfl, rfl⟩
    | @ok engine engine' relabelled =>
      refine Or.inr ⟨engine, engine', rfl, rfl, fun subject => ?_⟩
      have same := Engine.validate_relabelled relabelled subject
      have calls := congrArg Traced.calls same
      have result := congrArg Traced.result same
      exact ⟨calls, result⟩

/-- Rules of which each directive names a code of its own. -/
def namedRules : Blueprint where
  rules := [["a", "STR", "IN:x:BAD"], ["b", "INT", "REQ:NO_B"]]

def namedEngine : Engine :=
  (namedRules.withDefault "").build.toOption.getD ⟨"", [], .empty⟩

/-- Rules of which some fall back to the default; one names a code that may be the default as well. -/
def fallbackRules : Blueprint where
  rules := [["a", "STR", "IN:x:BAD", "LEN:2:*"], ["b", "INT", "REQ"]]

/-- The engine whose default is the code that a directive names. -/
def coincidingEngine : Engine :=
  (fallbackRules.withDefault "BAD").build.toOption.getD ⟨"", [], .empty⟩

def distinctEngine : Engine :=
  (fallbackRules.withDefault "OTHER").build.toOption.getD ⟨"", [], .empty⟩

def fallbackPayload : Json :=
  .obj [("a", .str "y")]

theorem validate_of_default_coinciding :
    (namedRules.withDefault "").build = .ok namedEngine ∧
      (∃ engine, (namedRules.withDefault "LATE").build = .ok engine ∧
        (∀ subject, engine.validate subject = namedEngine.validate subject) ∧ "LATE" ∈ engine.codes) ∧
      (fallbackRules.withDefault "BAD").build = .ok coincidingEngine ∧
      (fallbackRules.withDefault "OTHER").build = .ok distinctEngine ∧
      (coincidingEngine.validate fallbackPayload).result = .ok [⟨"a", ["BAD"]⟩, ⟨"b", ["BAD"]⟩] ∧
      (distinctEngine.validate fallbackPayload).result = .ok [⟨"a", ["BAD", "OTHER"]⟩, ⟨"b", ["OTHER"]⟩] ∧
      ∀ subject, (distinctEngine.validate subject).result.map (List.map Finding.field) =
        (coincidingEngine.validate subject).result.map (List.map Finding.field) := by
  have built : (namedRules.withDefault "").build = .ok namedEngine := rfl
  have coinciding : (fallbackRules.withDefault "BAD").build = .ok coincidingEngine := rfl
  have distinct : (fallbackRules.withDefault "OTHER").build = .ok distinctEngine := rfl
  obtain ⟨engine, builtLate, same, recorded⟩ := (validate_of_default namedRules).1 namedEngine built "LATE"
  have late : "LATE" ∈ engine.codes := (recorded "LATE").2 (Or.inr ⟨rfl, by decide⟩)
  refine ⟨built, ⟨engine, builtLate, same, late⟩, coinciding, distinct, rfl, rfl, fun subject => ?_⟩
  obtain ⟨error, refused, -⟩ | ⟨first, second, builtFirst, builtSecond, alike⟩ :=
    (validate_of_default fallbackRules).2 "BAD" "OTHER" (by decide) (by decide)
  · cases coinciding.symm.trans refused
  · obtain rfl := Except.ok.inj (coinciding.symm.trans builtFirst)
    obtain rfl := Except.ok.inj (distinct.symm.trans builtSecond)
    exact (alike subject).2

end Blueprint

end FieldRules
