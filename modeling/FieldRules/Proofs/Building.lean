import FieldRules.Engine

/-!
# What building gives

An engine is built rule by rule and a rule directive by directive: building succeeds exactly when every part can be
read, and what is built is made up of the parts in their order (`mapM_eq_ok_iff`).
-/

namespace FieldRules

/-! ## Successful runs -/

section
variable {ε α β : Type}

theorem bind_eq_ok_iff {x : Except ε α} {f : α → Except ε β} {b : β} :
    (x >>= f) = .ok b ↔ ∃ a, x = .ok a ∧ f a = .ok b := by
  cases x <;> simp [bind, Except.bind]

theorem map_eq_ok_iff {x : Except ε α} {f : α → β} {b : β} : (f <$> x) = .ok b ↔ ∃ a, x = .ok a ∧ f a = b := by
  cases x <;> simp [Functor.map, Except.map]

/-- Going through a list succeeds exactly when every member does, with the results in their order. -/
theorem mapM_eq_ok_iff {f : α → Except ε β} {xs : List α} {ys : List β} :
    xs.mapM f = .ok ys ↔ xs.map f = ys.map .ok := by
  induction xs generalizing ys with
  | nil => cases ys <;> simp [pure, Except.pure]
  | cons x xs ih =>
    simp only [List.mapM_cons, bind_eq_ok_iff, ih, pure, Except.pure, Except.ok.injEq, List.map_cons]
    constructor
    · rintro ⟨y, hy, ys', hys, rfl⟩
      simp [hy, hys]
    · intro h
      cases ys with
      | nil => cases h
      | cons y ys =>
        obtain ⟨hy, hys⟩ := List.cons.inj h
        exact ⟨y, hy, ys, hys, rfl⟩

/-- Where the members succeed with the results of a list, each has its result there. -/
theorem exists_ok_of_mem {f : α → Except ε β} {xs : List α} {ys : List β} (h : xs.map f = ys.map .ok) {x : α}
    (hx : x ∈ xs) : ∃ y ∈ ys, f x = .ok y := by
  have member : f x ∈ ys.map .ok := h ▸ List.mem_map_of_mem hx
  obtain ⟨y, hy, hf⟩ := List.mem_map.1 member
  exact ⟨y, hy, hf.symm⟩

/-- Each of the results is that of a member. -/
theorem exists_mem_of_ok {f : α → Except ε β} {xs : List α} {ys : List β} (h : xs.map f = ys.map .ok) {y : β}
    (hy : y ∈ ys) : ∃ x ∈ xs, f x = .ok y := by
  have member : .ok y ∈ xs.map f := h ▸ List.mem_map_of_mem hy
  exact List.mem_map.1 member

/-- Where every member succeeds, their results are a list. -/
theorem exists_map_eq_ok {f : α → Except ε β} {xs : List α} (h : ∀ x ∈ xs, ∃ y, f x = .ok y) :
    ∃ ys : List β, xs.map f = ys.map .ok := by
  induction xs with
  | nil => exact ⟨[], rfl⟩
  | cons x xs ih =>
    obtain ⟨⟨y, hy⟩, hxs⟩ := List.forall_mem_cons.1 h
    obtain ⟨ys, hys⟩ := ih hxs
    exact ⟨y :: ys, by simp [hy, hys]⟩

/-- Where every member succeeds, its image does where the images of all are gone through, with the images of the
results. -/
theorem map_eq_ok_map {α' β' : Type} {f : α → Except ε β} {f' : α' → Except ε β'} {g : α → α'} {g' : β → β'}
    {xs : List α} {ys : List β} (h : xs.map f = ys.map .ok)
    (each : ∀ x ∈ xs, ∀ y, f x = .ok y → f' (g x) = .ok (g' y)) : (xs.map g).map f' = (ys.map g').map .ok := by
  induction xs generalizing ys with
  | nil => cases ys with
    | nil => rfl
    | cons y ys => cases h
  | cons x xs ih => cases ys with
    | nil => cases h
    | cons y ys =>
      obtain ⟨hy, hys⟩ := List.cons.inj h
      have first := each x (List.mem_cons_self ..) y hy
      have rest := ih hys fun x hx => each x (List.mem_cons_of_mem _ hx)
      simpa [first] using rest

/-- What is kept of a list is gone through with what is kept of the results. -/
theorem map_filter_eq_ok {f : α → Except ε β} {p : α → Bool} {q : β → Bool} {xs : List α} {ys : List β}
    (h : xs.map f = ys.map .ok) (same : ∀ x ∈ xs, ∀ y, f x = .ok y → p x = q y) :
    (xs.filter p).map f = (ys.filter q).map .ok := by
  induction xs generalizing ys with
  | nil => cases ys with
    | nil => rfl
    | cons y ys => cases h
  | cons x xs ih => cases ys with
    | nil => cases h
    | cons y ys =>
      obtain ⟨hy, hys⟩ := List.cons.inj h
      have rest := ih hys fun x hx => same x (List.mem_cons_of_mem _ hx)
      rw [List.filter_cons, List.filter_cons, same x (List.mem_cons_self ..) y hy]
      cases q y with
      | true => simpa [hy] using rest
      | false => simpa using rest

end

/-! ## Engines and rules -/

namespace Blueprint

variable {blueprint : Blueprint} {engine : Engine} {tokens : List String} {rule : FieldRule}

/-- **An engine is built** from a rule set that has rules when every rule can be built. -/
theorem build_eq_ok_iff : blueprint.build = .ok engine ↔
    blueprint.rules ≠ [] ∧ blueprint.rules.map blueprint.buildRule = engine.rules.map .ok ∧
      engine = ⟨blueprint.name, engine.rules, codesOf blueprint.defaultCode engine.rules⟩ := by
  unfold build
  cases hr : blueprint.rules with
  | nil => simp
  | cons tokens rest =>
    simp only [List.isEmpty_cons, Bool.false_eq_true, if_false, bind_eq_ok_iff, mapM_eq_ok_iff, Except.ok.injEq]
    constructor
    · rintro ⟨rules, h, rfl⟩
      exact ⟨by simp, h, rfl⟩
    · rintro ⟨-, h, he⟩
      exact ⟨engine.rules, h, he.symm⟩

/-- Every rule of an engine that is built is the one that some rule of the set is built as. -/
theorem exists_buildRule (built : blueprint.build = .ok engine) (hr : rule ∈ engine.rules) :
    ∃ tokens ∈ blueprint.rules, blueprint.buildRule tokens = .ok rule := by
  obtain ⟨-, hrules, -⟩ := build_eq_ok_iff.1 built
  exact exists_mem_of_ok hrules hr

/-- Every rule of a set that is built can be built. -/
theorem exists_rule (built : blueprint.build = .ok engine) (ht : tokens ∈ blueprint.rules) :
    ∃ rule ∈ engine.rules, blueprint.buildRule tokens = .ok rule := by
  obtain ⟨-, hrules, -⟩ := build_eq_ok_iff.1 built
  exact exists_ok_of_mem hrules ht

/-- A rule is built from its directives, or those that it refers to, for the type that they ask for. -/
theorem buildRule_eq_ok_iff : blueprint.buildRule tokens = .ok rule ↔
    ∃ directives type, resolveDirectives blueprint.registry tokens = .ok directives ∧
      RuleType.ofDirectives? directives = some type ∧
      FieldRule.build type (tokens.headD "") directives blueprint.defaultCode blueprint.components = .ok rule := by
  simp only [buildRule, bind_eq_ok_iff]
  refine exists_congr fun directives => ?_
  cases RuleType.ofDirectives? directives <;> simp

end Blueprint

/-- A rule is made up of the clauses that its directives are read as. -/
theorem FieldRule.build_eq_ok_iff {type : RuleType} {field : String} {directives : List String} {defaultCode : String}
    {components : Option ComponentLookup} {rule : FieldRule} :
    FieldRule.build type field directives defaultCode components = .ok rule ↔
      ∃ clauses,
        directives.map (fun text => RuleContext.readDirective
          { field, type, components, defaultCode := type.defaultCode directives defaultCode } (Directive.parse text)) =
            clauses.map .ok ∧
        rule = ofClauses { field, type, components, defaultCode := type.defaultCode directives defaultCode }
          clauses := by
  simp only [build, bind_eq_ok_iff, mapM_eq_ok_iff, Except.ok.injEq, eq_comm (a := rule)]

/-- The field that a rule is for, before it is built. -/
def Blueprint.fieldOf (tokens : List String) : String :=
  tokens.headD ""

theorem Blueprint.field_of_buildRule {blueprint : Blueprint} {tokens : List String} {rule : FieldRule}
    (h : blueprint.buildRule tokens = .ok rule) : rule.field = fieldOf tokens := by
  obtain ⟨directives, type, -, -, hb⟩ := buildRule_eq_ok_iff.1 h
  obtain ⟨clauses, -, rfl⟩ := FieldRule.build_eq_ok_iff.1 hb
  rfl

end FieldRules
