import FieldRules.Session
import FieldRules.Proofs.Codes
import Mathlib.Data.List.Induction

/-!
# Engines as snapshots

A session changes what it holds step by step, and an engine is built from what the session holds at that step. What is
held under a name is settled by the last step that says something about it (`eq_some_iff_last`): for a shared rule or a
component that is the last time it was put there, for an engine the last build under its name that succeeded. So an
engine is kept as it was built, whatever happens to rules and components later, and whatever builds fail
(`run_snapshot`).
-/

namespace FieldRules

/-! ## Components of an engine -/

/-- An engine holds a component under a name: one of its checks asks it. -/
def Engine.Holds (engine : Engine) (name : String) (component : Component) : Prop :=
  ∃ rule ∈ engine.rules, ∃ code, Check.external name component code ∈ rule.checks

theorem Check.exists_external_of_call {path : String} {known : List String} {value : Json} {checks : List Check}
    {codes : List String} {call : Call} (h : call ∈ (runAll path known value checks codes).calls) :
    ∃ component code, .external call.component component code ∈ checks := by
  induction checks generalizing codes with
  | nil => cases h
  | cons check checks ih =>
    have behind {codes : List String} (h : call ∈ (runAll path known value checks codes).calls) :
        ∃ component code, .external call.component component code ∈ check :: checks := by
      obtain ⟨component, code, listed⟩ := ih h
      exact ⟨component, code, List.mem_cons_of_mem _ listed⟩
    cases check with
    | stopIfFailed =>
      rw [runAll] at h
      split at h
      · exact behind h
      · cases h
    | exclusive fields code => exact behind h
    | test condition code => exact behind h
    | external name component code =>
      rw [runAll] at h
      have here (own : call ∈ [(⟨name, value⟩ : Call)]) :
          ∃ other code', .external call.component other code' ∈ Check.external name component code :: checks := by
        obtain rfl := List.mem_singleton.1 own
        exact ⟨component, code, List.mem_cons_self ..⟩
      split at h
      · exact here h
      · exact (List.mem_append.1 h).elim here behind

theorem FieldRule.exists_external_of_call {rule : FieldRule} {situation : Situation} {call : Call}
    (h : call ∈ (rule.validate situation).calls) :
    ∃ component code, .external call.component component code ∈ rule.checks := by
  simp only [validate] at h
  split at h
  · cases h
  · cases h
  · exact Check.exists_external_of_call h

namespace Engine

theorem exists_external_of_judge {subject : Json} {known closed : List String} {rules : List FieldRule} {call : Call}
    (h : call ∈ (judge subject known rules closed).calls) :
    ∃ rule ∈ rules, ∃ component code, .external call.component component code ∈ rule.checks := by
  induction rules generalizing closed with
  | nil => cases h
  | cons rule rules ih =>
    have behind {closed : List String} (h : call ∈ (judge subject known rules closed).calls) :
        ∃ later ∈ rule :: rules, ∃ component code, .external call.component component code ∈ later.checks := by
      obtain ⟨later, listed, held⟩ := ih h
      exact ⟨later, List.mem_cons_of_mem _ listed, held⟩
    simp only [judge] at h
    split at h
    · exact behind h
    · rcases List.mem_append.1 h with own | later
      · exact ⟨rule, List.mem_cons_self .., FieldRule.exists_external_of_call own⟩
      · split at later
        · cases later
        · split at later
          · split at later
            · cases later
            · exact behind later
          · exact behind later

/-- An engine asks only components that it holds. -/
theorem holds_of_call {engine : Engine} {subject : Json} {call : Call} (h : call ∈ (engine.validate subject).calls) :
    ∃ component, engine.Holds call.component component := by
  unfold validate at h
  split at h
  · cases h
  · obtain ⟨rule, listed, component, code, held⟩ := exists_external_of_judge h
    exact ⟨component, rule, listed, code, held⟩

end Engine

/-- A check that asks a component is read where the component can be looked up, and asks what was found there. -/
theorem RuleContext.lookup_of_external {context : RuleContext} {directive : Directive} {name code : String}
    {component : Component} (h : context.readDirective directive = .ok (.check (.external name component code))) :
    ∃ lookup, context.components = some lookup ∧ lookup name = some component := by
  rcases readDirective_cases h with ⟨-, marker⟩ | ⟨keyword, -, read⟩
  · cases marker
  · cases askedBy_of_readKeyword read
    simp only [readKeyword, bind_eq_ok_iff, Except.ok.injEq, Clause.check.injEq, Check.external.injEq] at read
    obtain ⟨_, known, _, -, rfl, rfl, -⟩ := read
    cases available : context.components with
    | none => simp [findComponent, available] at known
    | some lookup =>
      refine ⟨lookup, rfl, ?_⟩
      cases found : lookup ((directive.part? 1).getD "") with
      | none => simp [findComponent, available, found] at known
      | some component => simpa [findComponent, available, found] using known

/-- **An engine holds what was found** when it was built. -/
theorem Blueprint.lookup_of_holds {blueprint : Blueprint} {engine : Engine} (built : blueprint.build = .ok engine)
    {name : String} {component : Component} (h : engine.Holds name component) :
    ∃ lookup, blueprint.components = some lookup ∧ lookup name = some component := by
  obtain ⟨rule, hr, code, listed⟩ := h
  obtain ⟨tokens, -, hb⟩ := exists_buildRule built hr
  obtain ⟨directives, type, -, -, hf⟩ := buildRule_eq_ok_iff.1 hb
  obtain ⟨clauses, read, rfl⟩ := FieldRule.build_eq_ok_iff.1 hf
  obtain ⟨clause, hclause, asked⟩ := List.mem_filterMap.1 listed
  obtain ⟨text, -, hread⟩ := exists_mem_of_ok read hclause
  cases clause with
  | check step =>
    obtain rfl : step = .external name component code := by simpa [Clause.check?] using asked
    exact RuleContext.lookup_of_external hread
  | _ => cases asked

/-! ## Rules of an engine -/

theorem resolveDirectives_congr {registry registry' : RuleRegistry}
    (same : ∀ name, registry.find? name = registry'.find? name) (tokens : List String) :
    resolveDirectives (some registry) tokens = resolveDirectives (some registry') tokens := by
  unfold resolveDirectives
  simp only [same]

/-- The blueprint that a request stands for, given the shared rules and components. -/
def BuildRequest.blueprint (request : BuildRequest) (registry : RuleRegistry) (lookup : ComponentLookup) :
    Blueprint where
  name := request.engineName
  rules := request.rules
  defaultCode := request.defaultCode
  registry := if request.withRules then some registry else none
  components := if request.withComponents then some lookup else none

/-- What is built depends on a registry only through what is found in it. -/
theorem BuildRequest.build_congr (request : BuildRequest) {registry registry' : RuleRegistry}
    {lookup lookup' : ComponentLookup} (rules : ∀ name, registry.find? name = registry'.find? name)
    (components : ∀ name, lookup name = lookup' name) :
    (request.blueprint registry lookup).build = (request.blueprint registry' lookup').build := by
  obtain rfl : lookup = lookup' := funext components
  have ruleWise : (request.blueprint registry lookup).buildRule = (request.blueprint registry' lookup).buildRule := by
    funext tokens
    unfold Blueprint.buildRule BuildRequest.blueprint
    cases request.withRules with
    | false => rfl
    | true => simp only [if_true, resolveDirectives_congr rules]
  unfold Blueprint.build
  rw [ruleWise]
  rfl

namespace Session

/-! ## The last word -/

/-- The session that steps lead to from the empty one. -/
def ofSteps (steps : List Step) : Session :=
  (run {} steps).1

theorem run_append_fst (session : Session) (steps more : List Step) :
    (run session (steps ++ more)).1 = (run (run session steps).1 more).1 := by
  induction steps generalizing session with
  | nil => rfl
  | cons step steps ih => exact ih (session.step step).1

theorem ofSteps_concat (steps : List Step) (step : Step) :
    ofSteps (steps ++ [step]) = ((ofSteps steps).step step).1 :=
  run_append_fst {} steps [step]

/-- **The last word counts.** A value that every step either leaves as it is or settles, depending on the steps before
it, is what the last of those steps made it that settled it. -/
theorem eq_some_iff_last {α : Type} (value : List Step → Option α) (effect : List Step → Step → Option (Option α))
    (start : value [] = none)
    (next : ∀ steps step, value (steps ++ [step]) = (effect steps step).getD (value steps))
    (steps : List Step) (a : α) :
    value steps = some a ↔ ∃ earlier step later, steps = earlier ++ step :: later ∧
      effect earlier step = some (some a) ∧
        ∀ middle other rest, later = middle ++ other :: rest → effect (earlier ++ step :: middle) other = none := by
  induction steps using List.reverseRecOn with
  | nil => simp [start]
  | append_singleton steps last ih =>
    rw [next]
    constructor
    · intro h
      cases settled : effect steps last with
      | some now =>
        obtain rfl : now = some a := by simpa [settled] using h
        exact ⟨steps, last, [], rfl, settled, by simp⟩
      | none =>
        obtain ⟨earlier, step, later, rfl, own, after⟩ := ih.1 (by simpa [settled] using h)
        refine ⟨earlier, step, later ++ [last], by simp, own, fun middle other rest cut => ?_⟩
        rcases List.eq_nil_or_concat rest with rfl | ⟨rest, ended, rfl⟩
        · obtain ⟨rfl, rfl⟩ := List.concat_inj.1 (by simpa using cut)
          exact settled
        · have whole : later ++ [last] = (middle ++ other :: rest) ++ [ended] := by simpa using cut
          obtain ⟨rfl, -⟩ := List.append_inj' whole rfl
          exact after middle other rest rfl
    · rintro ⟨earlier, step, later, cut, own, after⟩
      rcases List.eq_nil_or_concat later with rfl | ⟨later, ended, rfl⟩
      · obtain ⟨rfl, rfl⟩ := List.concat_inj.1 (by simpa using cut)
        simp [own]
      · have whole : steps ++ [last] = (earlier ++ step :: later) ++ [ended] := by simpa using cut
        obtain ⟨rfl, same⟩ := List.append_inj' whole rfl
        obtain rfl : last = ended := by simpa using same
        rw [after later last [] (by simp), Option.getD_none]
        refine ih.2 ⟨earlier, step, later, rfl, own, fun middle other rest cut => ?_⟩
        exact after middle other (rest ++ [last]) (by simp [cut])

/-! ## What a step settles -/

/-- What a step makes of the shared rule under a name, if it says anything about it. -/
def ruleEffect (name : String) : Step → Option (Option (List String))
  | .insertRule other directives => if other = name then some (some directives) else none
  | _ => none

/-- What a step makes of the component under a name, if it says anything about it. -/
def componentEffect (name : String) : Step → Option (Option Component)
  | .register other component => if other = name then some (some component) else none
  | .remove other => if other = name then some none else none
  | _ => none

/-- What a step makes of the engine under a name in a session: a build that fails says nothing. -/
def engineEffect (name : String) (session : Session) : Step → Option (Option Engine)
  | .build request =>
    if request.name = name then
      match (session.blueprint request).build with
      | .ok engine => some (some engine)
      | .error _ => none
    else none
  | _ => none

variable (session : Session) (step : Step) (name : String)

theorem find?_registry_step : (session.step step).1.registry.find? name =
    (ruleEffect name step).getD (session.registry.find? name) := by
  cases step with
  | insertRule other directives =>
    simp only [Session.step, ruleEffect, Dict.find?_insert, eq_comm (a := name)]
    split <;> rfl
  | build request | validate request subject | validateRendered request subject | verify names =>
    simp only [Session.step, ruleEffect]
    split <;> rfl
  | _ => rfl

theorem find?_components_step : (session.step step).1.components.find? name =
    (componentEffect name step).getD (session.components.find? name) := by
  cases step with
  | register other component =>
    simp only [Session.step, componentEffect, Dict.find?_insert, eq_comm (a := name)]
    split <;> rfl
  | remove other =>
    simp only [Session.step, componentEffect, Dict.find?_erase, eq_comm (a := name)]
    split <;> rfl
  | build request | validate request subject | validateRendered request subject | verify names =>
    simp only [Session.step, componentEffect]
    split <;> rfl
  | _ => rfl

theorem find?_engines_step : (session.step step).1.engines.find? name =
    (engineEffect name session step).getD (session.engines.find? name) := by
  cases step with
  | build request =>
    simp only [Session.step, engineEffect]
    cases (session.blueprint request).build with
    | error error => simp
    | ok engine =>
      simp only [Dict.find?_insert, eq_comm (a := name)]
      split <;> rfl
  | validate request subject | validateRendered request subject | verify names =>
    simp only [Session.step, engineEffect]
    split <;> rfl
  | _ => rfl

/-! ## What a session holds -/

/-- A shared rule is in: it was put in under the name, and nothing was after that. -/
def Inserted (steps : List Step) (name : String) (directives : List String) : Prop :=
  ∃ earlier later, steps = earlier ++ .insertRule name directives :: later ∧
    ∀ other, Step.insertRule name other ∉ later

/-- A component is registered: it was put in under the name, and after that nothing was, nor removed. -/
def Registered (steps : List Step) (name : String) (component : Component) : Prop :=
  ∃ earlier later, steps = earlier ++ .register name component :: later ∧
    (∀ other, Step.register name other ∉ later) ∧ Step.remove name ∉ later

/-- An engine is kept: it was built under the name from what the session held then, and every later build under the name
failed. -/
def Kept (steps : List Step) (name : String) (engine : Engine) : Prop :=
  ∃ earlier request later, steps = earlier ++ .build request :: later ∧ request.name = name ∧
    ((ofSteps earlier).blueprint request).build = .ok engine ∧
      ∀ middle again rest, later = middle ++ .build again :: rest → again.name = name →
        ∃ error, ((ofSteps (earlier ++ .build request :: middle)).blueprint again).build = .error error

variable {name : String} {steps : List Step}

/-- What the members of a list settle does not depend on where they stand. -/
theorem forall_cut_iff {later : List Step} {p : Step → Prop} :
    (∀ middle other rest, later = middle ++ other :: rest → p other) ↔ ∀ other ∈ later, p other := by
  constructor
  · intro h other listed
    obtain ⟨middle, rest, cut⟩ := List.append_of_mem listed
    exact h middle other rest cut
  · rintro h middle other rest rfl
    exact h other (by simp)

/-- **The shared rules of a session** are those that were put in last under their names. -/
theorem find?_registry_iff {directives : List String} :
    (ofSteps steps).registry.find? name = some directives ↔ Inserted steps name directives := by
  have settles (step : Step) : ruleEffect name step = some (some directives) ↔ step = .insertRule name directives := by
    cases step <;> simp [ruleEffect]
  have silent (step : Step) : ruleEffect name step = none ↔ ∀ other, step ≠ .insertRule name other := by
    cases step <;> simp [ruleEffect]
  rw [eq_some_iff_last (fun steps => (ofSteps steps).registry.find? name) (fun _ => ruleEffect name) rfl
    fun steps step => by rw [ofSteps_concat, find?_registry_step]]
  simp only [settles, forall_cut_iff, silent, Inserted]
  constructor
  · rintro ⟨earlier, _, later, cut, rfl, after⟩
    exact ⟨earlier, later, cut, fun other listed => after _ listed other rfl⟩
  · rintro ⟨earlier, later, cut, after⟩
    refine ⟨earlier, _, later, cut, rfl, ?_⟩
    rintro step listed other rfl
    exact after other listed

/-- **The components of a session** are those that were registered last under their names and not removed since. -/
theorem find?_components_iff {component : Component} :
    (ofSteps steps).components.find? name = some component ↔ Registered steps name component := by
  have settles (step : Step) : componentEffect name step = some (some component) ↔
      step = .register name component := by
    cases step <;> simp [componentEffect]
  have silent (step : Step) : componentEffect name step = none ↔
      (∀ other, step ≠ .register name other) ∧ step ≠ .remove name := by
    cases step <;> simp [componentEffect]
  rw [eq_some_iff_last (fun steps => (ofSteps steps).components.find? name) (fun _ => componentEffect name) rfl
    fun steps step => by rw [ofSteps_concat, find?_components_step]]
  simp only [settles, forall_cut_iff, silent, Registered]
  constructor
  · rintro ⟨earlier, _, later, cut, rfl, after⟩
    exact ⟨earlier, later, cut, fun other listed => (after _ listed).1 other rfl,
      fun listed => (after _ listed).2 rfl⟩
  · rintro ⟨earlier, later, cut, replaced, removed⟩
    refine ⟨earlier, _, later, cut, rfl, fun step listed => ⟨?_, ?_⟩⟩
    · rintro other rfl
      exact replaced other listed
    · rintro rfl
      exact removed listed

/-- **The engines of a session** are kept as they were built, under a name the last one whose build succeeded. -/
theorem find?_engines_iff {engine : Engine} :
    (ofSteps steps).engines.find? name = some engine ↔ Kept steps name engine := by
  have settles (session : Session) (step : Step) : engineEffect name session step = some (some engine) ↔
      ∃ request, step = .build request ∧ request.name = name ∧ (session.blueprint request).build = .ok engine := by
    cases step with
    | build request =>
      simp only [engineEffect, Step.build.injEq, exists_eq_left']
      cases (session.blueprint request).build <;> simp
    | _ => simp [engineEffect]
  have silent (session : Session) (step : Step) : engineEffect name session step = none ↔
      ∀ request, step = .build request → request.name = name →
        ∃ error, (session.blueprint request).build = .error error := by
    cases step with
    | build request =>
      simp only [engineEffect, Step.build.injEq, forall_eq']
      cases (session.blueprint request).build <;> simp
    | _ => simp [engineEffect]
  rw [eq_some_iff_last (fun steps => (ofSteps steps).engines.find? name)
    (fun earlier => engineEffect name (ofSteps earlier)) rfl
    fun steps step => by rw [ofSteps_concat, find?_engines_step]]
  simp only [settles, silent, Kept]
  constructor
  · rintro ⟨earlier, _, later, cut, ⟨request, rfl, named, built⟩, after⟩
    exact ⟨earlier, request, later, cut, named, built, fun middle again rest h => after middle _ rest h again rfl⟩
  · rintro ⟨earlier, request, later, cut, named, built, after⟩
    refine ⟨earlier, _, later, cut, ⟨request, rfl, named, built⟩, ?_⟩
    rintro middle _ rest h again rfl
    exact after middle again rest h

/-- A build sees what is held: each shared rule and each component that was put in last, and nothing else. -/
theorem build_eq_of_contents {request : BuildRequest} {registry : RuleRegistry} {lookup : ComponentLookup}
    (rules : ∀ name directives, registry.find? name = some directives ↔ Inserted steps name directives)
    (components : ∀ name component, lookup name = some component ↔ Registered steps name component) :
    ((ofSteps steps).blueprint request).build = (request.blueprint registry lookup).build := by
  refine request.build_congr (fun name => ?_) (fun name => ?_)
  · ext directives
    rw [find?_registry_iff, rules]
  · ext component
    exact find?_components_iff.trans (components name component).symm

/-- An engine asks the components that were registered when it was built. -/
theorem registered_of_holds {request : BuildRequest} {engine : Engine}
    (built : ((ofSteps steps).blueprint request).build = .ok engine) {component : Component}
    (h : engine.Holds name component) : request.withComponents = true ∧ Registered steps name component := by
  obtain ⟨lookup, available, found⟩ := Blueprint.lookup_of_holds built h
  simp only [blueprint, Option.ite_none_right_eq_some, Option.some.injEq] at available
  obtain ⟨asked, rfl⟩ := available
  exact ⟨asked, find?_components_iff.1 found⟩

/-- The answer to a validation comes from the engine that is kept. -/
theorem validate_of_kept {engine : Engine} (kept : Kept steps name engine) (subject : Json) :
    ((ofSteps steps).step (.validate name subject)).2 = .validated (engine.validate subject) := by
  have found := find?_engines_iff.2 kept
  simp [Session.step, found]

/-- **An engine is a snapshot.** After any steps, a session keeps under a name the engine that was built there last, and
every validation is answered by that engine as it was built. A build sees the shared rules and components that were put
in last and not removed, and nothing else; and the components that an engine asks are those that were registered when it
was built. -/
theorem run_snapshot (steps : List Step) :
    (∀ name engine, (ofSteps steps).engines.find? name = some engine ↔ Kept steps name engine) ∧
    (∀ name engine, Kept steps name engine → ∀ subject,
      ((ofSteps steps).step (.validate name subject)).2 = .validated (engine.validate subject) ∧
        ∀ call ∈ (engine.validate subject).calls, ∃ component, engine.Holds call.component component) ∧
    (∀ name directives, (ofSteps steps).registry.find? name = some directives ↔ Inserted steps name directives) ∧
    (∀ name component, (ofSteps steps).components.find? name = some component ↔ Registered steps name component) ∧
    ∀ request,
      (∀ (registry : RuleRegistry) (lookup : ComponentLookup),
        (∀ name directives, registry.find? name = some directives ↔ Inserted steps name directives) →
        (∀ name component, lookup name = some component ↔ Registered steps name component) →
          ((ofSteps steps).blueprint request).build = (request.blueprint registry lookup).build) ∧
      ∀ engine, ((ofSteps steps).blueprint request).build = .ok engine → ∀ name component,
        engine.Holds name component → request.withComponents = true ∧ Registered steps name component := by
  refine ⟨fun name engine => find?_engines_iff, fun name engine kept subject => ⟨validate_of_kept kept subject, ?_⟩,
    fun name directives => find?_registry_iff, fun name component => find?_components_iff, fun request => ⟨?_, ?_⟩⟩
  · intro call asked
    exact Engine.holds_of_call asked
  · intro registry lookup rules components
    exact build_eq_of_contents rules components
  · intro engine built name component held
    exact registered_of_holds built held

/-- An engine is built; then its component is replaced, its shared rule rewritten, and a build under its name fails. -/
def changedSteps : List Step :=
  [.register "even" fun _ => .ok false, .insertRule "code" ["STR:BAD", "EXT:even"],
    .build { name := "e", rules := [["x", "RULE:code"]], withRules := true, withComponents := true },
    .register "even" fun _ => .ok true, .insertRule "code" ["INT:OTHER"],
    .build { name := "e", rules := [["x", "RULE:gone"]], withRules := true }, .remove "even"]

def changedEngine : Engine :=
  ((ofSteps changedSteps).engines.find? "e").getD ⟨"", [], .empty⟩

def changedPayload : Json :=
  .obj [("x", .str "a")]

theorem run_snapshot_changed :
    Kept changedSteps "e" changedEngine ∧ Inserted changedSteps "code" ["INT:OTHER"] ∧
      (ofSteps changedSteps).components.find? "even" = none ∧
      ((ofSteps changedSteps).step (.validate "e" changedPayload)).2 =
        .validated ⟨.ok [⟨"x", ["BAD"]⟩], [⟨"even", .str "a"⟩]⟩ := by
  obtain ⟨engines, answers, rules, -⟩ := run_snapshot changedSteps
  have kept : Kept changedSteps "e" changedEngine := (engines "e" changedEngine).1 rfl
  exact ⟨kept, (rules "code" ["INT:OTHER"]).1 rfl, rfl, (answers "e" changedEngine kept changedPayload).1⟩

end Session

end FieldRules
