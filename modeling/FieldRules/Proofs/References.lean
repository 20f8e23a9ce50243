import FieldRules.Proofs.RuleWise

/-!
# References written out

A rule that refers to a shared rule is built as the rule with the shared directives in place of the reference
(`build_of_references`): the two have the same field and resolve to the same directives, and building looks at nothing
else. References are not followed further. No directive can be read that is named like one, so a shared rule that
holds one anywhere, to itself or to another shared rule, cannot be built into any rule set; and a shared rule without
directives has no type.
-/

namespace FieldRules

/-! ## Resolving -/

/-- A rule with the directives of the shared rule that it refers to in place of everything behind its field. A rule
stays as it is when it refers to none, or to one that is not there, is empty or begins with a reference. -/
def inlineTokens (registry : Option RuleRegistry) (tokens : List String) : List String :=
  match tokens with
  | field :: first :: _ =>
    match Directive.reference? first with
    | none => tokens
    | some reference =>
      match registry.bind (Dict.find? reference) with
      | some (head :: body) => if (Directive.reference? head).isNone then field :: head :: body else tokens
      | _ => tokens
  | _ => tokens

section
variable {registry : Option RuleRegistry} {field first reference : String} {rest directives : List String}

theorem resolveDirectives_of_plain (plain : Directive.reference? first = none) :
    resolveDirectives registry (field :: first :: rest) = .ok (first :: rest) := by
  rw [resolveDirectives, plain]

theorem resolveDirectives_of_reference (refers : Directive.reference? first = some reference)
    (found : registry.bind (Dict.find? reference) = some directives) :
    resolveDirectives registry (field :: first :: rest) = .ok directives := by
  obtain ⟨shared, rfl, there⟩ := Option.bind_eq_some_iff.1 found
  simp only [resolveDirectives, refers, there]

/-- **Writing a reference out** changes neither the field of a rule nor what it resolves to. -/
theorem inlineTokens_cases (registry : Option RuleRegistry) (tokens : List String) :
    resolveDirectives registry (inlineTokens registry tokens) = resolveDirectives registry tokens ∧
      (inlineTokens registry tokens).headD "" = tokens.headD "" := by
  unfold inlineTokens
  split
  · next field first rest =>
    split
    · exact ⟨rfl, rfl⟩
    · next reference refers =>
      split
      · next head body found =>
        split
        · next plain =>
          rw [resolveDirectives_of_plain (Option.isNone_iff_eq_none.1 plain),
            resolveDirectives_of_reference refers found]
          exact ⟨rfl, rfl⟩
        · exact ⟨rfl, rfl⟩
      · exact ⟨rfl, rfl⟩
  · exact ⟨rfl, rfl⟩

end

/-! ## Building -/

namespace Blueprint

variable {blueprint : Blueprint} {tokens directives : List String}

/-- The rule set with its references written out. -/
def inlined (blueprint : Blueprint) : Blueprint :=
  { blueprint with rules := blueprint.rules.map (inlineTokens blueprint.registry) }

theorem buildRule_inlineTokens (blueprint : Blueprint) (tokens : List String) :
    blueprint.inlined.buildRule (inlineTokens blueprint.registry tokens) = blueprint.buildRule tokens := by
  obtain ⟨resolved, field⟩ := inlineTokens_cases blueprint.registry tokens
  rw [buildRule, buildRule, field]
  exact congrArg (· >>= _) resolved

theorem build_inlined (blueprint : Blueprint) : blueprint.inlined.build = blueprint.build := by
  have each : blueprint.inlined.buildRule ∘ inlineTokens blueprint.registry = blueprint.buildRule :=
    funext (buildRule_inlineTokens blueprint)
  have rules : blueprint.inlined.rules.mapM blueprint.inlined.buildRule = blueprint.rules.mapM blueprint.buildRule := by
    rw [inlined, List.mapM_map, ← inlined, each]
  rw [build, build, rules, inlined, List.isEmpty_map]

/-- A rule with a directive named like a reference cannot be built, if it resolves to the directive at all. -/
theorem buildRule_fails_of_reference (resolved : resolveDirectives blueprint.registry tokens = .ok directives)
    {text : String} (ht : text ∈ directives) (named : (Directive.parse text).name = "RULE") :
    ∃ error, blueprint.buildRule tokens = .error error := by
  cases built : blueprint.buildRule tokens with
  | error error => exact ⟨error, rfl⟩
  | ok rule =>
    obtain ⟨directives', type, resolved', -, read⟩ := buildRule_eq_ok_iff.1 built
    obtain rfl := Except.ok.inj (resolved.symm.trans resolved')
    obtain ⟨clauses, hc, -⟩ := FieldRule.build_eq_ok_iff.1 read
    obtain ⟨clause, -, hread⟩ := exists_ok_of_mem hc ht
    rw [RuleContext.readDirective_reference named] at hread
    cases hread

/-- A rule without directives has no type. -/
theorem buildRule_of_no_directives (resolved : resolveDirectives blueprint.registry tokens = .ok []) :
    blueprint.buildRule tokens = .error (.unknownType (tokens.headD "") []) := by
  rw [buildRule, resolved]
  rfl

/-- **A reference stands for the rule written out**: with its references written out a rule set is refused with the same
error or built as the same engine. **References are not followed further**: a rule set with a rule that refers to a
shared rule with a directive named like a reference is always refused. So is one with a rule that refers to an empty
shared rule; alone, or behind rules that can be built, that rule is refused for having no type. -/
theorem build_of_references (blueprint : Blueprint) :
    blueprint.inlined.build = blueprint.build ∧
    ∀ before field first rest after reference body,
      blueprint.rules = before ++ (field :: first :: rest) :: after →
      Directive.reference? first = some reference →
      blueprint.registry.bind (Dict.find? reference) = some body →
        ((∃ text ∈ body, (Directive.parse text).name = "RULE") → ∃ error, blueprint.build = .error error) ∧
        (body = [] →
          (blueprint.only (field :: first :: rest)).build = .error (.unknownType field []) ∧
          (∃ error, blueprint.build = .error error) ∧
          ((∀ earlier ∈ before, ∃ rule, blueprint.buildRule earlier = .ok rule) →
            blueprint.build = .error (.unknownType field []))) := by
  refine ⟨build_inlined blueprint, fun before field first rest after reference body cut refers found => ?_⟩
  have resolved : resolveDirectives blueprint.registry (field :: first :: rest) = .ok body :=
    resolveDirectives_of_reference refers found
  have listed : (field :: first :: rest) ∈ blueprint.rules := by simp [cut]
  constructor
  · rintro ⟨text, ht, named⟩
    obtain ⟨error, failed⟩ := buildRule_fails_of_reference resolved ht named
    exact build_fails_of_mem listed failed
  · rintro rfl
    have failed : blueprint.buildRule (field :: first :: rest) = .error (.unknownType field []) :=
      buildRule_of_no_directives resolved
    refine ⟨build_only_eq_error_iff.2 failed, build_fails_of_mem listed failed, fun earlier => ?_⟩
    exact build_eq_error_iff.2 (Or.inr ⟨before, _, after, cut, earlier, failed⟩)

/-- A shared rule that can be built, one that refers to itself, one behind another, and an empty one. -/
def sharedRules : RuleRegistry :=
  .ofList [("digit", ["INT", "RANGE:0:9:NO_DIGIT"]), ("loop", ["STR", "RULE:loop"]), ("chain", ["RULE:digit"]),
    ("empty", [])]

/-- A rule that refers to a shared rule, with a token behind the reference. -/
def referringRules : Blueprint where
  rules := [["a", "STR", "REQ:NO_A"], ["b", "RULE:digit", "REQ:NO_B"]]
  registry := sharedRules

def loopingRules : Blueprint where
  rules := [["a", "RULE:loop"], ["b", "RULE:missing"]]
  registry := sharedRules

def emptyRules : Blueprint where
  rules := [["a", "INT"], ["b", "RULE:empty", "STR"]]
  registry := sharedRules

theorem build_of_references_shared :
    referringRules.inlined.rules = [["a", "STR", "REQ:NO_A"], ["b", "INT", "RANGE:0:9:NO_DIGIT"]] ∧
      referringRules.inlined.build = referringRules.build ∧
      (∃ error, loopingRules.build = .error error) ∧
      emptyRules.build = .error (.unknownType "b" []) := by
  refine ⟨rfl, (build_of_references referringRules).1, ?_, ?_⟩
  · obtain ⟨looping, -⟩ := (build_of_references loopingRules).2 [] "a" "RULE:loop" [] [["b", "RULE:missing"]] "loop"
      ["STR", "RULE:loop"] rfl (by decide) (by decide)
    exact looping ⟨"RULE:loop", by simp, by decide⟩
  · obtain ⟨-, empty⟩ := (build_of_references emptyRules).2 [["a", "INT"]] "b" "RULE:empty" ["STR"] [] "empty" [] rfl
      (by decide) (by decide)
    exact (empty rfl).2.2 (List.forall_mem_singleton.2 ⟨_, rfl⟩)

end Blueprint

end FieldRules
