import FieldRules.FieldRule
import FieldRules.Registry

/-!
# Engines (`crates/validator/src/engine.rs:52-336`)

An engine is a chain of rules, built once from a rule set. It validates a payload in two passes. The first
finds out which fields are set; the second judges the fields in the order of the chain. A rule is passed over
when an ancestor of its field is unset or was found faulty. A rule that asks for it ends the validation when it
fails. The findings are the fields with codes, in chain order.
-/

namespace FieldRules

/-- What is wrong with a field: its codes in the order in which they were met (context.rs:103-122). -/
structure Finding where
  field : String
  codes : List String
  deriving DecidableEq, Repr

structure Engine where
  name : String
  rules : List FieldRule
  codes : CodeSet

/-! ## Building -/

/-- What an engine is built from. -/
structure Blueprint where
  name : String := ""
  rules : List (List String)
  defaultCode : String := ""
  registry : Option RuleRegistry := none
  components : Option ComponentLookup := none

namespace Blueprint

def buildRule (blueprint : Blueprint) (rule : List String) : Except RuleError FieldRule := do
  let directives ← resolveDirectives blueprint.registry rule
  let field := rule.headD ""
  match RuleType.ofDirectives? directives with
  | none => .error (.unknownType field directives)
  | some type => FieldRule.build type field directives blueprint.defaultCode blueprint.components

/-- The codes that rules name, and the default code of the whole. -/
def codesOf (defaultCode : String) (rules : List FieldRule) : CodeSet :=
  (rules.foldr (fun (rule : FieldRule) codes => rule.codes.union codes) CodeSet.empty).insertNonempty
    defaultCode

/-- Builds an engine; the first rule that cannot be built decides the error (engine.rs:112-164). -/
def build (blueprint : Blueprint) : Except RuleError Engine :=
  if blueprint.rules.isEmpty then .error .noRules
  else do
    let rules ← blueprint.rules.mapM blueprint.buildRule
    .ok ⟨blueprint.name, rules, codesOf blueprint.defaultCode rules⟩

end Blueprint

namespace Engine

def fields (engine : Engine) : List String :=
  engine.rules.map FieldRule.field

/-- The number of rules. -/
def size (engine : Engine) : Nat :=
  engine.rules.length

/-! ## First pass: which fields are set -/

/-- The fields found set and those found unset. -/
structure Presence where
  set : List String
  unset : List String
  deriving DecidableEq, Repr

/-- An ancestor of the field of a rule is among the given fields (engine.rs:208-217). -/
def waitsFor (rule : FieldRule) (fields : List String) : Bool :=
  rule.dependencies.any fields.contains

/-- Goes through the chain and finds out which fields are set; a field with an unset ancestor is passed over
(engine.rs:233-256). -/
def findPresence (subject : Json) : List FieldRule → Presence → Except Abort Presence
  | [], presence => .ok presence
  | rule :: rules, presence =>
    if waitsFor rule presence.unset then findPresence subject rules presence
    else
      match rule.isSet rule.field subject with
      | .error error => .error ⟨rule.field, .presence, error⟩
      | .ok true => findPresence subject rules { presence with set := rule.field :: presence.set }
      | .ok false => findPresence subject rules { presence with unset := rule.field :: presence.unset }

/-! ## Second pass: what is wrong with them -/

/-- Goes through the chain and judges the fields, given those known to be set and those that are unset or faulty
(engine.rs:262-301). -/
def judge (subject : Json) (known : List String) :
    List FieldRule → List String → Traced (Except Abort (List Finding))
  | [], _ => .pure (.ok [])
  | rule :: rules, closed =>
    if waitsFor rule closed then judge subject known rules closed
    else
      let traced := rule.validate { subject, known }
      .after traced.calls
        (match traced.result with
        | .error error => .pure (.error ⟨rule.field, .validation, error⟩)
        | .ok verdict =>
          if verdict.hasErrors then
            let finding : Finding := ⟨rule.field, verdict.codes⟩
            if rule.stopAll then .pure (.ok [finding])
            else
              let rest := judge subject known rules (rule.field :: closed)
              ⟨rest.result.map (finding :: ·), rest.calls⟩
          else judge subject known rules (if verdict.unset then rule.field :: closed else closed))

/-- Validates a payload (engine.rs:230-304). -/
def validate (engine : Engine) (subject : Json) : Traced (Except Abort (List Finding)) :=
  match findPresence subject engine.rules ⟨[], []⟩ with
  | .error abort => .pure (.error abort)
  | .ok presence => judge subject presence.set engine.rules presence.unset

end Engine

end FieldRules
