import FieldRules.Catalog

/-!
# Sessions (`crates/validator/src/registry.rs:28-158`, `engine.rs:60-177`)

A session keeps shared rules, components, a catalog and named engines, and changes them step by step. An engine
is built from the rules and components that the session holds at that moment and keeps what it found: later
changes do not reach it. A build that fails leaves the session as it was.
-/

namespace FieldRules

/-- What a session keeps. -/
structure Session where
  registry : RuleRegistry := .empty
  components : ComponentRegistry := .empty
  catalog : Catalog := .empty
  engines : Dict Engine := .empty

structure BuildRequest where
  /-- The name under which the session keeps the engine. -/
  name : String
  rules : List (List String)
  engineName : String := ""
  defaultCode : String := ""
  /-- References are looked up in the registry of the session. -/
  withRules : Bool := false
  /-- Components are looked up in the session. -/
  withComponents : Bool := false

inductive Step
  | insertRule (name : String) (directives : List String)
  | getRule (name : String)
  | listRules
  | register (name : String) (component : Component)
  | remove (name : String)
  | contains (name : String)
  | call (name : String) (value : Json)
  | describeComponents
  | build (request : BuildRequest)
  | validate (name : String) (subject : Json)
  | validateRendered (name : String) (subject : Json)
  | setMessage (code message : String)
  | verify (engines : List String)

inductive Reply
  /-- A rule was put in, in place of an older one if there was one. -/
  | inserted (replaced : Option (List String)) (size : Nat)
  | rule (directives : Option (List String))
  | rules (registry : RuleRegistry)
  | registered (replaced : Bool) (size : Nat)
  | removed (found : Bool) (size : Nat)
  | contained (found : Bool)
  | called (answer : Option (Except String Bool))
  | description (text : String)
  | built (result : Except RuleError Engine)
  | noEngine
  | validated (result : Traced (Except Abort (List Finding)))
  | rendered (result : Except Abort (List RenderedError))
  | messages (catalog : Catalog)
  | verified (result : Except (List MissingMessage) Unit)

namespace Session

/-- The text that describes a component registry: its names in order. -/
def describe (components : ComponentRegistry) : String :=
  "ComponentRegistry \x7b components: "
    ++ Text.quoteList (components.names.mergeSort fun a b => decide (a ≤ b)) ++ " \x7d"

/-- The blueprint that a request stands for at this moment. -/
def blueprint (session : Session) (request : BuildRequest) : Blueprint where
  name := request.engineName
  rules := request.rules
  defaultCode := request.defaultCode
  registry := if request.withRules then some session.registry else none
  components := if request.withComponents then some session.components.lookup else none

def step (session : Session) : Step → Session × Reply
  | .insertRule name directives =>
    let registry := session.registry.insert name directives
    ({ session with registry }, .inserted (session.registry.find? name) registry.size)
  | .getRule name => (session, .rule (session.registry.find? name))
  | .listRules => (session, .rules session.registry)
  | .register name component =>
    let components := session.components.insert name component
    ({ session with components }, .registered (session.components.contains name) components.size)
  | .remove name =>
    let components := session.components.erase name
    ({ session with components }, .removed (session.components.contains name) components.size)
  | .contains name => (session, .contained (session.components.contains name))
  | .call name value =>
    (session, .called ((session.components.find? name).map fun component => component value))
  | .describeComponents => (session, .description (describe session.components))
  | .build request =>
    match (session.blueprint request).build with
    | .error error => (session, .built (.error error))
    | .ok engine =>
      ({ session with engines := session.engines.insert request.name engine }, .built (.ok engine))
  | .validate name subject =>
    match session.engines.find? name with
    | none => (session, .noEngine)
    | some engine => (session, .validated (engine.validate subject))
  | .validateRendered name subject =>
    match session.engines.find? name with
    | none => (session, .noEngine)
    | some engine => (session, .rendered ((engine.validate subject).result.map session.catalog.render))
  | .setMessage code message =>
    let catalog := session.catalog.withMessage code message
    ({ session with catalog }, .messages catalog)
  | .verify names =>
    match names.mapM session.engines.find? with
    | none => (session, .noEngine)
    | some engines => (session, .verified (session.catalog.verify (engines.map Engine.codeUser)))

def run (session : Session) : List Step → Session × List Reply
  | [] => (session, [])
  | step :: steps =>
    let (session, reply) := session.step step
    let (session, replies) := run session steps
    (session, reply :: replies)

end Session

/-- The text that describes a blueprint. -/
def Blueprint.describe (blueprint : Blueprint) : String :=
  let registry :=
    match blueprint.registry with
    | none => "None"
    | some registry =>
      let entries := registry.entries.map fun (name, directives) =>
        Text.quote name ++ ": " ++ Text.quoteList directives
      "Some(RuleRegistry \x7b rules: \x7b" ++ String.intercalate ", " entries ++ "\x7d \x7d)"
  "RuleValidatorBuilder \x7b name: " ++ Text.quote blueprint.name
    ++ ", rules: " ++ Text.bracketed (blueprint.rules.map Text.quoteList)
    ++ ", default_error_code: " ++ Text.quote blueprint.defaultCode
    ++ ", rule_registry: " ++ registry
    ++ ", components: " ++ (if blueprint.components.isSome then "true" else "false") ++ " \x7d"

end FieldRules
