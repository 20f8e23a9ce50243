import FieldRules.Clause
import FieldRules.CodeSet
import FieldRules.Subject

/-!
# Rules of a field (`crates/validator/src/builders/mod.rs:96-187`)

A compiled rule judges one field of a payload. It first *reads* the field: a field that is unset is judged by
nothing but whether it is required; a field of the wrong kind is an error, not a finding. What is read is the
same for the question whether the field is set and for the checks.
-/

namespace FieldRules

structure FieldRule where
  field : String
  type : RuleType
  /-- The code for a field that is required and unset. -/
  required : Option String
  /-- The validation ends when the rule fails. -/
  stopAll : Bool
  /-- Texts are read without the blanks around them. -/
  trim : Bool
  /-- What is done with a value, in order. -/
  checks : List Check
  /-- The codes that the rule names, and its default code. -/
  codes : CodeSet

namespace FieldRule

/-! ## Building -/

/-- The rule that clauses make up. -/
def ofClauses (context : RuleContext) (clauses : List Clause) : FieldRule where
  field := context.field
  type := context.type
  required := (clauses.filterMap Clause.required?).getLast?
  stopAll := clauses.any Clause.isStopAll
  trim := clauses.any Clause.isTrim
  checks := clauses.filterMap Clause.check?
  codes := (CodeSet.ofList (clauses.filterMap Clause.code?)).insertNonempty context.defaultCode

/-- Builds the rule of a type for a field from its directives (mod.rs:96-118). -/
def build (type : RuleType) (field : String) (directives : List String) (defaultCode : String)
    (components : Option ComponentLookup) : Except RuleError FieldRule := do
  let context : RuleContext :=
    { field, type, components, defaultCode := type.defaultCode directives defaultCode }
  let clauses ← directives.mapM fun text => context.readDirective (Directive.parse text)
  .ok (ofClauses context clauses)

/-- The fields that the rule waits for: the ancestors of its own. -/
def dependencies (rule : FieldRule) : List String :=
  Path.ancestors rule.field

/-! ## Reading -/

/-- What a rule type makes of a value at a path: nothing for an empty text (string.rs:48-55, numeric.rs:84-91). -/
def convert (type : RuleType) (trim : Bool) (path : String) (value : Json) :
    Except SubjectError (Option Json) :=
  match type, value with
  | .str, .str s =>
    let text := if trim then Text.trim s else s
    .ok (if text.isEmpty then none else some (.str text))
  | .obj, .obj members => .ok (some (.obj members))
  | .obj, .arr items => .ok (some (.arr items))
  | .bool, .bool b => .ok (some (.bool b))
  | .int, .int n =>
    if Numeral.IsSigned64 n then .ok (some (.int n)) else .error (.typeMismatch path type value.kind)
  | .float, .int n => .ok (some (.int n))
  | .float, .float x => .ok (some (.float x))
  | _, _ => .error (.typeMismatch path type value.kind)

def read (rule : FieldRule) (path : String) (subject : Json) : Except SubjectError (Option Json) := do
  match ← Subject.resolve subject path with
  | none => .ok none
  | some value => convert rule.type rule.trim path value

/-- The field at a path is set (mod.rs:181-186). -/
def isSet (rule : FieldRule) (path : String) (subject : Json) : Except SubjectError Bool :=
  (rule.read path subject).map Option.isSome

/-! ## Judging -/

/-- What a rule is judged against: a payload, the fields known to be set in it, and a path to read instead of the field
of the rule (context.rs:10-50). -/
structure Situation where
  subject : Json
  known : List String
  override : Option String := none

def Situation.path (situation : Situation) (field : String) : String :=
  situation.override.getD field

def Situation.anySet (situation : Situation) (fields : List String) : Bool :=
  fields.any situation.known.contains

/-- The verdict on a field that is unset (common.rs:73-79). -/
def unsetVerdict (rule : FieldRule) : Verdict :=
  { unset := true, codes := rule.required.toList }

/-- Judges the field (mod.rs:151-167). -/
def validate (rule : FieldRule) (situation : Situation) : Traced (Except SubjectError Verdict) :=
  let path := situation.path rule.field
  match rule.read path situation.subject with
  | .error error => .pure (.error error)
  | .ok none => .pure (.ok rule.unsetVerdict)
  | .ok (some value) =>
    let traced := Check.runAll path situation.known value rule.checks []
    ⟨traced.result.map fun codes => { codes := codes }, traced.calls⟩

end FieldRule

end FieldRules
