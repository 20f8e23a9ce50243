import FieldRules.Directive

/-!
# Rule types (`crates/validator/src/rule.rs:19-84`)

A rule reads its field as one of five types. The type of a rule is written as a directive of its own, the
*marker*; it may stand anywhere among the directives and may carry the error code that the other directives
of the rule fall back to.
-/

namespace FieldRules

/-- What a rule takes its field to hold. -/
inductive RuleType
  | str
  | obj
  | bool
  | int
  | float
  deriving DecidableEq, Repr

namespace RuleType

def all : List RuleType :=
  [str, obj, bool, int, float]

/-- The name of the directive that gives a rule its type. -/
def marker : RuleType → String
  | str => "STR"
  | obj => "OBJ"
  | bool => "BOOL"
  | int => "INT"
  | float => "FLOAT"

/-- What a field of the type should hold, as a message says it. -/
def noun : RuleType → String
  | str => "a string"
  | obj => "an object or an array"
  | bool => "a boolean"
  | int => "an integer"
  | float => "a number"

def ofMarker? (marker : String) : Option RuleType :=
  all.find? fun type => type.marker == marker

/-- The type that a list of directives asks for: that of the first marker in it (rule.rs:55-65). -/
def ofDirectives? (directives : List String) : Option RuleType :=
  directives.findSome? fun text => ofMarker? (Directive.parse text).name

/-- The code that the directives of a rule fall back to: the one that the first marker of the type carries, else the
given one (rule.rs:70-77). -/
def defaultCode (type : RuleType) (directives : List String) (fallback : String) : String :=
  match (directives.map Directive.parse).find? fun directive => directive.name == type.marker with
  | some directive =>
    match directive.part? 1 with
    | some code => if code.isEmpty then fallback else code
    | none => fallback
  | none => fallback

theorem ofMarker?_marker (type : RuleType) : ofMarker? type.marker = some type := by
  cases type <;> decide

end RuleType

end FieldRules
