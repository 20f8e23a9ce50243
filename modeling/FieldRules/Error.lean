import FieldRules.Json.Value
import FieldRules.RuleType
import FieldRules.Text.Quoted

/-!
# Errors (`crates/validator/src/error.rs:31-203`)

Three kinds of failure are kept apart. A *rule error* is a malformed rule set: it is raised while an engine is
built, and there is no engine then. A *subject error* is an unexpected condition while a payload is read or an
outside component is called. A *load error* is a document that cannot be read. Findings about a payload are
none of these: they are the ordinary answer of a validation.
-/

namespace FieldRules

/-- A message whose end may be left open: the detail says more, in words that nothing depends on. -/
structure Diagnostic where
  text : String
  detail : Option String
  deriving DecidableEq, Repr

namespace Diagnostic

/-- A message that says all there is to say. -/
def closed (text : String) : Diagnostic :=
  ⟨text, none⟩

/-- The message with something said before it. -/
def within (context : String) (diagnostic : Diagnostic) : Diagnostic :=
  { diagnostic with text := context ++ diagnostic.text }

def message (diagnostic : Diagnostic) : String :=
  match diagnostic.detail with
  | none => diagnostic.text
  | some detail => diagnostic.text ++ " " ++ detail

end Diagnostic

/-! ## Rule errors -/

/-- What is wrong with a parameter of a directive. -/
inductive ParameterFault
  | nothingExcluded
  | excludesItself
  | nothingAllowed
  | notOfType (member : String) (type : RuleType)
  | notABound (text : String)
  | boundsReversed
  | boundsNotFinite
  | notATruthValue (text : String)
  | badPattern
  | other (reason : String)
  deriving DecidableEq, Repr

def ParameterFault.reason : ParameterFault → String
  | nothingExcluded => "no fields to be mutually exclusive with"
  | excludesItself => "a field cannot exclude itself"
  | nothingAllowed => "no allowed values"
  | notOfType member type => "'" ++ member ++ "' is not " ++ type.noun
  | notABound text => "'" ++ text ++ "' is not a valid bound"
  | boundsReversed => "minimum is greater than maximum"
  | boundsNotFinite => "bounds must be finite numbers"
  | notATruthValue text => "expected true or false, found " ++ Text.quote text
  | badPattern => "the pattern is not a regular expression"
  | other reason => reason

/-- Why a rule set cannot be built (error.rs:31-118). -/
inductive RuleError
  | noRules
  | ruleTooShort (rule : List String)
  | unknownType (field : String) (directives : List String)
  | missingRegistry (field reference : String)
  | unknownReference (field reference : String)
  | unknownOperation (field : String) (type : RuleType) (operation : String)
  | arity (field operation : String) (min max actual : Nat)
  | badParameter (field operation : String) (fault : ParameterFault)
  | missingCode (field operation : String)
  | missingLookup (field : String)
  | unknownComponent (field component : String)
  deriving DecidableEq, Repr

namespace RuleError

/-- The message, its end left open where it depends on how a pattern is read. -/
def diagnostic : RuleError → Diagnostic
  | noRules => .closed "no rules specified for validator"
  | ruleTooShort rule =>
    .closed ("rule is invalid (must have at least an identifier and a type): " ++ Text.quoteList rule)
  | unknownType field directives =>
    .closed ("unable to determine the type of rule for field '" ++ field ++ "': "
      ++ Text.quoteList directives)
  | missingRegistry field reference =>
    .closed ("field '" ++ field ++ "' references the external rule '" ++ reference
      ++ "', but no rule registry is set")
  | unknownReference field reference =>
    .closed ("field '" ++ field ++ "' references the external rule '" ++ reference
      ++ "', but no rule with that name exists")
  | unknownOperation field type operation =>
    .closed ("unsupported operation '" ++ operation ++ "' for " ++ type.marker ++ " field '" ++ field
      ++ "'")
  | arity field operation min max actual =>
    .closed (operation ++ " operation on field '" ++ field ++ "' expects " ++ toString min ++ " to "
      ++ toString max ++ " components (found " ++ toString actual ++ ")")
  | badParameter field operation fault =>
    let head := "invalid parameter for " ++ operation ++ " operation on field '" ++ field ++ "':"
    match fault with
    | .badPattern => ⟨head, some fault.reason⟩
    | fault => .closed (head ++ " " ++ fault.reason)
  | missingCode field operation =>
    .closed (operation ++ " operation on field '" ++ field
      ++ "' has no error code and no default is set")
  | missingLookup field =>
    .closed ("field '" ++ field
      ++ "' relies on an external component to validate, but no component lookup is available")
  | unknownComponent field component =>
    .closed ("no external component named '" ++ component ++ "' available to validate field '" ++ field
      ++ "'")

def message (error : RuleError) : String :=
  error.diagnostic.message

/-- The field whose rule is at fault (error.rs:123-141). -/
def field? : RuleError → Option String
  | noRules => none
  | ruleTooShort rule => rule.head?
  | unknownType field _ => some field
  | missingRegistry field _ => some field
  | unknownReference field _ => some field
  | unknownOperation field _ _ => some field
  | arity field _ _ _ _ => some field
  | badParameter field _ _ => some field
  | missingCode field _ => some field
  | missingLookup field => some field
  | unknownComponent field _ => some field

end RuleError

/-! ## Subject errors -/

/-- Why a field of a payload cannot be judged (error.rs:151-172). -/
inductive SubjectError
  | notAnObject (path : String) (found : Kind)
  | typeMismatch (path : String) (expected : RuleType) (found : Kind)
  | external (field component reason : String)
  deriving DecidableEq, Repr

/-- The message of a subject error; the reason that a component gives is not part of it. -/
def SubjectError.message : SubjectError → String
  | notAnObject path found => "expected an object at '" ++ path ++ "' but found " ++ found.noun
  | typeMismatch path expected found =>
    "field '" ++ path ++ "' should hold " ++ expected.noun ++ " but holds " ++ found.noun
  | external field component _ =>
    "external component '" ++ component ++ "' failed while validating field '" ++ field ++ "'"

/-- The two passes of a validation (error.rs:176-190). -/
inductive Stage
  | presence
  | validation
  deriving DecidableEq, Repr

/-- What the pass does to a field, as a message says it. -/
def Stage.activity : Stage → String
  | presence => "checking presence of"
  | validation => "validating"

/-- Why a validation was given up: the field, the pass and the error met there (error.rs:195-203). -/
structure Abort where
  field : String
  stage : Stage
  cause : SubjectError
  deriving DecidableEq, Repr

/-- The message of an aborted validation, without its cause. -/
def Abort.message (abort : Abort) : String :=
  "unexpected error while " ++ abort.stage.activity ++ " field '" ++ abort.field ++ "'"

/-! ## Load errors -/

/-- Why the content of a file cannot be had. -/
inductive ReadFault
  | notFound
  | notADirectory
  | isADirectory
  | nameTooLong
  | nulInName
  | notText
  deriving DecidableEq, Repr

def ReadFault.message : ReadFault → String
  | notFound => "No such file or directory (os error 2)"
  | notADirectory => "Not a directory (os error 20)"
  | isADirectory => "Is a directory (os error 21)"
  | nameTooLong => "File name too long (os error 36)"
  | nulInName => "file name contained an unexpected NUL byte"
  | notText => "stream did not contain valid UTF-8"

/-- How a JSON text fails: it is malformed, it ends too early, or it has another shape than asked for. -/
inductive JsonFault
  | malformed
  | truncated
  | shape
  deriving DecidableEq, Repr

def JsonFault.reason : JsonFault → String
  | malformed => "the text is malformed"
  | truncated => "the text ends too early"
  | shape => "the value has another shape"

/-- Why a document cannot be loaded. -/
inductive LoadError
  | unreadable (path : String) (fault : ReadFault)
  | unsupportedFormat (path : String)
  | toml
  | json (fault : JsonFault)
  deriving DecidableEq, Repr

/-- The message, its end left open where it tells what is wrong within a document. -/
def LoadError.diagnostic : LoadError → Diagnostic
  | unreadable path fault =>
    .closed ("failed to read configuration from " ++ path ++ ": " ++ fault.message)
  | unsupportedFormat path => .closed ("unsupported configuration format for " ++ path)
  | toml => ⟨"invalid TOML configuration:", some "the document cannot be read"⟩
  | json fault => ⟨"invalid JSON configuration:", some fault.reason⟩

def LoadError.message (error : LoadError) : String :=
  error.diagnostic.message

end FieldRules
