import FieldRules.Logging.Settings

/-!
# Command lines (`apps/cli/src/cli.rs:9-74`)

The tool has two commands: `validate` judges a payload by a rule set, `codes` lists the codes of a rule set.
Options with a value take it from the next argument or after an equals sign, short ones also right behind the
letter; letters without value may stand together. An argument that starts with a hyphen is never a value,
except the hyphen alone. An option with a value may be given once on each side of the command.
-/

namespace FieldRules.Cli

/-! ## What a command line asks for -/

inductive ReportFormat
  | text
  | json
  deriving DecidableEq, Repr

structure ValidateArguments where
  rules : String
  payload : Option String
  defaultCode : Option String
  catalog : Option String
  format : ReportFormat
  deriving DecidableEq, Repr

structure CodesArguments where
  rules : String
  catalog : Option String
  deriving DecidableEq, Repr

inductive Command
  | validate (arguments : ValidateArguments)
  | codes (arguments : CodesArguments)
  deriving DecidableEq, Repr

/-- The places of a command line that know options of their own. -/
inductive Level
  | tool
  | validate
  | codes
  /-- The command that shows the help of another. -/
  | help
  deriving DecidableEq, Repr

/-- What a command line asks for. -/
inductive Request
  | run (command : Command) (verbosity : Nat) (logFormat : Logging.LineFormat)
  | help (level : Level)
  | version
  | misuse
  deriving DecidableEq, Repr

/-! ## Options -/

inductive ValueOption
  | rules
  | payload
  | defaultCode
  | catalog
  | format
  | logFormat
  deriving DecidableEq, Repr

namespace ValueOption

def all : List ValueOption :=
  [rules, payload, defaultCode, catalog, format, logFormat]

def longName : ValueOption → String
  | rules => "rules"
  | payload => "payload"
  | defaultCode => "default-code"
  | catalog => "catalog"
  | format => "format"
  | logFormat => "log-format"

def letter? : ValueOption → Option Char
  | rules => some 'r'
  | payload => some 'p'
  | catalog => some 'c'
  | format => some 'f'
  | defaultCode | logFormat => none

/-- A place of the command line knows an option. -/
def knownAt (option : ValueOption) (level : Level) : Bool :=
  match option, level with
  | logFormat, .tool | logFormat, .validate | logFormat, .codes => true
  | rules, .validate | rules, .codes | catalog, .validate | catalog, .codes => true
  | payload, .validate | defaultCode, .validate | format, .validate => true
  | _, _ => false

/-- The option may have a value. -/
def admits (option : ValueOption) (value : String) : Bool :=
  match option with
  | rules | payload | catalog => !value.isEmpty
  | defaultCode => true
  | format => ["text", "json"].contains value
  | logFormat => ["pretty", "compact", "json"].contains value

end ValueOption

/-- The values given so far at a place of the command line, and how often it was asked to be verbose. -/
structure Given where
  values : List (ValueOption × String) := []
  verbosity : Nat := 0
  deriving Repr

namespace Given

/-- The values with one more, unless the option has one already or does not admit it. -/
def put (given : Given) (option : ValueOption) (value : String) : Option Given :=
  if (given.values.lookup option).isSome || !option.admits value then none
  else some { given with values := (option, value) :: given.values }

def value? (given : Given) (option : ValueOption) : Option String :=
  given.values.lookup option

end Given

inductive Argument
  /-- Options without value only. -/
  | flags (verbosity : Nat)
  /-- An option with a value, after options without; the value may be attached. -/
  | takes (verbosity : Nat) (option : ValueOption) (attached : Option String)
  | help
  | version
  /-- The sign after which nothing is an option. -/
  | escape
  /-- No option at all. -/
  | word (text : String)
  | unknown
  deriving DecidableEq, Repr

/-- Drops an equals sign between a letter and its value. -/
def dropEquals : List Char → List Char
  | '=' :: cs => cs
  | cs => cs

/-- Reads the letters of an argument, given how often those read so far ask to be verbose. -/
def readLetters (level : Level) (verbosity : Nat) : List Char → Argument
  | [] => .flags verbosity
  | c :: cs =>
    if c = 'v' then readLetters level (verbosity + 1) cs
    else if c = 'h' then .help
    else if c = 'V' ∧ level = .tool then .version
    else
      match ValueOption.all.find? fun option => option.knownAt level && option.letter? == some c with
      | none => .unknown
      | some option =>
        .takes verbosity option (if cs.isEmpty then none else some (String.ofList (dropEquals cs)))

def readLong (level : Level) (cs : List Char) : Argument :=
  let name := String.ofList (cs.takeWhile (· != '='))
  let attached :=
    match cs.dropWhile (· != '=') with
    | [] => none
    | _ :: value => some (String.ofList value)
  if name = "verbose" ∧ attached = none then .flags 1
  else if name = "help" ∧ attached = none then .help
  else if name = "version" ∧ attached = none ∧ level = .tool then .version
  else
    match ValueOption.all.find? fun option => option.knownAt level && option.longName == name with
    | none => .unknown
    | some option => .takes 0 option attached

def readArgument (level : Level) (argument : String) : Argument :=
  match argument.toList with
  | ['-', '-'] => .escape
  | '-' :: '-' :: cs => readLong level cs
  | ['-'] => .word argument
  | '-' :: cs => readLetters level 0 cs
  | _ => .word argument

/-- An argument can be the value of an option. -/
def isValue (argument : String) : Bool :=
  match argument.toList with
  | '-' :: _ :: _ => false
  | _ => true

/-! ## Whole command lines -/

def Level.ofCommand? (name : String) : Option Level :=
  if name = "validate" then some .validate
  else if name = "codes" then some .codes
  else if name = "help" then some .help
  else none

/-- The help that is asked for by the words after `help`. -/
def readHelp : List String → Request
  | [] => .help .tool
  | [name] =>
    match Level.ofCommand? name with
    | some level => .help level
    | none => .misuse
  | _ => .misuse

def ReportFormat.ofName (name : String) : ReportFormat :=
  if name = "json" then json else text

/-- The command line is read: what it asks for, given the options before and after the command. -/
def conclude (level : Level) (tool given : Given) : Request :=
  let verbosity := if given.verbosity = 0 then tool.verbosity else given.verbosity
  let logFormat := Logging.LineFormat.ofName
    ((given.value? .logFormat).getD ((tool.value? .logFormat).getD "compact"))
  match level, given.value? .rules with
  | .validate, some rules =>
    let arguments : ValidateArguments :=
      { rules
        payload := given.value? .payload
        defaultCode := given.value? .defaultCode
        catalog := given.value? .catalog
        format := .ofName ((given.value? .format).getD "text") }
    .run (.validate arguments) verbosity logFormat
  | .codes, some rules => .run (.codes ⟨rules, given.value? .catalog⟩) verbosity logFormat
  | _, _ => .misuse

/-- Reads arguments at a place of the command line: `tool` holds the options before the command, and `given` those
at the place. -/
def readArguments (level : Level) (tool given : Given) : List String → Request
  | [] => conclude level tool given
  | argument :: rest =>
    match readArgument level argument with
    | .flags verbosity =>
      readArguments level tool { given with verbosity := given.verbosity + verbosity } rest
    | .takes verbosity option (some value) =>
      match { given with verbosity := given.verbosity + verbosity }.put option value with
      | none => .misuse
      | some given => readArguments level tool given rest
    | .takes verbosity option none =>
      match rest with
      | [] => .misuse
      | value :: rest =>
        if isValue value then
          match { given with verbosity := given.verbosity + verbosity }.put option value with
          | none => .misuse
          | some given => readArguments level tool given rest
        else .misuse
    | .help => .help level
    | .version => .version
    | .escape => if rest.isEmpty ∧ level ≠ .tool then conclude level tool given else .misuse
    | .word name =>
      if level = .tool then
        match Level.ofCommand? name with
        | some .help => readHelp rest
        | some level => readArguments level given {} rest
        | none => .misuse
      else .misuse
    | .unknown => .misuse

def Request.ofArguments (arguments : List String) : Request :=
  readArguments .tool {} {} arguments

end FieldRules.Cli
