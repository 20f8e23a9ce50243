import FieldRules.Cli.Report
import FieldRules.RuleSet

/-!
# Running a command (`apps/cli/src/commands.rs:14-106`)

What the tool does is a function of its arguments, the files and the standard input. It ends with status 0 when
the payload is valid or every code has a message, with 1 when there is something to report, and with 2 when it
cannot do its work; then the standard error says why.
-/

namespace FieldRules.Cli

/-- What a run of the tool leaves. -/
structure Output where
  status : Nat
  stdout : String := ""
  stderr : Diagnostic := .closed ""
  deriving DecidableEq, Repr

/-- A load error with the cause of the cause, as far as the system gives one. -/
def loadDiagnostic (error : LoadError) : Diagnostic :=
  match error with
  | .unreadable _ fault =>
    { error.diagnostic with text := error.diagnostic.text ++ ": " ++ fault.message }
  | error => error.diagnostic

/-- Loads a rule set and builds its engine. A default code on the command line takes the place of that of the rule set,
and a rule set without name is called after its file (commands.rs:14-30). -/
def loadEngine (files : FileReader) (path : String) (defaultCode : Option String) :
    Except Diagnostic Engine := do
  match RuleSet.shape.load files path with
  | .error error => .error ((loadDiagnostic error).within ("loading rules from " ++ path ++ ": "))
  | .ok set =>
    let name := if set.name.isEmpty then (FilePath.stem? path).getD set.name else set.name
    let set := { set with name, defaultCode := defaultCode.getD set.defaultCode }
    match (set.blueprint none).build with
    | .error error => .error (error.diagnostic.within ("compiling rules from " ++ path ++ ": "))
    | .ok engine => .ok engine

/-- Loads a catalog; without a path it is empty (commands.rs:32-38). -/
def loadCatalog (files : FileReader) : Option String → Except Diagnostic Catalog
  | none => .ok .empty
  | some path =>
    match Catalog.shape.load files path with
    | .error error =>
      .error ((loadDiagnostic error).within ("loading error catalog from " ++ path ++ ": "))
    | .ok catalog => .ok catalog

/-- A path that stands for the standard input. -/
def isStdin (path : String) : Bool :=
  path.startsWith "-" && FilePath.names path == ["-"]

/-- The text of the payload (commands.rs:40-51). -/
def payloadText (files : FileReader) (stdin : Except ReadFault String) :
    Option String → Except Diagnostic String
  | none => fromStdin
  | some path =>
    if isStdin path then fromStdin
    else
      match files path with
      | .error fault => .error (.closed ("reading payload from " ++ path ++ ": " ++ fault.message))
      | .ok text => .ok text
where
  fromStdin : Except Diagnostic String :=
    match stdin with
    | .error fault => .error (.closed ("reading payload from stdin: " ++ fault.message))
    | .ok text => .ok text

def loadPayload (files : FileReader) (stdin : Except ReadFault String) (path : Option String) :
    Except Diagnostic Json := do
  let text ← payloadText files stdin path
  match Json.parse text with
  | .error fault => .error ⟨"payload is not valid JSON:", some fault.reason⟩
  | .ok value => .ok value

/-- Why a payload could not be validated, down to the reason that a component gives. -/
def abortDiagnostic (abort : Abort) : Diagnostic :=
  let reason :=
    match abort.cause with
    | .external _ _ reason => ": " ++ reason
    | _ => ""
  .closed ("payload could not be validated: " ++ abort.message ++ ": " ++ abort.cause.message ++ reason)

/-- Validates a payload: the findings, rendered by the catalog (commands.rs:56-67). -/
def findErrors (files : FileReader) (stdin : Except ReadFault String) (arguments : ValidateArguments) :
    Except Diagnostic (List RenderedError) := do
  let engine ← loadEngine files arguments.rules arguments.defaultCode
  let catalog ← loadCatalog files arguments.catalog
  let payload ← loadPayload files stdin arguments.payload
  match (engine.validate payload).result with
  | .error abort => .error (abortDiagnostic abort)
  | .ok findings => .ok (catalog.render findings)

/-- The end of a run that could not do its work (main.rs:69-72). -/
def failure (stdout : String) (diagnostic : Diagnostic) : Output :=
  let diagnostic := diagnostic.within "error: "
  match diagnostic.detail with
  | none => ⟨2, stdout, .closed (diagnostic.text ++ "\n")⟩
  | some detail => ⟨2, stdout, ⟨diagnostic.text, some (detail ++ "\n")⟩⟩

/-- Runs `validate` (commands.rs:56-77). -/
def runValidate (files : FileReader) (stdin : Except ReadFault String) (arguments : ValidateArguments) :
    Output :=
  match findErrors files stdin arguments with
  | .error diagnostic => failure "" diagnostic
  | .ok errors =>
    { status := if errors.isEmpty then 0 else 1, stdout := report arguments.format errors }

/-- Runs `codes`: lists the codes, and names those without a message if there is a catalog to ask
(commands.rs:79-106). -/
def runCodes (files : FileReader) (arguments : CodesArguments) : Output :=
  match loadEngine files arguments.rules none with
  | .error diagnostic => failure "" diagnostic
  | .ok engine =>
    let stdout := String.join (engine.codes.codes.map (· ++ "\n"))
    match arguments.catalog with
    | none => { status := 0, stdout }
    | some path =>
      match loadCatalog files (some path) with
      | .error diagnostic => failure stdout diagnostic
      | .ok catalog =>
        match catalog.verify [engine.codeUser] with
        | .ok () => { status := 0, stdout }
        | .error missing =>
          { status := 1, stdout, stderr := .closed (String.join (missing.map (·.text ++ "\n"))) }

def run (files : FileReader) (stdin : Except ReadFault String) : Command → Output
  | .validate arguments => runValidate files stdin arguments
  | .codes arguments => runCodes files arguments

/-- The files that a command reads. -/
def Command.files : Command → List String
  | .validate arguments =>
    arguments.rules :: (arguments.catalog.toList ++ (arguments.payload.filter (!isStdin ·)).toList)
  | .codes arguments => arguments.rules :: arguments.catalog.toList

def Command.readsStdin : Command → Bool
  | .validate arguments => arguments.payload.all isStdin
  | .codes _ => false

end FieldRules.Cli
