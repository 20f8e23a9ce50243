import FieldRules.Cli.Help
import FieldRules.Cli.Run

/-!
# The command-line tool (`apps/cli/src/main.rs:51-74`)

Reads the files that a command names and the standard input, runs the command, and writes what it leaves.
-/

namespace FieldRules.Cli

def readFile (path : String) : IO (Except ReadFault String) := do
  try
    let content ← IO.FS.readBinFile path
    match String.fromUTF8? content with
    | some text => return .ok text
    | none => return .error .notText
  catch error =>
    match error with
    | .noFileOrDirectory .. => return .error .notFound
    | .inappropriateType .. => return .error .isADirectory
    | _ => return .error .notFound

def readStdin : IO (Except ReadFault String) := do
  let content ← (← IO.getStdin).readBinToEnd
  match String.fromUTF8? content with
  | some text => return .ok text
  | none => return .error .notText

/-- Carries out a request and gives the status of the tool (main.rs:62-73). -/
def serve : Request → IO UInt32
  | .help level => do
    IO.print (helpText level)
    return 0
  | .version => do
    IO.print versionText
    return 0
  | .misuse => do
    IO.eprint usageText
    return 2
  | .run command _ _ => do
    let texts ← command.files.mapM fun path => do
      let text ← readFile path
      return (path, text)
    let files : FileReader := fun path => (texts.lookup path).getD (.error .notFound)
    let stdin ← if command.readsStdin then readStdin else pure (.ok "")
    let output := run files stdin command
    IO.print output.stdout
    IO.eprint output.stderr.message
    return output.status.toUInt32

end FieldRules.Cli

def main (arguments : List String) : IO UInt32 :=
  FieldRules.Cli.serve (.ofArguments arguments)
