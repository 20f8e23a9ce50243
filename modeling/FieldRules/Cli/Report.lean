import FieldRules.Catalog
import FieldRules.Cli.Arguments
import FieldRules.Json.Literal

/-!
# Reports (`apps/cli/src/output.rs:12-48`)

A report shows the rendered findings of a validation, a line each or as a JSON document.
-/

namespace FieldRules.Cli

/-- One finding on a line: the message is left out when it says no more than the code (output.rs:36-44). -/
def errorLine (error : RenderedError) : String :=
  if error.message = error.code then error.field ++ ": " ++ error.code ++ "\n"
  else error.field ++ ": " ++ error.code ++ " (" ++ error.message ++ ")\n"

/-- The report for a reader. -/
def textReport (errors : List RenderedError) : String :=
  if errors.isEmpty then "valid\n" else String.join (errors.map errorLine)

def errorObject (error : RenderedError) : String :=
  "    \x7b\n      \"field\": " ++ Json.literal error.field
    ++ ",\n      \"code\": " ++ Json.literal error.code
    ++ ",\n      \"message\": " ++ Json.literal error.message ++ "\n    \x7d"

/-- The report for a program. -/
def jsonReport (errors : List RenderedError) : String :=
  let list :=
    if errors.isEmpty then "[]"
    else "[\n" ++ String.intercalate ",\n" (errors.map errorObject) ++ "\n  ]"
  "\x7b\n  \"valid\": " ++ (if errors.isEmpty then "true" else "false")
    ++ ",\n  \"errors\": " ++ list ++ "\n\x7d\n"

def report (format : ReportFormat) (errors : List RenderedError) : String :=
  match format with
  | .text => textReport errors
  | .json => jsonReport errors

end FieldRules.Cli
