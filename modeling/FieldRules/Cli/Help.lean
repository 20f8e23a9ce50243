import FieldRules.Cli.Arguments

/-!
# Help texts (`apps/cli/src/cli.rs:9-61`)

What the tool says about itself.
-/

namespace FieldRules.Cli

def versionText : String :=
  "ruleval 0.1.0\n"

def helpText : Level → String
  | .tool => "Validate JSON payloads against declarative field rules

Usage: ruleval [OPTIONS] <COMMAND>

Commands:
  validate  Validate one payload; exits 1 when the payload has findings
  codes     List every error code the rule set can emit
  help      Print this message or the help of the given subcommand(s)

Options:
  -v, --verbose...               More log output on stderr (-v info, -vv debug, -vvv trace)
      --log-format <LOG_FORMAT>  Log line format [env: RULEVAL_LOG_FORMAT=] [default: compact]
                                 [possible values: pretty, compact, json]
  -h, --help                     Print help
  -V, --version                  Print version
"
  | .validate => "Validate one payload; exits 1 when the payload has findings

Usage: ruleval validate [OPTIONS] --rules <RULES>

Options:
  -r, --rules <RULES>                Rule set file (.toml or .json)
  -v, --verbose...                   More log output on stderr (-v info, -vv debug, -vvv trace)
      --log-format <LOG_FORMAT>      Log line format [env: RULEVAL_LOG_FORMAT=] [default: compact]
                                     [possible values: pretty, compact, json]
  -p, --payload <PAYLOAD>            JSON payload file; stdin when omitted or `-`
      --default-code <DEFAULT_CODE>  Overrides the rule set's default error code
  -c, --catalog <CATALOG>            Error catalog used to attach messages
  -f, --format <FORMAT>              [default: text] [possible values: text, json]
  -h, --help                         Print help
"
  | .codes => "List every error code the rule set can emit

Usage: ruleval codes [OPTIONS] --rules <RULES>

Options:
  -r, --rules <RULES>            Rule set file (.toml or .json)
  -v, --verbose...               More log output on stderr (-v info, -vv debug, -vvv trace)
  -c, --catalog <CATALOG>        Catalog to verify; exits 1 when a code has no message
      --log-format <LOG_FORMAT>  Log line format [env: RULEVAL_LOG_FORMAT=] [default: compact]
                                 [possible values: pretty, compact, json]
  -h, --help                     Print help
"
  | .help => "Print this message or the help of the given subcommand(s)

Usage: ruleval help [COMMAND]...

Arguments:
  [COMMAND]...  Print help for the subcommand(s)
"

/-- What is said to arguments that are no command line. -/
def usageText : String :=
  "error: the arguments are not understood

Usage: ruleval [OPTIONS] <COMMAND>

For more information, try '--help'.
"

end FieldRules.Cli
