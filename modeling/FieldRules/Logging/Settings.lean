import FieldRules.Text.Blank

/-!
# Log settings (`crates/log/src/config/mod.rs:7-90`, `presets.rs:5-85`)

What log lines look like and which of them are written. The settings start from a preset and can be overridden
by variables; a variable that is not set, or whose value is no answer to its question, changes nothing.
-/

namespace FieldRules.Logging

inductive LineFormat
  /-- Several lines an event. -/
  | pretty
  | compact
  /-- One JSON object a line. -/
  | json
  deriving DecidableEq, Repr

/-- A name without the blanks around it, in lower case. -/
def normalName (name : String) : String :=
  String.ofList ((Text.trimChars name.toList).map Char.toLower)

/-- The form with a name; any other name stands for the compact form. -/
def LineFormat.ofName (name : String) : LineFormat :=
  let name := normalName name
  if name = "pretty" then pretty else if name = "json" then json else compact

/-- What lines are written, and what each of them shows besides its message. -/
structure Settings where
  /-- The filter for the lines that are written. -/
  level : String := "info"
  format : LineFormat := .compact
  colors : Bool := false
  time : Bool := true
  target : Bool := true
  /-- The place in the program that wrote the line. -/
  source : Bool := false
  /-- The name of the service that all lines are said to come from. -/
  service : Option String := none
  deriving DecidableEq, Repr

/-- Gives the value of a variable, if it is set. -/
abbrev Variables := String → Option String

/-- The yes or no that a value means (presets.rs:11-17). -/
def truth? (value : String) : Option Bool :=
  let name := normalName value
  if ["1", "true", "yes", "on"].contains name then some true
  else if ["0", "false", "no", "off"].contains name then some false
  else none

namespace Settings

/-- The settings for work on the program itself (presets.rs:58-69). -/
def development : Settings :=
  { level := "debug", format := .pretty, colors := true, source := true }

/-- The settings for a running service (presets.rs:73-84). -/
def production : Settings :=
  { level := "info", format := .json }

/-- The settings with those replaced that variables give (presets.rs:35-54). -/
def override (settings : Settings) (lookup : Variables) : Settings :=
  { settings with
    level :=
      (lookup "RULEVAL_LOG").getD ((lookup "RUST_LOG").getD settings.level)
    format :=
      match lookup "RULEVAL_LOG_FORMAT" with
      | some name => .ofName name
      | none => settings.format
    colors := ((lookup "RULEVAL_LOG_COLORS").bind truth?).getD settings.colors
    source := ((lookup "RULEVAL_LOG_SOURCE").bind truth?).getD settings.source }

def ofVariables (lookup : Variables) : Settings :=
  override {} lookup

end Settings

end FieldRules.Logging
