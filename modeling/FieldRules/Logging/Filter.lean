import FieldRules.Logging.Settings
import FieldRules.Numeral.Double
import FieldRules.Regex.Basic
import FieldRules.Text.Bytes
import FieldRules.Unicode.Word

/-!
# Log filters (called at `crates/log/src/builder.rs:60-62`)

A filter is a list of directives separated by commas, such as `info` or `warn,server=debug`: a level, or a
target and a span with a level. A span may name fields and values, `[span{field=value}]`. A directive is read
from its first character that is no blank; the parts of it, though, are cut from the directive as it stands, so
that blanks before it shift them, by their bytes. A part that would then begin or end inside a character is a
fault of its own.
-/

namespace FieldRules.Logging

/-- Why a filter is refused. -/
inductive FilterFault
  /-- A directive is out of order. -/
  | malformed
  /-- A part of a directive begins or ends inside a character. -/
  | tornCharacter
  deriving DecidableEq, Repr

/-- A level of a filter is in order: empty, a number up to five, or a name in any case. -/
def isLevel (level : List Char) : Bool :=
  level.isEmpty
    || (Numeral.readCount? level).any (fun n => decide (n ≤ 5))
    || ["error", "warn", "info", "debug", "trace", "off"].contains
        (String.ofList (level.map Char.toLower))

/-- A pattern for the values of a field is in order. It may be of any size, but it may not ask for the words of
every script. -/
def isValuePattern (source : List Char) : Bool :=
  (Regex.readPattern source).any fun piece => !piece.shape.asksForWords

/-- A value that a field has to have is in order: a truth value, a number, or else a pattern. -/
def isFieldValue (value : List Char) : Bool :=
  value = "true".toList || value = "false".toList || (Numeral.readDouble? value).isSome
    || isValuePattern value

/-- A field is in order: it is not empty, and its value, if it has one, is in order. -/
def isField (field : List Char) : Bool :=
  match field, field.dropWhile (· != '=') with
  | [], _ => false
  | _, [] => true
  | _, _ :: value => isFieldValue (value.takeWhile (· != '='))

/-- What part of a directive is being read; the numbers are the bytes before it. -/
inductive FilterPart
  | start
  | levelOrTarget
  | span (began : Nat)
  | field (began : Nat)
  | fields
  | target
  | level (began : Nat)
  deriving DecidableEq, Repr

/-- Cuts a part out of a directive and goes on, if the part is in order. -/
def cutPart (directive : List Char) (low high : Nat) (inOrder : List Char → Bool) (next : FilterPart) :
    Except FilterFault FilterPart :=
  match Text.slice? low high directive with
  | none => .error .tornCharacter
  | some part => if inOrder part then .ok next else .error .malformed

def filterStep (directive : List Char) (place : Nat) (c : Char) : FilterPart → Except FilterFault FilterPart
  | .start =>
    if c = '[' then .ok (.span (place + 1))
    else if c = '-' ∨ c = ':' ∨ c = '_' ∨ Unicode.isAlphanumeric c then .ok .levelOrTarget
    else .error .malformed
  | .levelOrTarget =>
    if c = '=' then cutPart directive 0 place (fun _ => true) (.level (place + 1))
    else if c = '[' then cutPart directive 0 place (fun _ => true) (.span (place + 1))
    else .ok .levelOrTarget
  | .span began =>
    if c = ']' then cutPart directive began place (fun _ => true) .target
    else if c = '{' then cutPart directive began place (fun _ => true) (.field (place + 1))
    else .ok (.span began)
  | .field began =>
    if c = '}' then cutPart directive began place isField .fields else .ok (.field began)
  | .fields => if c = ']' then .ok .target else .error .malformed
  | .target => if c = '=' then .ok (.level (place + 1)) else .error .malformed
  | .level began => .ok (.level began)

/-- Reads the characters of a directive from a place on, given as the number of bytes before it. -/
def readDirective (directive : List Char) : Nat → FilterPart → List Char → Except FilterFault FilterPart
  | _, part, [] => .ok part
  | place, part, c :: cs =>
    match filterStep directive place c part with
    | .error fault => .error fault
    | .ok part => readDirective directive (place + c.utf8Size) part cs

def directiveFault? (directive : List Char) : Option FilterFault :=
  match readDirective directive 0 .start (Text.trimChars directive) with
  | .error fault => some fault
  | .ok .levelOrTarget => none
  | .ok .target => none
  | .ok (.level began) =>
    match Text.splitBytes? began directive with
    | none => some .tornCharacter
    | some (_, level) => if isLevel level then none else some .malformed
  | .ok _ => some .malformed

/-- What is wrong with a filter, if anything is: the fault of its first directive that has one. Empty directives
count nothing. -/
def filterFault? (filter : String) : Option FilterFault :=
  ((Text.splitChars ',' filter.toList).filter fun directive => !directive.isEmpty).findSome? directiveFault?

/-- What comes of setting a logger up while there is one already. -/
inductive Installation
  | refused (fault : FilterFault)
  | alreadyInstalled
  deriving DecidableEq, Repr

def Installation.message : Installation → String
  | refused _ => "invalid log filter"
  | alreadyInstalled =>
    "logger already initialized: a global default trace dispatcher has already been set"

/-- Sets a logger up while there is one already (builder.rs:39-57). -/
def Settings.installAgain (settings : Settings) : Installation :=
  match filterFault? settings.level with
  | some fault => .refused fault
  | none => .alreadyInstalled

end FieldRules.Logging
