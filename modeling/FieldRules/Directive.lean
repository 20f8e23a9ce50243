import FieldRules.Text.Blank
import FieldRules.Text.Split

/-!
# Directives (`crates/validator/src/op.rs:12-167`)

A directive is an operation such as `LEN:1:10` or `MEX:a,b:CODE`: a name and arguments, separated by colons.
A colon that belongs to a part is written twice, so `IN:a::b,c` has the single argument `a:b,c`. Doubled
colons are recognised from the left: `a:::b` has the parts `a:` and `b`.
-/

namespace FieldRules

/-- A directive: its name and its arguments. -/
structure Directive where
  name : String
  arguments : List String
  deriving DecidableEq, Repr

namespace Directive

/-- Cuts a directive at its single colons into the first part and the later ones (op.rs:33-54). -/
def cut : List Char → List Char × List (List Char)
  | [] => ([], [])
  | ':' :: ':' :: cs =>
    let (part, parts) := cut cs
    (':' :: part, parts)
  | ':' :: cs =>
    let (part, parts) := cut cs
    ([], part :: parts)
  | c :: cs =>
    let (part, parts) := cut cs
    (c :: part, parts)

def parse (text : String) : Directive :=
  let (name, arguments) := cut text.toList
  ⟨String.ofList name, arguments.map String.ofList⟩

def parts (directive : Directive) : List String :=
  directive.name :: directive.arguments

/-- The part at an index; the name has index 0. -/
def part? (directive : Directive) (index : Nat) : Option String :=
  directive.parts[index]?

/-- The number of parts, the name included. -/
def size (directive : Directive) : Nat :=
  directive.parts.length

/-- The parts of a directive as a list of texts. -/
def decompose (text : String) : List String :=
  (parse text).parts

/-- Doubles every colon. -/
def escapeChars (cs : List Char) : List Char :=
  cs.flatMap fun c => if c = ':' then [':', ':'] else [c]

/-- Writes a text as a part of a directive (op.rs:57-59). -/
def escape (part : String) : String :=
  String.ofList (escapeChars part.toList)

/-- Writes parts as a directive (op.rs:66-76). -/
def join (parts : List String) : String :=
  String.ofList ([':'].intercalate (parts.map fun part => escapeChars part.toList))

/-- The members of a part that is a list: what stands between its commas, trimmed, where anything is left
(op.rs:149-157). -/
def members (directive : Directive) (index : Nat) : List String :=
  ((Text.split ',' ((directive.part? index).getD "")).map Text.trim).filter fun member => !member.isEmpty

/-- The error code that a directive carries at an index, else the given default; an empty text is no code
(op.rs:131-145). -/
def code? (directive : Directive) (index : Nat) (default : String) : Option String :=
  let code :=
    match directive.part? index with
    | some code => if code.isEmpty then default else code
    | none => default
  if code.isEmpty then none else some code

/-- The name of the shared rule that a directive refers to: it has exactly two parts, the first of them `RULE`
(rule.rs:87-94). -/
def reference? (text : String) : Option String :=
  match decompose text with
  | [name, reference] => if name = "RULE" then some reference else none
  | _ => none

theorem decompose_ne_nil (text : String) : decompose text ≠ [] := by
  simp [decompose, parts]

end Directive

end FieldRules
