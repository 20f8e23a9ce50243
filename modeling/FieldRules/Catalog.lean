import FieldRules.Engine

/-!
# Message catalogs (`crates/validator/src/catalog.rs:18-152`)

Rules name codes only. A catalog gives the messages for them: it can tell which codes of an engine have no
message, and it renders findings for a reader.
-/

namespace FieldRules

/-- Messages under their codes. -/
structure Catalog where
  messages : Dict String

/-- A code that a component may report and that has no message (catalog.rs:37-52). -/
structure MissingMessage where
  component : String
  code : String
  deriving DecidableEq, Repr

def MissingMessage.text (missing : MissingMessage) : String :=
  "component '" ++ missing.component ++ "' uses error code '" ++ missing.code ++ "' which has no message"

/-- The order of gaps: by component, then by code. -/
def MissingMessage.le (a b : MissingMessage) : Bool :=
  a.component < b.component || (a.component == b.component && a.code ≤ b.code)

/-- A code of a finding with its message. -/
structure RenderedError where
  field : String
  code : String
  message : String
  deriving DecidableEq, Repr

/-- Something that reports codes: its name and the codes it may report. -/
structure CodeUser where
  name : String
  codes : CodeSet

def Engine.codeUser (engine : Engine) : CodeUser :=
  ⟨engine.name, engine.codes⟩

namespace Catalog

def empty : Catalog :=
  ⟨.empty⟩

instance : Inhabited Catalog :=
  ⟨empty⟩

def withMessage (catalog : Catalog) (code message : String) : Catalog :=
  ⟨catalog.messages.insert code message⟩

def message? (catalog : Catalog) (code : String) : Option String :=
  catalog.messages.find? code

def missingFor (catalog : Catalog) (user : CodeUser) : List MissingMessage :=
  (user.codes.codes.filter fun code => (catalog.message? code).isNone).map fun code => ⟨user.name, code⟩

/-- The codes without message of some users, by component and code; none when every code has one. -/
def missing (catalog : Catalog) (users : List CodeUser) : List MissingMessage :=
  (users.flatMap catalog.missingFor).mergeSort MissingMessage.le

/-- Checks that every code of some users has a message; the gaps are the error (catalog.rs:108-136). -/
def verify (catalog : Catalog) (users : List CodeUser) : Except (List MissingMessage) Unit :=
  let gaps := catalog.missing users
  if gaps.isEmpty then .ok () else .error gaps

/-- The codes of findings, one after another, with their messages; a code without message stands for itself
(catalog.rs:140-151). -/
def render (catalog : Catalog) (findings : List Finding) : List RenderedError :=
  findings.flatMap fun finding =>
    finding.codes.map fun code => ⟨finding.field, code, (catalog.message? code).getD code⟩

end Catalog

end FieldRules
