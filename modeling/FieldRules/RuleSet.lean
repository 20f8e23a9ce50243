import FieldRules.Catalog
import FieldRules.Format

/-!
# Rule sets and catalogs in documents (`crates/validator/src/config.rs:70-110`, `catalog.rs:65-89`)

A rule set is a document with the rules of an engine, its name, its default code and the shared rules that it
refers to. Only the rules are required. A catalog is a document with messages under their codes.
-/

namespace FieldRules

/-- The content of a rule document (config.rs:70-78). -/
structure RuleSet where
  name : String := ""
  defaultCode : String := ""
  rules : List (List String) := []
  registry : Option RuleRegistry := none

namespace RuleSet

def jsonFields : FieldReaders RuleSet :=
  [("name", fun draft set => draft.text.map fun name => { set with name }),
   ("default_error_code", fun draft set => draft.text.map fun defaultCode => { set with defaultCode }),
   ("rules", fun draft set =>
      (draft.list (Json.Draft.list Json.Draft.text)).map fun rules => { set with rules }),
   ("rule_registry", fun draft set =>
      (draft.optional (Json.Draft.dict (Json.Draft.list Json.Draft.text))).map fun registry =>
        { set with registry })]

def tomlFields : List (String × (Toml → RuleSet → Option RuleSet)) :=
  [("name", fun value set => value.text?.map fun name => { set with name }),
   ("default_error_code", fun value set => value.text?.map fun defaultCode => { set with defaultCode }),
   ("rules", fun value set =>
      (value.list? (Toml.list? Toml.text?)).map fun rules => { set with rules }),
   ("rule_registry", fun value set =>
      (value.entries? (Toml.list? Toml.text?)).map fun entries =>
        { set with registry := some (Dict.ofList entries) })]

def shape : DocumentShape RuleSet where
  ofToml := Toml.record tomlFields ["rules"] {}
  ofJson := Json.Draft.record jsonFields ["rules"] {}

/-- The blueprint of an engine for the rule set (config.rs:101-109). -/
def blueprint (set : RuleSet) (components : Option ComponentLookup) : Blueprint where
  name := set.name
  rules := set.rules
  defaultCode := set.defaultCode
  registry := set.registry
  components := components

end RuleSet

namespace Catalog

def jsonFields : FieldReaders Catalog :=
  [("messages", fun draft _ => (draft.dict Json.Draft.text).map Catalog.mk)]

def tomlFields : List (String × (Toml → Catalog → Option Catalog)) :=
  [("messages", fun value _ => (value.entries? Toml.text?).map fun entries => ⟨Dict.ofList entries⟩)]

def shape : DocumentShape Catalog where
  ofToml := Toml.record tomlFields [] .empty
  ofJson := Json.Draft.record jsonFields [] .empty

end Catalog

/-- Reads a finding from a value: an object with the members `field` and `error_codes`, or an array of the two. -/
def Finding.ofJson? (value : Json) : Option Finding :=
  let read (field codes : Json) : Option Finding :=
    match field, codes with
    | .str field, .arr codes => (codes.mapM Json.toText?).map fun codes => ⟨field, codes⟩
    | _, _ => none
  match value with
  | .arr [field, codes] => read field codes
  | .obj members => do
    let field ← members.lookup "field"
    let codes ← members.lookup "error_codes"
    read field codes
  | _ => none

def Finding.listOfJson? : Json → Option (List Finding)
  | .arr items => items.mapM Finding.ofJson?
  | _ => none

end FieldRules
