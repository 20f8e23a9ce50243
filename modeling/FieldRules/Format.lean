import FieldRules.Files
import FieldRules.Json.Draft
import FieldRules.Toml.Reader

/-!
# Document formats (`crates/validator/src/config.rs:28-65`)

A document is written in TOML or in JSON; the extension of its file tells which. What a document has to hold is
given as a pair of readings, one for each format.
-/

namespace FieldRules

inductive Format
  | toml
  | json
  deriving DecidableEq, Repr

/-- The format that the extension of a path asks for, in any case of letters (config.rs:35-44). -/
def Format.ofPath? (path : String) : Option Format :=
  match (FilePath.extension? path).map fun extension => extension.toList.map Char.toLower with
  | some ['t', 'o', 'm', 'l'] => some .toml
  | some ['j', 's', 'o', 'n'] => some .json
  | _ => none

/-- How a thing is read from a document of either format. -/
structure DocumentShape (α : Type) where
  ofToml : Toml → Option α
  ofJson : Json.Draft → Except JsonFault α

namespace DocumentShape

variable {α : Type}

def parse (shape : DocumentShape α) (format : Format) (source : String) : Except LoadError α :=
  match format with
  | .toml =>
    match (Toml.parse? source).bind shape.ofToml with
    | some value => .ok value
    | none => .error .toml
  | .json =>
    match (Json.draft source).read shape.ofJson with
    | .ok value => .ok value
    | .error fault => .error (.json fault)

/-- Reads a document from its file (config.rs:54-65). -/
def load (shape : DocumentShape α) (files : FileReader) (path : String) : Except LoadError α :=
  match Format.ofPath? path with
  | none => .error (.unsupportedFormat path)
  | some format =>
    match files path with
    | .error fault => .error (.unreadable path fault)
    | .ok source => shape.parse format source

end DocumentShape

/-! ## Records -/

/-- The fields of a record in their order: the name of each, and how it is read into the record. -/
abbrev FieldReaders (σ : Type) := List (String × (Json.Draft → σ → Except JsonFault σ))

namespace Json.Draft

variable {σ : Type}

/-- Reads the members of an object into a record, given the names read so far. A key that is no field is out of
shape, and so is a field given twice or a required one left out. -/
def readMembers (fields : FieldReaders σ) (required : List String) (stop : Option JsonFault) :
    List String → σ → List (String × Json.Draft) → Except JsonFault σ
  | seen, record, [] =>
    match stop with
    | some fault => .error fault
    | none => if required.all seen.contains then .ok record else .error .shape
  | seen, record, (name, value) :: members =>
    match fields.lookup name with
    | none => .error .shape
    | some readField =>
      if seen.contains name then .error .shape
      else
        match readField value record with
        | .error fault => .error fault
        | .ok record => readMembers fields required stop (name :: seen) record members

/-- Reads the items of an array into the fields of a record in their order; the last fields may be left out unless
they are required. -/
def readPositions (required : List String) (stop : Option JsonFault) :
    FieldReaders σ → σ → List Json.Draft → Except JsonFault σ
  | [], record, [] => stopped stop record
  | [], _, _ :: _ => .error .malformed
  | fields, record, [] =>
    match stop with
    | some fault => .error fault
    | none =>
      if (fields.map Prod.fst).any required.contains then .error .shape else .ok record
  | (_, readField) :: fields, record, item :: items =>
    match readField item record with
    | .error fault => .error fault
    | .ok record => readPositions required stop fields record items

/-- Reads a record, written as an object or as the array of its fields. -/
def record (fields : FieldReaders σ) (required : List String) (initial : σ) :
    Json.Draft → Except JsonFault σ
  | .object members stop => readMembers fields required stop [] initial members
  | .array items stop => readPositions required stop fields initial items
  | .broken fault => .error fault
  | .scalar _ => .error .shape

end Json.Draft

/-- Reads the entries of a table into a record; the names of a table differ, so that no field is given twice. -/
def Toml.record {σ : Type} (fields : List (String × (Toml → σ → Option σ))) (required : List String)
    (initial : σ) : Toml → Option σ
  | .table _ entries =>
    if required.all (entries.map Prod.fst).contains then
      entries.foldlM
        (fun record (name, value) => (fields.lookup name).bind fun readField => readField value record)
        initial
    else none
  | _ => none

end FieldRules
