import FieldRules.Toml.Moment

/-!
# TOML documents of texts (called at `crates/validator/src/config.rs:47-52`)

The documents of this library hold texts, moments, lists and tables only; numbers, truth values and arrays of
tables have no place in them. A table can be written by a header, by dotted keys or inline, and each way of
writing it limits how it may be added to later. Where a table is asked for, a moment passes for one: it has one
entry, the moment as a text.
-/

namespace FieldRules

/-- How a table came to be. -/
inductive TableOrigin
  /-- It has a header of its own, or is the document. -/
  | header
  /-- It lies on the way to a table with a header. -/
  | implied
  /-- It lies on the way of a dotted key. -/
  | dotted
  /-- It is written as a value, which completes it. -/
  | closed
  deriving DecidableEq, Repr

inductive Toml
  | text (value : String)
  | moment (value : Toml.Moment)
  | list (items : List Toml)
  | table (origin : TableOrigin) (entries : List (String × Toml))

namespace Toml

abbrev Entries := List (String × Toml)

/-- Replaces the value under a name. -/
def replace (name : String) (value : Toml) : Entries → Entries
  | [] => []
  | entry :: entries =>
    if entry.1 = name then (name, value) :: entries else entry :: replace name value entries

/-- Adds a value under a dotted key. No name may be taken, and the value goes only into a table made by a dotted key;
one on the way to a header can be passed through. -/
def put (entries : Entries) : List String → Toml → Option Entries
  | [], _ => none
  | [name], value =>
    match entries.lookup name with
    | none => some (entries ++ [(name, value)])
    | some _ => none
  | name :: names, value =>
    match entries.lookup name with
    | none => do
      let inner ← put [] names value
      some (entries ++ [(name, .table .dotted inner)])
    | some (.table origin inner) =>
      if origin = .dotted ∨ (origin = .implied ∧ 1 < names.length) then do
        let inner ← put inner names value
        some (replace name (.table origin inner) entries)
      else none
    | some _ => none

/-- Opens the table of a header. A header may not name a table that is written already. -/
def openTable (entries : Entries) : List String → Option Entries
  | [] => none
  | [name] =>
    match entries.lookup name with
    | none => some (entries ++ [(name, .table .header [])])
    | some (.table .implied inner) => some (replace name (.table .header inner) entries)
    | some _ => none
  | name :: names =>
    match entries.lookup name with
    | none => do
      let inner ← openTable [] names
      some (entries ++ [(name, .table .implied inner)])
    | some (.table origin inner) =>
      if origin = .closed then none
      else do
        let inner ← openTable inner names
        some (replace name (.table origin inner) entries)
    | some _ => none

/-- Adds a value under a dotted key to the table that a header names. -/
def putUnder (entries : Entries) : List String → List String → Toml → Option Entries
  | [], key, value => put entries key value
  | name :: names, key, value =>
    match entries.lookup name with
    | some (.table origin inner) => do
      let inner ← putUnder inner names key value
      some (replace name (.table origin inner) entries)
    | _ => none

/-! ## Shapes -/

def text? : Toml → Option String
  | .text s => some s
  | _ => none

def list? {α : Type} (item : Toml → Option α) : Toml → Option (List α)
  | .list items => items.mapM item
  | _ => none

/-- The name of the entry that a moment has as a table. -/
def momentName : String :=
  "$__toml_private_datetime"

def entries? {α : Type} (item : Toml → Option α) : Toml → Option (List (String × α))
  | .table _ entries => entries.mapM fun (name, value) => (item value).map (name, ·)
  | .moment value => (item (.text value.text)).map fun value => [(momentName, value)]
  | _ => none

end Toml

end FieldRules
