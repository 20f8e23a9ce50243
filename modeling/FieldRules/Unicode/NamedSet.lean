import FieldRules.Text.CharRanges

/-!
# Named sets of characters (for `crates/validator/src/builders/string.rs:133`)

A property of characters goes by several names. Names are compared in a loose spelling: without blanks,
hyphens and underscores, in lower case, and without a leading `is`.
-/

namespace FieldRules.Unicode

/-- A set of characters under its names, in the loose spelling, with its table of ranges. -/
structure NamedSet where
  names : List String
  table : String

def NamedSet.ranges (set : NamedSet) : Text.CharRanges :=
  Text.CharRanges.decode set.table

def NamedSet.find? (name : String) (sets : List NamedSet) : Option NamedSet :=
  sets.find? fun set => set.names.contains name

/-- Drops a leading `is` of any case. -/
def dropIs : List Char → List Char
  | a :: b :: cs => if (a = 'i' ∨ a = 'I') ∧ (b = 's' ∨ b = 'S') then cs else a :: b :: cs
  | cs => cs

/-- The loose spelling of a name. The name `isc` keeps its first letters, since `c` is a name of its own. -/
def looseName (name : List Char) : String :=
  let kept := (dropIs name).filter fun c =>
    !(c = ' ' ∨ c = '_' ∨ c = '-') && c.toNat < 128
  let letters := kept.map Char.toLower
  if letters = ['c'] ∧ dropIs name ≠ name then "isc" else String.ofList letters

end FieldRules.Unicode
