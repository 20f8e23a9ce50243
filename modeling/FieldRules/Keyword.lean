import FieldRules.RuleType

/-!
# Keywords (`crates/validator/src/builders/common.rs:20-26`)

The operations that a directive can name, besides the markers of the rule types: how many parts each takes,
name included, and which rule types know it.
-/

namespace FieldRules

/-- An operation of the rule language. -/
inductive Keyword
  /-- The field has to be set. -/
  | required
  /-- The validation ends when this rule fails. -/
  | stopAll
  /-- The checks of the rule end here when one before failed. -/
  | stopIfFailed
  /-- None of the listed fields may be set beside this one. -/
  | exclusive
  /-- A component has to accept the value. -/
  | external
  /-- The value is one of a list. -/
  | oneOf
  /-- The number of characters or members lies within bounds. -/
  | length
  /-- The number lies within bounds. -/
  | range
  /-- The text matches a regular expression as a whole. -/
  | pattern
  /-- Blanks around the text count nothing. -/
  | trim
  /-- The truth value is the given one. -/
  | is
  deriving DecidableEq, Repr

namespace Keyword

/-- Every keyword. -/
def all : List Keyword :=
  [required, stopAll, stopIfFailed, exclusive, external, oneOf, length, range, pattern, trim, is]

def name : Keyword → String
  | required => "REQ"
  | stopAll => "STOPALL"
  | stopIfFailed => "BREAK"
  | exclusive => "MEX"
  | external => "EXT"
  | oneOf => "IN"
  | length => "LEN"
  | range => "RANGE"
  | pattern => "REG"
  | trim => "TRIM"
  | is => "IS"

def ofName? (name : String) : Option Keyword :=
  all.find? fun keyword => keyword.name == name

/-- The least number of parts of a directive with the keyword. -/
def minParts : Keyword → Nat
  | required | stopAll | stopIfFailed | trim => 1
  | exclusive | external | oneOf | pattern | is => 2
  | length | range => 3

/-- The greatest number of parts of a directive with the keyword. -/
def maxParts : Keyword → Nat
  | stopAll | stopIfFailed | trim => 1
  | required => 2
  | exclusive | external | oneOf | pattern | is => 3
  | length | range => 4

def appliesTo (keyword : Keyword) (type : RuleType) : Bool :=
  match keyword, type with
  | required, _ | stopAll, _ | stopIfFailed, _ | exclusive, _ | external, _ => true
  | oneOf, .str | oneOf, .int | oneOf, .float => true
  | length, .str | length, .obj => true
  | range, .int | range, .float => true
  | pattern, .str | trim, .str => true
  | is, .bool => true
  | _, _ => false

theorem ofName?_name (keyword : Keyword) : ofName? keyword.name = some keyword := by
  cases keyword <;> decide

theorem ofName?_eq_some_iff {name : String} {keyword : Keyword} :
    ofName? name = some keyword ↔ name = keyword.name := by
  constructor
  · intro h
    have found := List.find?_some h
    exact (beq_iff_eq.1 found).symm
  · rintro rfl
    exact ofName?_name keyword

/-- No marker is a keyword. -/
theorem ofName?_marker (type : RuleType) : ofName? type.marker = none := by
  cases type <;> decide

theorem name_ne_marker (keyword : Keyword) (type : RuleType) : keyword.name ≠ type.marker := by
  intro same
  have named := ofName?_name keyword
  rw [same, ofName?_marker] at named
  cases named

end Keyword

end FieldRules
