import FieldRules.Numeral.Double

/-!
# JSON values (`crates/validator/src/subject.rs:59-72`)

A payload is a JSON value. Whole numbers and doubles are told apart: a number written without point and
exponent is an integer, every other number a double. An object is the list of its members; the reader keeps
one member a key.
-/

namespace FieldRules

inductive Json
  | null
  | bool (value : Bool)
  | int (value : Int)
  | float (value : Float)
  | str (value : String)
  | arr (items : List Json)
  | obj (members : List (String × Json))
  deriving Repr, Inhabited

/-- The kinds of value that messages tell apart. -/
inductive Kind
  | null
  | boolean
  | float
  | wideInteger
  | integer
  | string
  | array
  | object
  deriving DecidableEq, Repr

/-- The kind of value as a message says it (subject.rs:59-72). -/
def Kind.noun : Kind → String
  | null => "null"
  | boolean => "a boolean"
  | float => "a floating-point number"
  | wideInteger => "an integer outside the signed 64-bit range"
  | integer => "an integer"
  | string => "a string"
  | array => "an array"
  | object => "an object"

namespace Json

def kind : Json → Kind
  | null => .null
  | bool _ => .boolean
  | int n => if Numeral.IsSigned64 n then .integer else .wideInteger
  | float _ => .float
  | str _ => .string
  | arr _ => .array
  | obj _ => .object

/-- The value under a key, if the value is an object that has the key. -/
def member? (key : String) : Json → Option Json
  | obj members => members.lookup key
  | _ => none

/-- A value that stands for the absence of one. -/
def isNull : Json → Bool
  | null => true
  | _ => false

end Json

end FieldRules
