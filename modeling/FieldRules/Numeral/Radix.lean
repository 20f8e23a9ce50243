/-!
# Digits in a base (called at `crates/validator/src/builders/common.rs:264-266`)

The value of a numeral is the left fold of its digits; a text with a character that is no digit of the
base has no value, and neither has the empty text.
-/

namespace FieldRules.Numeral

/-- The value of a digit or letter as a digit of some base up to sixteen. -/
def hexDigit? (c : Char) : Option Nat :=
  if '0' ≤ c ∧ c ≤ '9' then some (c.toNat - '0'.toNat)
  else if 'a' ≤ c ∧ c ≤ 'f' then some (c.toNat - 'a'.toNat + 10)
  else if 'A' ≤ c ∧ c ≤ 'F' then some (c.toNat - 'A'.toNat + 10)
  else none

def decimalDigit? (c : Char) : Option Nat :=
  if '0' ≤ c ∧ c ≤ '9' then some (c.toNat - '0'.toNat) else none

/-- A decimal digit is one of the ten ASCII digits. -/
def isDecimalDigit (c : Char) : Bool :=
  '0' ≤ c && c ≤ '9'

/-- Continues a numeral whose digits so far have the given value. -/
def readDigits (digit? : Char → Option Nat) (base : Nat) (value : Nat) : List Char → Option Nat
  | [] => some value
  | c :: cs =>
    match digit? c with
    | none => none
    | some d => readDigits digit? base (value * base + d) cs

/-- The value of a nonempty hexadecimal numeral. -/
def readHex? : List Char → Option Nat
  | [] => none
  | cs => readDigits hexDigit? 16 0 cs

/-- The value of a nonempty decimal numeral. -/
def readDecimal? : List Char → Option Nat
  | [] => none
  | cs => readDigits decimalDigit? 10 0 cs

/-- The digits of a number in a base up to sixteen, lower case, most significant first. -/
def digits (base n : Nat) : List Char :=
  Nat.toDigits base n

end FieldRules.Numeral
