import FieldRules.Numeral.Radix

/-!
# Integers within machine words (called at `crates/validator/src/builders/common.rs:264-266`)

The two integer types of a rule: counts, which fit in 64 unsigned bits, and signed 64-bit integers. A
numeral is an optional sign followed by ASCII digits; one outside the range of its type has no value.
-/

namespace FieldRules.Numeral

def IsSigned64 (n : Int) : Prop :=
  -0x8000000000000000 ≤ n ∧ n < 0x8000000000000000

instance (n : Int) : Decidable (IsSigned64 n) :=
  inferInstanceAs (Decidable (_ ∧ _))

/-- A number, if it fits in 64 bits without sign. -/
def bound64 (n : Nat) : Option Nat :=
  if n < UInt64.size then some n else none

/-- A number, if it fits in 64 bits with sign. -/
def boundSigned64 (n : Int) : Option Int :=
  if IsSigned64 n then some n else none

/-- Reads a count: an optional plus sign and decimal digits. -/
def readCount? (cs : List Char) : Option Nat :=
  match cs with
  | '+' :: cs => (readDecimal? cs).bind bound64
  | cs => (readDecimal? cs).bind bound64

/-- Reads a signed integer: an optional sign and decimal digits. -/
def readInteger? (cs : List Char) : Option Int :=
  match cs with
  | '+' :: cs => (readDecimal? cs).bind fun n => boundSigned64 n
  | '-' :: cs => (readDecimal? cs).bind fun n => boundSigned64 (-n)
  | cs => (readDecimal? cs).bind fun n => boundSigned64 n

end FieldRules.Numeral
