import FieldRules.Numeral.Integer

/-!
# Decimal numerals as doubles (called at `crates/validator/src/builders/common.rs:264-266`)

A numeral is an optional sign and then digits with an optional point and an optional exponent, or one of
the words `inf`, `infinity` and `nan` in any case. Its value is the double nearest to the number written.
-/

namespace FieldRules.Numeral

/-- A nonnegative decimal number: a significand times a power of ten. -/
structure Decimal where
  /-- All digits, read as one number. -/
  significand : Nat
  exponent : Int
  deriving DecidableEq, Repr

/-- The number of decimal digits of a number, none for zero. -/
def decimalLength (n : Nat) : Nat :=
  if n = 0 then 0 else (Nat.toDigits 10 n).length

/-- The double nearest to a decimal number. Numbers of 10^310 and more are beyond every double and numbers below
10^-330 are nearer to zero than to any other, so that no large power of ten is computed for them. -/
def Decimal.toFloat (d : Decimal) : Float :=
  if d.significand = 0 then 0
  else if 310 < d.exponent + decimalLength d.significand then 1 / 0
  else if d.exponent + decimalLength d.significand < -330 then 0
  else if 0 ≤ d.exponent then Float.ofScientific d.significand false d.exponent.toNat
  else Float.ofScientific d.significand true (-d.exponent).toNat

/-- Reads the exponent of a numeral: nothing at all, or a letter E, an optional sign and digits. -/
def readExponent? : List Char → Option Int
  | [] => some 0
  | e :: cs =>
    if e = 'e' ∨ e = 'E' then
      match cs with
      | '+' :: cs => (readDecimal? cs).map fun n => (n : Int)
      | '-' :: cs => (readDecimal? cs).map fun n => -(n : Int)
      | cs => (readDecimal? cs).map fun n => (n : Int)
    else none

/-- Reads an unsigned numeral: digits on at least one side of an optional point, and an optional exponent. -/
def readUnsigned? (cs : List Char) : Option Decimal :=
  let whole := cs.takeWhile isDecimalDigit
  let rest := cs.dropWhile isDecimalDigit
  let (fraction, rest) :=
    match rest with
    | '.' :: after => (after.takeWhile isDecimalDigit, after.dropWhile isDecimalDigit)
    | rest => ([], rest)
  match readDecimal? (whole ++ fraction), readExponent? rest with
  | some significand, some exponent => some ⟨significand, exponent - fraction.length⟩
  | _, _ => none

/-- Reads the words for the values that are no numbers of digits. -/
def readWord? (cs : List Char) : Option Float :=
  let word := cs.map Char.toLower
  if word = ['i', 'n', 'f'] ∨ word = ['i', 'n', 'f', 'i', 'n', 'i', 't', 'y'] then some (1 / 0)
  else if word = ['n', 'a', 'n'] then some (0 / 0)
  else none

def readMagnitude? (cs : List Char) : Option Float :=
  match readUnsigned? cs with
  | some d => some d.toFloat
  | none => readWord? cs

/-- Reads a double: an optional sign and a numeral or a word. -/
def readDouble? (cs : List Char) : Option Float :=
  match cs with
  | '+' :: cs => readMagnitude? cs
  | '-' :: cs => (readMagnitude? cs).map fun x => -x
  | cs => readMagnitude? cs

/-- The double nearest to an integer. -/
def doubleOfInt : Int → Float
  | .ofNat n => Float.ofScientific n false 0
  | .negSucc n => -Float.ofScientific (n + 1) false 0

end FieldRules.Numeral
