import FieldRules.Error

/-!
# JSON numbers (called at `crates/validator/src/config.rs:47-52`)

A number without point and exponent is an integer if it fits in 64 bits, with a sign or without one; every
other number is a double, also minus zero. A double is had from the leading digits that fit in 64 bits by one
multiplication or division with a power of ten, so that it may be off in its last place. A number too large
for a double is an error.
-/

namespace FieldRules.Json

open Numeral (isDecimalDigit decimalDigit?)

/-- Continues a number with digits as long as it fits in 64 bits; the answer tells how many digits were left out. -/
def accumulate (value : Nat) : List Char → Nat × Nat
  | [] => (value, 0)
  | c :: cs =>
    let next := value * 10 + (decimalDigit? c).getD 0
    if next < UInt64.size then accumulate next cs else (value, cs.length + 1)

def powerOfTen (exponent : Nat) : Float :=
  Float.ofScientific 1 false exponent

/-- Divides by a power of ten, in steps that a double can hold. -/
def divideByPower (x : Float) (exponent : Nat) : Float :=
  if exponent ≤ 308 then x / powerOfTen exponent
  else if x == 0 then x
  else divideByPower (x / powerOfTen 308) (exponent - 308)
termination_by exponent

/-- A significand scaled by a power of ten, unless it is too large for a double. -/
def scale? (significand : Nat) (exponent : Int) : Option Float :=
  let x := Numeral.doubleOfInt significand
  match exponent with
  | .ofNat e =>
    if e ≤ 308 then
      let scaled := x * powerOfTen e
      if scaled.isInf then none else some scaled
    else if significand = 0 then some x
    else none
  | .negSucc e => some (divideByPower x (e + 1))

/-- A number as it is written: a sign, the digits before and after the point, and the exponent. -/
structure NumberText where
  negative : Bool
  whole : List Char
  fraction : Option (List Char)
  /-- The exponent with its sign, if there is one: whether it is negative, and its digits. -/
  exponent : Option (Bool × List Char)

/-- The digits of an exponent, if they fit in 31 bits. -/
def exponentValue? (digits : List Char) : Option Nat :=
  (Numeral.readDecimal? digits).bind fun n => if n < 0x80000000 then some n else none

/-- The double of a number with a point, an exponent or too many digits. -/
def NumberText.toDouble? (number : NumberText) : Option Float :=
  let (significand, dropped) := accumulate 0 number.whole
  let fraction := number.fraction.getD []
  let (significand, left) := accumulate significand fraction
  let exponent : Int := dropped - (fraction.length - left : Nat)
  let magnitude :=
    match number.exponent with
    | none => scale? significand exponent
    | some (negative, digits) =>
      match exponentValue? digits with
      | some e => scale? significand (if negative then exponent - e else exponent + e)
      | none => if significand ≠ 0 ∧ !negative then none else some 0
  magnitude.map fun x => if number.negative then -x else x

def NumberText.value? (number : NumberText) : Option Json :=
  let (significand, dropped) := accumulate 0 number.whole
  if number.fraction.isNone ∧ number.exponent.isNone ∧ dropped = 0 then
    if !number.negative then some (.int significand)
    else if significand = 0 ∨ 0x8000000000000000 < significand then some (.float (-Numeral.doubleOfInt significand))
    else some (.int (-significand))
  else number.toDouble?.map .float

/-- Takes digits; a text that ends before the first of them is cut short, another character is out of place. -/
def takeDigits (cs : List Char) : Except JsonFault (List Char × List Char) :=
  match cs with
  | [] => .error .truncated
  | c :: _ =>
    if isDecimalDigit c then .ok (cs.takeWhile isDecimalDigit, cs.dropWhile isDecimalDigit)
    else .error .malformed

/-- Takes the digits before the point; a zero stands alone. -/
def takeWhole (cs : List Char) : Except JsonFault (List Char × List Char) := do
  let (digits, rest) ← takeDigits cs
  match digits with
  | '0' :: _ :: _ => .error .malformed
  | digits => .ok (digits, rest)

def takeFraction (cs : List Char) : Except JsonFault (Option (List Char) × List Char) :=
  match cs with
  | '.' :: cs => do
    let (digits, rest) ← takeDigits cs
    .ok (some digits, rest)
  | cs => .ok (none, cs)

def takeExponent (cs : List Char) : Except JsonFault (Option (Bool × List Char) × List Char) :=
  match cs with
  | c :: rest =>
    if c = 'e' ∨ c = 'E' then do
      let (negative, rest) :=
        match rest with
        | '+' :: rest => (false, rest)
        | '-' :: rest => (true, rest)
        | rest => (false, rest)
      let (digits, rest) ← takeDigits rest
      .ok (some (negative, digits), rest)
    else .ok (none, cs)
  | [] => .ok (none, [])

def readNumber (cs : List Char) : Except JsonFault (Json × List Char) := do
  let (negative, rest) :=
    match cs with
    | '-' :: rest => (true, rest)
    | cs => (false, cs)
  let (whole, rest) ← takeWhole rest
  let (fraction, rest) ← takeFraction rest
  let (exponent, rest) ← takeExponent rest
  match NumberText.value? ⟨negative, whole, fraction, exponent⟩ with
  | some value => .ok (value, rest)
  | none => .error .malformed

end FieldRules.Json
