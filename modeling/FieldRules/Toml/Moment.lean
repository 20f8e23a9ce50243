import FieldRules.Numeral.Radix

/-!
# Dates and times in TOML (called at `crates/validator/src/config.rs:47-52`)

A moment is a date, a time of day, or both, in which case the time may be given for a place by its offset from
universal time. Its text has one form for each moment: a capital T between the date and the time, the fraction
of a second without zeros at its end, and an offset of nothing with a plus sign.
-/

namespace FieldRules.Toml

/-- The number of days of a month; those of February hang on the year. -/
def daysIn (year month : Nat) : Nat :=
  if month = 2 then
    if year % 4 = 0 ∧ (year % 100 ≠ 0 ∨ year % 400 = 0) then 29 else 28
  else if month = 4 ∨ month = 6 ∨ month = 9 ∨ month = 11 then 30
  else 31

structure Date where
  year : Nat
  month : Nat
  day : Nat
  isMonth : 1 ≤ month ∧ month ≤ 12
  isDay : 1 ≤ day ∧ day ≤ daysIn year month
  deriving DecidableEq, Repr

/-- Seconds of a time of day; a minute may have one more than sixty. -/
structure Seconds where
  whole : Nat
  /-- The fraction in billionths, if one is given. -/
  billionths : Option Nat
  isSecond : whole ≤ 60
  deriving DecidableEq, Repr

structure Clock where
  hour : Nat
  minute : Nat
  seconds : Option Seconds
  isHour : hour ≤ 23
  isMinute : minute ≤ 59
  deriving DecidableEq, Repr

/-- How far the clocks of a place are from universal time. -/
inductive Offset
  | universal
  | minutes (count : Int)
  deriving DecidableEq, Repr

/-- A date, a time of day or both. -/
inductive Moment
  | date (day : Date)
  | clock (time : Clock)
  | dateAndClock (day : Date) (time : Clock) (offset : Option Offset)
  deriving DecidableEq, Repr

/-! ## Texts of moments -/

/-- A number with zeros in front of it, up to a width. -/
def padded (width n : Nat) : List Char :=
  (Numeral.digits 10 n).leftpad width '0'

/-- A fraction in billionths without zeros at its end; nothing is a zero. -/
def fractionText (billionths : Nat) : List Char :=
  match ((padded 9 billionths).reverse.dropWhile (· == '0')).reverse with
  | [] => ['0']
  | digits => digits

def Date.text (date : Date) : List Char :=
  padded 4 date.year ++ '-' :: padded 2 date.month ++ '-' :: padded 2 date.day

/-- The text of seconds, with the sign before them. -/
def Seconds.text (seconds : Seconds) : List Char :=
  ':' :: padded 2 seconds.whole ++
    match seconds.billionths with
    | none => []
    | some billionths => '.' :: fractionText billionths

def Clock.text (clock : Clock) : List Char :=
  padded 2 clock.hour ++ ':' :: padded 2 clock.minute ++
    match clock.seconds with
    | none => []
    | some seconds => seconds.text

def Offset.text : Offset → List Char
  | universal => ['Z']
  | minutes count =>
    (if count < 0 then '-' else '+') :: padded 2 (count.natAbs / 60) ++ ':' :: padded 2 (count.natAbs % 60)

def Moment.text : Moment → String
  | date day => String.ofList day.text
  | clock time => String.ofList time.text
  | dateAndClock day time offset =>
    String.ofList (day.text ++ 'T' :: time.text ++
      match offset with
      | none => []
      | some offset => offset.text)

/-! ## Reading moments -/

/-- Reads a number of as many digits as are asked for. -/
def readNumber? (digits : Nat) (cs : List Char) : Option (Nat × List Char) :=
  if (cs.take digits).length = digits then (Numeral.readDecimal? (cs.take digits)).map (·, cs.drop digits)
  else none

def readSign? (sign : Char) : List Char → Option (List Char)
  | [] => none
  | c :: cs => if c = sign then some cs else none

def readDate? (cs : List Char) : Option (Date × List Char) := do
  let (year, cs) ← readNumber? 4 cs
  let (month, cs) ← readNumber? 2 (← readSign? '-' cs)
  let (day, cs) ← readNumber? 2 (← readSign? '-' cs)
  if h : (1 ≤ month ∧ month ≤ 12) ∧ 1 ≤ day ∧ day ≤ daysIn year month then
    some (⟨year, month, day, h.1, h.2⟩, cs)
  else none

/-- The billionths that the digits of a fraction give; digits after the ninth count nothing. -/
def billionths? (digits : List Char) : Option Nat :=
  Numeral.readDecimal? ((digits ++ List.replicate 9 '0').take 9)

def readFraction (cs : List Char) : Option (Option Nat × List Char) :=
  match cs with
  | '.' :: cs =>
    match cs.takeWhile Numeral.isDecimalDigit with
    | [] => none
    | digits => (billionths? digits).map fun count => (some count, cs.dropWhile Numeral.isDecimalDigit)
  | cs => some (none, cs)

def readSeconds (cs : List Char) : Option (Option Seconds × List Char) :=
  match cs with
  | ':' :: cs => do
    let (whole, cs) ← readNumber? 2 cs
    let (billionths, cs) ← readFraction cs
    if h : whole ≤ 60 then some (some ⟨whole, billionths, h⟩, cs) else none
  | cs => some (none, cs)

/-- Reads hours and minutes, each within its bound. -/
def readMinutes? (cs : List Char) : Option ({ m : Nat × Nat // m.1 ≤ 23 ∧ m.2 ≤ 59 } × List Char) := do
  let (hour, cs) ← readNumber? 2 cs
  let (minute, cs) ← readNumber? 2 (← readSign? ':' cs)
  if h : hour ≤ 23 ∧ minute ≤ 59 then some (⟨(hour, minute), h⟩, cs) else none

def readClock? (cs : List Char) : Option (Clock × List Char) := do
  let (⟨(hour, minute), h⟩, cs) ← readMinutes? cs
  let (seconds, cs) ← readSeconds cs
  some (⟨hour, minute, seconds, h.1, h.2⟩, cs)

def readOffset (cs : List Char) : Option (Option Offset × List Char) :=
  match cs with
  | [] => some (none, [])
  | c :: rest =>
    if c = 'Z' ∨ c = 'z' then some (some .universal, rest)
    else if c = '+' then
      (readMinutes? rest).map fun (⟨(hours, minutes), _⟩, rest) =>
        (some (.minutes (hours * 60 + minutes)), rest)
    else if c = '-' then
      (readMinutes? rest).map fun (⟨(hours, minutes), _⟩, rest) =>
        (some (.minutes (-(hours * 60 + minutes))), rest)
    else some (none, c :: rest)

def readClockAfter? (date : Date) (cs : List Char) : Option (Moment × List Char) := do
  let (clock, cs) ← readClock? cs
  let (offset, cs) ← readOffset cs
  some (.dateAndClock date clock offset, cs)

/-- Reads a moment, if one starts here. A blank may stand between the date and the time for the letter T; a date
with a blank and no time after it is complete. -/
def readMoment? (cs : List Char) : Option (Moment × List Char) :=
  match readDate? cs with
  | none => (readClock? cs).map fun (clock, rest) => (.clock clock, rest)
  | some (date, []) => some (.date date, [])
  | some (date, c :: rest) =>
    if c = 'T' ∨ c = 't' then readClockAfter? date rest
    else if c = ' ' then some ((readClockAfter? date rest).getD (.date date, c :: rest))
    else some (.date date, c :: rest)

end FieldRules.Toml
