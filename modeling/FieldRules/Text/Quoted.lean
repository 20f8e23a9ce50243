import FieldRules.Numeral.Radix
import FieldRules.Unicode.Addition
import FieldRules.Unicode.Binary
import FieldRules.Unicode.Category

/-!
# Quoted texts and lists for messages (called at `crates/validator/src/error.rs:31-118`)

A message shows a text between double quotes, so that it stays on one line and every character in it can be
told apart: quotes and backslashes carry a backslash, the common control characters have short names, and a
character that does not print on its own is given by its code point.
-/

namespace FieldRules.Text

/-- The letters without a shape of their own, which fill a place in a syllable. -/
def fillerRanges : CharRanges :=
  [(0x115F, 0x1160), (0x3164, 0x3164), (0xFFA0, 0xFFA0)]

/-- The voicing marks of half width: they extend the character before them, but have a place of their own. -/
def halfwidthVoicingRanges : CharRanges :=
  [(0xFF9E, 0xFF9F)]

/-- The characters that leave ink: letters, marks, numbers, punctuation and symbols. -/
def inkRanges : CharRanges :=
  Unicode.rangesOf
    (Unicode.letter ++ Unicode.mark ++ Unicode.number ++ Unicode.punctuation ++ Unicode.symbol)
    ++ Unicode.addedInk

/-- The characters that extend the one before them. -/
def extenderRanges : CharRanges :=
  Unicode.graphemeExtend.ranges ++ Unicode.addedExtending

/-- A character has a place of its own when it does not extend its neighbour, or is a voicing mark of half width. -/
def hasOwnPlace (c : Char) : Bool :=
  halfwidthVoicingRanges.contains c || !extenderRanges.contains c

/-- A character prints on its own when it leaves ink, or is the space, and has a place of its own; fillers do
not. -/
def standsAlone (c : Char) : Bool :=
  (' ' ≤ c && c ≤ '~') ||
    (128 ≤ c.toNat && inkRanges.contains c && hasOwnPlace c && !fillerRanges.contains c)

/-- The spelling of a character by its code point. -/
def codePointEscape (c : Char) : List Char :=
  ['\\', 'u', '{'] ++ Numeral.digits 16 c.toNat ++ ['}']

def quoteChar (c : Char) : List Char :=
  if c = '"' ∨ c = '\\' then ['\\', c]
  else if c = '\n' then ['\\', 'n']
  else if c = '\r' then ['\\', 'r']
  else if c = '\t' then ['\\', 't']
  else if c.toNat = 0 then ['\\', '0']
  else if standsAlone c then [c]
  else codePointEscape c

def quote (s : String) : String :=
  "\"" ++ String.ofList (s.toList.flatMap quoteChar) ++ "\""

def bracketed (members : List String) : String :=
  "[" ++ String.intercalate ", " members ++ "]"

def quoteList (texts : List String) : String :=
  bracketed (texts.map quote)

end FieldRules.Text
