/-!
# Sets of characters as ranges (for `crates/validator/src/builders/string.rs:133`)

Tables of Unicode properties are lists of inclusive ranges of code points. They are written as text,
`41-5a 61-7a aa`, in hexadecimal: a range has a hyphen, a single code point has none; blanks and line ends
separate them.
-/

namespace FieldRules.Text

/-- Inclusive ranges of code points. -/
abbrev CharRanges := List (Nat × Nat)

namespace CharRanges

def contains (ranges : CharRanges) (c : Char) : Bool :=
  ranges.any fun range => range.1 ≤ c.toNat && c.toNat ≤ range.2

/-- The value of a hexadecimal digit in a table; other characters count nothing. -/
def digit (c : Char) : Nat :=
  if c.isDigit then c.toNat - '0'.toNat else c.toNat - 'a'.toNat + 10

/-- The range that ends here, if one was begun: `low` is its lower end, if it has one of its own. -/
def ended (low value : Option Nat) : CharRanges :=
  match value with
  | none => []
  | some high => [(low.getD high, high)]

/-- Reads the rest of a table: `low` is the lower end of the range at hand, `value` what the digits read so far
make. -/
def decodeFrom (low value : Option Nat) : List Char → CharRanges
  | [] => ended low value
  | c :: cs =>
    if c = '-' then decodeFrom value none cs
    else if c = ' ' ∨ c = '\n' then ended low value ++ decodeFrom none none cs
    else decodeFrom low (some (value.getD 0 * 16 + digit c)) cs

def decode (table : String) : CharRanges :=
  decodeFrom none none table.toList

end CharRanges

end FieldRules.Text
