import FieldRules.Unicode.Addition
import FieldRules.Unicode.Binary
import FieldRules.Unicode.Category

/-!
# Letters and numbers (for `crates/validator/src/builders/string.rs:133`, `crates/log/src/builder.rs:61`)

The characters that texts are spelled with, in any script.
-/

namespace FieldRules.Unicode

def alphabeticRanges : Text.CharRanges :=
  alphabetic.ranges ++ addedAlphabetic

def numericRanges : Text.CharRanges :=
  rangesOf number ++ addedNumeric

/-- A letter or a character that works as one. -/
def isAlphabetic (c : Char) : Bool :=
  if c.toNat < 128 then c.isAlpha else alphabeticRanges.contains c

def isAlphanumeric (c : Char) : Bool :=
  if c.toNat < 128 then c.isAlphanum else alphabeticRanges.contains c || numericRanges.contains c

end FieldRules.Unicode
