import FieldRules.Regex.Parser

/-!
# Regular expressions (`crates/validator/src/builders/string.rs:131-139`)

A regular expression that is to match a whole text is its pattern in a group between the anchors for the start
and the end of the text. The pattern is put there as it is written, so that what it opens or closes, and the
comments it starts, reach beyond it.
-/

namespace FieldRules

structure Regex where
  expression : Regex.Expression

namespace Regex

def ofPattern? (source : String) : Option Regex :=
  (parse? source.toList).map Regex.mk

/-- A pattern between the anchors of a text (string.rs:133). -/
def anchored (source : String) : String :=
  "^(?:" ++ source ++ ")$"

/-- Reads a pattern that is to match whole texts. -/
def ofWhole? (source : String) : Option Regex :=
  ofPattern? (anchored source)

/-- The expression matches somewhere in a text. -/
def isMatch (regex : Regex) (text : String) : Bool :=
  regex.expression.occursIn text.toList.toArray

end Regex

end FieldRules
