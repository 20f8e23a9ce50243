import FieldRules.Regex.CharClass
import FieldRules.Text.Blank
import FieldRules.Unicode.Age
import FieldRules.Unicode.Binary
import FieldRules.Unicode.Boundary
import FieldRules.Unicode.Category
import FieldRules.Unicode.Script

/-!
# Named classes (called at `crates/validator/src/builders/string.rs:133`)

The classes that a pattern calls by name: `\d`, `\s` and `\w`, the bracket names such as `[:alpha:]`, and
properties of characters such as `\pL`, `\p{Greek}` and `\p{sc=Greek}`.
-/

namespace FieldRules.Regex

open Unicode (NamedSet)

/-! ## The short classes -/

/-- The classes with a letter of their own: digits, blanks and word characters. -/
inductive ShortClass
  | digit
  | space
  | word
  deriving DecidableEq, Repr

/-- The word characters: what makes up words and identifiers in any script. -/
def wordClass : CharClass :=
  .ofRanges (Unicode.alphabetic.ranges
    ++ Unicode.rangesOf (Unicode.mark ++ [Unicode.decimalNumber, Unicode.connectorPunctuation])
    ++ Unicode.joinControl.ranges)

def asciiWordClass : CharClass :=
  .ofRanges [(0x30, 0x39), (0x41, 0x5A), (0x5F, 0x5F), (0x61, 0x7A)]

/-- The members of a short class over all characters, or over ASCII. -/
def ShortClass.members (unicode : Bool) : ShortClass → CharClass
  | digit => .ofRanges (if unicode then Unicode.decimalNumber.ranges else [(0x30, 0x39)])
  | space => .ofRanges (if unicode then Text.blankRanges else [(0x9, 0xD), (0x20, 0x20)])
  | word => if unicode then wordClass else asciiWordClass

/-! ## The bracket names -/

/-- The classes that a bracket expression calls by name. -/
def bracketNames : List (String × Text.CharRanges) :=
  [("alnum", [(0x30, 0x39), (0x41, 0x5A), (0x61, 0x7A)]),
   ("alpha", [(0x41, 0x5A), (0x61, 0x7A)]),
   ("ascii", [(0x00, 0x7F)]),
   ("blank", [(0x09, 0x09), (0x20, 0x20)]),
   ("cntrl", [(0x00, 0x1F), (0x7F, 0x7F)]),
   ("digit", [(0x30, 0x39)]),
   ("graph", [(0x21, 0x7E)]),
   ("lower", [(0x61, 0x7A)]),
   ("print", [(0x20, 0x7E)]),
   ("punct", [(0x21, 0x2F), (0x3A, 0x40), (0x5B, 0x60), (0x7B, 0x7E)]),
   ("space", [(0x09, 0x0D), (0x20, 0x20)]),
   ("upper", [(0x41, 0x5A)]),
   ("word", [(0x30, 0x39), (0x41, 0x5A), (0x5F, 0x5F), (0x61, 0x7A)]),
   ("xdigit", [(0x30, 0x39), (0x41, 0x46), (0x61, 0x66)])]

/-! ## Properties -/

def memberClass? (name : String) (sets : List NamedSet) : Option CharClass :=
  (NamedSet.find? name sets).map fun set => .ofRanges set.ranges

/-- The members of a general category, a group of them, or one of the three sets that go with them. -/
def categoryClass? (name : String) : Option CharClass :=
  if name = "any" then some CharClass.none.compl
  else if name = "ascii" then some (.ofRanges [(0, 0x7F)])
  else if name = "assigned" then some (.ofRanges (Unicode.rangesOf Unicode.assigned))
  else if name = "cn" ∨ name = "unassigned" then
    some (CharClass.ofRanges (Unicode.rangesOf Unicode.assigned)).compl
  else if name = "c" ∨ name = "other" then
    some (CharClass.ofRanges (Unicode.rangesOf (Unicode.letter ++ Unicode.mark ++ Unicode.number
      ++ Unicode.punctuation ++ Unicode.symbol ++ Unicode.separator))).compl
  else
    match Unicode.groups.find? fun group => group.1.contains name with
    | some group => some (.ofRanges (Unicode.rangesOf group.2))
    | none => memberClass? name Unicode.assigned

/-- The characters used with a script. -/
def widerScriptClass? (name : String) : Option CharClass :=
  (memberClass? name Unicode.widerScripts).orElse fun _ => memberClass? name Unicode.scripts

/-- The class that a single name stands for: a binary property, a general category or a script. -/
def namedClass? (name : String) : Option CharClass :=
  (memberClass? name Unicode.binaryProperties).orElse fun _ =>
    (categoryClass? name).orElse fun _ => memberClass? name Unicode.scripts

/-- The class of the characters that have a value of a property. -/
def valueClass? (property value : String) : Option CharClass :=
  if property = "gc" ∨ property = "generalcategory" then categoryClass? value
  else if property = "sc" ∨ property = "script" then memberClass? value Unicode.scripts
  else if property = "scx" ∨ property = "scriptextensions" then widerScriptClass? value
  else if property = "age" then (Unicode.agedUpTo value Unicode.ages).map .ofRanges
  else if property = "gcb" ∨ property = "graphemeclusterbreak" then
    memberClass? value Unicode.graphemeBreaks
  else if property = "wb" ∨ property = "wordbreak" then memberClass? value Unicode.wordBreaks
  else if property = "sb" ∨ property = "sentencebreak" then memberClass? value Unicode.sentenceBreaks
  else none

/-- Splits a text at the first place where a sign stands. -/
def splitAtSign (sign : List Char) (before : List Char) : List Char → Option (List Char × List Char)
  | [] => none
  | c :: cs =>
    if sign.isPrefixOf (c :: cs) then some (before.reverse, (c :: cs).drop sign.length)
    else splitAtSign sign (c :: before) cs

/-- What the text between the braces of a property asks for. -/
inductive PropertyQuery
  | named (name : List Char)
  /-- The characters that have a value of a property, or those that do not. -/
  | valued (property value : List Char) (has : Bool)

/-- Reads the text between the braces of a property: it is split at the first `!=`, else at the first colon, else
at the first equals sign. -/
def PropertyQuery.ofText (text : List Char) : PropertyQuery :=
  match splitAtSign ['!', '='] [] text with
  | some (property, value) => valued property value false
  | none =>
    match splitAtSign [':'] [] text with
    | some (property, value) => valued property value true
    | none =>
      match splitAtSign ['='] [] text with
      | some (property, value) => valued property value true
      | none => named text

/-- The query asks for the characters outside the class. -/
def PropertyQuery.negated : PropertyQuery → Bool
  | named _ => false
  | valued _ _ has => !has

def PropertyQuery.class? : PropertyQuery → Option CharClass
  | named name => namedClass? (Unicode.looseName name)
  | valued property value _ => valueClass? (Unicode.looseName property) (Unicode.looseName value)

end FieldRules.Regex
