import FieldRules.Regex.Match
import FieldRules.Regex.Scan

/-!
# Escapes (called at `crates/validator/src/builders/string.rs:133`)

What may follow a backslash: a sign that stands for itself, a character by name or number, a class, or a
condition on a place.
-/

namespace FieldRules.Regex

/-- One item of a pattern, before case folding. -/
inductive Primitive
  | literal (c : Char)
  | cls (cls : CharClass)
  | look (condition : Look)

/-- The signs with a meaning in some place of a pattern. -/
def isSign (c : Char) : Bool :=
  "\\.+*?()|[]\x7b\x7d^$#&-~".toList.contains c

/-- A character that a backslash makes stand for itself: any in ASCII but letters, digits and angle brackets. -/
def isEscapable (c : Char) : Bool :=
  isSign c || (c.toNat < 128 && !c.isAlphanum && c != '<' && c != '>')

def charWithCode? (code : Nat) : Option Char :=
  if h : code.isValidChar then some (Char.ofNatAux code h) else none

def Flags.wordKind (flags : Flags) : WordKind :=
  if flags.unicode then .unicode else .ascii

/-- A character given by a number of hexadecimal digits, or by digits in braces. A character above ASCII that is
given by two digits is a byte, which only Unicode patterns take for a character. -/
def readCode (flags : Flags) (digits : Nat) (cs : List Char) : Option (Primitive × List Char) :=
  match skip flags.verbose cs with
  | '{' :: cs => do
    let (content, rest) ← takeBraced flags.verbose false cs
    let c ← (Numeral.readHex? content).bind charWithCode?
    some (.literal c, rest)
  | cs => do
    let (content, rest) ← takeCounting flags.verbose false digits cs
    let c ← (Numeral.readHex? content).bind charWithCode?
    if digits = 2 ∧ !flags.unicode ∧ 128 ≤ c.toNat then none else some (.literal c, rest)

/-- A class given by a property: a letter or a text in braces. -/
def readProperty (flags : Flags) (negated : Bool) (cs : List Char) : Option (Primitive × List Char) := do
  let (content, rest) ←
    match skip flags.verbose cs with
    | '{' :: cs => takeBraced flags.verbose false cs
    | cs => takeCounting flags.verbose false 1 cs
  let query := PropertyQuery.ofText content
  let cls ← if flags.unicode then query.class? else none
  let cls := if flags.ignoreCase then CharClass.folded cls else cls
  some (.cls (cls.negateIf (negated != query.negated)), rest)

/-- A short class; its complement holds characters above ASCII, which only Unicode patterns may accept. -/
def shortClass (flags : Flags) (negated : Bool) (cls : ShortClass) : Option Primitive :=
  if negated ∧ !flags.unicode then none
  else some (.cls ((cls.members flags.unicode).negateIf negated))

def wordLook? (kind : WordKind) (name : List Char) : Option Look :=
  if name = "start".toList then some (.wordStart kind)
  else if name = "end".toList then some (.wordEnd kind)
  else if name = "start-half".toList then some (.wordStartHalf kind)
  else if name = "end-half".toList then some (.wordEndHalf kind)
  else none

/-- A letter or hyphen, as the names of conditions on words are made of. -/
def isLookNameChar (c : Char) : Bool :=
  c.isAlpha || c == '-'

/-- What follows `\b`: the name of a condition in braces, or nothing that belongs to it. -/
def readBoundary (flags : Flags) (cs : List Char) : Option (Primitive × List Char) :=
  match cs with
  | '{' :: after => do
    let (content, rest) ← takeBraced flags.verbose false after
    match content with
    | c :: _ =>
      if isLookNameChar c then
        let condition ← wordLook? flags.wordKind content
        some (.look condition, rest)
      else some (.look (.boundary flags.wordKind), cs)
    | [] => some (.look (.boundary flags.wordKind), cs)
  | _ => some (.look (.boundary flags.wordKind), cs)

def readEscape (flags : Flags) : List Char → Option (Primitive × List Char)
  | [] => none
  | c :: cs =>
    if isEscapable c then some (.literal c, cs)
    else
      match c with
      | 'x' => readCode flags 2 cs
      | 'u' => readCode flags 4 cs
      | 'U' => readCode flags 8 cs
      | 'p' => readProperty flags false cs
      | 'P' => readProperty flags true cs
      | 'd' => (shortClass flags false .digit).map (·, cs)
      | 'D' => (shortClass flags true .digit).map (·, cs)
      | 's' => (shortClass flags false .space).map (·, cs)
      | 'S' => (shortClass flags true .space).map (·, cs)
      | 'w' => (shortClass flags false .word).map (·, cs)
      | 'W' => (shortClass flags true .word).map (·, cs)
      | 'a' => some (.literal '\x07', cs)
      | 'f' => some (.literal '\x0c', cs)
      | 't' => some (.literal '\t', cs)
      | 'n' => some (.literal '\n', cs)
      | 'r' => some (.literal '\r', cs)
      | 'v' => some (.literal '\x0b', cs)
      | 'A' => some (.look .textStart, cs)
      | 'z' => some (.look .textEnd, cs)
      | 'b' => readBoundary flags cs
      | 'B' => some (.look (.notBoundary flags.wordKind), cs)
      | '<' => some (.look (.wordStart flags.wordKind), cs)
      | '>' => some (.look (.wordEnd flags.wordKind), cs)
      | _ => none

end FieldRules.Regex
