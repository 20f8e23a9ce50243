import FieldRules.Regex.Pattern
import FieldRules.Regex.Property

/-!
# Matching (called at `crates/validator/src/builders/string.rs:133`)

The places of a text of `n` characters are numbered from 0 to `n`; a set of places is a number whose bit `i`
says whether place `i` is in the set. A pattern moves a set of places on: `advance` gives the places where a
match can end that starts at one of the given places. The atoms of a pattern are first turned into sets of
places, so that moving on is bit arithmetic. Repetition stops as soon as another round changes nothing.
-/

namespace FieldRules.Regex

/-- A set of places of a text, one bit a place. -/
abbrev Places := Nat

/-! ## Atoms as sets of places -/

/-- The set of the places below a bound that have a property. -/
def placesWhere (p : Nat → Bool) : Nat → Places
  | 0 => 0
  | n + 1 => (if p n then 1 <<< n else 0) + placesWhere p n

def isWordChar : WordKind → Char → Bool
  | .unicode, c =>
    if c.toNat < 128 then asciiWordClass.contains c else wordClass.contains c
  | .ascii, c => asciiWordClass.contains c

def charBefore? (text : Array Char) (i : Nat) : Option Char :=
  if i = 0 then none else text[i - 1]?

def charAfter? (text : Array Char) (i : Nat) : Option Char :=
  text[i]?

def Look.holds (text : Array Char) (i : Nat) : Look → Bool
  | textStart => i == 0
  | textEnd => i == text.size
  | lineStart => i == 0 || charBefore? text i == some '\n'
  | lineEnd => i == text.size || charAfter? text i == some '\n'
  | anyLineStart =>
    i == 0 || charBefore? text i == some '\n'
      || (charBefore? text i == some '\r' && charAfter? text i != some '\n')
  | anyLineEnd =>
    i == text.size || charAfter? text i == some '\r'
      || (charAfter? text i == some '\n' && charBefore? text i != some '\r')
  | boundary kind => before kind != after kind
  | notBoundary kind => before kind == after kind
  | wordStart kind => !before kind && after kind
  | wordEnd kind => before kind && !after kind
  | wordStartHalf kind => !before kind
  | wordEndHalf kind => !after kind
where
  before (kind : WordKind) : Bool := (charBefore? text i).any (isWordChar kind)
  after (kind : WordKind) : Bool := (charAfter? text i).any (isWordChar kind)

/-- The places before the characters of a class. -/
def CharClass.places (text : Array Char) (cls : CharClass) : Places :=
  placesWhere (fun i => text[i]?.any cls.contains) text.size

def Look.places (text : Array Char) (condition : Look) : Places :=
  placesWhere (fun i => condition.holds text i) (text.size + 1)

/-! ## Moving on -/

/-- Applies a function a number of times, or until it changes nothing. -/
def iterate (f : Places → Places) : Nat → Places → Places
  | 0, s => s
  | n + 1, s =>
    let next := f s
    if next = s then s else iterate f n next

/-- The places that a match from one of the given places can end at; `size` is the length of the text. -/
def advance (size : Nat) : Pattern Places Places → Places → Places
  | .empty, s => s
  | .char cls, s => (s &&& cls) <<< 1
  | .look condition, s => s &&& condition
  | .cat a b, s => advance size b (advance size a s)
  | .alt a b, s => advance size a s ||| advance size b s
  | .rep body min max, s =>
    iterate (fun t => t ||| advance size body t)
      (match max with
        | none => size + 1
        | some max => max - min)
      (iterate (advance size body) min s)

/-- A pattern whose atoms are character classes and conditions. -/
abbrev Expression := Pattern CharClass Look

/-- The pattern matches some stretch of the text. -/
def Expression.occursIn (expression : Expression) (text : Array Char) : Bool :=
  advance text.size (expression.map (·.places text) (·.places text)) (1 <<< (text.size + 1) - 1) != 0

/-! ## What a match is -/

/-- The pattern matches the stretch of the text from one place to another. -/
inductive Matches (text : Array Char) : Expression → Nat → Nat → Prop
  | empty {i : Nat} : i ≤ text.size → Matches text .empty i i
  | char {cls : CharClass} {i : Nat} {c : Char} :
      text[i]? = some c → cls.contains c → Matches text (.char cls) i (i + 1)
  | look {condition : Look} {i : Nat} :
      i ≤ text.size → condition.holds text i → Matches text (.look condition) i i
  | cat {a b : Expression} {i j k : Nat} :
      Matches text a i j → Matches text b j k → Matches text (.cat a b) i k
  | left {a b : Expression} {i j : Nat} : Matches text a i j → Matches text (.alt a b) i j
  | right {a b : Expression} {i j : Nat} : Matches text b i j → Matches text (.alt a b) i j
  | stop {body : Expression} {max : Option Nat} {i : Nat} :
      i ≤ text.size → Matches text (.rep body 0 max) i i
  | more {body : Expression} {min : Nat} {max : Option Nat} {i j k : Nat} :
      max ≠ some 0 → Matches text body i j →
      Matches text (.rep body (min - 1) (max.map (· - 1))) j k → Matches text (.rep body min max) i k

end FieldRules.Regex
