import FieldRules.Regex.CharClass

/-!
# Patterns (called at `crates/validator/src/builders/string.rs:133`)

A pattern describes stretches of a text. Groups, greediness and names leave no trace in it, since a match is
only ever asked for, never taken apart. Atoms are characters of a class and *looks*, conditions on a place of
the text that take up no character.
-/

namespace FieldRules.Regex

/-- The characters that words are made of: those of every script, or those of ASCII. -/
inductive WordKind
  | unicode
  | ascii
  deriving DecidableEq, Repr

inductive Look
  | textStart
  | textEnd
  | lineStart
  | lineEnd
  /-- The start of a line that ends in a line feed, a carriage return or both. -/
  | anyLineStart
  | anyLineEnd
  | boundary (kind : WordKind)
  | notBoundary (kind : WordKind)
  | wordStart (kind : WordKind)
  | wordEnd (kind : WordKind)
  | wordStartHalf (kind : WordKind)
  | wordEndHalf (kind : WordKind)
  deriving DecidableEq, Repr

/-- A pattern over atoms: `χ` describes the characters and `ρ` the places. -/
inductive Pattern (χ ρ : Type)
  | empty
  | char (cls : χ)
  | look (condition : ρ)
  | cat (a b : Pattern χ ρ)
  | alt (a b : Pattern χ ρ)
  /-- At least `min` and, if there is a bound, at most `max` matches one after another. -/
  | rep (body : Pattern χ ρ) (min : Nat) (max : Option Nat)
  deriving Repr

namespace Pattern

variable {χ ρ χ' ρ' : Type}

def map (f : χ → χ') (g : ρ → ρ') : Pattern χ ρ → Pattern χ' ρ'
  | empty => empty
  | char cls => char (f cls)
  | look condition => look (g condition)
  | cat a b => cat (a.map f g) (b.map f g)
  | alt a b => alt (a.map f g) (b.map f g)
  | rep body min max => rep (body.map f g) min max

def catAll : List (Pattern χ ρ) → Pattern χ ρ
  | [] => empty
  | [a] => a
  | a :: rest => cat a (catAll rest)

/-- The pattern takes up no characters, whatever it matches. -/
def isWidthless : Pattern χ ρ → Bool
  | empty => true
  | char _ => false
  | look _ => true
  | cat a b => a.isWidthless && b.isWidthless
  | alt a b => a.isWidthless && b.isWidthless
  | rep body _ max => body.isWidthless || max == some 0

/-- Any of the patterns; there is at least one. -/
def altAll (first : Pattern χ ρ) : List (Pattern χ ρ) → Pattern χ ρ
  | [] => first
  | second :: rest => alt first (altAll second rest)

end Pattern

end FieldRules.Regex
