import FieldRules.Regex.Pattern

/-!
# The shapes of patterns (called at `crates/validator/src/builders/string.rs:133`)

The shape of a pattern is what its automaton is built from. Neighbouring characters make one text, a choice between
single characters or between classes is a class, what the branches of a choice have in common at their starts stands
before the choice, and groups that keep nothing leave no trace. Shapes are put together by the functions here, which
keep them so.
-/

namespace FieldRules.Regex

open Text (CharRanges)

/-- What the members of a class are: characters, or bytes that encode ASCII. -/
inductive ClassKind
  | characters
  | bytes
  deriving DecidableEq, Repr

/-- The condition tells apart the words of every script. -/
def Look.asksForWords : Look → Bool
  | boundary kind => kind == .unicode
  | notBoundary kind => kind == .unicode
  | wordStart kind => kind == .unicode
  | wordEnd kind => kind == .unicode
  | wordStartHalf kind => kind == .unicode
  | wordEndHalf kind => kind == .unicode
  | _ => false

inductive Shape
  | empty
  /-- Characters one after another; there is at least one. -/
  | text (characters : List Char)
  /-- The members of a class in sorted ranges; there are none, or more than one. -/
  | cls (kind : ClassKind) (ranges : CharRanges)
  | look (condition : Look)
  | rep (body : Shape) (min : Nat) (max : Option Nat) (greedy : Bool)
  /-- A group that keeps what it matches. -/
  | group (number : Nat) (body : Shape)
  /-- Two shapes or more one after another. -/
  | cat (parts : List Shape)
  /-- Any of two shapes or more. -/
  | alt (branches : List Shape)
  deriving Repr

namespace Shape

/-! ## Equality -/

mutual

def same : Shape → Shape → Bool
  | empty, empty => true
  | text characters, text characters' => characters == characters'
  | cls kind ranges, cls kind' ranges' => kind == kind' && ranges == ranges'
  | look condition, look condition' => condition == condition'
  | rep body min max greedy, rep body' min' max' greedy' =>
    body.same body' && min == min' && max == max' && greedy == greedy'
  | group number body, group number' body' => number == number' && body.same body'
  | cat parts, cat parts' => areSame parts parts'
  | alt branches, alt branches' => areSame branches branches'
  | _, _ => false

def areSame : List Shape → List Shape → Bool
  | [], [] => true
  | shape :: shapes, shape' :: shapes' => shape.same shape' && areSame shapes shapes'
  | _, _ => false

end

mutual

theorem same_iff (shape shape' : Shape) : shape.same shape' = true ↔ shape = shape' := by
  cases shape <;> cases shape' <;> simp [same]
  case rep.rep body _ _ _ body' _ _ _ => simp [same_iff body body', and_assoc]
  case group.group _ body _ body' => simp [same_iff body body']
  case cat.cat parts parts' => exact areSame_iff parts parts'
  case alt.alt branches branches' => exact areSame_iff branches branches'

theorem areSame_iff (shapes shapes' : List Shape) : areSame shapes shapes' = true ↔ shapes = shapes' := by
  cases shapes with
  | nil => cases shapes' <;> simp [areSame]
  | cons shape shapes =>
    cases shapes' with
    | nil => simp [areSame]
    | cons shape' shapes' => simp [areSame, same_iff shape shape', areSame_iff shapes shapes']

end

instance : DecidableEq Shape :=
  fun shape shape' => decidable_of_iff _ (same_iff shape shape')

/-! ## Putting shapes together -/

/-- The shape of a class; a class with one member is that character, and there is one class without members. -/
def ofClass (kind : ClassKind) (ranges : CharRanges) : Shape :=
  match ranges with
  | [] => cls .bytes []
  | [(low, high)] => if low = high then text [Char.ofNat low] else cls kind ranges
  | ranges => cls kind ranges

def parts : Shape → List Shape
  | empty => []
  | cat shapes => shapes
  | shape => [shape]

/-- Joins the texts that stand side by side. -/
def joinTexts : List Shape → List Shape
  | [] => []
  | text characters :: shapes =>
    match joinTexts shapes with
    | text more :: rest => text (characters ++ more) :: rest
    | rest => text characters :: rest
  | shape :: shapes => shape :: joinTexts shapes

def sequence (shapes : List Shape) : Shape :=
  match joinTexts (shapes.flatMap parts) with
  | [] => empty
  | [shape] => shape
  | shapes => cat shapes

def branches : Shape → List Shape
  | alt shapes => shapes
  | shape => [shape]

def charRange? : Shape → Option (Nat × Nat)
  | text [c] => some (c.toNat, c.toNat)
  | _ => none

def classRanges? : Shape → Option CharRanges
  | cls _ ranges => some ranges
  | _ => none

/-- Any of the shapes; single characters make a class, and so do classes. -/
def mergeBranches (shapes : List Shape) : Shape :=
  match shapes.flatMap branches with
  | [shape] => shape
  | shapes =>
    match shapes.mapM charRange? with
    | some ranges => ofClass .characters (normalRanges ranges)
    | none =>
      match shapes.mapM classRanges? with
      | some classes => ofClass .characters (normalRanges classes.flatten)
      | none => alt shapes

/-- The parts that two sequences have in common at their starts. -/
def sharedParts : List Shape → List Shape → List Shape
  | a :: as, b :: bs => if a == b then a :: sharedParts as bs else []
  | _, _ => []

/-- The parts that all of the shapes have in common at their starts; only sequences have any. -/
def sharedStart : List Shape → List Shape
  | [] => []
  | [cat parts] => parts
  | cat parts :: shapes => sharedParts parts (sharedStart shapes)
  | _ => []

/-- Any of the shapes, with what they have in common at their starts before the choice. -/
def choice (shapes : List Shape) : Shape :=
  match mergeBranches shapes with
  | alt shapes =>
    match sharedStart shapes with
    | [] => alt shapes
    | shared =>
      sequence (shared ++ [mergeBranches (shapes.map fun shape =>
        sequence (shape.parts.drop shared.length))])
  | shape => shape

def repeated (body : Shape) (min : Nat) (max : Option Nat) (greedy : Bool) : Shape :=
  if max = some 0 then empty
  else if min = 1 ∧ max = some 1 then body
  else rep body min max greedy

/-! ## Properties -/

mutual

/-- The least number of characters of a match; nothing if there cannot be a match. -/
def minLength : Shape → Option Nat
  | empty => some 0
  | text characters => some characters.length
  | cls _ ranges => if ranges.isEmpty then none else some 1
  | look _ => some 0
  | rep body min _ _ => body.minLength.map fun length => min * length
  | group _ body => body.minLength
  | cat parts => sumLength parts
  | alt branches => leastLength branches

def sumLength : List Shape → Option Nat
  | [] => some 0
  | shape :: shapes => do
    let length ← shape.minLength
    let rest ← sumLength shapes
    some (length + rest)

/-- The least number of characters of a match of any of the shapes, if each of them can match. -/
def leastLength : List Shape → Option Nat
  | [] => none
  | [shape] => shape.minLength
  | shape :: shapes => do
    let length ← shape.minLength
    let others ← leastLength shapes
    some (Nat.min length others)

end

mutual

/-- The shape takes up no characters, whatever it matches. -/
def isWidthless : Shape → Bool
  | empty => true
  | text _ => false
  | cls _ _ => false
  | look _ => true
  | rep body _ _ _ => body.isWidthless
  | group _ body => body.isWidthless
  | cat parts => areWidthless parts
  | alt branches => areWidthless branches

def areWidthless : List Shape → Bool
  | [] => true
  | shape :: shapes => shape.isWidthless && areWidthless shapes

end

inductive TextEdge
  | start
  | finish
  deriving DecidableEq, Repr

def TextEdge.look : TextEdge → Look
  | start => .textStart
  | finish => .textEnd

mutual

/-- A match has to lie at an edge of the text: the shape asks for it on that side, before it takes up anything. -/
def isHeldAt (edge : TextEdge) : Shape → Bool
  | empty => false
  | text _ => false
  | cls _ _ => false
  | look condition => condition == edge.look
  | rep body min _ _ => decide (0 < min) && body.isHeldAt edge
  | group _ body => body.isHeldAt edge
  | cat parts =>
    match edge with
    | .start => startsHeld parts
    | .finish => endsHeld parts
  | alt branches => areHeldAt edge branches

def startsHeld : List Shape → Bool
  | [] => false
  | shape :: shapes => shape.isHeldAt .start || (shape.isWidthless && startsHeld shapes)

def endsHeld : List Shape → Bool
  | [] => false
  | shape :: shapes => endsHeld shapes || (areWidthless shapes && shape.isHeldAt .finish)

def areHeldAt (edge : TextEdge) : List Shape → Bool
  | [] => true
  | shape :: shapes => shape.isHeldAt edge && areHeldAt edge shapes

end

mutual

/-- A condition in the shape tells apart the words of every script. -/
def asksForWords : Shape → Bool
  | look condition => condition.asksForWords
  | rep body _ _ _ => body.asksForWords
  | group _ body => body.asksForWords
  | cat parts => anyAsksForWords parts
  | alt branches => anyAsksForWords branches
  | _ => false

def anyAsksForWords : List Shape → Bool
  | [] => false
  | shape :: shapes => shape.asksForWords || anyAsksForWords shapes

end

end Shape

end FieldRules.Regex
