import FieldRules.Error

/-!
# Bounds (`crates/validator/src/builders/common.rs:250-288`)

A pair of optional bounds, both inclusive. A bound is written as a number or as `*`, which leaves that side
open; a lower bound above the upper one is an error.
-/

namespace FieldRules

/-- An interval, open on the sides without a bound. -/
structure Bounds (α : Type) where
  min : Option α
  max : Option α
  deriving DecidableEq, Repr

namespace Bounds

def openMark : String :=
  "*"

variable {α : Type}

def contains [LE α] [DecidableLE α] (bounds : Bounds α) (value : α) : Bool :=
  bounds.min.all (fun min => decide (min ≤ value)) && bounds.max.all (fun max => decide (value ≤ max))

/-- Both bounds that are given have a property. -/
def all (bounds : Bounds α) (p : α → Bool) : Bool :=
  bounds.min.all p && bounds.max.all p

/-- The lower bound is above the upper one. -/
def isReversed [LT α] [DecidableLT α] (bounds : Bounds α) : Bool :=
  match bounds.min, bounds.max with
  | some min, some max => decide (max < min)
  | _, _ => false

/-- Reads one bound; a part that is missing leaves the side open. -/
def readBound (read : List Char → Option α) (part : Option String) :
    Except ParameterFault (Option α) :=
  match part.map Text.trim with
  | none => .ok none
  | some text =>
    if text = openMark then .ok none
    else
      match read text.toList with
      | none => .error (.notABound text)
      | some value => .ok (some value)

/-- Reads the bounds that a directive has as its first two arguments (common.rs:260-283). -/
def read [LT α] [DecidableLT α] (readValue : List Char → Option α) (directive : Directive) :
    Except ParameterFault (Bounds α) := do
  let min ← readBound readValue (directive.part? 1)
  let max ← readBound readValue (directive.part? 2)
  let bounds : Bounds α := ⟨min, max⟩
  if bounds.isReversed then .error .boundsReversed else .ok bounds

end Bounds

end FieldRules
