import FieldRules.Bounds
import FieldRules.Component
import FieldRules.Regex.Basic

/-!
# Checks (`crates/validator/src/builders/common.rs:95-168`, `context.rs:54-99`)

The directives of a rule that judge a value become *checks*, carried out in order. A check that fails adds its
code to the verdict; a code is never added twice. A *test* is a check that looks at nothing but the value.
-/

namespace FieldRules

/-! ## Tests -/

/-- A condition on the value that a rule type reads. -/
inductive Test
  | oneOfTexts (allowed : List String)
  | oneOfIntegers (allowed : List Int)
  | oneOfNumbers (allowed : List Float)
  | length (bounds : Bounds Nat)
  | integerRange (bounds : Bounds Int)
  | numberRange (bounds : Bounds Float)
  | fullMatch (regex : Regex)
  | equals (expected : Bool)

def Json.toDouble? : Json → Option Float
  | .int n => some (Numeral.doubleOfInt n)
  | .float x => some x
  | _ => none

/-- The number of characters of a text, or of members of a container. -/
def Json.length? : Json → Option Nat
  | .str s => some s.length
  | .arr items => some items.length
  | .obj members => some members.length
  | _ => none

def Json.toText? : Json → Option String
  | .str s => some s
  | _ => none

def Json.toInteger? : Json → Option Int
  | .int n => some n
  | _ => none

/-- A value passes a test; one of a kind that the test is not made for does not. -/
def Test.holds : Test → Json → Bool
  | oneOfTexts allowed, value => value.toText?.any allowed.contains
  | oneOfIntegers allowed, value => value.toInteger?.any allowed.contains
  | oneOfNumbers allowed, value => value.toDouble?.any fun x => allowed.any (· == x)
  | length bounds, value => value.length?.any bounds.contains
  | integerRange bounds, value => value.toInteger?.any bounds.contains
  | numberRange bounds, value => value.toDouble?.any bounds.contains
  | fullMatch regex, value => value.toText?.any regex.isMatch
  | equals expected, .bool b => b == expected
  | equals _, _ => false

/-! ## Verdicts -/

/-- What a rule makes of a field: whether it is unset, and the codes of what is wrong with it, in the order in which
they were met (context.rs:54-99). -/
structure Verdict where
  unset : Bool := false
  codes : List String := []
  deriving DecidableEq, Repr

namespace Verdict

/-- Adds a code to a list, unless it is there. -/
def addCode (code : String) (codes : List String) : List String :=
  if codes.contains code then codes else codes ++ [code]

def add (verdict : Verdict) (code : String) : Verdict :=
  { verdict with codes := addCode code verdict.codes }

def hasErrors (verdict : Verdict) : Bool :=
  !verdict.codes.isEmpty

end Verdict

/-! ## Checks -/

/-- One step in judging a value. -/
inductive Check
  /-- Ends the checks when one before failed. -/
  | stopIfFailed
  /-- Fails when one of the fields is set. -/
  | exclusive (fields : List String) (code : String)
  /-- Fails when the component does not accept the value. -/
  | external (name : String) (component : Component) (code : String)
  /-- Fails when the value does not pass the test. -/
  | test (condition : Test) (code : String)

namespace Check

def code? : Check → Option String
  | stopIfFailed => none
  | exclusive _ code => some code
  | external _ _ code => some code
  | test _ code => some code

/-- Carries out checks on a value read at a path, given the fields known to be set and the codes added so far. A
component that fails ends them with an error (common.rs:130-168). -/
def runAll (path : String) (known : List String) (value : Json) :
    List Check → List String → Traced (Except SubjectError (List String))
  | [], codes => .pure (.ok codes)
  | .stopIfFailed :: checks, codes =>
    if codes.isEmpty then runAll path known value checks codes else .pure (.ok codes)
  | .exclusive fields code :: checks, codes =>
    runAll path known value checks
      (if fields.any known.contains then Verdict.addCode code codes else codes)
  | .external name component code :: checks, codes =>
    match component value with
    | .error reason => ⟨.error (.external path name reason), [⟨name, value⟩]⟩
    | .ok accepted =>
      .after [⟨name, value⟩]
        (runAll path known value checks (if accepted then codes else Verdict.addCode code codes))
  | .test condition code :: checks, codes =>
    runAll path known value checks (if condition.holds value then codes else Verdict.addCode code codes)

end Check

end FieldRules
