import FieldRules.Text.Split

/-!
# Field paths (`crates/validator/src/rule.rs:137-141`)

A path such as `address.city` names a field by the keys on the way to it, separated by dots. Its *ancestors*
are the paths that end before one of its dots, from the shortest to the longest.
-/

namespace FieldRules.Path

/-- The keys on the way to a field, its own last. -/
def segments (path : String) : List String :=
  Text.split '.' path

/-- What stands before each dot. -/
def ancestorChars : List Char → List (List Char)
  | [] => []
  | c :: cs =>
    if c = '.' then [] :: (ancestorChars cs).map (c :: ·) else (ancestorChars cs).map (c :: ·)

/-- The ancestors of a path, the shortest first. -/
def ancestors (path : String) : List String :=
  (ancestorChars path.toList).map String.ofList

/-- One path is a proper ancestor of another. -/
def IsAncestor (ancestor path : String) : Prop :=
  ancestor ∈ ancestors path

instance (ancestor path : String) : Decidable (IsAncestor ancestor path) :=
  inferInstanceAs (Decidable (_ ∈ _))

/-- What stands before a dot is what a dot follows. -/
theorem mem_ancestorChars {start cs : List Char} :
    start ∈ ancestorChars cs ↔ ∃ rest, cs = start ++ '.' :: rest := by
  induction cs generalizing start with
  | nil => simp [ancestorChars]
  | cons c cs ih =>
    simp only [ancestorChars]
    cases start with
    | nil => by_cases h : c = '.' <;> simp [h]
    | cons d ds => by_cases h : c = '.' <;> simp [h, ih] <;> grind

end FieldRules.Path
