/-!
# Cutting a text at a character (called at `crates/validator/src/op.rs:149-157`, `subject.rs:29`)

`splitChars` cuts at every occurrence of a separator, so that `n` separators make `n + 1` pieces and the
pieces, with the separator between them, give the text back.
-/

namespace FieldRules.Text

/-- The pieces between the occurrences of a separator; the empty text is one empty piece. -/
def splitChars (separator : Char) : List Char → List (List Char)
  | [] => [[]]
  | c :: cs =>
    if c = separator then
      [] :: splitChars separator cs
    else
      match splitChars separator cs with
      | [] => [[c]]
      | piece :: pieces => (c :: piece) :: pieces

def split (separator : Char) (s : String) : List String :=
  (splitChars separator s.toList).map String.ofList

theorem splitChars_ne_nil (separator : Char) (cs : List Char) : splitChars separator cs ≠ [] := by
  cases cs with
  | nil => simp [splitChars]
  | cons c cs =>
    simp only [splitChars]
    split
    · simp
    · split <;> simp

theorem split_ne_nil (separator : Char) (s : String) : split separator s ≠ [] := by
  simp [split, splitChars_ne_nil]

/-- The pieces with the separator between them give the text back. -/
theorem intercalate_splitChars (separator : Char) (cs : List Char) :
    [separator].intercalate (splitChars separator cs) = cs := by
  induction cs with
  | nil => rfl
  | cons c cs ih =>
    simp only [splitChars]
    split
    · next h =>
      subst h
      cases hs : splitChars c cs with
      | nil => exact absurd hs (splitChars_ne_nil c cs)
      | cons piece pieces => simpa [hs, List.intercalate, List.intersperse] using ih
    · cases hs : splitChars separator cs with
      | nil => exact absurd hs (splitChars_ne_nil separator cs)
      | cons piece pieces =>
        cases pieces <;> simpa [hs, List.intercalate, List.intersperse] using ih

/-- Cutting at a separator first, and then both sides, is cutting everywhere. -/
theorem splitChars_append (separator : Char) (cs ds : List Char) :
    splitChars separator (cs ++ separator :: ds) = splitChars separator cs ++ splitChars separator ds := by
  induction cs with
  | nil => simp [splitChars]
  | cons c cs ih =>
    by_cases h : c = separator
    · simp [splitChars, h, ih]
    · cases hs : splitChars separator cs with
      | nil => exact absurd hs (splitChars_ne_nil separator cs)
      | cons piece pieces => simp [splitChars, h, ih, hs]

/-- A text without the separator is a single piece. -/
theorem splitChars_of_not_mem {separator : Char} {cs : List Char} (h : separator ∉ cs) :
    splitChars separator cs = [cs] := by
  induction cs with
  | nil => rfl
  | cons c cs ih =>
    simp only [List.mem_cons, not_or] at h
    simp [splitChars, Ne.symm h.1, ih h.2]

end FieldRules.Text
