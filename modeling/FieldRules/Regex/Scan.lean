import FieldRules.Numeral.Radix
import FieldRules.Regex.Flags
import FieldRules.Text.Blank

/-!
# Blanks and comments in verbose patterns (called at `crates/validator/src/builders/string.rs:133`)

Under the verbose flag blanks count nothing, nor does a comment: from `#` to the end of its line. The
functions here read the next characters that count.
-/

namespace FieldRules.Regex

/-- Drops blanks and comments; the first argument tells whether a comment is being read. -/
def dropTrivia (inComment : Bool) : List Char → List Char
  | [] => []
  | c :: cs =>
    if inComment then dropTrivia (c != '\n') cs
    else if Text.isBlank c then dropTrivia false cs
    else if c = '#' then dropTrivia true cs
    else c :: cs

/-- The pattern from the next character that counts. -/
def skip (verbose : Bool) (cs : List Char) : List Char :=
  if verbose then dropTrivia false cs else cs

def takeCounting (verbose : Bool) (inComment : Bool) (count : Nat) :
    List Char → Option (List Char × List Char)
  | [] => if count = 0 then some ([], []) else none
  | c :: cs =>
    if count = 0 then some ([], c :: cs)
    else if inComment then takeCounting verbose (c != '\n') count cs
    else if verbose && Text.isBlank c then takeCounting verbose false count cs
    else if verbose && c == '#' then takeCounting verbose true count cs
    else
      match takeCounting verbose false (count - 1) cs with
      | none => none
      | some (taken, rest) => some (c :: taken, rest)

/-- The characters that count up to a closing brace, and what follows the brace. -/
def takeBraced (verbose : Bool) (inComment : Bool) : List Char → Option (List Char × List Char)
  | [] => none
  | c :: cs =>
    if inComment then takeBraced verbose (c != '\n') cs
    else if verbose && Text.isBlank c then takeBraced verbose false cs
    else if verbose && c == '#' then takeBraced verbose true cs
    else if c = '}' then some ([], cs)
    else
      match takeBraced verbose false cs with
      | none => none
      | some (taken, rest) => some (c :: taken, rest)

end FieldRules.Regex
