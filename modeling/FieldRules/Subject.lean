import FieldRules.Error
import FieldRules.Path

/-!
# Reading a payload by path (`crates/validator/src/subject.rs:15-56`)

A path is followed one key at a time. A key that is missing or holds null leaves the field unset; a value on
the way that is not an object is an error, reported at the path up to that value.
-/

namespace FieldRules.Subject

/-- How messages call the payload itself. -/
def rootName : String :=
  "$"

/-- The path of a member of the value at a position; the payload itself has no position. -/
def extend (position : Option String) (key : String) : String :=
  match position with
  | none => key
  | some path => path ++ "." ++ key

/-- Follows keys from a value at a position. -/
def walk (value : Json) (position : Option String) : List String → Except SubjectError (Option Json)
  | [] => .ok (some value)
  | key :: keys =>
    match value with
    | .obj members =>
      match members.lookup key with
      | none => .ok none
      | some .null => .ok none
      | some next => walk next (some (extend position key)) keys
    | other => .error (.notAnObject (position.getD rootName) other.kind)

/-- The value that a path leads to, or nothing for a field that is unset (subject.rs:20-56). -/
def resolve (subject : Json) (path : String) : Except SubjectError (Option Json) :=
  walk subject none (Path.segments path)

end FieldRules.Subject
