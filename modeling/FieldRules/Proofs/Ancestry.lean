import FieldRules.Subject

/-!
# Fields below a field

The keys of a path are those of an ancestor followed by at least one more. So a payload is read at the path
by reading it at the ancestor and going on from there (`walk_append`): what is missing at the ancestor is
missing below it, and nothing can be read below a value that is no object. The gates of a validation rest on
these two facts.
-/

namespace FieldRules

namespace Path

theorem isAncestor_iff {ancestor path : String} :
    IsAncestor ancestor path ↔ ∃ rest, path.toList = ancestor.toList ++ '.' :: rest := by
  simp only [IsAncestor, ancestors, List.mem_map, mem_ancestorChars]
  constructor
  · rintro ⟨start, ⟨rest, h⟩, rfl⟩
    exact ⟨rest, by simpa using h⟩
  · rintro ⟨rest, h⟩
    exact ⟨ancestor.toList, ⟨rest, h⟩, String.ofList_toList⟩

/-- An ancestor of an ancestor is an ancestor. -/
theorem IsAncestor.trans {a b c : String} (hab : IsAncestor a b) (hbc : IsAncestor b c) : IsAncestor a c := by
  obtain ⟨r, hr⟩ := isAncestor_iff.1 hab
  obtain ⟨s, hs⟩ := isAncestor_iff.1 hbc
  exact isAncestor_iff.2 ⟨r ++ '.' :: s, by rw [hs, hr]; simp⟩

/-- The keys of a path are those of an ancestor and some more. -/
theorem segments_of_isAncestor {ancestor path : String} (h : IsAncestor ancestor path) :
    ∃ key keys, segments path = segments ancestor ++ key :: keys := by
  obtain ⟨rest, hr⟩ := isAncestor_iff.1 h
  have cut : segments path = segments ancestor ++ (Text.splitChars '.' rest).map String.ofList := by
    simp [segments, Text.split, hr, Text.splitChars_append]
  cases hs : Text.splitChars '.' rest with
  | nil => exact absurd hs (Text.splitChars_ne_nil _ _)
  | cons piece pieces => exact ⟨_, _, by rw [cut, hs]; rfl⟩

end Path

namespace Subject

/-- Where following some keys leads to, as a position. -/
def positionAfter (position : Option String) (keys : List String) : Option String :=
  keys.foldl (fun position key => some (extend position key)) position

/-- **Following keys in two stretches** is following them in one: a field that is unset or out of reach after the
first stretch stays so. -/
theorem walk_append (value : Json) (position : Option String) (keys more : List String) :
    walk value position (keys ++ more) =
      match walk value position keys with
      | .error error => .error error
      | .ok none => .ok none
      | .ok (some next) => walk next (positionAfter position keys) more := by
  induction keys generalizing value position with
  | nil => simp [walk, positionAfter]
  | cons key keys ih =>
    cases value with
    | obj members =>
      simp only [List.cons_append, walk]
      cases members.lookup key with
      | none => rfl
      | some next =>
        cases next with
        | null => rfl
        | _ => exact ih _ _
    | _ => rfl

/-- A field is unset below one that is. -/
theorem resolve_below_unset {subject : Json} {ancestor path : String} (h : Path.IsAncestor ancestor path)
    (unset : resolve subject ancestor = .ok none) : resolve subject path = .ok none := by
  obtain ⟨key, keys, hk⟩ := Path.segments_of_isAncestor h
  rw [resolve] at unset ⊢
  rw [hk, walk_append, unset]

/-- Nothing can be read below a text. -/
theorem resolve_below_text {subject : Json} {ancestor path text : String} (h : Path.IsAncestor ancestor path)
    (found : resolve subject ancestor = .ok (some (.str text))) : ∃ error, resolve subject path = .error error := by
  obtain ⟨key, keys, hk⟩ := Path.segments_of_isAncestor h
  rw [resolve] at found ⊢
  rw [hk, walk_append, found]
  exact ⟨_, rfl⟩

end Subject

end FieldRules
