import FieldRules.Proofs.Ancestry
import FieldRules.Text.Bytes

/-!
# Reading a path in two stretches

What a path leads to is found by following its beginning and going on from there (`resolve_onward`). What is met below
the beginning is reported at the place seen from the payload (`walk_below`), so that an error always names the path up
to the value that is no object. That place is also the path up to a number of bytes, counted key by key: the count ends
on a whole character each time it is used, and the keys never run out before an answer (`scan_eq_resolve`).
-/

namespace FieldRules

/-- The error as it is seen from above: its place is below a path. -/
def SubjectError.below (path : String) : SubjectError → SubjectError
  | notAnObject place found => notAnObject (path ++ "." ++ place) found
  | typeMismatch place expected found => typeMismatch (path ++ "." ++ place) expected found
  | external field component reason => external (path ++ "." ++ field) component reason

/-! ## The keys of a path -/

/-- A path that goes on does so with a dot. -/
theorem Path.toList_append (path more : String) :
    (path ++ "." ++ more).toList = path.toList ++ '.' :: more.toList := by
  have dot : ".".toList = ['.'] := rfl
  simp [dot]

theorem Path.exists_segments_cons (path : String) : ∃ key keys, segments path = key :: keys :=
  List.exists_cons_of_ne_nil (Text.split_ne_nil '.' path)

theorem Path.segments_append (path more : String) :
    segments (path ++ "." ++ more) = segments path ++ segments more := by
  simp only [segments, Text.split, toList_append, Text.splitChars_append, List.map_append]

/-- A path without a dot is its only key. -/
theorem Path.segments_of_plain {key : String} (plain : '.' ∉ key.toList) : segments key = [key] := by
  simp [segments, Text.split, Text.splitChars_of_not_mem plain]

/-- A path is its keys with dots between them. -/
theorem Path.intercalate_segments (path : String) :
    ['.'].intercalate ((segments path).map String.toList) = path.toList := by
  simp [segments, Text.split, List.map_map, Function.comp_def, Text.intercalate_splitChars]

namespace Subject

variable {members : List (String × Json)} {path more : String}

/-- What stands before the next key at a position. -/
def opening : Option String → List Char
  | none => []
  | some path => path.toList ++ ['.']

theorem toList_extend (position : Option String) (key : String) :
    (extend position key).toList = opening position ++ key.toList := by
  cases position with
  | none => rfl
  | some path => simp [extend, opening]

/-- The position after some keys is the text of the path up to there. -/
theorem positionAfter_cons (position : Option String) (key : String) (keys : List String) :
    positionAfter position (key :: keys) =
      some (String.ofList (opening position ++ ['.'].intercalate ((key :: keys).map String.toList))) := by
  induction keys generalizing position key with
  | nil =>
    have whole : String.ofList (opening position ++ key.toList) = extend position key := by
      rw [← toList_extend, String.ofList_toList]
    simp [positionAfter, whole]
  | cons next keys ih =>
    have step : positionAfter position (key :: next :: keys) =
      positionAfter (some (extend position key)) (next :: keys) := rfl
    rw [step, ih]
    simp [opening, toList_extend, List.intercalate_cons_cons]

/-- All the keys of a path lead to the position of that name. -/
theorem positionAfter_segments (path : String) : positionAfter none (Path.segments path) = some path := by
  obtain ⟨key, keys, whole⟩ := Path.exists_segments_cons path
  rw [whole, positionAfter_cons, ← whole, Path.intercalate_segments]
  simp [opening]

/-! ## Going on from a path -/

/-- One key is followed to its member, and the others from there, unless the member is missing or null. -/
theorem walk_object_cons (position : Option String) (key : String) (keys : List String) :
    walk (.obj members) position (key :: keys) =
      match (members.lookup key).filter fun value => !value.isNull with
      | none => .ok none
      | some next => walk next (some (extend position key)) keys := by
  rw [walk]
  cases members.lookup key with
  | none => rfl
  | some next => cases next <;> rfl

/-- **Keys followed below a path** lead to what they lead to from where they start, and the errors on the way are
placed below the path. -/
theorem walk_below (value : Json) (start : String) (keys : List String) :
    walk value (some (path ++ "." ++ start)) keys =
      (walk value (some start) keys).mapError (SubjectError.below path) := by
  induction keys generalizing value start with
  | nil => rfl
  | cons key keys ih =>
    cases value with
    | obj members =>
      have further : extend (some (path ++ "." ++ start)) key = path ++ "." ++ extend (some start) key := by
        simp [extend, String.append_assoc]
      rw [walk_object_cons, walk_object_cons, further]
      cases (members.lookup key).filter fun value => !value.isNull with
      | none => rfl
      | some next => exact ih _ _
    | _ => rfl

theorem walk_object_below (keys : List String) : walk (.obj members) (some path) keys =
    (walk (.obj members) none keys).mapError (SubjectError.below path) := by
  cases keys with
  | nil => rfl
  | cons key keys =>
    rw [walk_object_cons, walk_object_cons]
    cases (members.lookup key).filter fun value => !value.isNull with
    | none => rfl
    | some next => exact walk_below next key keys

/-- What more of a path leads to, by what the path up to there leads to. -/
def onward (path more : String) : Except SubjectError (Option Json) → Except SubjectError (Option Json)
  | .error error => .error error
  | .ok none => .ok none
  | .ok (some (.obj members)) => (resolve (.obj members) more).mapError (SubjectError.below path)
  | .ok (some value) => .error (.notAnObject path value.kind)

/-- **A path is followed in two stretches**: its beginning, and the rest from what the beginning leads to. -/
theorem resolve_onward (subject : Json) (path more : String) :
    resolve subject (path ++ "." ++ more) = onward path more (resolve subject path) := by
  obtain ⟨key, keys, rest⟩ := Path.exists_segments_cons more
  unfold resolve
  rw [Path.segments_append, walk_append, positionAfter_segments]
  cases walk subject none (Path.segments path) with
  | error error => rfl
  | ok found =>
    cases found with
    | none => rfl
    | some value =>
      cases value with
      | obj members => exact walk_object_below _
      | _ =>
        rw [rest]
        rfl

/-- A single key leads to its member, if there is one that is not null. -/
theorem resolve_key {key : String} (plain : '.' ∉ key.toList) :
    resolve (.obj members) key = .ok ((members.lookup key).filter fun value => !value.isNull) := by
  rw [resolve, Path.segments_of_plain plain, walk_object_cons]
  cases (members.lookup key).filter fun value => !value.isNull <;> rfl

/-! ## Counting bytes -/

/-- Follows the keys that are left of a path, with a count of the bytes before them. Nothing comes of it when the keys
run out before there is an answer, or when the path cannot be cut after the bytes counted. -/
def scan (path : String) : List (String × Json) → List String → Nat → Option (Except SubjectError (Option Json))
  | _, [], _ => none
  | members, key :: keys, before =>
    let counted := before + Text.byteLength key.toList
    match members.lookup key with
    | none => some (.ok none)
    | some .null => some (.ok none)
    | some value =>
      if keys.isEmpty then some (.ok (some value))
      else
        match value with
        | .obj inner => scan path inner keys (counted + Text.byteLength ['.'])
        | other =>
          (Text.splitBytes? counted path.toList).map fun (start, _) =>
            .error (.notAnObject (String.ofList start) other.kind)

/-- Where the keys before have been counted, the count goes on to be that of the position. -/
theorem scan_eq_walk {position : Option String} {key : String} {keys : List String} {before : Nat}
    (whole : path.toList = opening position ++ ['.'].intercalate ((key :: keys).map String.toList))
    (count : before = Text.byteLength (opening position)) :
    scan path members (key :: keys) before = some (walk (.obj members) position (key :: keys)) := by
  induction keys generalizing members position key before with
  | nil =>
    simp only [scan, walk]
    cases members.lookup key with
    | none => rfl
    | some value => cases value <;> rfl
  | cons next keys ih =>
    have counted : before + Text.byteLength key.toList = Text.byteLength (extend position key).toList := by
      rw [toList_extend, Text.byteLength_append, count]
    have split : path.toList =
        (extend position key).toList ++ '.' :: ['.'].intercalate ((next :: keys).map String.toList) := by
      rw [whole, toList_extend]
      simp [List.intercalate_cons_cons]
    simp only [scan, walk, counted]
    cases members.lookup key with
    | none => rfl
    | some value =>
      cases value with
      | null => rfl
      | obj inner =>
        refine ih ?_ ?_
        · rw [split]
          simp [opening]
        · rw [opening, Text.byteLength_append]
      | _ =>
        -- The bytes counted are those of the position, which is where the path goes on with a dot.
        rw [Text.splitBytes?_eq_some_iff.2 ⟨split, rfl⟩]
        simp

/-- **The count of bytes never fails**: counting key by key gives the answer for every path. -/
theorem scan_eq_resolve (members : List (String × Json)) (path : String) :
    scan path members (Path.segments path) 0 = some (resolve (.obj members) path) := by
  obtain ⟨key, keys, whole⟩ := Path.exists_segments_cons path
  rw [resolve, whole]
  refine scan_eq_walk ?_ rfl
  rw [← whole, Path.intercalate_segments]
  rfl

/-- **Reading by path is compositional.** In an object, what a longer path leads to is a matter of what its beginning
leads to: errors and absence stay, a value that is no object is an error at the beginning, and an object is read on,
with errors placed below the beginning. A path that is a single key leads to that member, if there is one that is not
null. And counting bytes key by key gives the same answer: the path can be cut after the bytes counted wherever an
error is placed, and there is an answer before the keys run out. -/
theorem resolve_compositional (members : List (String × Json)) (path more : String) :
    resolve (.obj members) (path ++ "." ++ more) = onward path more (resolve (.obj members) path) ∧
      ('.' ∉ path.toList →
        resolve (.obj members) path = .ok ((members.lookup path).filter fun value => !value.isNull)) ∧
      scan path members (Path.segments path) 0 = some (resolve (.obj members) path) :=
  ⟨resolve_onward _ path more, resolve_key, scan_eq_resolve members path⟩

/-- An object whose one name takes up two bytes, with a member inside that has the empty name. -/
def accentedMembers : List (String × Json) :=
  [("é", .obj [("", .int 5), ("b", .null)])]

theorem resolve_compositional_accented :
    '.' ∉ "é".toList ∧
      resolve (.obj accentedMembers) "é" = .ok (some (.obj [("", .int 5), ("b", .null)])) ∧
      resolve (.obj accentedMembers) "é..x" = .error (.notAnObject "é." .integer) ∧
      resolve (.obj accentedMembers) "é.b.x" = .ok none ∧
      scan "é..x" accentedMembers ["é", "", "x"] 0 = some (.error (.notAnObject "é." .integer)) := by
  have plain : '.' ∉ "é".toList := by decide
  have first := (resolve_compositional accentedMembers "é" ".x").2.1 plain
  have empty := (resolve_compositional accentedMembers "é" ".x").1
  have null := (resolve_compositional accentedMembers "é" "b.x").1
  have bytes := (resolve_compositional accentedMembers "é..x" "").2.2
  rw [first] at empty null
  exact ⟨plain, first, empty, null, bytes.trans (congrArg some empty)⟩

end Subject

end FieldRules
