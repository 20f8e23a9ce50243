import FieldRules.Proofs.Resolution
import Mathlib.Order.WellFounded

/-!
# The way to a field

The ancestors of a field are the places on the way to it, one for each dot of its path, the nearest to the payload
first. Reading the field goes through them: it goes through objects all the way, or it stops at the first ancestor that
does not lead to an object (`route_cases`). So what a reading comes to is known from what the ancestors lead to, and an
error is about one of them.
-/

namespace FieldRules

/-! ## Ancestors in their order -/

namespace Path

variable {ancestor path : String}

theorem isAncestor_iff_append : IsAncestor ancestor path ↔ ∃ rest, path = ancestor ++ "." ++ rest := by
  rw [isAncestor_iff]
  constructor
  · rintro ⟨rest, h⟩
    refine ⟨String.ofList rest, String.toList_injective ?_⟩
    rw [toList_append, String.toList_ofList, h]
  · rintro ⟨rest, rfl⟩
    exact ⟨rest.toList, toList_append ancestor rest⟩

theorem IsAncestor.length_lt (h : IsAncestor ancestor path) : ancestor.length < path.length := by
  obtain ⟨rest, h⟩ := isAncestor_iff.1 h
  rw [← String.length_toList, ← String.length_toList, h]
  simp

theorem IsAncestor.byteLength_lt (h : IsAncestor ancestor path) :
    Text.byteLength ancestor.toList < Text.byteLength path.toList := by
  obtain ⟨rest, h⟩ := isAncestor_iff.1 h
  have dot := Char.utf8Size_pos '.'
  rw [h, Text.byteLength_append, Text.byteLength]
  omega

theorem pairwise_ancestorChars (cs : List Char) :
    (ancestorChars cs).Pairwise fun start longer => start ∈ ancestorChars longer := by
  induction cs with
  | nil => exact .nil
  | cons c cs ih =>
    have later : ((ancestorChars cs).map (c :: ·)).Pairwise fun start longer => start ∈ ancestorChars longer := by
      refine List.pairwise_map.2 (ih.imp fun {start longer} inner => ?_)
      obtain ⟨rest, rfl⟩ := mem_ancestorChars.1 inner
      exact mem_ancestorChars.2 ⟨rest, rfl⟩
    rw [ancestorChars]
    split
    · next dot =>
      refine List.pairwise_cons.2 ⟨fun longer listed => ?_, later⟩
      obtain ⟨inner, -, rfl⟩ := List.mem_map.1 listed
      exact mem_ancestorChars.2 ⟨inner, by simp [dot]⟩
    · exact later

/-- Each ancestor is an ancestor of those listed after it. -/
theorem pairwise_ancestors (path : String) : (ancestors path).Pairwise IsAncestor := by
  refine List.pairwise_map.2 ((pairwise_ancestorChars path.toList).imp fun {start longer} inner => ?_)
  refine List.mem_map_of_mem ?_
  simpa using inner

/-- There is one ancestor for each dot. -/
theorem length_ancestors (path : String) : (ancestors path).length = path.toList.count '.' := by
  have counted (cs : List Char) : (ancestorChars cs).length = cs.count '.' := by
    induction cs with
    | nil => rfl
    | cons c cs ih =>
      rw [ancestorChars]
      split
      · next dot => simp [dot, ih]
      · next other => simp [other, ih]
  simp [ancestors, counted]

/-- A path is a single key, or a single key below the longest of its ancestors. -/
theorem exists_parent (path : String) :
    '.' ∉ path.toList ∨ ∃ parent key, path = parent ++ "." ++ key ∧ '.' ∉ key.toList := by
  by_cases dotted : '.' ∈ path.toList
  · obtain ⟨last, first, cut, plain⟩ := List.eq_append_cons_of_mem (List.mem_reverse.2 dotted)
    refine Or.inr ⟨String.ofList first.reverse, String.ofList last.reverse, String.toList_injective ?_, by simpa⟩
    rw [← List.reverse_reverse path.toList, cut, toList_append]
    simp
  · exact Or.inl dotted

end Path

/-! ## Where a reading stops -/

namespace Subject

/-- An object stands at a path. -/
def LeadsToObject (subject : Json) (path : String) : Prop :=
  ∃ members, resolve subject path = .ok (some (.obj members))

theorem walk_ne_null {value : Json} {position : Option String} {keys : List String} (some : value ≠ .null) :
    walk value position keys ≠ .ok (.some .null) := by
  induction keys generalizing value position with
  | nil => simpa [walk] using some
  | cons key keys ih =>
    cases value with
    | obj members =>
      rw [walk_object_cons]
      cases found : (members.lookup key).filter fun value => !value.isNull with
      | none => simp
      | some next =>
        obtain ⟨-, set⟩ := Option.filter_eq_some_iff.1 found
        refine ih ?_
        rintro rfl
        cases set
    | _ => simp [walk]

variable {members : List (String × Json)} {field : String}

/-- A field can be read when objects stand at all of its ancestors. -/
theorem resolve_of_objects (objects : ∀ path ∈ Path.ancestors field, LeadsToObject (.obj members) path) :
    ∃ found, resolve (.obj members) field = .ok found := by
  rcases Path.exists_parent field with plain | ⟨parent, key, rfl, plain⟩
  · exact ⟨_, resolve_key plain⟩
  · obtain ⟨inner, here⟩ := objects parent (Path.isAncestor_iff_append.2 ⟨key, rfl⟩)
    rw [resolve_onward, here, onward, resolve_key plain]
    exact ⟨_, rfl⟩

/-- Objects stand at all the ancestors of a field that are shorter than a path. -/
def ObjectsBefore (members : List (String × Json)) (field path : String) : Prop :=
  ∀ shorter ∈ Path.ancestors field, shorter.length < path.length → LeadsToObject (.obj members) shorter

/-- How the way to a field goes: through objects to its end, or up to an ancestor at which there is nothing, or a value
that is no object. -/
inductive Route (members : List (String × Json)) (field : String) : Except SubjectError (Option Json) → Prop
  | through {found : Option Json} (objects : ∀ path ∈ Path.ancestors field, LeadsToObject (.obj members) path) :
    Route members field (.ok found)
  | endsAt {path : String} (above : path ∈ Path.ancestors field) (before : ObjectsBefore members field path)
    (unset : resolve (.obj members) path = .ok none) : Route members field (.ok none)
  | blockedAt {path : String} {value : Json} (above : path ∈ Path.ancestors field)
    (before : ObjectsBefore members field path) (found : resolve (.obj members) path = .ok (some value))
    (other : ∀ inner, value ≠ .obj inner) : Route members field (.error (.notAnObject path value.kind))

/-- **Every way to a field**: it goes on to the end, or only as far as the first ancestor at which no object stands. -/
theorem route_cases (members : List (String × Json)) (field : String) :
    Route members field (resolve (.obj members) field) := by
  by_cases objects : ∀ path ∈ Path.ancestors field, LeadsToObject (.obj members) path
  · obtain ⟨found, resolved⟩ := resolve_of_objects objects
    rw [resolved]
    exact .through objects
  · -- Of the ancestors without an object, the shortest is where the way stops.
    have stops : {path | path ∈ Path.ancestors field ∧ ¬ LeadsToObject (.obj members) path}.Nonempty := by
      simpa [Set.Nonempty] using objects
    obtain ⟨path, ⟨above, noObject⟩, first⟩ := (measure String.length).wf.has_min _ stops
    have before : ObjectsBefore members field path := by
      intro shorter listed less
      by_contra hidden
      exact first shorter ⟨listed, hidden⟩ less
    obtain ⟨found, resolved⟩ : ∃ found, resolve (.obj members) path = .ok found :=
      resolve_of_objects fun shorter ha =>
        before shorter (Path.IsAncestor.trans ha above) (Path.IsAncestor.length_lt ha)
    obtain ⟨rest, whole⟩ := Path.isAncestor_iff_append.1 above
    have further : resolve (.obj members) field = onward path rest (.ok found) := by
      rw [whole, resolve_onward, resolved]
    rw [further]
    cases found with
    | none => exact .endsAt above before resolved
    | some value =>
      cases value with
      | obj inner => exact absurd ⟨inner, resolved⟩ noObject
      | _ => exact .blockedAt above before resolved (by simp)

/-- **Ancestors and readings agree.** The ancestors of a field are what stands before its dots, one for each dot and
each longer than the one before, in characters and in bytes. In an object, a field that is found has objects at all of
its ancestors; an error is about an ancestor at which a value stands that is neither null nor an object, and all shorter
ancestors have objects; and for a field that is not found there is nothing at the field itself or at an ancestor, and
all shorter ancestors have objects. -/
theorem resolve_by_ancestors (members : List (String × Json)) (field : String) :
    (∀ path, path ∈ Path.ancestors field ↔ ∃ rest, field = path ++ "." ++ rest) ∧
      (Path.ancestors field).Pairwise (fun shorter longer => shorter.length < longer.length ∧
        Text.byteLength shorter.toList < Text.byteLength longer.toList) ∧
      (Path.ancestors field).length = field.toList.count '.' ∧
      (∀ value, resolve (.obj members) field = .ok (some value) →
        ∀ path ∈ Path.ancestors field, LeadsToObject (.obj members) path) ∧
      (∀ error, resolve (.obj members) field = .error error →
        ∃ path value, error = .notAnObject path value.kind ∧ path ∈ Path.ancestors field ∧
          resolve (.obj members) path = .ok (some value) ∧ value ≠ .null ∧ (∀ inner, value ≠ .obj inner) ∧
          ObjectsBefore members field path) ∧
      (resolve (.obj members) field = .ok none →
        ∃ path, (path = field ∨ path ∈ Path.ancestors field) ∧ resolve (.obj members) path = .ok none ∧
          ObjectsBefore members field path) := by
  have increasing : (Path.ancestors field).Pairwise fun shorter longer => shorter.length < longer.length ∧
      Text.byteLength shorter.toList < Text.byteLength longer.toList :=
    (Path.pairwise_ancestors field).imp fun ha => ⟨ha.length_lt, ha.byteLength_lt⟩
  refine ⟨fun path => Path.isAncestor_iff_append, increasing, Path.length_ancestors field, ?_, ?_, ?_⟩
  · intro value resolved
    have route := route_cases members field
    rw [resolved] at route
    cases route with
    | through objects => exact objects
  · intro error resolved
    have route := route_cases members field
    rw [resolved] at route
    cases route with
    | @blockedAt path value above before found other =>
      refine ⟨path, value, rfl, above, found, ?_, other, before⟩
      rintro rfl
      exact walk_ne_null (by simp) found
  · intro resolved
    have route := route_cases members field
    rw [resolved] at route
    cases route with
    | through objects => exact ⟨field, Or.inl rfl, resolved, fun shorter listed _ => objects shorter listed⟩
    | endsAt above before unset => exact ⟨_, Or.inr above, unset, before⟩

theorem resolve_by_ancestors_accented :
    Path.ancestors "é..x" = ["é", "é."] ∧
      resolve (.obj accentedMembers) "é." = .ok (some (.int 5)) ∧ LeadsToObject (.obj accentedMembers) "é" ∧
      resolve (.obj accentedMembers) "é..x" = .error (.notAnObject "é." .integer) ∧
      (∃ path value, SubjectError.notAnObject "é." .integer = .notAnObject path value.kind ∧
        path ∈ Path.ancestors "é..x" ∧ resolve (.obj accentedMembers) path = .ok (some value) ∧ value ≠ .null ∧
        (∀ inner, value ≠ .obj inner) ∧ ObjectsBefore accentedMembers "é..x" path) ∧
      resolve (.obj accentedMembers) "é.b.x" = .ok none ∧
      ∃ path, (path = "é.b.x" ∨ path ∈ Path.ancestors "é.b.x") ∧
        resolve (.obj accentedMembers) path = .ok none ∧ ObjectsBefore accentedMembers "é.b.x" path := by
  have number : resolve (.obj accentedMembers) "é." = .ok (some (.int 5)) := rfl
  have blocked : resolve (.obj accentedMembers) "é..x" = .error (.notAnObject "é." .integer) := rfl
  have unset : resolve (.obj accentedMembers) "é.b.x" = .ok none := rfl
  obtain ⟨-, -, -, through, -, -⟩ := resolve_by_ancestors accentedMembers "é."
  obtain ⟨-, -, -, -, blockedAt, -⟩ := resolve_by_ancestors accentedMembers "é..x"
  obtain ⟨-, -, -, -, -, endsAt⟩ := resolve_by_ancestors accentedMembers "é.b.x"
  exact ⟨by decide, number, through _ number "é" (by decide), blocked, blockedAt _ blocked, unset, endsAt unset⟩

end Subject

end FieldRules
