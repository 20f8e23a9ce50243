import FieldRules.Proofs.Alike

/-!
# What a validation reads

A rule looks at a payload through the path of its field alone, so two payloads in which every field of the chain leads
to the same are validated alike, questions to components included (`validate_of_resolve`). Where two payloads differ at
a single position (`Subject.SameBut`), a path leads to the same in both unless it leads to the position, to something
above it or to something below it; and no path leads through a key that holds a dot.
-/

namespace FieldRules

/-! ## Payloads that differ at one position -/

/-- No piece of a text that is cut at a character holds it. -/
theorem Text.not_mem_of_mem_splitChars {separator : Char} {cs piece : List Char}
    (h : piece ∈ splitChars separator cs) : separator ∉ piece := by
  induction cs generalizing piece with
  | nil => simp_all [splitChars]
  | cons c cs ih =>
    rw [splitChars] at h
    split at h
    · rcases List.mem_cons.1 h with rfl | h
      · simp
      · exact ih h
    · next other =>
      cases hs : splitChars separator cs with
      | nil => exact absurd hs (splitChars_ne_nil separator cs)
      | cons first rest =>
        simp only [hs, List.mem_cons] at h ih
        rcases h with rfl | h
        · simpa [Ne.symm other] using ih (Or.inl rfl)
        · exact ih (Or.inr h)

theorem Path.dot_not_mem_of_mem_segments {path key : String} (h : key ∈ segments path) : '.' ∉ key.toList := by
  obtain ⟨piece, hp, rfl⟩ := List.mem_map.1 h
  simpa using Text.not_mem_of_mem_splitChars hp

namespace Subject

/-- Two values, either of which may be missing, that are the same but for what stands at a position. -/
def SameBut : List String → Option Json → Option Json → Prop
  | [], _, _ => True
  | key :: keys, some (.obj members), some (.obj members') =>
    (∀ other ≠ key, members'.lookup other = members.lookup other) ∧
      SameBut keys (members.lookup key) (members'.lookup key)
  | _ :: _, value, value' => value' = value

theorem SameBut.cases {key : String} {keys : List String} {value value' : Option Json}
    (same : SameBut (key :: keys) value value') : value' = value ∨ ∃ members members', value = some (.obj members) ∧
      value' = some (.obj members') ∧ (∀ other ≠ key, members'.lookup other = members.lookup other) ∧
        SameBut keys (members.lookup key) (members'.lookup key) := by
  unfold SameBut at same
  split at same
  · contradiction
  · next members members' split =>
    cases split
    exact Or.inr ⟨members, members', rfl, rfl, same⟩
  · exact Or.inl same

/-- **Keys that lead past a position** lead to the same, whatever stands there. -/
theorem walk_sameBut {keys path : List String} {value value' : Json} (same : SameBut keys (some value) (some value'))
    (above : ¬ path <+: keys) (below : ¬ keys <+: path) (position : Option String) :
    walk value' position path = walk value position path := by
  induction keys generalizing path value value' position with
  | nil => exact absurd (List.nil_prefix) below
  | cons key keys ih =>
    cases path with
    | nil => exact absurd (List.nil_prefix) above
    | cons step path =>
      rcases same.cases with equal | ⟨members, members', hv, hv', others, inner⟩
      · rw [Option.some.inj equal]
      · obtain rfl := Option.some.inj hv
        obtain rfl := Option.some.inj hv'
        by_cases here : step = key
        · subst here
          rw [List.prefix_cons_inj] at above below
          rw [walk, walk]
          -- The position lies further inside: else the path would lead to it or below it.
          obtain ⟨next, more, rfl⟩ := List.exists_cons_of_ne_nil fun h : keys = [] => below (h ▸ List.nil_prefix)
          rcases inner.cases with equal | ⟨_, _, hm, hm', -⟩
          · rw [equal]
          · rw [hm, hm'] at inner ⊢
            exact ih inner above below _
        · rw [walk, walk, others step here]

theorem resolve_sameBut {keys : List String} {subject subject' : Json}
    (same : SameBut keys (some subject) (some subject')) {path : String} (above : ¬ Path.segments path <+: keys)
    (below : ¬ keys <+: Path.segments path) : resolve subject' path = resolve subject path :=
  walk_sameBut same above below none

end Subject

/-! ## Rules and validations -/

namespace FieldRule

variable {rule : FieldRule} {subject subject' : Json}

theorem read_congr_resolve {path : String} (same : Subject.resolve subject' path = Subject.resolve subject path) :
    rule.read path subject' = rule.read path subject := by
  rw [read, read, same]

/-- **A rule cannot tell apart** payloads in which its field leads to the same. -/
theorem alike_of_resolve (same : Subject.resolve subject' rule.field = Subject.resolve subject rule.field) :
    Alike id subject subject' rule rule where
  field := rfl
  stopAll := rfl
  isSet := by rw [isSet, isSet, read_congr_resolve same]
  verdict known := by
    have read : rule.read rule.field subject' = rule.read rule.field subject := read_congr_resolve same
    simp only [validate, Situation.path, Option.getD_none, read]

end FieldRule

namespace Engine

theorem validate_congr_resolve {engine : Engine} {subject subject' : Json}
    (same : ∀ field ∈ engine.fields, Subject.resolve subject' field = Subject.resolve subject field) :
    engine.validate subject' = engine.validate subject := by
  refine validate_eq_of_alike (List.forall₂_same.2 fun rule hr => ?_)
  exact FieldRule.alike_of_resolve (same rule.field (List.mem_map_of_mem hr))

/-- **A validation reads the fields of its chain and nothing else.** Payloads in which every one of them leads to the
same value, is unset alike or cannot be reached for the same reason, are validated alike: with the same findings or the
same error, and with the same questions to components. So it does not matter what stands at a position when no field
leads to it, to anything above it or to anything below it; nor what stands under a key with a dot when no field leads
to the object that has the key or to anything above that. -/
theorem validate_of_resolve (engine : Engine) (subject subject' : Json) :
    ((∀ field ∈ engine.fields, Subject.resolve subject' field = Subject.resolve subject field) →
      engine.validate subject' = engine.validate subject) ∧
    (∀ keys, (∀ field ∈ engine.fields, ¬ Path.segments field <+: keys ∧ ¬ keys <+: Path.segments field) →
      Subject.SameBut keys (some subject) (some subject') → engine.validate subject' = engine.validate subject) ∧
    ∀ keys key, '.' ∈ key.toList → (∀ field ∈ engine.fields, ¬ Path.segments field <+: keys) →
      Subject.SameBut (keys ++ [key]) (some subject) (some subject') →
        engine.validate subject' = engine.validate subject := by
  have apart : ∀ keys, (∀ field ∈ engine.fields, ¬ Path.segments field <+: keys ∧ ¬ keys <+: Path.segments field) →
      Subject.SameBut keys (some subject) (some subject') → engine.validate subject' = engine.validate subject :=
    fun keys away same => validate_congr_resolve fun field hf =>
      Subject.resolve_sameBut same (away field hf).1 (away field hf).2
  refine ⟨validate_congr_resolve, apart, fun keys key dotted outside same => ?_⟩
  refine apart (keys ++ [key]) (fun field hf => ⟨fun above => ?_, fun below => ?_⟩) same
  · rcases List.prefix_concat_iff.1 above with whole | above
    · have inside : key ∈ Path.segments field := by simp [whole]
      exact Path.dot_not_mem_of_mem_segments inside dotted
    · exact outside field hf above
  · have inside : key ∈ Path.segments field := below.subset (by simp)
    exact Path.dot_not_mem_of_mem_segments inside dotted

/-- A field inside an object, and one whose value a component is asked about. -/
def innerRules : Blueprint where
  rules := [["a.b", "STR", "IN:v:NO_V"], ["x", "OBJ", "EXT:service:REFUSED"]]
  components := some fun name => if name = "service" then some fun _ => .ok false else none

def innerEngine : Engine :=
  innerRules.build.toOption.getD ⟨"", [], .empty⟩

def plainPayload : Json :=
  .obj [("a", .obj [("b", .str "w"), ("c", .int 1)]), ("x", .obj [])]

/-- The payload with another value beside the inner field. -/
def besidePayload : Json :=
  .obj [("a", .obj [("b", .str "w"), ("c", .obj [("b", .str "v")])]), ("x", .obj [])]

/-- The payload with a key that is written like the path of the inner field. -/
def dottedPayload : Json :=
  .obj [("a.b", .int 5), ("a", .obj [("b", .str "w"), ("c", .obj [("b", .str "v")])]), ("x", .obj [])]

theorem validate_of_resolve_inner :
    innerRules.build = .ok innerEngine ∧
      innerEngine.validate plainPayload =
        ⟨.ok [⟨"a.b", ["NO_V"]⟩, ⟨"x", ["REFUSED"]⟩], [⟨"service", .obj []⟩]⟩ ∧
      innerEngine.validate besidePayload = innerEngine.validate plainPayload ∧
      innerEngine.validate dottedPayload = innerEngine.validate besidePayload ∧
      innerEngine.validate dottedPayload = innerEngine.validate plainPayload := by
  have fields : innerEngine.fields = ["a.b", "x"] := rfl
  obtain ⟨-, beside, -⟩ := validate_of_resolve innerEngine plainPayload besidePayload
  obtain ⟨-, -, dotted⟩ := validate_of_resolve innerEngine besidePayload dottedPayload
  obtain ⟨resolved, -, -⟩ := validate_of_resolve innerEngine plainPayload dottedPayload
  refine ⟨rfl, rfl, beside ["a", "c"] ?_ ?_, dotted [] "a.b" (by decide) ?_ ?_, resolved ?_⟩
  · rw [fields]
    decide
  · refine ⟨fun other outer => ?_, fun other inner => ?_, trivial⟩
    · simp [List.lookup_cons, beq_eq_false_iff_ne.2 outer]
    · simp [List.lookup_cons, beq_eq_false_iff_ne.2 inner]
  · rw [fields]
    decide
  · exact ⟨fun other different => by simp [List.lookup_cons, beq_eq_false_iff_ne.2 different], trivial⟩
  · rw [fields]
    exact List.forall_mem_cons.2 ⟨rfl, List.forall_mem_singleton.2 rfl⟩

end Engine

end FieldRules
