import FieldRules.Proofs.Forms

/-!
# Declared codes

Every operation of the rule language that can report a code has a part of its own for it (`codePart?`), and the marker
of a type has one for the code that its rule falls back to. An engine has in use what is written in these parts, and
the default of the whole, and nothing else (`mem_codes_iff_declared`). A rule has one marker that counts, its first:
what a later marker carries is read over, and is not in use by it (`codes_of_second_marker`).
-/

namespace FieldRules

/-! ## Codes in directives -/

/-- The index of the part in which a directive with a name can carry a code. -/
def codePart? (name : String) : Option Nat :=
  if name ∈ ["STR", "OBJ", "BOOL", "INT", "FLOAT", "REQ"] then some 1
  else if name ∈ ["MEX", "EXT", "IN", "REG", "IS"] then some 2
  else if name ∈ ["LEN", "RANGE"] then some 3
  else none

theorem codePart?_marker (type : RuleType) : codePart? type.marker = some 1 := by
  cases type <;> decide

theorem codePart?_name (keyword : Keyword) : codePart? keyword.name = keyword.codeIndex := by
  cases keyword <;> decide

/-- A directive carries a code: a text that is not empty, in the part for it. -/
def Carries (text code : String) : Prop :=
  code ≠ "" ∧ ∃ index, codePart? (Directive.parse text).name = some index ∧
    (Directive.parse text).part? index = some code

/-- A directive is the marker of some type. -/
def IsMarker (text : String) : Prop :=
  ∃ type : RuleType, (Directive.parse text).name = type.marker

/-- The directives of a rule declare a code: one of them carries it, and if that is a marker, then it is the first. -/
def Declares (directives : List String) (code : String) : Prop :=
  ∃ before text after, directives = before ++ text :: after ∧ Carries text code ∧
    (IsMarker text → ∀ earlier ∈ before, ¬ IsMarker earlier)

/-- A directive that carries a code at an index reports it, whatever the default. -/
theorem Directive.code?_of_part {directive : Directive} {index : Nat} {code : String}
    (own : directive.part? index = some code) (some : code ≠ "") (default : String) :
    directive.code? index default = .some code := by
  simp [Directive.code?, own, some]

/-- The code of a directive stands in the part for it, or is the default. -/
theorem Directive.code?_cases {directive : Directive} {index : Nat} {default code : String}
    (h : directive.code? index default = some code) : directive.part? index = some code ∨ code = default := by
  cases own : directive.part? index with
  | none =>
    simp only [Directive.code?, own, Option.ite_none_left_eq_some, Option.some.injEq] at h
    exact Or.inr h.2.symm
  | some part =>
    simp only [Directive.code?, own, Option.ite_none_left_eq_some, Option.some.injEq] at h
    by_cases empty : part = ""
    · exact Or.inr (by simpa [empty] using h.2.symm)
    · exact Or.inl (by simpa [empty] using h.2)

/-- The code of a marker is what the first marker of the type carries. -/
theorem RuleType.markerCode?_eq_some_iff {type : RuleType} {directives : List String} {code : String} :
    type.markerCode? directives = some code ↔
      ∃ before text after, directives = before ++ text :: after ∧ (Directive.parse text).name = type.marker ∧
        (∀ earlier ∈ before, (Directive.parse earlier).name ≠ type.marker) ∧
        (Directive.parse text).part? 1 = some code ∧ code ≠ "" := by
  have found : (directives.map Directive.parse).find? (fun directive => directive.name == type.marker) =
      (directives.find? fun text => (Directive.parse text).name == type.marker).map Directive.parse :=
    List.find?_map ..
  simp only [markerCode?, found, Option.bind_eq_some_iff, Option.map_eq_some_iff, List.find?_eq_some_iff_append,
    Option.filter_eq_some_iff]
  constructor
  · rintro ⟨_, ⟨text, ⟨marker, before, after, cut, others⟩, rfl⟩, carried, some⟩
    exact ⟨before, text, after, cut, by simpa using marker, by simpa using others, carried, by simpa using some⟩
  · rintro ⟨before, text, after, cut, marker, others, carried, some⟩
    exact ⟨_, ⟨text, ⟨by simpa using marker, before, after, cut, by simpa using others⟩, rfl⟩, carried,
      by simpa using some⟩

/-! ## Codes of a rule -/

namespace RuleContext

variable {context : RuleContext} {text code : String} {clause : Clause}

/-- A rule reads the marker of its own type only. -/
theorem marker_of_isMarker (h : context.readDirective (Directive.parse text) = .ok clause) (marker : IsMarker text) :
    (Directive.parse text).name = context.type.marker := by
  obtain ⟨type, named⟩ := marker
  rcases readDirective_cases h with ⟨own, -⟩ | ⟨keyword, operation, -⟩
  · exact own
  · exact absurd (operation.symm.trans named) (keyword.name_ne_marker type)

/-- A directive asks for a code that it carries, or for the default. -/
theorem carries_of_code? (h : context.readDirective (Directive.parse text) = .ok clause)
    (hc : clause.code? = some code) : (Carries text code ∧ ¬ IsMarker text) ∨ code = context.defaultCode := by
  have some : code ≠ "" := readDirective_code_ne_empty h hc
  rcases readDirective_cases h with ⟨-, rfl⟩ | ⟨keyword, named, read⟩
  · cases hc
  · rw [readKeyword_code? read] at hc
    obtain ⟨index, place, own⟩ := Option.bind_eq_some_iff.1 hc
    refine (Directive.code?_cases own).imp_left fun carried => ⟨⟨some, index, ?_, carried⟩, ?_⟩
    · rw [named, codePart?_name, place]
    · rintro ⟨type, marker⟩
      exact keyword.name_ne_marker type (named.symm.trans marker)

/-- A directive that is no marker asks for the code that it carries. -/
theorem code?_of_carries (h : context.readDirective (Directive.parse text) = .ok clause) (carries : Carries text code)
    (operation : ¬ IsMarker text) : clause.code? = some code := by
  obtain ⟨some, index, place, carried⟩ := carries
  rcases readDirective_cases h with ⟨marker, -⟩ | ⟨keyword, named, read⟩
  · exact absurd ⟨_, marker⟩ operation
  · rw [named, codePart?_name] at place
    rw [readKeyword_code? read, place]
    exact Directive.code?_of_part carried some context.defaultCode

end RuleContext

/-- Where a rule reads its directives, it declares what its marker carries and what the others do. -/
theorem declares_iff {context : RuleContext} {directives : List String} {code : String}
    (read : ∀ text ∈ directives, ∃ clause, context.readDirective (Directive.parse text) = .ok clause) :
    Declares directives code ↔ context.type.markerCode? directives = some code ∨
      ∃ text ∈ directives, Carries text code ∧ ¬ IsMarker text := by
  rw [RuleType.markerCode?_eq_some_iff]
  constructor
  · rintro ⟨before, text, after, rfl, carries, first⟩
    have listed : text ∈ before ++ text :: after := by simp
    by_cases marker : IsMarker text
    · obtain ⟨clause, hclause⟩ := read text listed
      have own := RuleContext.marker_of_isMarker hclause marker
      obtain ⟨some, index, place, carried⟩ := carries
      obtain rfl : 1 = index := by simpa [own, codePart?_marker] using place
      have others (earlier : String) (he : earlier ∈ before) :
          (Directive.parse earlier).name ≠ context.type.marker := fun same => first marker earlier he ⟨_, same⟩
      exact Or.inl ⟨before, text, after, rfl, own, others, carried, some⟩
    · exact Or.inr ⟨text, listed, carries, marker⟩
  · rintro (⟨before, text, after, rfl, own, others, carried, some⟩ | ⟨text, listed, carries, operation⟩)
    · have place : codePart? (Directive.parse text).name = .some 1 := by rw [own, codePart?_marker]
      refine ⟨before, text, after, rfl, ⟨some, 1, place, carried⟩, fun _ earlier he marker => ?_⟩
      obtain ⟨clause, hclause⟩ := read earlier (by simp [he])
      exact others earlier he (RuleContext.marker_of_isMarker hclause marker)
    · obtain ⟨before, after, rfl⟩ := List.append_of_mem listed
      exact ⟨before, text, after, rfl, carries, fun marker => absurd marker operation⟩

/-- **A rule has in use the codes that its directives declare**, and the default of the whole where its marker carries
none. -/
theorem FieldRule.mem_codes_of_build {type : RuleType} {field : String} {directives : List String}
    {defaultCode : String} {components : Option ComponentLookup} {rule : FieldRule} {code : String}
    (h : build type field directives defaultCode components = .ok rule) :
    code ∈ rule.codes ↔
      Declares directives code ∨ type.markerCode? directives = none ∧ code = defaultCode ∧ code ≠ "" := by
  obtain ⟨clauses, read, rfl⟩ := build_eq_ok_iff.1 h
  rw [declares_iff fun text ht => (exists_ok_of_mem read ht).imp fun _ h => h.2, mem_codes_ofClauses,
    RuleType.defaultCode_eq]
  constructor
  · have default {code : String} (here : code = (type.markerCode? directives).getD defaultCode) (some : code ≠ "") :
        type.markerCode? directives = .some code ∨
          type.markerCode? directives = none ∧ code = defaultCode ∧ code ≠ "" := by
      cases marker : type.markerCode? directives with
      | none => exact Or.inr ⟨rfl, by simpa [marker] using here, some⟩
      | some own => exact Or.inl (by simpa [marker] using here.symm)
    rintro (⟨here, some⟩ | ⟨clause, hclause, hc⟩)
    · exact (default here (here ▸ some)).imp_left Or.inl
    · obtain ⟨text, ht, hread⟩ := exists_mem_of_ok read hclause
      rcases RuleContext.carries_of_code? hread hc with carries | here
      · exact Or.inl (Or.inr ⟨text, ht, carries⟩)
      · rw [RuleType.defaultCode_eq] at here
        exact (default here (RuleContext.readDirective_code_ne_empty hread hc)).imp_left Or.inl
  · rintro ((marker | ⟨text, ht, carries, operation⟩) | ⟨noMarker, rfl, some⟩)
    · exact Or.inl ⟨by simp [marker], by simpa [marker] using RuleType.markerCode?_ne_empty marker⟩
    · obtain ⟨clause, hclause, hread⟩ := exists_ok_of_mem read ht
      exact Or.inr ⟨clause, hclause, RuleContext.code?_of_carries hread carries operation⟩
    · exact Or.inl ⟨by simp [noMarker], by simpa [noMarker] using some⟩

/-! ## Codes of an engine -/

namespace Blueprint

/-- **The codes in use are the declared ones.** Of an engine that is built, a code is in use exactly when it is the
default of the whole and not empty, or a rule declares it: in one of the directives that the rule resolves to, in the
part for it, and of the markers among them in the first. -/
theorem mem_codes_iff_declared (blueprint : Blueprint) (engine : Engine) (built : blueprint.build = .ok engine)
    (code : String) :
    code ∈ engine.codes ↔ code = blueprint.defaultCode ∧ code ≠ "" ∨
      ∃ tokens ∈ blueprint.rules, ∃ directives,
        resolveDirectives blueprint.registry tokens = .ok directives ∧ Declares directives code := by
  obtain ⟨-, -, whole⟩ := build_eq_ok_iff.1 built
  rw [whole, mem_codesOf]
  constructor
  · rintro (⟨rfl, some⟩ | ⟨rule, hr, hc⟩)
    · exact Or.inl ⟨rfl, some⟩
    · obtain ⟨tokens, ht, hb⟩ := exists_buildRule built hr
      obtain ⟨directives, type, resolved, -, read⟩ := buildRule_eq_ok_iff.1 hb
      rcases (FieldRule.mem_codes_of_build read).1 hc with declared | ⟨-, default⟩
      · exact Or.inr ⟨tokens, ht, directives, resolved, declared⟩
      · exact Or.inl default
  · rintro (⟨rfl, some⟩ | ⟨tokens, ht, directives, resolved, declared⟩)
    · exact Or.inl ⟨rfl, some⟩
    · obtain ⟨rule, hr, hb⟩ := exists_rule built ht
      obtain ⟨directives', type, resolved', -, read⟩ := buildRule_eq_ok_iff.1 hb
      obtain rfl := Except.ok.inj (resolved.symm.trans resolved')
      exact Or.inr ⟨rule, hr, (FieldRule.mem_codes_of_build read).2 (Or.inl declared)⟩

/-- A field that is required twice, with a code each time, and a shared rule with a code at its upper bound. -/
def repeatedRules : Blueprint where
  rules := [["a", "STR:BAD", "REQ:GONE", "LEN:2:*:SHORT", "REQ:"], ["b", "RULE:age", "REQ:UNREAD"]]
  defaultCode := "D"
  registry := some (Dict.ofList [("age", ["INT", "RANGE:18:*:YOUNG", "MEX:a"])])

def repeatedEngine : Engine :=
  repeatedRules.build.toOption.getD ⟨"", [], .empty⟩

theorem mem_codes_iff_declared_repeated :
    repeatedRules.build = .ok repeatedEngine ∧
      (∃ tokens ∈ repeatedRules.rules, ∃ directives,
        resolveDirectives repeatedRules.registry tokens = .ok directives ∧ Declares directives "GONE") ∧
      "YOUNG" ∈ repeatedEngine.codes ∧ "D" ∈ repeatedEngine.codes ∧ ¬ "UNREAD" ∈ repeatedEngine.codes := by
  have built : repeatedRules.build = .ok repeatedEngine := rfl
  have exact := mem_codes_iff_declared repeatedRules repeatedEngine built
  have shared : resolveDirectives repeatedRules.registry ["b", "RULE:age", "REQ:UNREAD"] =
    .ok ["INT", "RANGE:18:*:YOUNG", "MEX:a"] := rfl
  have notMarker : ¬ IsMarker "RANGE:18:*:YOUNG" := by
    rintro ⟨type, named⟩
    cases type <;> exact absurd named (by decide)
  refine ⟨built, ?_, (exact "YOUNG").2 (Or.inr ⟨_, by simp [repeatedRules], _, shared, ?_⟩),
    (exact "D").2 (Or.inl ⟨rfl, by decide⟩), by decide⟩
  · have used : "GONE" ∈ repeatedEngine.codes := by decide
    exact ((exact "GONE").1 used).resolve_left fun default => absurd default.1 (by decide)
  · exact ⟨["INT"], "RANGE:18:*:YOUNG", ["MEX:a"], rfl, ⟨by decide, 3, by decide, by decide⟩,
      fun marker => absurd marker notMarker⟩

/-- A rule with two markers of its type, of which the second carries a code. -/
def secondMarkerRules : Blueprint where
  rules := [["x", "STR", "REQ", "STR:B"]]
  defaultCode := "D"

def secondMarkerEngine : Engine :=
  secondMarkerRules.build.toOption.getD ⟨"", [], .empty⟩

/-- Not every code that a marker carries is in use: what a marker after the first one carries is not. -/
theorem codes_of_second_marker :
    ¬ ∀ (blueprint : Blueprint) (engine : Engine), blueprint.build = .ok engine →
      ∀ tokens ∈ blueprint.rules, ∀ directives, resolveDirectives blueprint.registry tokens = .ok directives →
        ∀ text ∈ directives, ∀ code, Carries text code → code ∈ engine.codes := by
  intro all
  have built : secondMarkerRules.build = .ok secondMarkerEngine := rfl
  have carries : Carries "STR:B" "B" := ⟨by decide, 1, by decide, by decide⟩
  have used : "B" ∈ secondMarkerEngine.codes :=
    all secondMarkerRules secondMarkerEngine built ["x", "STR", "REQ", "STR:B"] (by simp [secondMarkerRules])
      ["STR", "REQ", "STR:B"] rfl "STR:B" (by simp) "B" carries
  exact absurd used (by decide)

end Blueprint

end FieldRules
