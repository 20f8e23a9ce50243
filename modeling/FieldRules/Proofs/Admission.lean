import FieldRules.Proofs.Forms

/-!
# Which directives are admitted

The rule language as a list of its directives, by their names and parts (`Admitted`), beside the reader that builds
rules from them. A rule is built exactly from directives of the list (`build_succeeds_iff`): none is refused that is on
it, and none is read that is not, whichever type the rule has.
-/

namespace FieldRules

/-! ## Parts -/

/-- The parts that are left for a code: one at most, and a code unless there is a default. -/
def Coded (default : Prop) (code : List String) : Prop :=
  code.length ≤ 1 ∧ ((∃ own ∈ code, own ≠ "") ∨ default)

/-- The members of a list, without the blanks around them, where anything is left. -/
def membersOf (part : String) : List String :=
  ((Text.split ',' part).map Text.trim).filter fun member => !member.isEmpty

/-- A text is a value as a reader reads it. -/
def Reads {α : Type} (read : List Char → Option α) (text : String) : Prop :=
  ∃ value, read text.toList = some value

/-- Each bound is a number or left open, and the lower one is not above the upper one. -/
structure ValidBounds {α : Type} [LT α] (read : List Char → Option α) (lower upper : String) : Prop where
  isLower : Text.trim lower = "*" ∨ Reads read (Text.trim lower)
  isUpper : Text.trim upper = "*" ∨ Reads read (Text.trim upper)
  ordered : ∀ min max,
    read (Text.trim lower).toList = some min → read (Text.trim upper).toList = some max → ¬ max < min

section
variable {α : Type} {read : List Char → Option α} {default : Prop} {code lower upper text : String}

theorem Coded.of_default (h : default) : Coded default [] :=
  ⟨Nat.zero_le 1, Or.inr h⟩

theorem Coded.of_ne_empty (own : code ≠ "") : Coded default [code] :=
  ⟨Nat.le_refl 1, Or.inl ⟨code, List.mem_singleton_self code, own⟩⟩

instance : Decidable (Reads read text) :=
  decidable_of_iff ((read text.toList).isSome = true) Option.isSome_iff_exists

instance [LT α] [DecidableLT α] : Decidable (ValidBounds read lower upper) :=
  decidable_of_iff
    ((Text.trim lower = "*" ∨ Reads read (Text.trim lower)) ∧ (Text.trim upper = "*" ∨ Reads read (Text.trim upper)) ∧
      ∀ min ∈ read (Text.trim lower).toList, ∀ max ∈ read (Text.trim upper).toList, ¬ max < min)
    ⟨fun h => ⟨h.1, h.2.1, fun min max hmin hmax => h.2.2 min hmin max hmax⟩,
      fun h => ⟨h.isLower, h.isUpper, fun min hmin max hmax => h.ordered min max hmin hmax⟩⟩

end

/-! ## The list -/

/-- The directives, taken into their parts, that a rule of a type for a field can have. -/
inductive Admitted (type : RuleType) (field : String) (components : Option ComponentLookup) (default : Prop) :
    List String → Prop
  | marker : Admitted type field components default [type.marker]
  | markerCode (code : String) : Admitted type field components default [type.marker, code]
  | required {code : List String} (coded : Coded default code) : Admitted type field components default ("REQ" :: code)
  | stopAll : Admitted type field components default ["STOPALL"]
  | stopIfFailed : Admitted type field components default ["BREAK"]
  | exclusive {part : String} {code : List String} (some : membersOf part ≠ []) (others : field ∉ membersOf part)
    (coded : Coded default code) : Admitted type field components default ("MEX" :: part :: code)
  | external {lookup : ComponentLookup} {name : String} {code : List String} (available : components = some lookup)
    (known : (lookup name).isSome) (coded : Coded default code) :
    Admitted type field components default ("EXT" :: name :: code)
  | oneOfTexts {part : String} {code : List String} (typed : type = .str) (some : membersOf part ≠ [])
    (coded : Coded default code) : Admitted type field components default ("IN" :: part :: code)
  | oneOfIntegers {part : String} {code : List String} (typed : type = .int) (some : membersOf part ≠ [])
    (numbers : ∀ member ∈ membersOf part, Reads Numeral.readInteger? member) (coded : Coded default code) :
    Admitted type field components default ("IN" :: part :: code)
  | oneOfNumbers {part : String} {code : List String} (typed : type = .float) (some : membersOf part ≠ [])
    (numbers : ∀ member ∈ membersOf part, Reads RuleContext.readFinite? member) (coded : Coded default code) :
    Admitted type field components default ("IN" :: part :: code)
  | length {lower upper : String} {code : List String} (typed : type = .str ∨ type = .obj)
    (bounds : ValidBounds Numeral.readCount? lower upper) (coded : Coded default code) :
    Admitted type field components default ("LEN" :: lower :: upper :: code)
  | integerRange {lower upper : String} {code : List String} (typed : type = .int)
    (bounds : ValidBounds Numeral.readInteger? lower upper) (coded : Coded default code) :
    Admitted type field components default ("RANGE" :: lower :: upper :: code)
  | numberRange {lower upper : String} {code : List String} (typed : type = .float)
    (bounds : ValidBounds RuleContext.readFinite? lower upper) (coded : Coded default code) :
    Admitted type field components default ("RANGE" :: lower :: upper :: code)
  | pattern {source : String} {code : List String} (typed : type = .str) (compiles : (Regex.ofWhole? source).isSome)
    (coded : Coded default code) : Admitted type field components default ("REG" :: source :: code)
  | trim (typed : type = .str) : Admitted type field components default ["TRIM"]
  | is {part : String} {code : List String} (typed : type = .bool)
    (truth : Text.trim part = "true" ∨ Text.trim part = "false") (coded : Coded default code) :
    Admitted type field components default ("IS" :: part :: code)

/-- The first marker of the type carries a code. -/
def MarkerCoded (type : RuleType) (directives : List String) : Prop :=
  ∃ text code, directives.find? (fun text => (Directive.decompose text).head? == some type.marker) = some text ∧
    (Directive.decompose text)[1]? = some code ∧ code ≠ ""

theorem markerCoded_iff {type : RuleType} {directives : List String} :
    MarkerCoded type directives ↔ (type.markerCode? directives).isSome := by
  have found : (directives.map Directive.parse).find? (fun directive => directive.name == type.marker) =
      (directives.find? fun text => (Directive.decompose text).head? == some type.marker).map Directive.parse := by
    rw [List.find?_map]
    rfl
  rw [RuleType.markerCode?, found, MarkerCoded]
  cases directives.find? fun text => (Directive.decompose text).head? == some type.marker with
  | none => simp
  | some text =>
    rw [Option.map_some, Option.bind_some, Option.isSome_iff_exists]
    simp only [Option.filter_eq_some_iff]
    constructor
    · rintro ⟨_, code, ⟨⟩, carried, some⟩
      exact ⟨code, carried, by simpa using some⟩
    · rintro ⟨code, carried, some⟩
      exact ⟨text, code, rfl, carried, by simpa using some⟩

/-- A directive whose parts from an index on are left for a code has one there, or else the default. -/
theorem exists_code?_iff {directive : Directive} {index : Nat} {default : String} {code : List String}
    (own : directive.part? index = code[0]?) (short : code.length ≤ 1) :
    (∃ c, directive.code? index default = some c) ↔ Coded (default ≠ "") code := by
  unfold Directive.code? Coded
  rw [own]
  match code, short with
  | [], _ => simp
  | [code], _ => by_cases h : code = "" <;> simp [h]

/-! ## Success -/

section
variable {ε α β : Type}

/-- There is a result. -/
def Succeeds (x : Except ε α) : Prop :=
  ∃ a, x = .ok a

theorem succeeds_ok (a : α) : Succeeds (.ok a : Except ε α) :=
  ⟨a, rfl⟩

theorem not_succeeds_error (error : ε) : ¬ Succeeds (.error error : Except ε α) := by
  rintro ⟨_, h⟩
  cases h

instance {x : Except ε α} : Decidable (Succeeds x) :=
  decidable_of_iff (x.toOption.isSome = true) (by cases x <;> simp [Succeeds, Except.toOption])

theorem succeeds_map_iff {x : Except ε α} {f : α → β} : Succeeds (f <$> x) ↔ Succeeds x := by
  simp only [Succeeds, map_eq_ok_iff]
  exact ⟨fun ⟨_, a, h, _⟩ => ⟨a, h⟩, fun ⟨a, h⟩ => ⟨f a, a, h, rfl⟩⟩

theorem succeeds_bind_iff {x : Except ε α} {f : α → Except ε β} :
    Succeeds (x >>= f) ↔ ∃ a, x = .ok a ∧ Succeeds (f a) := by
  simp only [Succeeds, bind_eq_ok_iff]
  exact ⟨fun ⟨b, a, h, hb⟩ => ⟨a, h, b, hb⟩, fun ⟨a, h, b, hb⟩ => ⟨b, a, h, hb⟩⟩

end

/-! ## Parameters -/

namespace Bounds

variable {α : Type} {read : List Char → Option α}

/-- A bound that can be read is what its text is as a number, nothing where it is left open. -/
theorem readBound_eq_ok_iff (noMark : read ['*'] = none) {part : String} {bound : Option α} :
    readBound read (some part) = .ok bound ↔
      (Text.trim part = "*" ∨ Reads read (Text.trim part)) ∧ bound = read (Text.trim part).toList := by
  simp only [readBound, Option.map_some]
  by_cases mark : Text.trim part = openMark
  · have toList : (Text.trim part).toList = ['*'] := mark ▸ rfl
    rw [if_pos mark, toList, noMark, Except.ok.injEq]
    exact ⟨fun h => ⟨Or.inl mark, h.symm⟩, fun h => h.2.symm⟩
  · rw [if_neg mark, Reads]
    cases read (Text.trim part).toList with
    | none =>
      constructor
      · intro h
        cases h
      · rintro ⟨mark' | ⟨_, h⟩, -⟩
        · exact absurd mark' mark
        · cases h
    | some value =>
      rw [Except.ok.injEq]
      exact ⟨fun h => ⟨Or.inr ⟨value, rfl⟩, h.symm⟩, fun h => h.2.symm⟩

theorem isReversed_eq_false_iff [LT α] [DecidableLT α] {min? max? : Option α} :
    (⟨min?, max?⟩ : Bounds α).isReversed = false ↔ ∀ min max, min? = some min → max? = some max → ¬ max < min := by
  cases min? <;> cases max? <;> simp [isReversed]

theorem all_eq_true_iff {min? max? : Option α} {p : α → Bool} : (⟨min?, max?⟩ : Bounds α).all p = true ↔
    (∀ x, min? = some x → p x = true) ∧ ∀ x, max? = some x → p x = true := by
  cases min? <;> cases max? <;> simp [all]

theorem read_eq_ok_iff [LT α] [DecidableLT α] (noMark : read ['*'] = none) {name lower upper : String}
    {code : List String} {bounds : Bounds α} :
    Bounds.read read ⟨name, lower :: upper :: code⟩ = .ok bounds ↔
      ValidBounds read lower upper ∧ bounds = ⟨read (Text.trim lower).toList, read (Text.trim upper).toList⟩ := by
  have first : Directive.part? ⟨name, lower :: upper :: code⟩ 1 = some lower := rfl
  have second : Directive.part? ⟨name, lower :: upper :: code⟩ 2 = some upper := rfl
  simp only [Bounds.read, first, second, bind_eq_ok_iff, readBound_eq_ok_iff noMark]
  constructor
  · rintro ⟨_, ⟨isLower, rfl⟩, _, ⟨isUpper, rfl⟩, h⟩
    split at h
    · cases h
    · next straight =>
      have ordered := isReversed_eq_false_iff.1 (by simpa using straight)
      exact ⟨⟨isLower, isUpper, ordered⟩, (Except.ok.inj h).symm⟩
  · rintro ⟨valid, rfl⟩
    refine ⟨_, ⟨valid.isLower, rfl⟩, _, ⟨valid.isUpper, rfl⟩, ?_⟩
    rw [isReversed_eq_false_iff.2 valid.ordered]
    rfl

theorem succeeds_read_iff [LT α] [DecidableLT α] (noMark : read ['*'] = none) {name lower upper : String}
    {code : List String} :
    Succeeds (Bounds.read read ⟨name, lower :: upper :: code⟩) ↔ ValidBounds read lower upper := by
  simp [Succeeds, read_eq_ok_iff noMark]

end Bounds

namespace RuleContext

theorem readFinite?_eq_some_iff {cs : List Char} {x : Float} :
    readFinite? cs = some x ↔ Numeral.readDouble? cs = some x ∧ x.isFinite = true := by
  simp only [readFinite?, Option.bind_eq_some_iff, Option.ite_none_right_eq_some, Option.some.injEq]
  constructor
  · rintro ⟨_, read, finite, rfl⟩
    exact ⟨read, finite⟩
  · rintro ⟨read, finite⟩
    exact ⟨x, read, finite, rfl⟩

theorem isBound_readFinite?_iff {part : String} :
    (Text.trim part = "*" ∨ Reads readFinite? (Text.trim part)) ↔
      (Text.trim part = "*" ∨ Reads Numeral.readDouble? (Text.trim part)) ∧
        ∀ x, Numeral.readDouble? (Text.trim part).toList = some x → x.isFinite = true := by
  by_cases mark : Text.trim part = "*"
  · have noNumber : Numeral.readDouble? (Text.trim part).toList = none := by
      rw [mark]
      rfl
    refine ⟨fun _ => ⟨Or.inl mark, fun x number => ?_⟩, fun _ => Or.inl mark⟩
    rw [noNumber] at number
    cases number
  · simp only [mark, false_or, Reads, readFinite?_eq_some_iff]
    cases Numeral.readDouble? (Text.trim part).toList <;> simp

/-- Finite bounds are bounds that are finite. -/
theorem validBounds_readFinite?_iff {lower upper : String} :
    ValidBounds readFinite? lower upper ↔ ValidBounds Numeral.readDouble? lower upper ∧
      (∀ x, Numeral.readDouble? (Text.trim lower).toList = some x → x.isFinite = true) ∧
      ∀ x, Numeral.readDouble? (Text.trim upper).toList = some x → x.isFinite = true := by
  constructor
  · rintro ⟨isLower, isUpper, ordered⟩
    obtain ⟨isLower, lowerFinite⟩ := isBound_readFinite?_iff.1 isLower
    obtain ⟨isUpper, upperFinite⟩ := isBound_readFinite?_iff.1 isUpper
    refine ⟨⟨isLower, isUpper, fun min max hmin hmax => ?_⟩, lowerFinite, upperFinite⟩
    have finiteMin := readFinite?_eq_some_iff.2 ⟨hmin, lowerFinite min hmin⟩
    have finiteMax := readFinite?_eq_some_iff.2 ⟨hmax, upperFinite max hmax⟩
    exact ordered min max finiteMin finiteMax
  · rintro ⟨⟨isLower, isUpper, ordered⟩, lowerFinite, upperFinite⟩
    refine ⟨isBound_readFinite?_iff.2 ⟨isLower, lowerFinite⟩, isBound_readFinite?_iff.2 ⟨isUpper, upperFinite⟩, ?_⟩
    intro min max hmin hmax
    exact ordered min max (readFinite?_eq_some_iff.1 hmin).1 (readFinite?_eq_some_iff.1 hmax).1

theorem succeeds_rangeTest_float_iff {name lower upper : String} {code : List String} :
    Succeeds (rangeTest .float ⟨name, lower :: upper :: code⟩) ↔ ValidBounds readFinite? lower upper := by
  have noMark : Numeral.readDouble? ['*'] = none := rfl
  rw [rangeTest, succeeds_bind_iff, validBounds_readFinite?_iff, ← Bounds.all_eq_true_iff]
  simp only [Bounds.read_eq_ok_iff noMark]
  constructor
  · rintro ⟨_, ⟨valid, rfl⟩, h⟩
    split at h
    · next finite => exact ⟨valid, finite⟩
    · exact absurd h (not_succeeds_error _)
  · rintro ⟨valid, finite⟩
    refine ⟨_, ⟨valid, rfl⟩, ?_⟩
    rw [if_pos finite]
    exact succeeds_ok _

theorem succeeds_rangeTest_int_iff {name lower upper : String} {code : List String} :
    Succeeds (rangeTest .int ⟨name, lower :: upper :: code⟩) ↔ ValidBounds Numeral.readInteger? lower upper := by
  simp only [rangeTest, succeeds_map_iff]
  exact Bounds.succeeds_read_iff rfl

theorem succeeds_nonempty_iff {α : Type} {values : List α} : Succeeds (nonempty values) ↔ values ≠ [] := by
  cases values with
  | nil => simp [nonempty, not_succeeds_error]
  | cons value values => simp [nonempty, succeeds_ok]

theorem succeeds_readExcluded_iff {field : String} {members : List String} :
    Succeeds (readExcluded field members) ↔ members ≠ [] ∧ field ∉ members := by
  simp only [Succeeds, readExcluded_eq_ok_iff]
  constructor
  · rintro ⟨_, nonempty, apart, -⟩
    exact ⟨nonempty, apart⟩
  · rintro ⟨nonempty, apart⟩
    exact ⟨members, nonempty, apart, rfl⟩

theorem succeeds_findComponent_iff {field name : String} {components : Option ComponentLookup} :
    Succeeds (findComponent field name components) ↔ ∃ lookup, components = some lookup ∧ (lookup name).isSome := by
  cases components with
  | none => simp [findComponent, not_succeeds_error]
  | some lookup => cases h : lookup name with
    | none => simp [findComponent, h, not_succeeds_error]
    | some component => simp [findComponent, h, succeeds_ok]

theorem succeeds_readPattern_iff {source : String} :
    Succeeds (readPattern source) ↔ (Regex.ofWhole? source).isSome := by
  unfold readPattern
  cases Regex.ofWhole? source with
  | none => simp [not_succeeds_error]
  | some regex => simp [succeeds_ok]

theorem succeeds_readTruth_iff {part : String} :
    Succeeds (readTruth part) ↔ Text.trim part = "true" ∨ Text.trim part = "false" := by
  unfold readTruth
  by_cases yes : Text.trim part = "true"
  · simp [yes, succeeds_ok]
  · by_cases no : Text.trim part = "false"
    · simp [no, succeeds_ok]
    · simp [yes, no, not_succeeds_error]

/-- A list of numbers has members, each of which is a number. -/
theorem exists_readMembers_iff {α : Type} {type : RuleType} {read : List Char → Option α} {members : List String} :
    (∃ values, readMembers type read members = .ok values ∧ values ≠ []) ↔
      members ≠ [] ∧ ∀ member ∈ members, Reads read member := by
  simp only [readMembers, mapM_eq_ok_iff]
  constructor
  · rintro ⟨values, h, some⟩
    refine ⟨fun none => some ?_, fun member hm => ?_⟩
    · rw [none] at h
      exact List.map_eq_nil_iff.1 h.symm
    · obtain ⟨_, -, hv⟩ := exists_ok_of_mem h hm
      split at hv
      · next value number => exact ⟨value, number⟩
      · cases hv
  · rintro ⟨some, numbers⟩
    refine Exists.elim (exists_map_eq_ok fun member hm => ?_) fun values h => ⟨values, h, fun none => some ?_⟩
    · obtain ⟨value, number⟩ := numbers member hm
      exact ⟨value, by simp only [number]⟩
    · rw [none] at h
      exact List.map_eq_nil_iff.1 h

theorem succeeds_oneOfTest_iff {type : RuleType} {members : List String} :
    Succeeds (oneOfTest type members) ↔ members ≠ [] ∧
      (type = .int → ∀ member ∈ members, Reads Numeral.readInteger? member) ∧
      (type = .float → ∀ member ∈ members, Reads readFinite? member) := by
  cases type with
  | int => simp [oneOfTest, succeeds_bind_iff, succeeds_map_iff, succeeds_nonempty_iff, exists_readMembers_iff]
  | float => simp [oneOfTest, succeeds_bind_iff, succeeds_map_iff, succeeds_nonempty_iff, exists_readMembers_iff]
  | str | obj | bool => simp [oneOfTest, succeeds_map_iff, succeeds_nonempty_iff]

end RuleContext

/-! ## Keywords -/

namespace Keyword

/-- A keyword that takes a code takes it after the parts that it needs, and nothing more. -/
theorem counts_of_codeIndex {keyword : Keyword} {index : Nat} (h : keyword.codeIndex = some index) :
    keyword.minParts = index ∧ keyword.maxParts = index + 1 := by
  cases keyword <;> first | (cases h; exact ⟨rfl, rfl⟩) | cases h

theorem counts_of_no_code {keyword : Keyword} (h : keyword.codeIndex = none) :
    keyword.minParts = 1 ∧ keyword.maxParts = 1 := by
  cases keyword <;> first | exact ⟨rfl, rfl⟩ | cases h

end Keyword

namespace RuleContext

variable {context : RuleContext} {keyword : Keyword} {arguments : List String}

theorem succeeds_codeAt_iff {directive : Directive} {field defaultCode : String} {index : Nat} :
    Succeeds (codeAt field defaultCode index directive) ↔ ∃ code, directive.code? index defaultCode = some code := by
  simp [Succeeds, codeAt_eq_ok_iff]

theorem succeeds_orBadParameter_iff {α : Type} {directive : Directive} {field : String}
    {result : Except ParameterFault α} : Succeeds (orBadParameter field directive result) ↔ Succeeds result := by
  simp [Succeeds, orBadParameter_eq_ok_iff]

/-- A directive with a keyword is read when the type knows it, it has as many parts as it takes, and they can be
read. -/
theorem succeeds_readDirective_keyword : Succeeds (context.readDirective ⟨keyword.name, arguments⟩) ↔
    keyword.appliesTo context.type = true ∧
      (keyword.minParts ≤ arguments.length + 1 ∧ arguments.length + 1 ≤ keyword.maxParts) ∧
      Succeeds (context.readKeyword ⟨keyword.name, arguments⟩ keyword) := by
  rw [readDirective_eq, if_neg (keyword.name_ne_marker context.type), succeeds_bind_iff]
  constructor
  · rintro ⟨found, hk, read⟩
    obtain ⟨named, applies, counted⟩ := findKeyword_eq_ok_iff.1 hk
    obtain rfl : keyword = found := by
      have same := Keyword.ofName?_name keyword
      rw [show keyword.name = found.name from named, Keyword.ofName?_name] at same
      exact (Option.some.inj same).symm
    exact ⟨applies, counted, read⟩
  · rintro ⟨applies, counted, read⟩
    exact ⟨keyword, findKeyword_eq_ok_iff.2 ⟨rfl, applies, counted⟩, read⟩

/-- Keywords without a code stand alone. -/
theorem succeeds_bare (keyword : Keyword) (bare : keyword.codeIndex = none) :
    Succeeds (context.readDirective ⟨keyword.name, arguments⟩) ↔
      keyword.appliesTo context.type = true ∧ arguments = [] := by
  have read : Succeeds (context.readKeyword ⟨keyword.name, arguments⟩ keyword) := by
    cases keyword with
    | stopAll | stopIfFailed | trim => exact succeeds_ok _
    | _ => cases bare
  obtain ⟨min, max⟩ := Keyword.counts_of_no_code bare
  rw [succeeds_readDirective_keyword, min, max, ← List.length_eq_zero_iff]
  constructor
  · rintro ⟨applies, counted, -⟩
    exact ⟨applies, by omega⟩
  · rintro ⟨applies, none⟩
    exact ⟨applies, by omega, read⟩

/-- Keywords with a code have parameters before it, which are read without it. -/
theorem succeeds_coded (keyword : Keyword) {index : Nat} (coded : keyword.codeIndex = some (index + 1)) :
    Succeeds (context.readDirective ⟨keyword.name, arguments⟩) ↔
      keyword.appliesTo context.type = true ∧ ∃ parameters code, arguments = parameters ++ code ∧
        parameters.length = index ∧ Succeeds (context.readForm ⟨keyword.name, arguments⟩ keyword) ∧
        Coded (context.defaultCode ≠ "") code := by
  have reads : Succeeds (context.readKeyword ⟨keyword.name, arguments⟩ keyword) ↔
      Succeeds (context.readForm ⟨keyword.name, arguments⟩ keyword) ∧
        ∃ code, Directive.code? ⟨keyword.name, arguments⟩ (index + 1) context.defaultCode = some code := by
    simp only [readKeyword_eq, coded, succeeds_bind_iff, succeeds_map_iff, succeeds_codeAt_iff]
    exact ⟨fun ⟨form, hf, hc⟩ => ⟨⟨form, hf⟩, hc⟩, fun ⟨⟨form, hf⟩, hc⟩ => ⟨form, hf, hc⟩⟩
  obtain ⟨min, max⟩ := Keyword.counts_of_codeIndex coded
  rw [succeeds_readDirective_keyword, reads, min, max]
  have own (parameters code : List String) (counted : parameters.length = index) :
      Directive.part? ⟨keyword.name, parameters ++ code⟩ (index + 1) = code[0]? := by
    simp [Directive.part?, Directive.parts, List.getElem?_append_right, counted]
  constructor
  · rintro ⟨applies, counted, form, hc⟩
    obtain ⟨parameters, code, rfl, length⟩ : ∃ parameters code, arguments = parameters ++ code ∧
        parameters.length = index :=
      ⟨arguments.take index, arguments.drop index, (List.take_append_drop ..).symm, by rw [List.length_take]; omega⟩
    rw [List.length_append] at counted
    have short : code.length ≤ 1 := by omega
    exact ⟨applies, parameters, code, rfl, length, form, (exists_code?_iff (own parameters code length) short).1 hc⟩
  · rintro ⟨applies, parameters, code, rfl, counted, form, hc⟩
    have short := hc.1
    rw [List.length_append]
    exact ⟨applies, by omega, form, (exists_code?_iff (own parameters code counted) short).2 hc⟩

/-- Keywords with a parameter and a code. -/
theorem succeeds_part (keyword : Keyword) (coded : keyword.codeIndex = some 2) :
    Succeeds (context.readDirective ⟨keyword.name, arguments⟩) ↔
      keyword.appliesTo context.type = true ∧ ∃ part code, arguments = part :: code ∧
        Succeeds (context.readForm ⟨keyword.name, part :: code⟩ keyword) ∧ Coded (context.defaultCode ≠ "") code := by
  rw [succeeds_coded keyword coded]
  constructor
  · rintro ⟨applies, parameters, code, rfl, counted, read⟩
    obtain ⟨part, rfl⟩ := List.length_eq_one_iff.1 counted
    exact ⟨applies, part, code, rfl, read⟩
  · rintro ⟨applies, part, code, rfl, read⟩
    exact ⟨applies, [part], code, rfl, rfl, read⟩

/-- Keywords with two bounds and a code. -/
theorem succeeds_bounds (keyword : Keyword) (coded : keyword.codeIndex = some 3) :
    Succeeds (context.readDirective ⟨keyword.name, arguments⟩) ↔
      keyword.appliesTo context.type = true ∧ ∃ lower upper code, arguments = lower :: upper :: code ∧
        Succeeds (context.readForm ⟨keyword.name, lower :: upper :: code⟩ keyword) ∧
        Coded (context.defaultCode ≠ "") code := by
  rw [succeeds_coded keyword coded]
  constructor
  · rintro ⟨applies, parameters, code, rfl, counted, read⟩
    match parameters, counted with
    | [lower, upper], _ => exact ⟨applies, lower, upper, code, rfl, read⟩
  · rintro ⟨applies, lower, upper, code, rfl, read⟩
    exact ⟨applies, [lower, upper], code, rfl, rfl, read⟩

/-- The marker of the type is read with a code or without. -/
theorem succeeds_marker : Succeeds (context.readDirective ⟨context.type.marker, arguments⟩) ↔ arguments.length ≤ 1 := by
  rw [readDirective_eq, if_pos rfl, succeeds_map_iff]
  have counted : Directive.size ⟨context.type.marker, arguments⟩ = arguments.length + 1 := rfl
  constructor
  · rintro ⟨_, h⟩
    have := expectParts_eq_ok_iff.1 h
    omega
  · intro short
    exact ⟨(), expectParts_eq_ok_iff.2 (by omega)⟩

/-! ### Parameters of the keywords -/

section
variable {name part lower upper : String} {code : List String}

theorem form_exclusive : Succeeds (context.readForm ⟨name, part :: code⟩ .exclusive) ↔
    membersOf part ≠ [] ∧ context.field ∉ membersOf part := by
  rw [readForm, succeeds_map_iff, succeeds_orBadParameter_iff]
  exact succeeds_readExcluded_iff

theorem form_external : Succeeds (context.readForm ⟨name, part :: code⟩ .external) ↔
    ∃ lookup, context.components = some lookup ∧ (lookup part).isSome := by
  rw [readForm, succeeds_map_iff]
  exact succeeds_findComponent_iff

theorem form_oneOf : Succeeds (context.readForm ⟨name, part :: code⟩ .oneOf) ↔ membersOf part ≠ [] ∧
    (context.type = .int → ∀ member ∈ membersOf part, Reads Numeral.readInteger? member) ∧
    (context.type = .float → ∀ member ∈ membersOf part, Reads readFinite? member) := by
  rw [readForm, succeeds_map_iff, succeeds_orBadParameter_iff]
  exact succeeds_oneOfTest_iff

theorem form_length : Succeeds (context.readForm ⟨name, lower :: upper :: code⟩ .length) ↔
    ValidBounds Numeral.readCount? lower upper := by
  rw [readForm, succeeds_map_iff, succeeds_orBadParameter_iff, succeeds_map_iff]
  exact Bounds.succeeds_read_iff rfl

theorem form_range_int (typed : context.type = .int) :
    Succeeds (context.readForm ⟨name, lower :: upper :: code⟩ .range) ↔
      ValidBounds Numeral.readInteger? lower upper := by
  rw [readForm, succeeds_map_iff, succeeds_orBadParameter_iff, typed]
  exact succeeds_rangeTest_int_iff

theorem form_range_float (typed : context.type = .float) :
    Succeeds (context.readForm ⟨name, lower :: upper :: code⟩ .range) ↔ ValidBounds readFinite? lower upper := by
  rw [readForm, succeeds_map_iff, succeeds_orBadParameter_iff, typed]
  exact succeeds_rangeTest_float_iff

theorem form_pattern : Succeeds (context.readForm ⟨name, part :: code⟩ .pattern) ↔ (Regex.ofWhole? part).isSome := by
  rw [readForm, succeeds_map_iff, succeeds_orBadParameter_iff, succeeds_map_iff]
  exact succeeds_readPattern_iff

theorem form_is : Succeeds (context.readForm ⟨name, part :: code⟩ .is) ↔
    Text.trim part = "true" ∨ Text.trim part = "false" := by
  rw [readForm, succeeds_map_iff, succeeds_orBadParameter_iff, succeeds_map_iff]
  exact succeeds_readTruth_iff

end

/-! ## The list is what is read -/

/-- Nothing is read that is not on the list. -/
theorem admitted_of_succeeds {directive : Directive} (h : Succeeds (context.readDirective directive)) :
    Admitted context.type context.field context.components (context.defaultCode ≠ "") directive.parts := by
  obtain ⟨clause, read⟩ := id h
  obtain ⟨name, arguments⟩ := directive
  rcases readDirective_cases read with ⟨rfl, -⟩ | ⟨keyword, rfl, -⟩
  · have short := succeeds_marker.1 h
    match arguments, short with
    | [], _ => exact .marker
    | [code], _ => exact .markerCode code
  · cases keyword with
    | required =>
      obtain ⟨-, parameters, code, rfl, counted, -, coded⟩ := (succeeds_coded .required rfl).1 h
      rw [List.length_eq_zero_iff] at counted
      subst counted
      exact .required coded
    | stopAll =>
      obtain ⟨-, rfl⟩ := (succeeds_bare .stopAll rfl).1 h
      exact .stopAll
    | stopIfFailed =>
      obtain ⟨-, rfl⟩ := (succeeds_bare .stopIfFailed rfl).1 h
      exact .stopIfFailed
    | exclusive =>
      obtain ⟨-, part, code, rfl, form, coded⟩ := (succeeds_part .exclusive rfl).1 h
      obtain ⟨some, others⟩ := form_exclusive.1 form
      exact .exclusive some others coded
    | external =>
      obtain ⟨-, part, code, rfl, form, coded⟩ := (succeeds_part .external rfl).1 h
      obtain ⟨lookup, available, known⟩ := form_external.1 form
      exact .external available known coded
    | oneOf =>
      obtain ⟨applies, part, code, rfl, form, coded⟩ := (succeeds_part .oneOf rfl).1 h
      obtain ⟨some, integers, numbers⟩ := form_oneOf.1 form
      cases typed : context.type with
      | str => exact .oneOfTexts rfl some coded
      | int => exact .oneOfIntegers rfl some (integers typed) coded
      | float => exact .oneOfNumbers rfl some (numbers typed) coded
      | obj | bool => simp [typed, Keyword.appliesTo] at applies
    | length =>
      obtain ⟨applies, lower, upper, code, rfl, form, coded⟩ := (succeeds_bounds .length rfl).1 h
      have bounds := form_length.1 form
      cases typed : context.type with
      | str => exact .length (Or.inl rfl) bounds coded
      | obj => exact .length (Or.inr rfl) bounds coded
      | bool | int | float => simp [typed, Keyword.appliesTo] at applies
    | range =>
      obtain ⟨applies, lower, upper, code, rfl, form, coded⟩ := (succeeds_bounds .range rfl).1 h
      cases typed : context.type with
      | int => exact .integerRange rfl ((form_range_int typed).1 form) coded
      | float => exact .numberRange rfl ((form_range_float typed).1 form) coded
      | str | obj | bool => simp [typed, Keyword.appliesTo] at applies
    | pattern =>
      obtain ⟨applies, part, code, rfl, form, coded⟩ := (succeeds_part .pattern rfl).1 h
      cases typed : context.type with
      | str => exact .pattern rfl (form_pattern.1 form) coded
      | obj | bool | int | float => simp [typed, Keyword.appliesTo] at applies
    | trim =>
      obtain ⟨applies, rfl⟩ := (succeeds_bare .trim rfl).1 h
      cases typed : context.type with
      | str => exact .trim rfl
      | obj | bool | int | float => simp [typed, Keyword.appliesTo] at applies
    | is =>
      obtain ⟨applies, part, code, rfl, form, coded⟩ := (succeeds_part .is rfl).1 h
      cases typed : context.type with
      | bool => exact .is rfl (form_is.1 form) coded
      | str | obj | int | float => simp [typed, Keyword.appliesTo] at applies

/-- Nothing is refused that is on the list. -/
theorem succeeds_of_admitted {directive : Directive}
    (h : Admitted context.type context.field context.components (context.defaultCode ≠ "") directive.parts) :
    Succeeds (context.readDirective directive) := by
  obtain ⟨name, arguments⟩ := directive
  cases h with
  | marker => exact succeeds_marker.2 (Nat.zero_le 1)
  | markerCode code => exact succeeds_marker.2 (Nat.le_refl 1)
  | required coded => exact (succeeds_coded .required rfl).2 ⟨rfl, [], arguments, rfl, rfl, succeeds_ok _, coded⟩
  | stopAll => exact (succeeds_bare .stopAll rfl).2 ⟨rfl, rfl⟩
  | stopIfFailed => exact (succeeds_bare .stopIfFailed rfl).2 ⟨rfl, rfl⟩
  | exclusive some others coded =>
    exact (succeeds_part .exclusive rfl).2 ⟨rfl, _, _, rfl, form_exclusive.2 ⟨some, others⟩, coded⟩
  | external available known coded =>
    exact (succeeds_part .external rfl).2 ⟨rfl, _, _, rfl, form_external.2 ⟨_, available, known⟩, coded⟩
  | oneOfTexts typed some coded =>
    refine (succeeds_part .oneOf rfl).2 ⟨by rw [typed]; rfl, _, _, rfl, form_oneOf.2 ⟨some, ?_, ?_⟩, coded⟩ <;>
      simp [typed]
  | oneOfIntegers typed some numbers coded =>
    refine (succeeds_part .oneOf rfl).2 ⟨by rw [typed]; rfl, _, _, rfl, form_oneOf.2 ⟨some, ?_, ?_⟩, coded⟩
    · exact fun _ => numbers
    · simp [typed]
  | oneOfNumbers typed some numbers coded =>
    refine (succeeds_part .oneOf rfl).2 ⟨by rw [typed]; rfl, _, _, rfl, form_oneOf.2 ⟨some, ?_, ?_⟩, coded⟩
    · simp [typed]
    · exact fun _ => numbers
  | length typed bounds coded =>
    have applies : Keyword.length.appliesTo context.type = true := by
      rcases typed with typed | typed <;> rw [typed] <;> rfl
    exact (succeeds_bounds .length rfl).2 ⟨applies, _, _, _, rfl, form_length.2 bounds, coded⟩
  | integerRange typed bounds coded =>
    exact (succeeds_bounds .range rfl).2 ⟨by rw [typed]; rfl, _, _, _, rfl, (form_range_int typed).2 bounds, coded⟩
  | numberRange typed bounds coded =>
    exact (succeeds_bounds .range rfl).2 ⟨by rw [typed]; rfl, _, _, _, rfl, (form_range_float typed).2 bounds, coded⟩
  | pattern typed compiles coded =>
    exact (succeeds_part .pattern rfl).2 ⟨by rw [typed]; rfl, _, _, rfl, form_pattern.2 compiles, coded⟩
  | trim typed => exact (succeeds_bare .trim rfl).2 ⟨by rw [typed]; rfl, rfl⟩
  | is typed truth coded => exact (succeeds_part .is rfl).2 ⟨by rw [typed]; rfl, _, _, rfl, form_is.2 truth, coded⟩

end RuleContext

/-! ## Rules -/

/-- **A rule is built exactly from directives of the list.** Whatever the type, the field, the default code and the
components: the rule is built if and only if each of its directives, taken into its parts, is one that a rule of the
type can have; the default is a code that the marker carries, or else that of the whole. -/
theorem FieldRule.build_succeeds_iff (type : RuleType) (field : String) (directives : List String)
    (defaultCode : String) (components : Option ComponentLookup) :
    (∃ rule, FieldRule.build type field directives defaultCode components = .ok rule) ↔
      ∀ text ∈ directives,
        Admitted type field components (MarkerCoded type directives ∨ defaultCode ≠ "") (Directive.decompose text) := by
  have default : type.defaultCode directives defaultCode ≠ "" ↔ MarkerCoded type directives ∨ defaultCode ≠ "" := by
    rw [RuleType.defaultCode_ne_empty_iff, markerCoded_iff]
  rw [← default]
  constructor
  · rintro ⟨rule, built⟩ text ht
    obtain ⟨clauses, read, -⟩ := build_eq_ok_iff.1 built
    obtain ⟨clause, -, hclause⟩ := exists_ok_of_mem read ht
    exact RuleContext.admitted_of_succeeds ⟨clause, hclause⟩
  · intro admitted
    let context : RuleContext := { field, type, components, defaultCode := type.defaultCode directives defaultCode }
    have each (text : String) (ht : text ∈ directives) : Succeeds (context.readDirective (Directive.parse text)) :=
      RuleContext.succeeds_of_admitted (admitted text ht)
    obtain ⟨clauses, read⟩ := exists_map_eq_ok each
    exact ⟨_, build_eq_ok_iff.2 ⟨clauses, read, rfl⟩⟩

/-- Bounds without a code, under a marker that carries one. -/
def codedDirectives : List String :=
  ["INT:BAD", "STOPALL", "RANGE:0:*", "IN:1, +2:KNOWN"]

/-- Bounds without a code, and none to fall back to. -/
def uncodedDirectives : List String :=
  ["INT", "STOPALL", "RANGE:0:*"]

def codedNumbers : List String :=
  ["FLOAT:BAD", "RANGE:-1.5:1e3", "IN:0.5, 2:KNOWN"]

def codedTexts : List String :=
  ["STR:BAD", "TRIM", "LEN:1:*", "REG:[a-z]+:FORM", "MEX:m, o", "IN:a,b"]

/-- Directives that stand in no rule for texts in the field `n`, each for a reason of its own. -/
def refusedTexts : List String :=
  ["REG:(", "MEX:m,n", "LEN:2:1", "IN:,", "RANGE:0:1"]

theorem admitted_codedDirectives {text : String} (ht : text ∈ codedDirectives) :
    Admitted .int "n" none (MarkerCoded .int codedDirectives ∨ "" ≠ "") (Directive.decompose text) := by
  have marked : MarkerCoded .int codedDirectives := ⟨"INT:BAD", "BAD", by decide, by decide, by decide⟩
  simp only [codedDirectives, List.mem_cons, List.not_mem_nil, or_false] at ht
  rcases ht with rfl | rfl | rfl | rfl
  · rw [(by decide : Directive.decompose "INT:BAD" = ["INT", "BAD"])]
    exact .markerCode "BAD"
  · rw [(by decide : Directive.decompose "STOPALL" = ["STOPALL"])]
    exact .stopAll
  · rw [(by decide : Directive.decompose "RANGE:0:*" = ["RANGE", "0", "*"])]
    exact .integerRange rfl (by decide) (.of_default (Or.inl marked))
  · rw [(by decide : Directive.decompose "IN:1, +2:KNOWN" = ["IN", "1, +2", "KNOWN"])]
    exact .oneOfIntegers rfl (by decide) (by decide) (.of_ne_empty (by decide))

theorem admitted_codedNumbers {text : String} (ht : text ∈ codedNumbers) :
    Admitted .float "n" none (MarkerCoded .float codedNumbers ∨ "" ≠ "") (Directive.decompose text) := by
  have marked : MarkerCoded .float codedNumbers := ⟨"FLOAT:BAD", "BAD", by decide, by decide, by decide⟩
  simp only [codedNumbers, List.mem_cons, List.not_mem_nil, or_false] at ht
  rcases ht with rfl | rfl | rfl
  · rw [(by decide : Directive.decompose "FLOAT:BAD" = ["FLOAT", "BAD"])]
    exact .markerCode "BAD"
  · rw [(by decide : Directive.decompose "RANGE:-1.5:1e3" = ["RANGE", "-1.5", "1e3"])]
    exact .numberRange rfl (by decide +kernel) (.of_default (Or.inl marked))
  · rw [(by decide : Directive.decompose "IN:0.5, 2:KNOWN" = ["IN", "0.5, 2", "KNOWN"])]
    exact .oneOfNumbers rfl (by decide) (by decide +kernel) (.of_ne_empty (by decide))

theorem admitted_codedTexts {text : String} (ht : text ∈ codedTexts) :
    Admitted .str "n" none (MarkerCoded .str codedTexts ∨ "" ≠ "") (Directive.decompose text) := by
  have marked : MarkerCoded .str codedTexts := ⟨"STR:BAD", "BAD", by decide, by decide, by decide⟩
  simp only [codedTexts, List.mem_cons, List.not_mem_nil, or_false] at ht
  rcases ht with rfl | rfl | rfl | rfl | rfl | rfl
  · rw [(by decide : Directive.decompose "STR:BAD" = ["STR", "BAD"])]
    exact .markerCode "BAD"
  · rw [(by decide : Directive.decompose "TRIM" = ["TRIM"])]
    exact .trim rfl
  · rw [(by decide : Directive.decompose "LEN:1:*" = ["LEN", "1", "*"])]
    exact .length (Or.inl rfl) (by decide) (.of_default (Or.inl marked))
  · rw [(by decide : Directive.decompose "REG:[a-z]+:FORM" = ["REG", "[a-z]+", "FORM"])]
    exact .pattern rfl (by decide +kernel) (.of_ne_empty (by decide))
  · rw [(by decide : Directive.decompose "MEX:m, o" = ["MEX", "m, o"])]
    exact .exclusive (by decide) (by decide) (.of_default (Or.inl marked))
  · rw [(by decide : Directive.decompose "IN:a,b" = ["IN", "a,b"])]
    exact .oneOfTexts rfl (by decide) (.of_default (Or.inl marked))

/-- What is on the list is built, for numbers, texts and integers alike; and a directive that cannot be built with the
others is not on it. -/
theorem FieldRule.build_succeeds_iff_coded :
    (∃ rule, FieldRule.build .int "n" codedDirectives "" none = .ok rule) ∧
      (¬ ∃ rule, FieldRule.build .int "n" uncodedDirectives "" none = .ok rule) ∧
      (∃ rule, FieldRule.build .float "n" codedNumbers "" none = .ok rule) ∧
      (∃ rule, FieldRule.build .str "n" codedTexts "" none = .ok rule) ∧
      ∀ text ∈ refusedTexts,
        ¬ Admitted .str "n" none (MarkerCoded .str ["STR:BAD", text] ∨ "" ≠ "") (Directive.decompose text) := by
  have refused : ∀ text ∈ refusedTexts, ¬ Succeeds (FieldRule.build .str "n" ["STR:BAD", text] "" none) := by
    decide +kernel
  refine ⟨(build_succeeds_iff .int "n" codedDirectives "" none).2 fun text => admitted_codedDirectives, ?_,
    (build_succeeds_iff .float "n" codedNumbers "" none).2 fun text => admitted_codedNumbers,
    (build_succeeds_iff .str "n" codedTexts "" none).2 fun text => admitted_codedTexts, fun text ht admitted => ?_⟩
  · rintro ⟨_, built⟩
    cases built
  · refine refused text ht ((build_succeeds_iff .str "n" ["STR:BAD", text] "" none).2 fun other ho => ?_)
    simp only [List.mem_cons, List.not_mem_nil, or_false] at ho
    rcases ho with rfl | rfl
    · rw [(by decide : Directive.decompose "STR:BAD" = ["STR", "BAD"])]
      exact .markerCode "BAD"
    · exact admitted

end FieldRules
