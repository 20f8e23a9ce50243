import FieldRules.Proofs.OneTest
import FieldRules.Proofs.Parts
import FieldRules.Proofs.TextJudged

/-!
# Bounds are exact

Bounds on an integer or on a length are accepted when they are numerals of their width, or leave their side open, and
are in order; and they pass the values between them, as numbers and not as words of some width (`bounds_exact`). An
integer that fits in no word with sign is not compared at all. Among other directives bounds decide for themselves, and
for the rule where the others pass (`FieldRule.DecidedBy`).
-/

namespace FieldRules

/-! ## Bounds as they are written -/

namespace Directive

/-- Text without a colon is written as it is. -/
theorem escapeChars_of_plain {cs : List Char} (plain : ':' ∉ cs) : escapeChars cs = cs := by
  induction cs with
  | nil => rfl
  | cons c cs ih =>
    obtain ⟨other, rest⟩ := not_or.1 (mt List.mem_cons.2 plain)
    rw [escapeChars_cons, if_neg (Ne.symm other), ih rest]
    rfl

theorem head?_ne_colon_of_plain {cs : List Char} (plain : ':' ∉ cs) : cs.head? ≠ some ':' :=
  fun start => plain (List.mem_of_head? start)

/-- A directive with two bounds. -/
def withBounds (name lower upper : String) : String :=
  name ++ ":" ++ lower ++ ":" ++ upper

variable {name lower upper : String}

theorem withBounds_eq_join (plainName : ':' ∉ name.toList) (plainLower : ':' ∉ lower.toList)
    (plainUpper : ':' ∉ upper.toList) : withBounds name lower upper = join [name, lower, upper] := by
  apply String.toList_injective
  rw [toList_join]
  simp [withBounds, written, escapeChars_of_plain, plainName, plainLower, plainUpper]

/-- Bounds are read back, if the lower one is not empty. -/
theorem parse_withBounds (plainName : ':' ∉ name.toList) (plainLower : ':' ∉ lower.toList)
    (plainUpper : ':' ∉ upper.toList) (some : lower ≠ "") :
    parse (withBounds name lower upper) = ⟨name, [lower, upper]⟩ := by
  have apart : Separable ([lower, upper].map String.toList) :=
    ⟨head?_ne_colon_of_plain plainLower, fun empty => absurd (String.toList_eq_nil_iff.1 empty) some,
      head?_ne_colon_of_plain plainUpper, fun _ => rfl, trivial⟩
  rw [withBounds_eq_join plainName plainLower plainUpper, parse_join_of_separable apart]

/-- Behind an empty bound, the two colons are a pair, and belong to the name. -/
theorem colon_mem_name_of_empty (plainName : ':' ∉ name.toList) :
    ':' ∈ (parse (withBounds name "" upper)).name.toList := by
  have pair : (withBounds name "" upper).toList = escapeChars name.toList ++ ':' :: ':' :: upper.toList := by
    simp [withBounds, escapeChars_of_plain plainName]
  have cut : (parse (withBounds name "" upper)).name.toList =
      name.toList ++ (cut (':' :: ':' :: upper.toList)).1 := by
    simp only [parse, pair, cut_escapeChars, String.toList_ofList]
  rw [cut, cut_pair]
  simp

end Directive

/-! ## Bounds as they are read -/

theorem Keyword.colon_not_mem_name (keyword : Keyword) : ':' ∉ keyword.name.toList := by
  cases keyword <;> decide

theorem RuleType.colon_not_mem_marker (type : RuleType) : ':' ∉ type.marker.toList := by
  cases type <;> decide

/-- The name of a directive that is read has no colon in it. -/
theorem RuleContext.colon_not_mem_name {context : RuleContext} {directive : Directive}
    (read : Succeeds (context.readDirective directive)) : ':' ∉ directive.name.toList := by
  obtain ⟨clause, read⟩ := read
  rcases readDirective_cases read with ⟨marker, -⟩ | ⟨keyword, named, -⟩
  · exact marker ▸ context.type.colon_not_mem_marker
  · exact named ▸ keyword.colon_not_mem_name

/-- With a keyword that tests bounds, and for a rule that has a default code, two texts ask for a test. -/
structure TestsBounds (context : RuleContext) (keyword : Keyword) (lower upper : String)
    (test : Except ParameterFault Test) : Prop where
  index : keyword.codeIndex = some 3
  applies : keyword.appliesTo context.type = true
  coded : context.defaultCode ≠ ""
  plainLower : ':' ∉ lower.toList
  plainUpper : ':' ∉ upper.toList
  asks : context.readKeyword ⟨keyword.name, [lower, upper]⟩ keyword =
    context.testClause ⟨keyword.name, [lower, upper]⟩ 3 test
  strict : lower = "" → ¬ Succeeds test

namespace TestsBounds

variable {context : RuleContext} {keyword : Keyword} {lower upper : String} {test : Except ParameterFault Test}

/-- A directive with bounds has no other name than that of its keyword, unless with a colon. -/
theorem isNamed_eq_false (h : TestsBounds context keyword lower upper test) {name : String}
    (plain : ':' ∉ name.toList) (other : keyword.name ≠ name) :
    Directive.isNamed name (Directive.withBounds keyword.name lower upper) = false := by
  rw [Directive.isNamed, beq_eq_false_iff_ne]
  by_cases empty : lower = ""
  · subst empty
    intro named
    have colon : ':' ∈ (Directive.parse (Directive.withBounds keyword.name "" upper)).name.toList :=
      Directive.colon_mem_name_of_empty keyword.colon_not_mem_name
    exact plain (named ▸ colon)
  · rw [Directive.parse_withBounds keyword.colon_not_mem_name h.plainLower h.plainUpper empty]
    exact other

theorem not_isNamed_marker (h : TestsBounds context keyword lower upper test) (type : RuleType) :
    Directive.isNamed type.marker (Directive.withBounds keyword.name lower upper) = false :=
  h.isNamed_eq_false type.colon_not_mem_marker (keyword.name_ne_marker type)

/-- **A directive with two bounds** is read as its test, with the default code of the rule. -/
theorem readDirective_eq_ok_iff (h : TestsBounds context keyword lower upper test) {clause : Clause} :
    context.readDirective (Directive.parse (Directive.withBounds keyword.name lower upper)) = .ok clause ↔
      ∃ condition, test = .ok condition ∧ clause = .check (.test condition context.defaultCode) := by
  by_cases empty : lower = ""
  · subst empty
    constructor
    · intro read
      exact absurd (Directive.colon_mem_name_of_empty keyword.colon_not_mem_name)
        (RuleContext.colon_not_mem_name ⟨clause, read⟩)
    · rintro ⟨condition, ht, -⟩
      exact absurd ⟨condition, ht⟩ (h.strict rfl)
  · have own : Directive.code? ⟨keyword.name, [lower, upper]⟩ 3 context.defaultCode = some context.defaultCode :=
      if_neg fun empty => h.coded (String.isEmpty_iff.1 empty)
    obtain ⟨min, max⟩ := Keyword.counts_of_codeIndex h.index
    have counted : keyword.minParts ≤ [lower, upper].length + 1 ∧ [lower, upper].length + 1 ≤ keyword.maxParts := by
      rw [min, max]
      exact ⟨Nat.le_refl 3, Nat.le_succ 3⟩
    rw [Directive.parse_withBounds keyword.colon_not_mem_name h.plainLower h.plainUpper empty,
      RuleContext.readDirective_keyword h.applies counted, h.asks, RuleContext.testClause_eq_ok_iff]
    simp only [own, Option.some.injEq, ↓existsAndEq, true_and]

variable {type : RuleType} {field defaultCode : String} {before after : List String}
  {components : Option ComponentLookup}

/-- A rule with bounds is built when it is built without them and they can be tested. -/
theorem succeeds_build_iff
    (h : TestsBounds (.ofRule type field (before ++ after) defaultCode components) keyword lower upper test) :
    Succeeds (FieldRule.build type field (before ++ Directive.withBounds keyword.name lower upper :: after) defaultCode
        components) ↔
      Succeeds (FieldRule.build type field (before ++ after) defaultCode components) ∧ Succeeds test := by
  have read : Succeeds ((RuleContext.ofRule type field (before ++ after) defaultCode components).readDirective
      (Directive.parse (Directive.withBounds keyword.name lower upper))) ↔ Succeeds test := by
    simp only [Succeeds, h.readDirective_eq_ok_iff]
    constructor
    · rintro ⟨_, condition, ht, -⟩
      exact ⟨condition, ht⟩
    · rintro ⟨condition, ht⟩
      exact ⟨_, condition, ht, rfl⟩
  rw [FieldRule.build_insert_succeeds_iff (h.not_isNamed_marker type), read]

/-- A rule with bounds decides by them. -/
theorem decidedBy
    (h : TestsBounds (.ofRule type field (before ++ after) defaultCode components) keyword lower upper test)
    {rule : FieldRule} (built : FieldRule.build type field
      (before ++ Directive.withBounds keyword.name lower upper :: after) defaultCode components = .ok rule)
    {situation : FieldRule.Situation} {value : Json}
    (reads : rule.read (situation.path field) situation.subject = .ok (some value)) {within : Prop}
    (same : ∀ condition, test = .ok condition → (condition.holds value = true ↔ within)) :
    rule.DecidedBy situation
      ((RuleContext.ofRule type field (before ++ after) defaultCode components).judge situation.known value)
      (Directive.withBounds keyword.name lower upper) (before ++ after)
      (type.defaultCode (before ++ after) defaultCode) within := by
  obtain ⟨-, condition, ht⟩ := h.succeeds_build_iff.1 ⟨rule, built⟩
  have asks : (RuleContext.ofRule type field (before ++ after) defaultCode components).check?
      (Directive.withBounds keyword.name lower upper) =
        some (.test condition (type.defaultCode (before ++ after) defaultCode)) := by
    rw [RuleContext.check?, h.readDirective_eq_ok_iff.2 ⟨condition, ht, rfl⟩]
    rfl
  exact FieldRule.decidedBy_of_check? built (h.not_isNamed_marker type) asks reads (same condition ht)

end TestsBounds

/-! ## Integers and counts -/

/-- What is made of bounds is there when the bounds are. -/
theorem Bounds.succeeds_map_iff {α β : Type} {make : Bounds α → β} {result : Except ParameterFault (Bounds α)}
    {Valid : Option α → Option α → Prop} (h : ∀ bounds, result = .ok bounds ↔ Valid bounds.min bounds.max) :
    Succeeds (make <$> result) ↔ ∃ min max, Valid min max := by
  rw [FieldRules.succeeds_map_iff]
  constructor
  · rintro ⟨bounds, hb⟩
    exact ⟨bounds.min, bounds.max, (h bounds).1 hb⟩
  · rintro ⟨min, max, valid⟩
    exact ⟨⟨min, max⟩, (h ⟨min, max⟩).2 valid⟩

section
variable {type : RuleType} {field defaultCode lower upper : String} {before after : List String}
  {components : Option ComponentLookup}

/-- A rule has a default code where the whole has one. -/
theorem RuleType.defaultCode_ne_empty (coded : defaultCode ≠ "") (directives : List String) :
    type.defaultCode directives defaultCode ≠ "" :=
  RuleType.defaultCode_ne_empty_iff.2 (Or.inr coded)

/-- A range tests integers. -/
theorem testsBounds_range (plainLower : ':' ∉ lower.toList) (plainUpper : ':' ∉ upper.toList)
    (coded : defaultCode ≠ "") :
    TestsBounds (.ofRule .int field (before ++ after) defaultCode components) .range lower upper
      (.integerRange <$> Bounds.read Numeral.readInteger? ⟨"RANGE", [lower, upper]⟩) where
  index := rfl
  applies := rfl
  coded := RuleType.defaultCode_ne_empty coded _
  plainLower
  plainUpper
  asks := rfl
  strict := by
    rintro rfl ⟨condition, ht⟩
    cases ht

/-- A length tests texts and containers. -/
theorem testsBounds_length (typed : type = .str ∨ type = .obj) (plainLower : ':' ∉ lower.toList)
    (plainUpper : ':' ∉ upper.toList) (coded : defaultCode ≠ "") :
    TestsBounds (.ofRule type field (before ++ after) defaultCode components) .length lower upper
      (.length <$> Bounds.read Numeral.readCount? ⟨"LEN", [lower, upper]⟩) where
  index := rfl
  applies := by rcases typed with rfl | rfl <;> rfl
  coded := RuleType.defaultCode_ne_empty coded _
  plainLower
  plainUpper
  asks := rfl
  strict := by
    rintro rfl ⟨condition, ht⟩
    cases ht

end

/-! ## What is compared -/

/-- What a rule of a type counts where a value stands: the characters of the text that it looks at, or the members of a
container. The second value is what the rule reads. -/
inductive Counted (directives : List String) : RuleType → Json → Json → Nat → Prop
  | text {text : String} (set : Directive.judgedText directives text ≠ "") :
    Counted directives .str (.str text) (.str (Directive.judgedText directives text))
      (Directive.judgedText directives text).length
  | members (members : List (String × Json)) : Counted directives .obj (.obj members) (.obj members) members.length
  | items (items : List Json) : Counted directives .obj (.arr items) (.arr items) items.length

/-- A directive that does not trim leaves what is counted. -/
theorem Counted.insert {before after : List String} {text : String} {type : RuleType} {value seen : Json} {count : Nat}
    (counted : Counted (before ++ after) type value seen count) (noTrim : Directive.isNamed "TRIM" text = false) :
    Counted (before ++ text :: after) type value seen count := by
  cases counted with
  | text set =>
    rw [← Directive.judgedText_insert noTrim] at set ⊢
    exact .text set
  | members members => exact .members members
  | items items => exact .items items

namespace FieldRule

variable {type : RuleType} {field defaultCode path : String} {directives : List String}
  {components : Option ComponentLookup} {rule : FieldRule} {subject : Json}

theorem read_counted {value seen : Json} {count : Nat} (counted : Counted directives type value seen count)
    (built : build type field directives defaultCode components = .ok rule)
    (there : Subject.resolve subject path = .ok (some value)) :
    rule.read path subject = .ok (some seen) ∧ seen.length? = some count := by
  cases counted with
  | text set => exact ⟨by rw [read_judgedText built there, if_neg set], rfl⟩
  | members members =>
    obtain ⟨typed, -⟩ := trim_of_build built
    rw [read, there, typed]
    exact ⟨rfl, rfl⟩
  | items items =>
    obtain ⟨typed, -⟩ := trim_of_build built
    rw [read, there, typed]
    exact ⟨rfl, rfl⟩

/-- An integer that does not fit is the only one that is no integer for a rule. -/
theorem typeMismatch_iff (built : build .int field directives defaultCode components = .ok rule)
    {situation : Situation} {n : Int} (low : -2 ^ 63 ≤ n)
    (there : Subject.resolve situation.subject (situation.path field) = .ok (some (.int n))) :
    (∃ found, (rule.validate situation).result = .error (.typeMismatch (situation.path field) .int found)) ↔
      2 ^ 63 ≤ n := by
  obtain ⟨small, large⟩ := read_integer built there
  obtain ⟨rfl, -⟩ := checks_of_build built
  constructor
  · rintro ⟨found, mismatch⟩
    by_contra fits
    rcases validate_error mismatch with unread | ⟨-, external⟩
    · rw [isSet_eq_error_iff, small ⟨low, not_le.1 fits⟩] at unread
      cases unread
    · exact external
  · intro high
    exact ⟨_, by rw [validate_of_read_error (large fun fits => not_lt.2 high fits.2)]; rfl⟩

/-- **Bounds are exact.** Let two texts without a colon be put behind a keyword for bounds, anywhere among directives
with a default code. A rule for integers is built with them as a range if and only if it is built without, each text,
without the blanks around it, is `*` or a numeral for an integer from -2^63 on and below 2^63, and the lower one is not
above the upper one; a rule for texts or containers with them as a length likewise, with numerals for counts below 2^64.
Of the integers from -2^63 on and below 2^64, a rule with a range gives up on those from 2^63 on and decides about the
others by whether they lie between the bounds; a rule with a length decides by whether the number of characters or
members does. -/
theorem bounds_exact (field defaultCode : String) (components : Option ComponentLookup) (before after : List String)
    (lower upper : String) (plainLower : ':' ∉ lower.toList) (plainUpper : ':' ∉ upper.toList)
    (coded : defaultCode ≠ "") :
    let others := before ++ after
    let range := Directive.withBounds "RANGE" lower upper
    let length := Directive.withBounds "LEN" lower upper
    let judge (type : RuleType) := (RuleContext.ofRule type field others defaultCode components).judge
    (Succeeds (build .int field (before ++ range :: after) defaultCode components) ↔
      Succeeds (build .int field others defaultCode components) ∧
        ∃ min max, IntegerBound lower min ∧ IntegerBound upper max ∧ ∀ m ∈ min, ∀ n ∈ max, m ≤ n) ∧
    (∀ rule min max, build .int field (before ++ range :: after) defaultCode components = .ok rule →
      IntegerBound lower min → IntegerBound upper max → ∀ (situation : Situation) (n : Int), -2 ^ 63 ≤ n → n < 2 ^ 64 →
        Subject.resolve situation.subject (situation.path field) = .ok (some (.int n)) →
          ((∃ found, (rule.validate situation).result = .error (.typeMismatch (situation.path field) .int found)) ↔
            2 ^ 63 ≤ n) ∧
          (n < 2 ^ 63 → rule.DecidedBy situation (judge .int situation.known (.int n)) range others
            (RuleType.int.defaultCode others defaultCode) ((∀ m ∈ min, m ≤ n) ∧ ∀ m ∈ max, n ≤ m))) ∧
    ∀ type, type = .str ∨ type = .obj →
      (Succeeds (build type field (before ++ length :: after) defaultCode components) ↔
        Succeeds (build type field others defaultCode components) ∧
          ∃ min max, CountBound lower min ∧ CountBound upper max ∧ ∀ m ∈ min, ∀ n ∈ max, m ≤ n) ∧
      ∀ rule min max, build type field (before ++ length :: after) defaultCode components = .ok rule →
        CountBound lower min → CountBound upper max → ∀ (situation : Situation) value seen count,
          Counted others type value seen count →
          Subject.resolve situation.subject (situation.path field) = .ok (some value) →
            rule.DecidedBy situation (judge type situation.known seen) length others
              (type.defaultCode others defaultCode) ((∀ m ∈ min, m ≤ count) ∧ ∀ m ∈ max, count ≤ m) := by
  intro others range length judge
  refine ⟨?_, fun rule min max built isLower isUpper situation n low _ there => ⟨?_, fun high => ?_⟩,
    fun type typed => ⟨?_, fun rule min max built isLower isUpper situation value seen count counted there => ?_⟩⟩
  · exact (testsBounds_range plainLower plainUpper coded).succeeds_build_iff.trans
      (and_congr_right' (Bounds.succeeds_map_iff fun _ => readIntegers_eq_ok_iff))
  · exact typeMismatch_iff built low there
  · refine (testsBounds_range plainLower plainUpper coded).decidedBy built ((read_integer built there).1 ⟨low, high⟩) ?_
    intro condition ht
    obtain ⟨bounds, hb, rfl⟩ := map_eq_ok_iff.1 ht
    obtain ⟨isLower', isUpper', -⟩ := readIntegers_eq_ok_iff.1 hb
    rw [← isLower.unique isLower', ← isUpper.unique isUpper']
    exact Bounds.contains_iff
  · exact (testsBounds_length typed plainLower plainUpper coded).succeeds_build_iff.trans
      (and_congr_right' (Bounds.succeeds_map_iff fun _ => readCounts_eq_ok_iff))
  · have tests : TestsBounds (.ofRule type field others defaultCode components) .length lower upper _ :=
      testsBounds_length typed plainLower plainUpper coded
    have noTrim : Directive.isNamed "TRIM" length = false := tests.isNamed_eq_false (by decide) (by decide)
    obtain ⟨reads, counts⟩ := read_counted (counted.insert noTrim) built there
    refine tests.decidedBy built reads fun condition ht => ?_
    obtain ⟨bounds, hb, rfl⟩ := map_eq_ok_iff.1 ht
    obtain ⟨isLower', isUpper', -⟩ := readCounts_eq_ok_iff.1 hb
    rw [← isLower.unique isLower', ← isUpper.unique isUpper', Test.holds, counts]
    exact Bounds.contains_iff

/-- A payload with a value. -/
def boundedSituation (value : Json) : Situation where
  subject := .obj [("n", value)]
  known := []

/-- The lowest integer and zero as bounds, with a blank and a sign that is not needed, between a marker and a break. -/
theorem bounds_exact_lowest :
    ∃ rule, build .int "n" (["INT"] ++ Directive.withBounds "RANGE" " -9223372036854775808" "+0" :: ["BREAK"]) "BAD"
        none = .ok rule ∧
      (rule.validate (boundedSituation (.int (-9223372036854775808)))).result = .ok { codes := [] } ∧
      (rule.validate (boundedSituation (.int 9223372036854775807))).result = .ok { codes := ["BAD"] } ∧
      ∃ found, (rule.validate (boundedSituation (.int 9223372036854775808))).result =
        .error (.typeMismatch "n" .int found) := by
  obtain ⟨builds, decides, -⟩ := bounds_exact "n" "BAD" none ["INT"] ["BREAK"] " -9223372036854775808" "+0"
    (by decide) (by decide) (by decide)
  have isLower : IntegerBound " -9223372036854775808" (some (-9223372036854775808)) :=
    Numeral.readInteger?_eq_some_iff.1 (by decide)
  have isUpper : IntegerBound "+0" (some 0) := Numeral.readInteger?_eq_some_iff.1 (by decide)
  obtain ⟨rule, built⟩ := builds.2 ⟨⟨_, rfl⟩, _, _, isLower, isUpper, by simp⟩
  have decided := decides rule _ _ built isLower isUpper
  obtain ⟨-, low⟩ := decided (boundedSituation (.int (-9223372036854775808))) _ (by decide) (by decide) rfl
  obtain ⟨-, high⟩ := decided (boundedSituation (.int 9223372036854775807)) _ (by decide) (by decide) rfl
  obtain ⟨large, -⟩ := decided (boundedSituation (.int 9223372036854775808)) _ (by decide) (by decide) rfl
  exact ⟨rule, built, (low (by decide)).accepts (by decide) (by simp), (high (by decide)).refuses (by decide) (by simp),
    large.2 (by decide)⟩

end FieldRule

end FieldRules
