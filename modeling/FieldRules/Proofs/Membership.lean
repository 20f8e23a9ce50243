import FieldRules.Proofs.OneTest
import FieldRules.Proofs.TextJudged

/-!
# Lists of allowed values

A list of allowed values is written with commas between its members, in a part of its own, and its colons doubled. Read
back, it has the same members (`membersOf_intercalate`), however many colons are in them, so that a rule with the list
passes its members and nothing else (`members_decide`): texts as they are, and integers by what the members denote.
-/

namespace FieldRules

/-! ## Lists as they are written -/

namespace Text

/-- **Pieces without the separator are read back** from what they make up with the separator between them. -/
theorem splitChars_intercalate {separator : Char} {pieces : List (List Char)} (some : pieces ≠ [])
    (plain : ∀ piece ∈ pieces, separator ∉ piece) :
    splitChars separator ([separator].intercalate pieces) = pieces := by
  induction pieces with
  | nil => exact absurd rfl some
  | cons piece pieces ih =>
    obtain ⟨here, later⟩ := List.forall_mem_cons.1 plain
    cases pieces with
    | nil => simpa using splitChars_of_not_mem here
    | cons next pieces =>
      rw [List.intercalate_cons_cons, List.append_assoc, List.singleton_append, splitChars_append,
        splitChars_of_not_mem here, ih (List.cons_ne_nil _ _) later]
      rfl

end Text

/-- A text can be a member of a list: it is not empty, has no comma in it, and no blank at either end. -/
structure IsMember (text : String) : Prop where
  nonempty : text ≠ ""
  plain : ',' ∉ text.toList
  first : ∀ c ∈ text.toList.head?, Text.isBlank c = false
  last : ∀ c ∈ text.toList.getLast?, Text.isBlank c = false

theorem isMember_iff {text : String} : IsMember text ↔ text ≠ "" ∧ ',' ∉ text.toList ∧
    text.toList.head?.all (fun c => !Text.isBlank c) = true ∧
      text.toList.getLast?.all (fun c => !Text.isBlank c) = true := by
  simp only [Option.all_eq_true, Bool.not_eq_true']
  constructor
  · rintro ⟨nonempty, plain, first, last⟩
    exact ⟨nonempty, plain, first, last⟩
  · rintro ⟨nonempty, plain, first, last⟩
    exact ⟨nonempty, plain, first, last⟩

instance (text : String) : Decidable (IsMember text) :=
  decidable_of_iff _ isMember_iff.symm

theorem IsMember.trim {text : String} (h : IsMember text) : Text.trim text = text :=
  String.toList_injective ((Text.toList_trim text).trans (Text.trimChars_of_ends h.first h.last))

/-- **What is listed is read back.** -/
theorem membersOf_intercalate {members : List String} (some : members ≠ []) (each : ∀ m ∈ members, IsMember m) :
    membersOf (",".intercalate members) = members := by
  have pieces : Text.splitChars ',' (",".intercalate members).toList = members.map String.toList := by
    rw [String.toList_intercalate]
    exact Text.splitChars_intercalate (by simpa using some) (List.forall_mem_map.2 fun m hm => (each m hm).plain)
  have split : Text.split ',' (",".intercalate members) = members := by
    rw [Text.split, pieces]
    simp [List.map_map, Function.comp_def]
  have trimmed : members.map Text.trim = members :=
    (List.map_congr_left fun m hm => (each m hm).trim).trans (List.map_id' members)
  rw [membersOf, split, trimmed, List.filter_eq_self]
  intro m hm
  simpa [String.isEmpty_iff] using (each m hm).nonempty

namespace Directive

/-- A list is a part that does not start with a colon when its first member does not. -/
theorem head?_intercalate {members : List String} (each : ∀ m ∈ members, m ≠ "")
    (start : ∀ first ∈ members.head?, first.toList.head? ≠ some ':') :
    (",".intercalate members).toList.head? ≠ some ':' := by
  rw [String.toList_intercalate]
  cases members with
  | nil => simp
  | cons first members =>
    have filled : first.toList ≠ [] := fun empty => each first (by simp) (String.toList_eq_nil_iff.1 empty)
    obtain ⟨c, cs, hc⟩ := List.exists_cons_of_ne_nil filled
    have plain := start first (by simp)
    rw [hc] at plain
    cases members with
    | nil => simpa [hc] using plain
    | cons next members => simpa [hc, List.intercalate_cons_cons] using plain

/-- A list and a code as the arguments of their directive. -/
theorem parse_list {part code : String} (filled : part ≠ "") (start : part.toList.head? ≠ some ':')
    (codeStart : code.toList.head? ≠ some ':') :
    parse ("IN:" ++ escape part ++ ":" ++ escape code) = ⟨"IN", [part, code]⟩ := by
  have written : "IN:" ++ escape part ++ ":" ++ escape code = join ["IN", part, code] := by
    apply String.toList_injective
    rw [toList_join]
    simp [escape, Directive.written, escapeChars]
  have apart : Separable ([part, code].map String.toList) :=
    ⟨start, fun empty => absurd (String.toList_eq_nil_iff.1 empty) filled, codeStart, fun _ => rfl, trivial⟩
  rw [written, parse_join_of_separable apart]

end Directive

/-! ## Lists as they are read -/

namespace RuleContext

/-- The numbers that are read from a list are those of its members. -/
theorem mem_of_readMembers {α : Type} {type : RuleType} {read : List Char → Option α} {members : List String}
    {values : List α} (h : readMembers type read members = .ok values) {value : α} :
    value ∈ values ↔ ∃ m ∈ members, read m.toList = some value := by
  have each := mapM_eq_ok_iff.1 h
  constructor
  · intro listed
    obtain ⟨m, hm, number⟩ := exists_mem_of_ok each listed
    refine ⟨m, hm, ?_⟩
    split at number
    · next found => rw [found, Except.ok.inj number]
    · cases number
  · rintro ⟨m, hm, found⟩
    obtain ⟨other, listed, number⟩ := exists_ok_of_mem each hm
    rw [found] at number
    rwa [Except.ok.inj number]

variable {type : RuleType} {members : List String}

/-- A list of texts holds for its members. -/
theorem oneOfTest_str (some : members ≠ []) :
    oneOfTest .str members = .ok (.oneOfTexts members) ∧
      ∀ text, Test.holds (.oneOfTexts members) (.str text) = true ↔ text ∈ members :=
  ⟨map_eq_ok_iff.2 ⟨members, nonempty_eq_ok_iff.2 ⟨some, rfl⟩, rfl⟩, fun _ => List.contains_iff_mem⟩

/-- A list of numerals holds for the integers that they denote. -/
theorem exists_oneOfTest_int (some : members ≠ [])
    (numerals : ∀ m ∈ members, ∃ n, Numeral.WritesInteger m.toList n ∧ -2 ^ 63 ≤ n ∧ n < 2 ^ 63) :
    ∃ test, oneOfTest .int members = .ok test ∧ ∀ n, -2 ^ 63 ≤ n → n < 2 ^ 63 →
      (test.holds (.int n) = true ↔ ∃ m ∈ members, Numeral.WritesInteger m.toList n) := by
  have each : ∀ m ∈ members, Reads Numeral.readInteger? m := fun m hm =>
    (numerals m hm).imp fun _ => Numeral.readInteger?_eq_some_iff.2
  obtain ⟨values, read, filled⟩ : ∃ values, readMembers .int Numeral.readInteger? members = .ok values ∧ values ≠ [] :=
    exists_readMembers_iff.2 ⟨some, each⟩
  refine ⟨.oneOfIntegers values, ?_, fun n low high => ?_⟩
  · rw [oneOfTest, read]
    exact map_eq_ok_iff.2 ⟨values, nonempty_eq_ok_iff.2 ⟨filled, rfl⟩, rfl⟩
  · have holds : Test.holds (.oneOfIntegers values) (.int n) = true ↔ n ∈ values := List.contains_iff_mem
    rw [holds, mem_of_readMembers read]
    simp only [Numeral.readInteger?_eq_some_iff, low, high, and_self, and_true]

end RuleContext

/-! ## Rules with a list -/

/-- The marker of the type is read as such. -/
theorem RuleContext.readDirective_marker {context : RuleContext} :
    context.readDirective (Directive.parse context.type.marker) = .ok .marker := by
  have alone : Directive.parse context.type.marker = ⟨context.type.marker, []⟩ := by
    cases context.type <;> decide
  rw [alone, readDirective_eq, if_pos rfl]
  rfl

/-- A list as a directive, with a code of its own. -/
def listDirective (members : List String) (code : String) : String :=
  "IN:" ++ Directive.escape (",".intercalate members) ++ ":" ++ Directive.escape code

/-- A list and a code can be written as a directive: there are members, what is listed can be a member, and neither the
first of them nor the code, which is not empty, starts with a colon. -/
structure IsListed (members : List String) (code : String) : Prop where
  filled : members ≠ []
  each : ∀ m ∈ members, IsMember m
  start : ∀ first ∈ members.head?, first.toList.head? ≠ some ':'
  coded : code ≠ ""
  codeStart : code.toList.head? ≠ some ':'

namespace IsListed

variable {members : List String} {code : String}

theorem parse (h : IsListed members code) :
    Directive.parse (listDirective members code) = ⟨"IN", [",".intercalate members, code]⟩ := by
  have filled : ",".intercalate members ≠ "" := fun empty => h.filled <| by
    rw [← membersOf_intercalate h.filled h.each, empty]
    rfl
  exact Directive.parse_list filled (Directive.head?_intercalate (fun m hm => (h.each m hm).nonempty) h.start)
    h.codeStart

theorem isNamed (h : IsListed members code) (name : String) :
    Directive.isNamed name (listDirective members code) = ("IN" == name) := by
  rw [Directive.isNamed, h.parse]

/-- **A list is read** as the test that its members stand for, with its code. -/
theorem readDirective (h : IsListed members code) {context : RuleContext} {test : Test}
    (applies : Keyword.oneOf.appliesTo context.type = true)
    (tests : RuleContext.oneOfTest context.type members = .ok test) :
    context.readDirective (Directive.parse (listDirective members code)) = .ok (.check (.test test code)) := by
  have own : Directive.code? ⟨"IN", [",".intercalate members, code]⟩ 2 context.defaultCode = some code := by
    have filled : code.isEmpty = false := by simpa [String.isEmpty_iff] using h.coded
    simp [Directive.code?, Directive.part?, Directive.parts, filled]
  have listed : Directive.members ⟨"IN", [",".intercalate members, code]⟩ 1 = members :=
    membersOf_intercalate h.filled h.each
  have asks : context.readDirective ⟨"IN", [",".intercalate members, code]⟩ =
      context.testClause ⟨"IN", [",".intercalate members, code]⟩ 2
        (RuleContext.oneOfTest context.type (Directive.members ⟨"IN", [",".intercalate members, code]⟩ 1)) :=
    RuleContext.readDirective_keyword applies ⟨Nat.le_succ 2, Nat.le_refl 3⟩
  rw [h.parse, asks, listed, tests, RuleContext.testClause_eq_ok_iff]
  exact ⟨test, code, rfl, own, rfl⟩

variable {type : RuleType} {field defaultCode : String} {components : Option ComponentLookup}

/-- **A rule with nothing but a list** is built, has the code of the list, and decides by the test. -/
theorem exists_build (h : IsListed members code) {test : Test} (applies : Keyword.oneOf.appliesTo type = true)
    (tests : RuleContext.oneOfTest type members = .ok test) :
    ∃ rule, FieldRule.build type field [type.marker, listDirective members code] defaultCode components = .ok rule ∧
      code ∈ rule.codes ∧ ∀ (situation : FieldRule.Situation) value condition,
        rule.read (situation.path field) situation.subject = .ok (some value) →
        (test.holds value = true ↔ condition) →
          (condition → (rule.validate situation).result = .ok { codes := [] }) ∧
          (¬ condition → (rule.validate situation).result = .ok { codes := [code] }) := by
  let context := RuleContext.ofRule type field [type.marker] defaultCode components
  have noMarker : Directive.isNamed type.marker (listDirective members code) = false :=
    (h.isNamed type.marker).trans (beq_eq_false_iff_ne.2 (Keyword.oneOf.name_ne_marker type))
  have marks : context.readDirective (Directive.parse type.marker) = .ok .marker := RuleContext.readDirective_marker
  have read : context.readDirective (Directive.parse (listDirective members code)) = .ok (.check (.test test code)) :=
    h.readDirective applies tests
  have asks : context.check? (listDirective members code) = some (.test test code) := by
    rw [RuleContext.check?, read]
    rfl
  have alone : Succeeds (FieldRule.build type field [type.marker] defaultCode components) :=
    FieldRule.build_succeeds_iff_forall.2 (List.forall_mem_singleton.2 ⟨_, marks⟩)
  obtain ⟨rule, built⟩ : Succeeds
      (FieldRule.build type field ([type.marker] ++ [listDirective members code]) defaultCode components) :=
    (FieldRule.build_insert_succeeds_iff noMarker).2 ⟨alone, _, read⟩
  refine ⟨rule, built, ?_, fun situation value condition reads same => ?_⟩
  · obtain ⟨-, -, checks⟩ := FieldRule.checks_of_build built
    refine (FieldRule.isCoded_of_build built).checks (.test test code) ?_ code rfl
    rw [checks, FieldRule.ofRule_insert noMarker]
    exact List.mem_filterMap.2 ⟨_, by simp, asks⟩
  · have decided := FieldRule.decidedBy_of_check? built noMarker asks reads same
    have others : ∀ other ∈ [type.marker] ++ [], context.judge situation.known value other = .passes := by
      refine List.forall_mem_singleton.2 ?_
      rw [RuleContext.judge, RuleContext.check?, marks]
      rfl
    exact ⟨decided.accepts others, decided.refuses others⟩

end IsListed

namespace FieldRule

/-- **A list means that a value is a member.** Let texts be put into a list with a code, as parts of a directive are
written. A rule for texts with the list is built, has the code among its own, and finds nothing wrong with a text that
is one of the members, and the code with any other that is set. If every member is a numeral for an integer from -2^63
on and below 2^63, so does a rule for integers, by whether a member denotes the integer. -/
theorem members_decide (field defaultCode : String) (components : Option ComponentLookup) {members : List String}
    {code : String} (listed : IsListed members code) :
    (∃ rule, build .str field ["STR", listDirective members code] defaultCode components = .ok rule ∧
      code ∈ rule.codes ∧ ∀ (situation : Situation) (text : String), text ≠ "" →
        Subject.resolve situation.subject (situation.path field) = .ok (some (.str text)) →
          (text ∈ members → (rule.validate situation).result = .ok { codes := [] }) ∧
          (text ∉ members → (rule.validate situation).result = .ok { codes := [code] })) ∧
    ((∀ m ∈ members, ∃ n, Numeral.WritesInteger m.toList n ∧ -2 ^ 63 ≤ n ∧ n < 2 ^ 63) →
      ∃ rule, build .int field ["INT", listDirective members code] defaultCode components = .ok rule ∧
        code ∈ rule.codes ∧ ∀ (situation : Situation) (n : Int), -2 ^ 63 ≤ n → n < 2 ^ 63 →
          Subject.resolve situation.subject (situation.path field) = .ok (some (.int n)) →
            ((∃ m ∈ members, Numeral.WritesInteger m.toList n) →
              (rule.validate situation).result = .ok { codes := [] }) ∧
            ((¬ ∃ m ∈ members, Numeral.WritesInteger m.toList n) →
              (rule.validate situation).result = .ok { codes := [code] })) := by
  constructor
  · obtain ⟨tests, holds⟩ := RuleContext.oneOfTest_str listed.filled
    obtain ⟨rule, built, inUse, decides⟩ : ∃ rule,
        build .str field ["STR", listDirective members code] defaultCode components = .ok rule ∧ _ :=
      listed.exists_build rfl tests
    refine ⟨rule, built, inUse, fun situation text set there => decides situation _ _ ?_ (holds text)⟩
    have noTrim : Directive.isNamed "TRIM" (listDirective members code) = false :=
      (listed.isNamed "TRIM").trans (by decide)
    have plain : Directive.judgedText ["STR", listDirective members code] text = text :=
      Directive.judgedText_insert noTrim ["STR"] []
    rw [read_judgedText built there, plain, if_neg set]
  · intro numerals
    obtain ⟨test, tests, holds⟩ := RuleContext.exists_oneOfTest_int listed.filled numerals
    obtain ⟨rule, built, inUse, decides⟩ : ∃ rule,
        build .int field ["INT", listDirective members code] defaultCode components = .ok rule ∧ _ :=
      listed.exists_build rfl tests
    exact ⟨rule, built, inUse, fun situation n low high there =>
      decides situation _ _ ((read_integer built there).1 ⟨low, high⟩) (holds n low high)⟩

/-- A payload with a value. -/
def listedSituation (value : Json) : Situation where
  subject := .obj [("f", value)]
  known := []

/-- Members with colons at both ends and in a row, and a code with a colon; and numerals with a sign and with zeros that
are not needed. -/
theorem members_decide_colons :
    IsListed ["a:", "::b::c"] "X:" ∧ IsListed ["+007", "-9223372036854775808"] "BAD" ∧
      (∃ rule, build .str "f" ["STR", listDirective ["a:", "::b::c"] "X:"] "" none = .ok rule ∧ "X:" ∈ rule.codes ∧
        (rule.validate (listedSituation (.str "::b::c"))).result = .ok { codes := [] } ∧
        (rule.validate (listedSituation (.str "b:c"))).result = .ok { codes := ["X:"] }) ∧
      ∃ rule, build .int "f" ["INT", listDirective ["+007", "-9223372036854775808"] "BAD"] "" none = .ok rule ∧
        "BAD" ∈ rule.codes ∧ (rule.validate (listedSituation (.int 7))).result = .ok { codes := [] } := by
  have texts : IsListed ["a:", "::b::c"] "X:" := ⟨by decide, by decide, by simp, by decide, by decide⟩
  have numbers : IsListed ["+007", "-9223372036854775808"] "BAD" :=
    ⟨by decide, by decide, by simp, by decide, by decide⟩
  have seven : Numeral.WritesInteger "+007".toList 7 := (Numeral.readInteger?_eq_some_iff.1 (by decide)).1
  have lowest : Numeral.WritesInteger "-9223372036854775808".toList (-9223372036854775808) :=
    (Numeral.readInteger?_eq_some_iff.1 (by decide)).1
  have numerals : ∀ m ∈ ["+007", "-9223372036854775808"],
      ∃ n, Numeral.WritesInteger m.toList n ∧ -2 ^ 63 ≤ n ∧ n < 2 ^ 63 := by
    simp only [List.forall_mem_cons]
    exact ⟨⟨_, seven, by decide⟩, ⟨_, lowest, by decide⟩, by simp⟩
  obtain ⟨⟨rule, built, inUse, decides⟩, -⟩ := members_decide "f" "" none texts
  obtain ⟨member, -⟩ := decides (listedSituation (.str "::b::c")) "::b::c" (by decide) rfl
  obtain ⟨-, other⟩ := decides (listedSituation (.str "b:c")) "b:c" (by decide) rfl
  obtain ⟨rule', built', inUse', decides'⟩ := (members_decide "f" "" none numbers).2 numerals
  obtain ⟨denoted, -⟩ := decides' (listedSituation (.int 7)) 7 (by decide) (by decide) rfl
  exact ⟨texts, numbers, ⟨rule, built, inUse, member (by decide), other (by decide)⟩, rule', built', inUse',
    denoted ⟨"+007", by simp, seven⟩⟩

end FieldRule

end FieldRules
