import FieldRules.Proofs.Anchors
import FieldRules.Proofs.Presence
import FieldRules.Proofs.PresenceVerdict
import FieldRules.Proofs.WrittenNumbers
import FieldRules.Text.Bytes
import Mathlib.Data.List.TakeWhile

/-!
# One text for a whole rule

A rule for texts may ask that the blanks around a text count nothing. It does so for all of itself, wherever the
directive stands (`trim_of_build`): the text without its blanks decides whether the field is set, the tests judge it
(`RuleContext.judgeText`), and components are asked about it and about nothing else (`validate_of_text`). Where trimming
leaves as many bytes as there were, it has left the text as it was (`Text.trim_eq_of_byteLength`). Which directives are
come to, and what comes of them, is said for rules of every type (`RuleContext.runAll_outcome`).
-/

namespace FieldRules

/-! ## Trimming -/

namespace Text

/-- What is left of a text without the blanks at its ends. -/
structure TrimmedTo (text trimmed : List Char) : Prop where
  cut : ∃ before after, text = before ++ trimmed ++ after ∧
    (∀ c ∈ before, isBlank c = true) ∧ ∀ c ∈ after, isBlank c = true
  first : ∀ c ∈ trimmed.head?, isBlank c = false
  last : ∀ c ∈ trimmed.getLast?, isBlank c = false

theorem head?_dropBlanks {cs : List Char} {c : Char} (h : (dropBlanks cs).head? = some c) : isBlank c = false := by
  have first := List.head?_dropWhile_not isBlank cs
  rw [dropBlanks] at h
  rwa [h] at first

/-- **Trimming takes the blanks away** at both ends, and no more. -/
theorem trimmedTo_trimChars (cs : List Char) : TrimmedTo cs (trimChars cs) := by
  have cut (ds : List Char) : ds = ds.takeWhile isBlank ++ dropBlanks ds := List.takeWhile_append_dropWhile.symm
  let after := ((dropBlanks cs).reverse.takeWhile isBlank).reverse
  have ending : dropBlanks cs = trimChars cs ++ after := by
    rw [trimChars, ← List.reverse_append, ← cut, List.reverse_reverse]
  constructor
  · refine ⟨cs.takeWhile isBlank, after, ?_, fun c hc => List.mem_takeWhile_imp hc, fun c hc => ?_⟩
    · rw [List.append_assoc, ← ending]
      exact cut cs
    · exact List.mem_takeWhile_imp (List.mem_reverse.1 hc)
  · intro c hc
    have first : (dropBlanks cs).head? = some c := by
      rw [ending, List.head?_append, hc]
      rfl
    exact head?_dropBlanks first
  · intro c hc
    rw [trimChars, List.getLast?_reverse] at hc
    exact head?_dropBlanks hc

theorem byteLength_eq_zero {cs : List Char} (h : byteLength cs = 0) : cs = [] := by
  cases cs with
  | nil => rfl
  | cons c cs =>
    have positive := c.utf8Size_pos
    rw [byteLength] at h
    omega

/-- **A trimmed text with all its bytes is the text itself.** -/
theorem trim_eq_of_byteLength {text : String} (same : byteLength (trim text).toList = byteLength text.toList) :
    trim text = text := by
  obtain ⟨before, after, cut, -⟩ := (trimmedTo_trimChars text.toList).cut
  have counted := congrArg byteLength cut
  rw [byteLength_append, byteLength_append, ← toList_trim, same] at counted
  have noBefore : before = [] := byteLength_eq_zero (by omega)
  have noAfter : after = [] := byteLength_eq_zero (by omega)
  apply String.toList_injective
  calc (trim text).toList = trimChars text.toList := toList_trim text
    _ = before ++ trimChars text.toList ++ after := by rw [noBefore, noAfter, List.nil_append, List.append_nil]
    _ = text.toList := cut.symm

end Text

/-! ## The text that a rule looks at -/

namespace Directive

/-- The text that a rule with these directives looks at where a text stands. -/
def judgedText (directives : List String) (text : String) : String :=
  if directives.any (isNamed "TRIM") then Text.trim text else text

/-- A directive that trims, wherever it stands, takes away the blanks around a text; without one it is looked at as it
is. -/
theorem trimmedTo_judgedText (directives : List String) (text : String) :
    ((∃ directive ∈ directives, isNamed "TRIM" directive = true) →
      Text.TrimmedTo text.toList (judgedText directives text).toList) ∧
    ((¬ ∃ directive ∈ directives, isNamed "TRIM" directive = true) → judgedText directives text = text) := by
  rw [← List.any_eq_true, judgedText]
  constructor
  · intro trims
    rw [if_pos trims, Text.toList_trim]
    exact Text.trimmedTo_trimChars text.toList
  · exact fun plain => if_neg plain

/-- The text that is looked at is as long as the one that stands there only where it is the same. -/
theorem judgedText_eq_of_byteLength {directives : List String} {text : String}
    (same : Text.byteLength (judgedText directives text).toList = Text.byteLength text.toList) :
    judgedText directives text = text := by
  unfold judgedText at same ⊢
  split at same
  · next trims => rw [if_pos trims, Text.trim_eq_of_byteLength same]
  · next plain => rw [if_neg plain]

/-- A directive that does not trim leaves the text that is looked at. -/
theorem judgedText_insert {directive text : String} (noTrim : isNamed "TRIM" directive = false)
    (before after : List String) :
    judgedText (before ++ directive :: after) text = judgedText (before ++ after) text := by
  simp [judgedText, noTrim]

end Directive

/-- A directive trims when it says so. -/
theorem RuleContext.isTrim_eq_isNamed {context : RuleContext} {text : String} {clause : Clause}
    (read : context.readDirective (Directive.parse text) = .ok clause) :
    clause.isTrim = Directive.isNamed "TRIM" text := by
  rw [Directive.isNamed]
  rcases readDirective_cases read with ⟨marker, rfl⟩ | ⟨keyword, named, asked⟩
  · rw [marker]
    cases context.type <;> rfl
  · rw [named]
    cases askedBy_of_readKeyword asked with
    | test tests condition code =>
      simp only [List.mem_cons, List.not_mem_nil, or_false] at tests
      rcases tests with rfl | rfl | rfl | rfl | rfl <;> rfl
    | _ => rfl

namespace FieldRule

variable {type : RuleType} {field defaultCode : String} {directives : List String}
  {components : Option ComponentLookup} {rule : FieldRule}

/-- **One directive trims for the whole rule**, wherever it stands. -/
theorem trim_of_build (built : build type field directives defaultCode components = .ok rule) :
    rule.type = type ∧ rule.trim = directives.any (Directive.isNamed "TRIM") := by
  obtain ⟨clauses, read, rfl⟩ := build_eq_ok_iff.1 built
  refine ⟨rfl, ?_⟩
  rw [ofClauses, Bool.eq_iff_iff, List.any_eq_true, List.any_eq_true]
  constructor
  · rintro ⟨clause, listed, trims⟩
    obtain ⟨text, ht, hc⟩ := exists_mem_of_ok read listed
    exact ⟨text, ht, (RuleContext.isTrim_eq_isNamed hc).symm.trans trims⟩
  · rintro ⟨text, ht, named⟩
    obtain ⟨clause, listed, hc⟩ := exists_ok_of_mem read ht
    exact ⟨clause, listed, (RuleContext.isTrim_eq_isNamed hc).trans named⟩

/-- A rule for texts reads the text that it looks at, and nothing where this is empty. -/
theorem read_judgedText (built : build .str field directives defaultCode components = .ok rule) {path text : String}
    {subject : Json} (there : Subject.resolve subject path = .ok (some (.str text))) :
    rule.read path subject = .ok (if Directive.judgedText directives text = "" then none
      else some (.str (Directive.judgedText directives text))) := by
  obtain ⟨str, trims⟩ := trim_of_build built
  rw [read, there, str, trims]
  simp [bind, Except.bind, convert, Directive.judgedText]

end FieldRule

/-! ## What is judged -/

/-- The members of a list all have a property, or there is a first that has not. -/
theorem forall_or_exists_first {α : Type} (p : α → Prop) [DecidablePred p] (xs : List α) :
    (∀ x ∈ xs, p x) ∨ ∃ before x after, xs = before ++ x :: after ∧ (∀ other ∈ before, p other) ∧ ¬ p x := by
  cases found : xs.find? (fun x => decide (¬ p x)) with
  | none => exact Or.inl (by simpa using List.find?_eq_none.1 found)
  | some x =>
    obtain ⟨fails, before, after, cut, earlier⟩ := List.find?_eq_some_iff_append.1 found
    exact Or.inr ⟨before, x, after, cut, by simpa using earlier, by simpa using fails⟩

namespace Judgement

theorem code?_eq_some_iff {judgement : Judgement} {code : String} :
    judgement.code? = some code ↔ judgement = .fails code := by
  cases judgement <;> simp [code?]

theorem isBreakdown_iff {judgement : Judgement} :
    judgement.IsBreakdown ↔ ∃ component reason, judgement = .breaksDown component reason := by
  cases judgement <;> simp [IsBreakdown]

end Judgement

namespace Directive

variable {judge : String → Judgement} {directives stretch : List String} {before after : List (List String)}
  {text : String}

/-- A rule comes to a directive: it judges, and no directive of the stretches before its own fails. -/
def Reached (judge : String → Judgement) (directives : List String) (text : String) : Prop :=
  ∃ before stretch after, stretches directives = before ++ stretch :: after ∧
    (∀ other ∈ before, ∀ earlier ∈ other, judge earlier = .passes) ∧ text ∈ stretch

/-- Of the directives that a rule comes to, those that do not pass are in the first stretch with one that does not. -/
theorem Reached.mem_first (reached : Reached judge directives text) (faulty : judge text ≠ .passes)
    (cut : stretches directives = before ++ stretch :: after)
    (passes : ∀ other ∈ before, ∀ earlier ∈ other, judge earlier = .passes)
    (fails : ∃ text ∈ stretch, judge text ≠ .passes) : text ∈ stretch := by
  obtain ⟨before', stretch', after', cut', passes', inside⟩ := reached
  rcases List.append_eq_append_iff.1 (cut.symm.trans cut') with ⟨more, h, h'⟩ | ⟨more, h, h'⟩
  · cases more with
    | nil =>
      obtain rfl := (List.cons.inj h').1
      exact inside
    | cons first more =>
      -- The first stretch would be one of those in which all pass.
      obtain rfl := (List.cons.inj h').1
      obtain ⟨other, ho, some⟩ := fails
      exact absurd (passes' stretch (by simp [h]) other ho) some
  · cases more with
    | nil =>
      obtain rfl := (List.cons.inj h').1
      exact inside
    | cons first more =>
      obtain rfl := (List.cons.inj h').1
      exact absurd (passes stretch' (by simp [h]) text inside) faulty

end Directive

namespace RuleContext

variable {context : RuleContext} {directives known : List String} {value : Json}

/-- **What comes of a rule's directives.** A component breaks down in one that the rule comes to, or in none of them
one does, and the codes are those of the directives that the rule comes to and that fail. -/
theorem runAll_outcome (path : String)
    (read : ∀ text ∈ directives, ∃ clause, context.readDirective (Directive.parse text) = .ok clause) :
    let judge := context.judge known value
    let run := Check.runAll path known value (directives.filterMap context.check?) []
    (∃ codes, run.result = .ok codes ∧ (∀ text, Directive.Reached judge directives text → ¬ (judge text).IsBreakdown) ∧
      ∀ code, code ∈ codes ↔ ∃ text, Directive.Reached judge directives text ∧ judge text = .fails code) ∨
    ∃ text component reason, Directive.Reached judge directives text ∧ judge text = .breaksDown component reason ∧
      run.result = .error (.external path component reason) := by
  intro judge run
  rcases forall_or_exists_first (fun stretch : List String => ∀ text ∈ stretch, judge text = .passes)
      (Directive.stretches directives) with passes | ⟨before, stretch, after, cut, passes, faulty⟩
  · have reachedPasses (text : String) (reached : Directive.Reached judge directives text) : judge text = .passes := by
      obtain ⟨before, stretch, after, cut, -, inside⟩ := reached
      exact passes stretch (by simp [cut]) text inside
    have here : run.result = .ok [] := congrArg Traced.result (runAll_of_passes read passes)
    refine Or.inl ⟨[], here, fun text reached => ?_, fun code => ⟨fun listed => (List.not_mem_nil listed).elim, ?_⟩⟩
    · rw [reachedPasses text reached]
      exact id
    · rintro ⟨text, reached, fails⟩
      rw [reachedPasses text reached] at fails
      cases fails
  · have fails : ∃ text ∈ stretch, judge text ≠ .passes := by simpa using faulty
    have reaches (text : String) (inside : text ∈ stretch) : Directive.Reached judge directives text :=
      ⟨before, stretch, after, cut, passes, inside⟩
    rcases forall_or_exists_first (fun text => ¬ (judge text).IsBreakdown) stretch with
        sound | ⟨first, text, rest, split, sound, down⟩
    · refine Or.inl ⟨_, congrArg Traced.result (runAll_of_fails read cut passes sound fails), ?_, fun code => ?_⟩
      · intro text reached down
        have faulty : judge text ≠ .passes := fun passes => by rw [passes] at down; exact down
        exact sound text (reached.mem_first faulty cut passes fails) down
      · rw [List.mem_eraseDups, List.mem_filterMap]
        constructor
        · rintro ⟨text, inside, failed⟩
          exact ⟨text, reaches text inside, Judgement.code?_eq_some_iff.1 failed⟩
        · rintro ⟨text, reached, failed⟩
          have faulty : judge text ≠ .passes := by simp [failed]
          exact ⟨text, reached.mem_first faulty cut passes fails, Judgement.code?_eq_some_iff.2 failed⟩
    · obtain ⟨component, reason, broken⟩ := Judgement.isBreakdown_iff.1 (not_not.1 down)
      exact Or.inr ⟨text, component, reason, reaches text (by simp [split]), broken,
        congrArg Traced.result (runAll_of_breaksDown read cut passes split sound broken)⟩

end RuleContext

/-- Components are asked about the value that is judged. -/
theorem Check.value_of_call {path : String} {known : List String} {value : Json} {checks : List Check}
    {codes : List String} {call : Call} (h : call ∈ (runAll path known value checks codes).calls) :
    call.value = value := by
  induction checks generalizing codes with
  | nil => exact absurd h List.not_mem_nil
  | cons check checks ih =>
    cases check with
    | stopIfFailed =>
      rw [runAll] at h
      split at h
      · exact ih h
      · exact absurd h List.not_mem_nil
    | exclusive fields code => exact ih h
    | test condition code => exact ih h
    | external name component code =>
      rw [runAll] at h
      split at h
      · rw [List.mem_singleton.1 h]
      · rcases List.mem_append.1 h with first | later
        · rw [List.mem_singleton.1 first]
        · exact ih later

/-! ## What directives make of a text -/

/-- What is judged passes where a condition holds, and fails where it does not. -/
def Judgement.PassesIff (judgement : Judgement) (condition : Prop) : Prop :=
  (condition → judgement = .passes) ∧ (¬ condition → ∃ code, judgement = .fails code)

theorem Judgement.PassesIff.congr {judgement : Judgement} {condition condition' : Prop}
    (h : judgement.PassesIff condition) (same : condition ↔ condition') : judgement.PassesIff condition' :=
  propext same ▸ h

/-- What the directives of a rule make of a text: a list passes its members, bounds pass the texts with a number of
characters between them, a pattern passes the texts that it matches, and a component those that it accepts. -/
structure Directive.JudgeText (directives : List String) (components : Option ComponentLookup)
    (judge : String → Judgement) (text : String) : Prop where
  oneOf : ∀ directive ∈ directives, ∀ part code, decompose directive = "IN" :: part :: code →
    (judge directive).PassesIff (text ∈ membersOf part)
  length : ∀ directive ∈ directives, ∀ lower upper code, decompose directive = "LEN" :: lower :: upper :: code →
    ∃ min max, CountBound lower min ∧ CountBound upper max ∧
      (judge directive).PassesIff ((∀ n ∈ min, n ≤ text.length) ∧ ∀ n ∈ max, text.length ≤ n)
  pattern : ∀ directive ∈ directives, ∀ source code, decompose directive = "REG" :: source :: code →
    ∃ regex, Regex.ofWhole? source = some regex ∧ (judge directive).PassesIff (regex.isMatch text = true)
  external : ∀ directive ∈ directives, ∀ name code, decompose directive = "EXT" :: name :: code →
    ∃ lookup component, components = some lookup ∧ lookup name = some component ∧
      (∀ accepted, component (.str text) = .ok accepted → (judge directive).PassesIff (accepted = true)) ∧
      ∀ reason, component (.str text) = .error reason → judge directive = .breaksDown name reason

namespace RuleContext

variable {context : RuleContext} {directive : String} {clause : Clause} {known : List String} {value : Json}

/-- A directive with a test passes where the test holds. -/
theorem exists_test_of_read (keyword : Keyword) {arguments : List String} {index : Nat}
    {test : Except ParameterFault Test} (read : context.readDirective (Directive.parse directive) = .ok clause)
    (parts : Directive.decompose directive = keyword.name :: arguments)
    (asks : context.readKeyword ⟨keyword.name, arguments⟩ keyword =
      context.testClause ⟨keyword.name, arguments⟩ index test) :
    ∃ condition, test = .ok condition ∧
      ∀ known value, (context.judge known value directive).PassesIff (condition.holds value = true) := by
  have asked := read
  rw [Directive.parse_of_decompose parts] at asked
  obtain ⟨condition, code, ht, -, rfl⟩ := testClause_eq_ok_iff.1 (asks ▸ readKeyword_of_readDirective asked rfl)
  have check : context.check? directive = some (.test condition code) := by
    rw [check?, read]
    rfl
  refine ⟨condition, ht, fun known value => ?_⟩
  rw [judge_of_check? check, Check.judge]
  exact ⟨fun holds => if_pos holds, fun misses => ⟨code, if_neg misses⟩⟩

/-- A directive with a component leaves the judgement to it. -/
theorem judge_external (read : context.readDirective (Directive.parse directive) = .ok clause) {name : String}
    {code : List String} (parts : Directive.decompose directive = "EXT" :: name :: code) :
    ∃ lookup component, context.components = some lookup ∧ lookup name = some component ∧
      (∀ accepted, component value = .ok accepted →
        (context.judge known value directive).PassesIff (accepted = true)) ∧
      ∀ reason, component value = .error reason → context.judge known value directive = .breaksDown name reason := by
  have asked : context.readKeyword ⟨"EXT", name :: code⟩ .external = .ok clause :=
    readKeyword_of_readDirective (Directive.parse_of_decompose parts ▸ read) rfl
  simp only [readKeyword, bind_eq_ok_iff, Except.ok.injEq] at asked
  obtain ⟨component, found, own, -, rfl⟩ := asked
  obtain ⟨lookup, available, known'⟩ := findComponent_eq_ok_iff.1 found
  have check : context.check? directive = some (.external name component own) := by
    rw [check?, read]
    rfl
  refine ⟨lookup, component, available, known', fun accepted answer => ?_, fun reason broken => ?_⟩
  · rw [judge_of_check? check, Check.judge, answer]
    exact ⟨fun yes => if_pos yes, fun no => ⟨own, if_neg no⟩⟩
  · rw [judge_of_check? check, Check.judge, broken]

/-- **What the directives of a rule for texts make of a text.** -/
theorem judgeText {directives : List String} (typed : context.type = .str)
    (read : ∀ directive ∈ directives, ∃ clause, context.readDirective (Directive.parse directive) = .ok clause)
    (text : String) :
    Directive.JudgeText directives context.components (context.judge known (.str text)) text := by
  constructor
  · intro directive listed part code parts
    obtain ⟨clause, here⟩ := read directive listed
    obtain ⟨condition, test, judged⟩ := exists_test_of_read .oneOf here parts rfl
    rw [typed] at test
    obtain ⟨allowed, kept, rfl⟩ := map_eq_ok_iff.1 test
    obtain ⟨-, rfl⟩ := nonempty_eq_ok_iff.1 kept
    have holds : Test.holds (.oneOfTexts (membersOf part)) (.str text) = true ↔ text ∈ membersOf part :=
      List.contains_iff_mem
    exact (judged known _).congr holds
  · intro directive listed lower upper code parts
    obtain ⟨clause, here⟩ := read directive listed
    obtain ⟨condition, test, judged⟩ := exists_test_of_read .length here parts rfl
    obtain ⟨bounds, bounded, rfl⟩ := map_eq_ok_iff.1 test
    obtain ⟨isLower, isUpper, -⟩ := readCounts_eq_ok_iff.1 bounded
    exact ⟨bounds.min, bounds.max, isLower, isUpper, (judged known _).congr Bounds.contains_iff⟩
  · intro directive listed source code parts
    obtain ⟨clause, here⟩ := read directive listed
    obtain ⟨condition, test, judged⟩ := exists_test_of_read .pattern here parts rfl
    obtain ⟨regex, compiled, rfl⟩ := map_eq_ok_iff.1 test
    exact ⟨regex, readPattern_eq_ok_iff.1 compiled, judged known _⟩
  · intro directive listed name code parts
    obtain ⟨clause, here⟩ := read directive listed
    exact judge_external here parts

end RuleContext

namespace FieldRule

variable {field defaultCode : String} {directives : List String} {components : Option ComponentLookup}
  {rule : FieldRule} {situation : Situation} {text : String}

/-- A text with nothing to look at is not there. -/
theorem validate_of_judgedText_empty (built : build .str field directives defaultCode components = .ok rule)
    (there : Subject.resolve situation.subject (situation.path field) = .ok (some (.str text)))
    (empty : Directive.judgedText directives text = "") :
    rule.isSet (situation.path field) situation.subject = .ok false ∧
      rule.validate situation =
        .pure (.ok { unset := true, codes := (requiredCode? .str directives defaultCode).toList }) := by
  have reads := read_judgedText built there
  rw [if_pos empty] at reads
  exact ⟨isSet_eq_ok_iff.2 ⟨none, reads, rfl⟩, validate_of_unset built reads⟩

/-- A text with something to look at is there, and is what is judged. -/
theorem validate_of_judgedText_ne_empty (built : build .str field directives defaultCode components = .ok rule)
    (there : Subject.resolve situation.subject (situation.path field) = .ok (some (.str text)))
    (some' : Directive.judgedText directives text ≠ "") :
    rule.isSet (situation.path field) situation.subject = .ok true ∧
      let run := Check.runAll (situation.path field) situation.known (.str (Directive.judgedText directives text))
        (directives.filterMap (RuleContext.ofRule .str field directives defaultCode components).check?) []
      rule.validate situation = ⟨run.result.map fun codes => { codes := codes }, run.calls⟩ := by
  have reads := read_judgedText built there
  rw [if_neg some'] at reads
  obtain ⟨rfl, -, checks⟩ := checks_of_build built
  refine ⟨isSet_eq_ok_iff.2 ⟨_, reads, rfl⟩, ?_⟩
  rw [validate_of_read_some reads, checks]

/-- **All parts of a rule for texts look at the same text.** Let a text stand where a rule reads. The text that is
looked at is this one, without the blanks around it if any directive asks for that; where it has as many bytes, it is
the text that stands there. Where it is empty, the field is not set, nothing is wrong with it but that it may be
required, and no component is called. Else the field is set; lists, bounds, patterns and components judge that text, and
components are called with no other; and the codes are those of the directives that the rule comes to and that fail,
unless a component breaks down. And in a chain that the rule is in, the field counts as set when that text is not empty,
or when another rule finds the field set. -/
theorem validate_of_text (built : build .str field directives defaultCode components = .ok rule)
    (situation : Situation) (text : String)
    (there : Subject.resolve situation.subject (situation.path field) = .ok (some (.str text))) :
    let judged := Directive.judgedText directives text
    let judge := (RuleContext.ofRule .str field directives defaultCode components).judge situation.known (.str judged)
    let reached := Directive.Reached judge directives
    ((∃ directive ∈ directives, Directive.isNamed "TRIM" directive = true) →
      Text.TrimmedTo text.toList judged.toList) ∧
    ((¬ ∃ directive ∈ directives, Directive.isNamed "TRIM" directive = true) → judged = text) ∧
    (Text.byteLength judged.toList = Text.byteLength text.toList → judged = text) ∧
    (judged = "" →
      rule.isSet (situation.path field) situation.subject = .ok false ∧
        rule.validate situation =
          .pure (.ok { unset := true, codes := (requiredCode? .str directives defaultCode).toList })) ∧
    (judged ≠ "" →
      rule.isSet (situation.path field) situation.subject = .ok true ∧
        Directive.JudgeText directives components judge judged ∧
        (∀ call ∈ (rule.validate situation).calls, call.value = .str judged) ∧
        ((∃ codes, (rule.validate situation).result = .ok { unset := false, codes } ∧
            (∀ directive, reached directive → ¬ (judge directive).IsBreakdown) ∧
            ∀ code, code ∈ codes ↔ ∃ directive, reached directive ∧ judge directive = .fails code) ∨
          ∃ directive component reason, reached directive ∧ judge directive = .breaksDown component reason ∧
            (rule.validate situation).result = .error (.external (situation.path field) component reason))) ∧
    (situation.path field = field → ∀ before after presence,
      Engine.findPresence situation.subject (before ++ rule :: after) ⟨[], []⟩ = .ok presence →
        (field ∈ presence.set ↔ judged ≠ "" ∨
          ∃ other ∈ before ++ after, other.field = field ∧ Engine.IsPresent situation.subject other)) := by
  intro judged judge reached
  obtain ⟨named, read, -⟩ := checks_of_build built
  obtain ⟨trimmed, plain⟩ := Directive.trimmedTo_judgedText directives text
  refine ⟨trimmed, plain, Directive.judgedText_eq_of_byteLength, validate_of_judgedText_empty built there,
    fun some' => ?_, fun here before after presence found => ?_⟩
  · obtain ⟨set, run⟩ := validate_of_judgedText_ne_empty built there some'
    refine ⟨set, RuleContext.judgeText rfl read judged, fun call called => ?_, ?_⟩
    · rw [run] at called
      exact Check.value_of_call called
    · rw [run]
      rcases RuleContext.runAll_outcome (situation.path field) read with
          ⟨codes, ends, sound, listed⟩ | ⟨directive, component, reason, comes, down, ends⟩
      · refine Or.inl ⟨codes, ?_, sound, listed⟩
        rw [ends]
        rfl
      · refine Or.inr ⟨directive, component, reason, comes, down, ?_⟩
        rw [ends]
        rfl
  · have present : Engine.IsPresent situation.subject rule ↔ judged ≠ "" := by
      rw [Engine.IsPresent, named, ← here]
      constructor
      · intro set empty
        rw [(validate_of_judgedText_empty built there empty).1] at set
        cases set
      · intro some'
        exact (validate_of_judgedText_ne_empty built there some').1
    have described := Engine.findPresence_describes .start found
    have member (other : FieldRule) :
        other ∈ [] ++ (before ++ rule :: after) ↔ other = rule ∨ other ∈ before ++ after := by
      simp [or_left_comm]
    simp only [described.mem_set, member, or_and_right, exists_or, exists_eq_left, named, true_and, present]

/-- A trim behind the directives that it counts for. -/
def wordOfTwoDirectives : List String :=
  ["IN:ab,cd:WORD", "LEN:2:2:SIZE", "REG:[a-c]+:FORM", "EXT:lexicon", "STR:BAD", "REQ", "TRIM"]

/-- A component that knows one word and breaks down at another. -/
def wordOfTwoComponents : ComponentLookup := fun _ =>
  some fun value => if value.toText? = some "cc" then .error "page torn" else .ok (value.toText? == some "ab")

def wordOfTwoRule : FieldRule :=
  (build .str "w" wordOfTwoDirectives "" (some wordOfTwoComponents)).toOption.getD
    ⟨"", .str, none, false, false, [], .empty⟩

def wordOfTwoJudge (text : String) : String → Judgement :=
  (RuleContext.ofRule .str "w" wordOfTwoDirectives "" (some wordOfTwoComponents)).judge [] (.str text)

/-- A payload with a text, read by the rule for its field. -/
def textSituation (text : String) : Situation where
  subject := .obj [("w", .str text)]
  known := []

/-- What the directives of the rule say of a text that is judged, read off the clauses for directives of their kinds. -/
theorem wordOfTwo_passesIff (text : String)
    (h : Directive.JudgeText wordOfTwoDirectives (some wordOfTwoComponents) (wordOfTwoJudge text) text) :
    (wordOfTwoJudge text "IN:ab,cd:WORD").PassesIff (text = "ab" ∨ text = "cd") ∧
      (wordOfTwoJudge text "LEN:2:2:SIZE").PassesIff (text.length = 2) ∧
      (∃ regex, Regex.ofWhole? "[a-c]+" = some regex ∧
        (wordOfTwoJudge text "REG:[a-c]+:FORM").PassesIff (regex.isMatch text = true)) ∧
      (text ≠ "cc" → (wordOfTwoJudge text "EXT:lexicon").PassesIff (text = "ab")) ∧
      (text = "cc" → wordOfTwoJudge text "EXT:lexicon" = .breaksDown "lexicon" "page torn") := by
  have two : CountBound "2" (some 2) := Numeral.readCount?_eq_some_iff.1 (by decide)
  obtain ⟨min, max, isLower, isUpper, length⟩ := h.length "LEN:2:2:SIZE" (by decide) "2" "2" ["SIZE"] (by decide)
  obtain rfl := two.unique isLower
  obtain rfl := two.unique isUpper
  obtain ⟨_, _, ⟨⟩, ⟨⟩, answers, breaks⟩ := h.external "EXT:lexicon" (by decide) "lexicon" [] (by decide)
  have members : membersOf "ab,cd" = ["ab", "cd"] := by decide
  refine ⟨(h.oneOf "IN:ab,cd:WORD" (by decide) "ab,cd" ["WORD"] (by decide)).congr (by simp [members]),
    length.congr (by simpa using by omega), h.pattern "REG:[a-c]+:FORM" (by decide) "[a-c]+" ["FORM"] (by decide),
    fun known => (answers (text == "ab") ?_).congr beq_iff_eq, fun torn => breaks "page torn" ?_⟩
  · simp [Json.toText?, known]
  · simp [Json.toText?, torn]

/-- Blanks of two and of three bytes stand around a word, around other texts, or alone. Every directive that judges
passes the word, none of them passes the second text, and the component breaks down at the third. -/
theorem validate_of_text_word :
    build .str "w" wordOfTwoDirectives "" (some wordOfTwoComponents) = .ok wordOfTwoRule ∧
      wordOfTwoRule.isSet "w" (textSituation "\u00a0ab\u3000").subject = .ok true ∧
      (∀ call ∈ (wordOfTwoRule.validate (textSituation "\u00a0ab\u3000")).calls, call.value = .str "ab") ∧
      (∀ directive ∈ ["IN:ab,cd:WORD", "LEN:2:2:SIZE", "REG:[a-c]+:FORM", "EXT:lexicon"],
        wordOfTwoJudge "ab" directive = .passes ∧ ∃ code, wordOfTwoJudge "xyz" directive = .fails code) ∧
      wordOfTwoJudge "cc" "EXT:lexicon" = .breaksDown "lexicon" "page torn" ∧
      wordOfTwoRule.validate (textSituation "\u3000\u00a0") = .pure (.ok { unset := true, codes := ["BAD"] }) ∧
      ∃ presence, Engine.findPresence (textSituation "\u00a0ab\u3000").subject [wordOfTwoRule] ⟨[], []⟩ = .ok presence ∧
        "w" ∈ presence.set := by
  obtain ⟨rule, built⟩ : Succeeds (build .str "w" wordOfTwoDirectives "" (some wordOfTwoComponents)) := by
    decide +kernel
  obtain rfl : wordOfTwoRule = rule := by rw [wordOfTwoRule, built]; rfl
  obtain ⟨-, -, -, -, some', present⟩ :=
    validate_of_text built (textSituation "\u00a0ab\u3000") "\u00a0ab\u3000" rfl
  obtain ⟨set, word, calls, -⟩ := some' (by decide)
  obtain ⟨-, -, -, -, other, -⟩ := validate_of_text built (textSituation "xyz\u3000") "xyz\u3000" rfl
  obtain ⟨-, other, -⟩ := other (by decide)
  obtain ⟨-, -, -, -, torn, -⟩ := validate_of_text built (textSituation "\u00a0cc") "\u00a0cc" rfl
  obtain ⟨-, torn, -⟩ := torn (by decide)
  obtain ⟨-, -, -, empty, -⟩ := validate_of_text built (textSituation "\u3000\u00a0") "\u3000\u00a0" rfl
  obtain ⟨-, unset⟩ := empty (by decide)
  obtain ⟨member, size, ⟨regex, compiled, form⟩, entry, -⟩ := wordOfTwo_passesIff "ab" word
  obtain ⟨noMember, noSize, ⟨_, compiled', noForm⟩, noEntry, -⟩ := wordOfTwo_passesIff "xyz" other
  obtain ⟨-, -, -, -, breaks⟩ := wordOfTwo_passesIff "cc" torn
  obtain rfl := Option.some.inj (compiled.symm.trans compiled')
  have matched : (Regex.ofWhole? "[a-c]+").all (fun regex => regex.isMatch "ab" && !regex.isMatch "xyz") = true := by
    decide +kernel
  simp only [compiled, Option.all_some, Bool.and_eq_true, Bool.not_eq_true'] at matched
  have judged : ∀ directive ∈ ["IN:ab,cd:WORD", "LEN:2:2:SIZE", "REG:[a-c]+:FORM", "EXT:lexicon"],
      wordOfTwoJudge "ab" directive = .passes ∧ ∃ code, wordOfTwoJudge "xyz" directive = .fails code := by
    simp only [List.forall_mem_cons, List.not_mem_nil, false_imp_iff, implies_true, and_true]
    exact ⟨⟨member.1 (by decide), noMember.2 (by decide)⟩, ⟨size.1 (by decide), noSize.2 (by decide)⟩,
      ⟨form.1 matched.1, noForm.2 (by simp [matched.2])⟩,
      ⟨(entry (by decide)).1 rfl, (noEntry (by decide)).2 (by decide)⟩⟩
  obtain ⟨presence, found⟩ :
      Succeeds (Engine.findPresence (textSituation "\u00a0ab\u3000").subject [wordOfTwoRule] ⟨[], []⟩) := by
    decide +kernel
  exact ⟨built, set, calls, judged, breaks rfl, unset, presence, found,
    (present rfl [] [] presence found).2 (Or.inl (by decide))⟩

end FieldRule

end FieldRules
