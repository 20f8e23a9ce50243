import FieldRules.Proofs.Codes
import Mathlib.Data.List.Induction

/-!
# Breaks

The breaks of a rule cut the directives that judge its value into stretches (`Directive.stretches`), and a value is
judged stretch by stretch. A stretch is always gone through to its end, unless a component breaks down in it
(`runAll_append`, `runAll_breaksDown`); the next one is begun only when nothing in the stretches before has failed
(`runAll_line_append`). So the first stretch in which something fails settles the verdict and the components that are
called (`FieldRule.validate_of_stretches`), for rules of every type alike.
-/

namespace FieldRules

/-! ## Stretches -/

namespace Directive

/-- A directive is a break. -/
def isBreak (text : String) : Bool :=
  (parse text).name == "BREAK"

/-- A directive judges the value of the field. -/
def judges (text : String) : Bool :=
  ["MEX", "EXT", "IN", "LEN", "RANGE", "REG", "IS"].contains (parse text).name

/-- The directives that judge the value, in the stretches between the breaks. -/
def stretches (directives : List String) : List (List String) :=
  (directives.splitOnP isBreak).map (List.filter judges)

theorem not_isBreak_of_judges {text : String} (h : judges text = true) : isBreak text = false := by
  simp only [judges, List.contains_iff_mem, List.mem_cons, List.not_mem_nil, or_false] at h
  rcases h with h | h | h | h | h | h | h <;> simp [isBreak, h]

/-- The pieces of a list that is cut hold members of the list. -/
theorem mem_of_mem_splitOnP {p : String → Bool} {texts piece : List String} (hp : piece ∈ texts.splitOnP p)
    {text : String} (ht : text ∈ piece) : text ∈ texts := by
  induction texts generalizing piece with
  | nil => simp_all [List.splitOnP_nil]
  | cons first texts ih =>
    rw [List.splitOnP_cons_eq_if_modifyHead] at hp
    split at hp
    · rcases List.mem_cons.1 hp with rfl | hp
      · cases ht
      · exact List.mem_cons_of_mem _ (ih hp ht)
    · obtain ⟨next, pieces, hn⟩ := List.exists_cons_of_ne_nil (List.splitOnP_ne_nil p texts)
      rw [hn] at hp ih
      rcases List.mem_cons.1 hp with rfl | hp
      · exact List.mem_cons.2 ((List.mem_cons.1 ht).imp_right (ih (List.mem_cons_self ..)))
      · exact List.mem_cons_of_mem _ (ih (List.mem_cons_of_mem _ hp) ht)

/-- What stands in a stretch is a directive that judges. -/
theorem of_mem_stretches {directives stretch : List String} (hs : stretch ∈ stretches directives) {text : String}
    (ht : text ∈ stretch) : text ∈ directives ∧ judges text = true := by
  obtain ⟨piece, hp, rfl⟩ := List.mem_map.1 hs
  obtain ⟨inside, judging⟩ := List.mem_filter.1 ht
  exact ⟨mem_of_mem_splitOnP hp inside, judging⟩

/-- Leading, repeated and closing breaks make empty stretches. -/
example : stretches ["BREAK", "STR", "IN:a,b", "REQ", "LEN:1:2", "BREAK", "BREAK", "EXT:c", "BREAK"] =
    [[], ["IN:a,b", "LEN:1:2"], [], ["EXT:c"], []] := by
  decide

end Directive

/-! ## What a check makes of a value -/

/-- What comes of judging a value. -/
inductive Judgement
  | passes
  | fails (code : String)
  | breaksDown (component reason : String)
  deriving DecidableEq, Repr

namespace Judgement

/-- The code of a failure. -/
def code? : Judgement → Option String
  | fails code => some code
  | _ => none

/-- A component broke down. -/
def IsBreakdown : Judgement → Prop
  | breaksDown .. => True
  | _ => False

instance (judgement : Judgement) : Decidable judgement.IsBreakdown :=
  match judgement with
  | .passes => .isFalse id
  | .fails _ => .isFalse id
  | .breaksDown .. => .isTrue trivial

end Judgement

/-! ## Runs of checks -/

namespace Traced

variable {α : Type}

theorem after_after (calls more : List Call) (traced : Traced α) :
    (traced.after more).after calls = traced.after (calls ++ more) := by
  simp [after]

end Traced

/-- Adding codes one by one keeps the first of each. -/
theorem Verdict.foldl_addCode (codes : List String) :
    codes.foldl (fun codes code => addCode code codes) [] = codes.eraseDups := by
  induction codes using List.reverseRecOn with
  | nil => rfl
  | append_singleton codes code ih =>
    rw [List.foldl_append, ih, List.foldl_cons, List.foldl_nil, List.eraseDups_append, addCode]
    by_cases listed : code ∈ codes <;> simp [List.removeAll, List.eraseDups_cons, listed]

namespace Check

/-- What a check makes of a value, given the fields known to be set. -/
def judge (known : List String) (value : Json) : Check → Judgement
  | stopIfFailed => .passes
  | exclusive fields code => if fields.any known.contains then .fails code else .passes
  | external name component code =>
    match component value with
    | .error reason => .breaksDown name reason
    | .ok accepted => if accepted then .passes else .fails code
  | test condition code => if condition.holds value then .passes else .fails code

/-- The question that a check puts to a component. -/
def call? (value : Json) : Check → Option Call
  | external name _ _ => some ⟨name, value⟩
  | _ => none

variable {path : String} {known : List String} {value : Json} {check : Check} {checks rest : List Check}
  {codes : List String}

theorem runAll_cons (judging : check ≠ .stopIfFailed) : runAll path known value (check :: checks) codes =
    .after (check.call? value).toList
      (match check.judge known value with
        | .passes => runAll path known value checks codes
        | .fails code => runAll path known value checks (Verdict.addCode code codes)
        | .breaksDown component reason => .pure (.error (.external path component reason))) := by
  cases check with
  | stopIfFailed => exact absurd rfl judging
  | exclusive fields code =>
    rw [runAll, judge]
    split <;> rfl
  | external name component code =>
    rw [runAll, judge]
    cases component value with
    | error reason => rfl
    | ok accepted => cases accepted <;> rfl
  | test condition code =>
    rw [runAll, judge]
    split <;> rfl

/-- The codes of the checks that fail. -/
def failures (known : List String) (value : Json) (checks : List Check) : List String :=
  checks.filterMap fun check => (check.judge known value).code?

/-- **Checks without a break are all carried out**, whether they fail or not, as long as no component breaks down. -/
theorem runAll_append (judging : ∀ check ∈ checks, check ≠ .stopIfFailed)
    (sound : ∀ check ∈ checks, ¬ (check.judge known value).IsBreakdown) :
    runAll path known value (checks ++ rest) codes =
      .after (checks.filterMap (call? value))
        (runAll path known value rest
          ((failures known value checks).foldl (fun codes code => Verdict.addCode code codes) codes)) := by
  induction checks generalizing codes with
  | nil => rfl
  | cons check checks ih =>
    obtain ⟨hjudging, judging⟩ := List.forall_mem_cons.1 judging
    obtain ⟨hsound, sound⟩ := List.forall_mem_cons.1 sound
    have calls : (check :: checks).filterMap (call? value) =
        (check.call? value).toList ++ checks.filterMap (call? value) := by
      cases h : check.call? value <;> simp [h]
    rw [List.cons_append, runAll_cons hjudging, calls, ← Traced.after_after]
    cases h : check.judge known value with
    | passes =>
      have same : failures known value (check :: checks) = failures known value checks := by
        simp [failures, h, Judgement.code?]
      rw [same, ← ih judging sound]
    | fails code =>
      have more : failures known value (check :: checks) = code :: failures known value checks := by
        simp [failures, h, Judgement.code?]
      rw [more, List.foldl_cons, ← ih judging sound]
    | breaksDown component reason =>
      rw [h] at hsound
      exact absurd trivial hsound

/-- **A component that breaks down ends the checks**, and nothing behind it is called. -/
theorem runAll_breaksDown {component reason : String} (judging : ∀ check ∈ checks, check ≠ .stopIfFailed)
    (sound : ∀ check ∈ checks, ¬ (check.judge known value).IsBreakdown)
    (down : check.judge known value = .breaksDown component reason) :
    runAll path known value (checks ++ check :: rest) codes =
      ⟨.error (.external path component reason), (checks ++ [check]).filterMap (call? value)⟩ := by
  have hjudging : check ≠ .stopIfFailed := by
    rintro rfl
    cases down
  rw [runAll_append judging sound, runAll_cons hjudging, down, List.filterMap_append]
  cases h : check.call? value <;> simp [Traced.after, Traced.pure, h]

/-! ## Runs of stretches -/

/-- Stretches of checks with breaks between them. -/
def line (stretches : List (List Check)) : List Check :=
  [stopIfFailed].intercalate stretches

variable {stretch : List Check} {before after stretches : List (List Check)}

theorem line_cons (some : stretches ≠ []) :
    line (stretch :: stretches) = stretch ++ stopIfFailed :: line stretches := by
  obtain ⟨next, more, rfl⟩ := List.exists_cons_of_ne_nil some
  simp [line, List.intercalate_cons_cons]

/-- Behind its first stretch, a line goes on with a break, if at all. -/
theorem line_cons_cases (stretch : List Check) (after : List (List Check)) :
    ∃ more, line (stretch :: after) = stretch ++ more ∧ (more = [] ∨ ∃ later, more = stopIfFailed :: later) := by
  cases after with
  | nil => exact ⟨[], by simp [line], Or.inl rfl⟩
  | cons next after => exact ⟨_, line_cons (List.cons_ne_nil _ _), Or.inr ⟨_, rfl⟩⟩

theorem line_cons_cons (check : Check) (stretch : List Check) (after : List (List Check)) :
    line ((check :: stretch) :: after) = check :: line (stretch :: after) := by
  cases after with
  | nil => simp [line]
  | cons next after => simp [line_cons]

theorem filterMap_line {β : Type} {f : Check → Option β} (silent : f stopIfFailed = none)
    (stretches : List (List Check)) : (line stretches).filterMap f = stretches.flatten.filterMap f := by
  induction stretches with
  | nil => rfl
  | cons stretch stretches ih =>
    cases stretches with
    | nil => simp [line]
    | cons next more => simp [line_cons, ih, silent]

/-- Nothing fails in a stretch in which all checks pass, and no component breaks down. -/
theorem failures_of_passes (passes : ∀ check ∈ checks, check.judge known value = .passes) :
    failures known value checks = [] ∧ ∀ check ∈ checks, ¬ (check.judge known value).IsBreakdown := by
  constructor
  · refine List.filterMap_eq_nil_iff.2 fun check hc => ?_
    rw [passes check hc]
    rfl
  · intro check hc
    rw [passes check hc]
    exact id

/-- **Stretches in which all pass are gone through**, and the checks go on with the next. -/
theorem runAll_line_append (judging : ∀ other ∈ before, ∀ check ∈ other, check ≠ .stopIfFailed)
    (passes : ∀ other ∈ before, ∀ check ∈ other, check.judge known value = .passes) :
    runAll path known value (line (before ++ stretch :: after)) [] =
      .after (before.flatten.filterMap (call? value)) (runAll path known value (line (stretch :: after)) []) := by
  induction before with
  | nil => rfl
  | cons other before ih =>
    obtain ⟨hjudging, judging⟩ := List.forall_mem_cons.1 judging
    obtain ⟨hpasses, passes⟩ := List.forall_mem_cons.1 passes
    obtain ⟨noFailure, sound⟩ := failures_of_passes hpasses
    have goesOn : runAll path known value (stopIfFailed :: line (before ++ stretch :: after)) [] =
        runAll path known value (line (before ++ stretch :: after)) [] := by
      simp [runAll]
    rw [List.cons_append, line_cons (by simp), runAll_append hjudging sound, noFailure, List.foldl_nil, goesOn,
      ih judging passes, Traced.after_after, List.flatten_cons, List.filterMap_append]

/-- Where all pass, all is carried out. -/
theorem runAll_line_passes (judging : ∀ stretch ∈ stretches, ∀ check ∈ stretch, check ≠ .stopIfFailed)
    (passes : ∀ stretch ∈ stretches, ∀ check ∈ stretch, check.judge known value = .passes) :
    runAll path known value (line stretches) [] = ⟨.ok [], stretches.flatten.filterMap (call? value)⟩ := by
  rcases List.eq_nil_or_concat stretches with rfl | ⟨before, last, rfl⟩
  · rfl
  · rw [List.concat_eq_append] at judging passes ⊢
    obtain ⟨judging, hlast⟩ := List.forall_mem_append.1 judging
    obtain ⟨passes, hpasses⟩ := List.forall_mem_append.1 passes
    rw [List.forall_mem_singleton] at hlast hpasses
    obtain ⟨noFailure, sound⟩ := failures_of_passes hpasses
    have ending : line [last] = last ++ [] := by simp [line]
    rw [runAll_line_append judging passes, ending, runAll_append hlast sound, noFailure]
    simp [runAll, Traced.pure, Traced.after]

/-- **A stretch in which something fails is the last**, but is gone through to its end. -/
theorem runAll_line_fails (judging : ∀ check ∈ stretch, check ≠ .stopIfFailed)
    (sound : ∀ check ∈ stretch, ¬ (check.judge known value).IsBreakdown)
    (fails : failures known value stretch ≠ []) :
    runAll path known value (line (stretch :: after)) [] =
      ⟨.ok (failures known value stretch).eraseDups, stretch.filterMap (call? value)⟩ := by
  obtain ⟨more, cut, ends⟩ := line_cons_cases stretch after
  rw [cut, runAll_append judging sound, Verdict.foldl_addCode]
  rcases ends with rfl | ⟨later, rfl⟩
  · simp [runAll, Traced.pure, Traced.after]
  · have some : (failures known value stretch).eraseDups.isEmpty = false := by
      obtain ⟨code, hc⟩ := List.exists_mem_of_ne_nil _ fails
      exact List.isEmpty_eq_false_iff_exists_mem.2 ⟨code, List.mem_eraseDups.2 hc⟩
    simp [runAll, some, Traced.pure, Traced.after]

end Check

/-! ## Directives and their checks -/

namespace RuleContext

/-- What the directives of a rule are read for. -/
def ofRule (type : RuleType) (field : String) (directives : List String) (defaultCode : String)
    (components : Option ComponentLookup) : RuleContext where
  field
  type
  components
  defaultCode := type.defaultCode directives defaultCode

/-- The check that a directive asks for, if it asks for one. -/
def check? (context : RuleContext) (text : String) : Option Check :=
  (context.readDirective (Directive.parse text)).toOption.bind Clause.check?

/-- What a directive makes of a value, given the fields known to be set. -/
def judge (context : RuleContext) (known : List String) (value : Json) (text : String) : Judgement :=
  ((context.check? text).map (Check.judge known value)).getD .passes

/-- The question that a directive puts to a component about a value. -/
def call? (context : RuleContext) (value : Json) (text : String) : Option Call :=
  (context.check? text).bind (Check.call? value)

variable {context : RuleContext} {text : String} {texts directives : List String}

/-- A directive that can be read asks for a break, for a check that judges, or for no check, by its name. -/
theorem check?_cases {clause : Clause} (read : context.readDirective (Directive.parse text) = .ok clause) :
    if Directive.isBreak text then context.check? text = some .stopIfFailed
    else if Directive.judges text then ∃ check, context.check? text = some check ∧ check ≠ .stopIfFailed
    else context.check? text = none := by
  have here : context.check? text = clause.check? := by simp [check?, read, Except.toOption]
  rw [here, Directive.isBreak, Directive.judges]
  rcases readDirective_cases read with ⟨marker, rfl⟩ | ⟨keyword, named, asked⟩
  · rw [marker]
    cases context.type <;> simp [RuleType.marker, Clause.check?]
  · rw [named]
    cases askedBy_of_readKeyword asked with
    | test tests condition code =>
      simp only [List.mem_cons, List.not_mem_nil, or_false] at tests
      rcases tests with rfl | rfl | rfl | rfl | rfl <;> simp [Keyword.name, Clause.check?]
    | _ => simp [Keyword.name, Clause.check?]

/-- **The checks of directives are those of their stretches**, with breaks between them. -/
theorem filterMap_check?
    (read : ∀ text ∈ directives, ∃ clause, context.readDirective (Directive.parse text) = .ok clause) :
    directives.filterMap context.check? =
      Check.line ((Directive.stretches directives).map (List.filterMap context.check?)) := by
  induction directives with
  | nil => rfl
  | cons text directives ih =>
    obtain ⟨⟨clause, here⟩, later⟩ := List.forall_mem_cons.1 read
    have cases := check?_cases here
    have ih := ih later
    rw [Directive.stretches] at ih ⊢
    rw [List.splitOnP_cons_eq_if_modifyHead]
    obtain ⟨stretch, stretches, hs⟩ := List.exists_cons_of_ne_nil (List.splitOnP_ne_nil Directive.isBreak directives)
    rw [hs] at ih ⊢
    split at cases
    · next isBreak => simp [isBreak, cases, ih, Check.line_cons]
    · next noBreak =>
      split at cases
      · next judging =>
        obtain ⟨check, asked, -⟩ := cases
        simp [noBreak, judging, asked, ih, Check.line_cons_cons]
      · next silent => simp [noBreak, silent, cases, ih]

/-- The checks of a stretch judge. -/
theorem judging_of_stretch
    (read : ∀ text ∈ directives, ∃ clause, context.readDirective (Directive.parse text) = .ok clause)
    {stretch : List String} (hs : stretch ∈ Directive.stretches directives) :
    ∀ check ∈ stretch.filterMap context.check?, check ≠ .stopIfFailed := by
  intro check hc
  obtain ⟨text, ht, asked⟩ := List.mem_filterMap.1 hc
  obtain ⟨listed, judging⟩ := Directive.of_mem_stretches hs ht
  obtain ⟨clause, here⟩ := read text listed
  have cases := check?_cases here
  rw [Directive.not_isBreak_of_judges judging, judging] at cases
  obtain ⟨other, same, judges⟩ := cases
  rw [asked] at same
  cases same
  exact judges

variable {known : List String} {value : Json}

theorem judge_of_check? {check : Check} (asked : context.check? text = some check) :
    context.judge known value text = check.judge known value := by
  simp [judge, asked]

/-- A directive that does not pass asks for a check that does not pass. -/
theorem exists_check_of_judge (h : context.judge known value text ≠ .passes) :
    ∃ check, context.check? text = some check ∧ check.judge known value = context.judge known value text := by
  cases asked : context.check? text with
  | none => simp [judge, asked] at h
  | some check => exact ⟨check, rfl, (judge_of_check? asked).symm⟩

/-- What holds of the judgements of directives holds of those of their checks. -/
theorem forall_check {p : Judgement → Prop} (h : ∀ text ∈ texts, p (context.judge known value text)) :
    ∀ check ∈ texts.filterMap context.check?, p (check.judge known value) := by
  intro check hc
  obtain ⟨text, ht, asked⟩ := List.mem_filterMap.1 hc
  rw [← judge_of_check? asked]
  exact h text ht

/-- The questions of directives are those of their checks. -/
theorem filterMap_call? (texts : List String) :
    (texts.filterMap context.check?).filterMap (Check.call? value) = texts.filterMap (context.call? value) :=
  List.filterMap_filterMap

/-- The failures of directives are those of their checks. -/
theorem failures_filterMap (texts : List String) : Check.failures known value (texts.filterMap context.check?) =
    texts.filterMap fun text => (context.judge known value text).code? := by
  rw [Check.failures, List.filterMap_filterMap]
  congr 1
  funext text
  cases asked : context.check? text <;> simp [judge, asked, Judgement.code?]

/-! ## Runs over directives -/

section
variable {path : String} {before after : List (List String)} {stretch : List String}
  (read : ∀ text ∈ directives, ∃ clause, context.readDirective (Directive.parse text) = .ok clause)
include read

/-- The checks of stretches in which every directive passes are checks that judge, and pass. -/
theorem checks_of_passes {reached : List (List String)} (listed : reached ⊆ Directive.stretches directives)
    (passes : ∀ stretch ∈ reached, ∀ text ∈ stretch, context.judge known value text = .passes) :
    (∀ checks ∈ reached.map (List.filterMap context.check?), ∀ check ∈ checks, check ≠ .stopIfFailed) ∧
      ∀ checks ∈ reached.map (List.filterMap context.check?), ∀ check ∈ checks, check.judge known value = .passes :=
  ⟨List.forall_mem_map.2 fun _ hs => judging_of_stretch read (listed hs),
    List.forall_mem_map.2 fun stretch hs => forall_check (p := (· = .passes)) (passes stretch hs)⟩

/-- Directives that all pass have no code, and every component that they name is called. -/
theorem runAll_of_passes
    (passes : ∀ stretch ∈ Directive.stretches directives, ∀ text ∈ stretch, context.judge known value text = .passes) :
    Check.runAll path known value (directives.filterMap context.check?) [] =
      ⟨.ok [], directives.filterMap (context.call? value)⟩ := by
  obtain ⟨judging, pass⟩ := checks_of_passes read (List.Subset.refl _) passes
  have called : ((Directive.stretches directives).map (List.filterMap context.check?)).flatten.filterMap
      (Check.call? value) = directives.filterMap (context.call? value) := by
    rw [← Check.filterMap_line rfl, ← filterMap_check? read, filterMap_call?]
  rw [filterMap_check? read, Check.runAll_line_passes judging pass, called]

variable (cut : Directive.stretches directives = before ++ stretch :: after)
  (passes : ∀ other ∈ before, ∀ text ∈ other, context.judge known value text = .passes)
include cut passes

/-- A stretch is reached when all pass in those before it. -/
theorem runAll_reach : Check.runAll path known value (directives.filterMap context.check?) [] =
    .after (before.flatten.filterMap (context.call? value))
      (Check.runAll path known value
        (Check.line (stretch.filterMap context.check? :: after.map (List.filterMap context.check?))) []) := by
  obtain ⟨judging, pass⟩ := checks_of_passes read (cut ▸ List.subset_append_left _ _) passes
  rw [filterMap_check? read, cut, List.map_append, List.map_cons, Check.runAll_line_append judging pass,
    ← List.filterMap_flatten, filterMap_call?]

/-- The first stretch in which something fails, and no component breaks down, gives the codes. -/
theorem runAll_of_fails (sound : ∀ text ∈ stretch, ¬ (context.judge known value text).IsBreakdown)
    (faulty : ∃ text ∈ stretch, context.judge known value text ≠ .passes) :
    Check.runAll path known value (directives.filterMap context.check?) [] =
      ⟨.ok (stretch.filterMap fun text => (context.judge known value text).code?).eraseDups,
        (before.flatten ++ stretch).filterMap (context.call? value)⟩ := by
  have judging := judging_of_stretch read (cut ▸ List.mem_append_right _ (List.mem_cons_self ..) :
    stretch ∈ Directive.stretches directives)
  have hsound := forall_check (p := fun judgement => ¬ judgement.IsBreakdown) sound
  have fails : Check.failures known value (stretch.filterMap context.check?) ≠ [] := by
    obtain ⟨text, ht, some⟩ := faulty
    rw [failures_filterMap]
    intro none
    have silent := List.filterMap_eq_nil_iff.1 none text ht
    cases judged : context.judge known value text with
    | passes => exact some judged
    | fails code => simp [judged, Judgement.code?] at silent
    | breaksDown component reason => exact sound text ht (by rw [judged]; trivial)
  rw [runAll_reach read cut passes, Check.runAll_line_fails judging hsound fails, failures_filterMap, filterMap_call?,
    List.filterMap_append]
  rfl

/-- In the first stretch in which something does not pass, the first component that breaks down is the error. -/
theorem runAll_of_breaksDown {first rest : List String} {component reason : String}
    (split : stretch = first ++ text :: rest)
    (sound : ∀ other ∈ first, ¬ (context.judge known value other).IsBreakdown)
    (down : context.judge known value text = .breaksDown component reason) :
    Check.runAll path known value (directives.filterMap context.check?) [] =
      ⟨.error (.external path component reason),
        (before.flatten ++ first ++ [text]).filterMap (context.call? value)⟩ := by
  have judging : ∀ check ∈ first.filterMap context.check?, check ≠ .stopIfFailed := by
    have whole := judging_of_stretch read (cut ▸ List.mem_append_right _ (List.mem_cons_self ..) :
      stretch ∈ Directive.stretches directives)
    rw [split, List.filterMap_append] at whole
    exact (List.forall_mem_append.1 whole).1
  have hsound := forall_check (p := fun judgement => ¬ judgement.IsBreakdown) sound
  obtain ⟨check, asked, same⟩ : ∃ check, context.check? text = some check ∧
      check.judge known value = context.judge known value text :=
    exists_check_of_judge (by rw [down]; simp)
  have called : (first.filterMap context.check? ++ [check]).filterMap (Check.call? value) =
      (first ++ [text]).filterMap (context.call? value) := by
    rw [← filterMap_call?, List.filterMap_append (f := context.check?)]
    simp [asked]
  obtain ⟨more, line, -⟩ :=
    Check.line_cons_cases (stretch.filterMap context.check?) (after.map (List.filterMap context.check?))
  rw [runAll_reach read cut passes, line, split, List.filterMap_append, List.filterMap_cons, asked, List.append_assoc,
    List.cons_append, Check.runAll_breaksDown judging hsound (same.trans down), called]
  simp [Traced.after]

end

end RuleContext

namespace FieldRule

variable {type : RuleType} {field : String} {directives : List String} {defaultCode : String}
  {components : Option ComponentLookup} {rule : FieldRule}

/-- The checks of a rule are those that its directives ask for. -/
theorem checks_of_build (built : build type field directives defaultCode components = .ok rule) :
    rule.field = field ∧
      (∀ text ∈ directives, ∃ clause, (RuleContext.ofRule type field directives defaultCode components).readDirective
        (Directive.parse text) = .ok clause) ∧
      rule.checks = directives.filterMap (RuleContext.ofRule type field directives defaultCode components).check? := by
  obtain ⟨clauses, read, rfl⟩ := build_eq_ok_iff.1 built
  refine ⟨rfl, fun text ht => (exists_ok_of_mem read ht).imp fun _ h => h.2, ?_⟩
  have kept : clauses.filterMap Clause.check? =
      (clauses.map .ok : List (Except RuleError Clause)).filterMap fun result =>
        result.toOption.bind Clause.check? := by
    rw [List.filterMap_map]
    rfl
  rw [ofClauses, kept, ← read, List.filterMap_map]
  rfl

/-- **The first stretch in which something fails settles the verdict.** A rule that is built from directives, of
whichever type, judges the value that it reads as follows. Where every directive of every stretch passes, there is no
code, and every component that the directives name is called once, in order. Else, of the first stretch in which some
directive does not pass: where no component breaks down in it, the codes are those of its directives that fail, each
once and in order, and called are the components of the stretches up to it and of itself; where a component does, the
first that does so is the error, with the path that was read, and nothing behind it is called. -/
theorem validate_of_stretches (built : build type field directives defaultCode components = .ok rule)
    (situation : Situation) (value : Json)
    (set : rule.read (situation.path field) situation.subject = .ok (some value)) :
    let context := RuleContext.ofRule type field directives defaultCode components
    let judge := context.judge situation.known value
    let calls := List.filterMap (context.call? value)
    let stretches := Directive.stretches directives
    ((∀ stretch ∈ stretches, ∀ text ∈ stretch, judge text = .passes) →
      rule.validate situation = ⟨.ok { unset := false, codes := [] }, calls directives⟩) ∧
    ∀ before stretch after, stretches = before ++ stretch :: after →
      (∀ other ∈ before, ∀ text ∈ other, judge text = .passes) → (∃ text ∈ stretch, judge text ≠ .passes) →
        ((∀ text ∈ stretch, ¬ (judge text).IsBreakdown) →
          rule.validate situation =
            ⟨.ok { unset := false, codes := (stretch.filterMap fun text => (judge text).code?).eraseDups },
              calls (before.flatten ++ stretch)⟩) ∧
        ∀ first text rest component reason, stretch = first ++ text :: rest →
          (∀ other ∈ first, ¬ (judge other).IsBreakdown) → judge text = .breaksDown component reason →
            rule.validate situation =
              ⟨.error (.external (situation.path field) component reason),
                calls (before.flatten ++ first ++ [text])⟩ := by
  intro context judge calls stretches
  obtain ⟨rfl, read, asked⟩ := checks_of_build built
  rw [validate_of_read_some set, asked]
  refine ⟨fun passes => ?_, fun before stretch after cut passes faulty => ⟨fun sound => ?_, ?_⟩⟩
  · rw [RuleContext.runAll_of_passes read passes]
    rfl
  · rw [RuleContext.runAll_of_fails read cut passes sound faulty]
    rfl
  · intro first text rest component reason split sound down
    rw [RuleContext.runAll_of_breaksDown read cut passes split sound down]
    rfl

/-- A break at the start, two more in a row, and a code that two directives share. -/
def wordDirectives : List String :=
  ["BREAK", "LEN:3:5:SIZE", "STR:BAD", "EXT:lexicon", "IN:abc,abcd:SIZE", "BREAK", "REQ", "BREAK", "EXT:service",
    "MEX:b:BOTH"]

/-- One component does not know the word `zz`, the other fails for `abcd`. -/
def wordComponents : ComponentLookup := fun name =>
  if name = "lexicon" then some fun value => .ok (value.toText? != some "zz")
  else if name = "service" then some fun value => if value.toText? = some "abcd" then .error "busy" else .ok true
  else none

def wordRule : FieldRule :=
  (build .str "a" wordDirectives "" (some wordComponents)).toOption.getD ⟨"", .str, none, false, false, [], .empty⟩

/-- A payload with a word. -/
def wordSituation (word : String) : Situation where
  subject := .obj [("a", .str word)]
  known := ["a", "b"]

theorem validate_of_stretches_word :
    build .str "a" wordDirectives "" (some wordComponents) = .ok wordRule ∧
      wordRule.validate (wordSituation "zz") = ⟨.ok { codes := ["SIZE", "BAD"] }, [⟨"lexicon", .str "zz"⟩]⟩ ∧
      wordRule.validate (wordSituation "abcd") =
        ⟨.error (.external "a" "service" "busy"), [⟨"lexicon", .str "abcd"⟩, ⟨"service", .str "abcd"⟩]⟩ ∧
      wordRule.validate { wordSituation "abc" with known := ["a"] } =
        ⟨.ok { codes := [] }, [⟨"lexicon", .str "abc"⟩, ⟨"service", .str "abc"⟩]⟩ := by
  have built : build .str "a" wordDirectives "" (some wordComponents) = .ok wordRule := rfl
  have cut : Directive.stretches wordDirectives =
      [] :: ["LEN:3:5:SIZE", "EXT:lexicon", "IN:abc,abcd:SIZE"] :: [] :: [["EXT:service", "MEX:b:BOTH"]] := rfl
  obtain ⟨-, short⟩ := validate_of_stretches built (wordSituation "zz") (.str "zz") rfl
  obtain ⟨fails, -⟩ := short [[]] _ _ cut (by decide) (by decide)
  obtain ⟨-, known⟩ := validate_of_stretches built (wordSituation "abcd") (.str "abcd") rfl
  obtain ⟨-, down⟩ := known [[], _, []] _ [] cut (by decide) (by decide)
  obtain ⟨passes, -⟩ :=
    validate_of_stretches built { wordSituation "abc" with known := ["a"] } (.str "abc") rfl
  exact ⟨built, fails (by decide), down [] _ _ "service" "busy" rfl (by simp) rfl, passes (by decide)⟩

end FieldRule

end FieldRules
