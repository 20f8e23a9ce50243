import FieldRules.Proofs.Stopping

/-!
# Rules added at the end

Rules that come later in a chain can reach back: one for an ancestor of an earlier field closes it, and one for a field
that an earlier rule excludes makes that rule fail. Added rules that do neither (`Leaves`) change nothing for the rules
before them. A position of the chain is reported with them exactly when it is reported without them
(`reported_append`), so the findings of the chain come first, and what follows is found by the added rules
(`findings_of_extended`).
-/

namespace FieldRules

namespace Engine

open FieldRules.Path (IsAncestor)

/-- Added rules leave a chain alone: none is for an ancestor of one of its fields, or for a field that one of its rules
excludes. -/
structure Leaves (rules added : List FieldRule) : Prop where
  notAbove : ∀ rule ∈ rules, ∀ other ∈ added, ¬ IsAncestor other.field rule.field
  notExcluded : ∀ rule ∈ rules, ∀ other ∈ added, ∀ check ∈ rule.checks, other.field ∉ check.excluded

variable {subject : Json} {rules added : List FieldRule} {i : Nat} {rule : FieldRule}

/-! ## The first pass -/

theorem findPresence_append (rules added : List FieldRule) (start : Presence) :
    findPresence subject (rules ++ added) start =
      findPresence subject rules start >>= findPresence subject added := by
  induction rules generalizing start with
  | nil => rfl
  | cons rule rules ih =>
    rw [List.cons_append, findPresence_cons, findPresence_cons]
    split
    · exact ih start
    · cases rule.isSet rule.field subject with
      | error error => rfl
      | ok set => cases set <;> exact ih _

theorem setFields_append (rules added : List FieldRule) :
    setFields subject (rules ++ added) = setFields subject rules ++ setFields subject added := by
  rw [setFields, List.filter_append, List.map_append]
  rfl

/-! ## The second pass -/

theorem validate_append (leaves : Leaves rules added) (hr : rule ∈ rules) :
    rule.validate { subject, known := setFields subject (rules ++ added) } =
      rule.validate { subject, known := setFields subject rules } := by
  refine FieldRule.validate_congr_excluded fun check hc field hf => ?_
  rw [setFields_append, List.mem_append]
  refine or_iff_left fun there => ?_
  obtain ⟨other, ho, rfl, -⟩ := mem_setFields.1 there
  exact leaves.notExcluded rule hr other ho check hc hf

theorem parentsPresent_append (leaves : Leaves rules added) (hr : rule ∈ rules) :
    ParentsPresent subject (rules ++ added) rule.field ↔ ParentsPresent subject rules rule.field := by
  simp only [ParentsPresent, List.forall_mem_append]
  exact and_iff_left fun other ho above => absurd above (leaves.notAbove rule hr other ho)

theorem findingAt_append (leaves : Leaves rules added) (hi : rules[i]? = some rule) :
    findingAt subject (rules ++ added) i = findingAt subject rules i := by
  have hlt : i < rules.length := (List.getElem?_eq_some_iff.1 hi).1
  rw [findingAt, findingAt, List.getElem?_append_left hlt, hi, Option.bind_some, Option.bind_some, findingOf, findingOf,
    validate_append leaves (List.mem_of_getElem? hi)]

theorem reportedBefore_append (hle : i ≤ rules.length)
    (before : ∀ j < i, Reported subject (rules ++ added) j ↔ Reported subject rules j) {earlier : FieldRule} :
    ReportedBefore subject (rules ++ added) i earlier ↔ ReportedBefore subject rules i earlier := by
  refine exists_congr fun j => and_congr_right fun hj => ?_
  rw [List.getElem?_append_left (by omega), before j hj]

/-- **What is reported of the chain** is the same with the added rules. -/
theorem reported_append (leaves : Leaves rules added) (hi : i < rules.length) :
    Reported subject (rules ++ added) i ↔ Reported subject rules i := by
  induction i using Nat.strongRecOn with
  | ind i ih =>
    have here : rules[i]? = some rules[i] := List.getElem?_eq_getElem hi
    have here' : (rules ++ added)[i]? = some rules[i] := (List.getElem?_append_left hi).trans here
    rw [reported_iff here, reported_iff here', findingAt_append leaves here, Due, Due,
      parentsPresent_append leaves (List.getElem_mem hi)]
    simp only [reportedBefore_append (Nat.le_of_lt hi) fun j hj => ih j hj (by omega)]

/-! ## Validations -/

variable {engine engine' : Engine} {findings findings' : List Finding}

/-- Increasing positions are those before a bound followed by those from it on. -/
theorem eq_append_filter {positions before : List Nat} (increasing : positions.Pairwise (· < ·))
    (increasing' : before.Pairwise (· < ·)) {n : Nat} (mem : ∀ k, k ∈ before ↔ k < n ∧ k ∈ positions) :
    positions = before ++ positions.filter (n ≤ ·) := by
  have whole : (before ++ positions.filter (n ≤ ·)).Pairwise (· < ·) := by
    refine List.pairwise_append.2 ⟨increasing', increasing.filter _, fun j hj k hk => ?_⟩
    have low := ((mem j).1 hj).1
    have high : n ≤ k := by simpa using List.of_mem_filter hk
    omega
  refine increasing.eq_of_mem_iff whole fun k => ?_
  rw [List.mem_append, mem, List.mem_filter, decide_eq_true_iff]
  have either : k < n ∨ n ≤ k := Nat.lt_or_ge k n
  tauto

/-- What the added rules find: one finding for each position from the end of the chain on that is reported. -/
def FoundAfter (subject : Json) (engine engine' : Engine) (rest : List Finding) : Prop :=
  ∃ later : List Nat, later.Pairwise (· < ·) ∧
    (∀ i, i ∈ later ↔ engine.size ≤ i ∧ Reported subject engine'.rules i) ∧
    rest.map some = later.map (findingAt subject engine'.rules)

/-- **The findings of the chain come first**, and what follows is found by the added rules. -/
theorem findings_append (longer : engine'.rules = engine.rules ++ added) (leaves : Leaves engine.rules added)
    (h : (engine.validate subject).result = .ok findings) (h' : (engine'.validate subject).result = .ok findings') :
    ∃ rest, findings' = findings ++ rest ∧ FoundAfter subject engine engine' rest := by
  cases outcome_of_validate h with
  | ended positions increasing mem found _ =>
  cases outcome_of_validate h' with
  | ended positions' increasing' mem' found' _ =>
  simp only [Nat.zero_le, true_and] at mem mem'
  have earlier : ∀ k, k ∈ positions ↔ k < engine.size ∧ k ∈ positions' := by
    intro k
    rw [mem, mem', longer]
    constructor
    · intro hr
      exact ⟨hr.lt_length, (reported_append leaves hr.lt_length).2 hr⟩
    · rintro ⟨hk, hr⟩
      exact (reported_append leaves hk).1 hr
  have split := eq_append_filter increasing' increasing earlier
  have same : positions.map (findingAt subject engine'.rules) = positions.map (findingAt subject engine.rules) := by
    refine List.map_congr_left fun k hk => ?_
    obtain ⟨rule, hr⟩ := ((mem k).1 hk).exists_rule
    rw [longer, findingAt_append leaves hr]
  rw [split, List.map_append, same, found] at found'
  obtain ⟨first, rest, rfl, hfirst, hrest⟩ := List.map_eq_append_iff.1 found'.symm
  obtain rfl : first = findings := List.map_injective_iff.2 (Option.some_injective _) hfirst
  refine ⟨rest, rfl, positions'.filter (engine.size ≤ ·), increasing'.filter _, fun k => ?_, hrest⟩
  rw [List.mem_filter, mem', decide_eq_true_iff, and_comm]

/-- What is found after the chain is in fields of added rules. -/
theorem FoundAfter.exists_rule (longer : engine'.rules = engine.rules ++ added) {rest : List Finding}
    (after : FoundAfter subject engine engine' rest) {finding : Finding} (hf : finding ∈ rest) :
    ∃ rule ∈ added, finding.field = rule.field := by
  obtain ⟨later, -, mem, found⟩ := after
  have hs : some finding ∈ later.map (findingAt subject engine'.rules) := found ▸ List.mem_map_of_mem hf
  obtain ⟨i, hi, here⟩ := List.mem_map.1 hs
  obtain ⟨rule, hr, hfound⟩ := Option.bind_eq_some_iff.1 here
  rw [longer, List.getElem?_append_right ((mem i).1 hi).1] at hr
  obtain ⟨verdict, -, -, rfl⟩ := findingOf_eq_some_iff.1 hfound
  exact ⟨rule, List.mem_of_getElem? hr, rfl⟩

/-- Nothing is found after a report that stops. -/
theorem FoundAfter.eq_nil (longer : engine'.rules = engine.rules ++ added) (leaves : Leaves engine.rules added)
    {rest : List Finding} (after : FoundAfter subject engine engine' rest) (hr : Reported subject engine.rules i)
    (stops : stopsAt engine.rules i = true) : rest = [] := by
  obtain ⟨later, -, mem, found⟩ := after
  have hr' : Reported subject engine'.rules i := longer ▸ (reported_append leaves hr.lt_length).2 hr
  have stops' : stopsAt engine'.rules i = true := by
    rw [stopsAt, longer, List.getElem?_append_left hr.lt_length]
    exact stops
  have none : later = [] := by
    refine List.eq_nil_iff_forall_not_mem.2 fun k hk => ?_
    obtain ⟨hle, hk⟩ := (mem k).1 hk
    obtain ⟨rule, there⟩ := hk.exists_rule
    have early : k ≤ i := ((reported_iff there).1 hk).1.le_of_stops hr' stops'
    exact absurd (Nat.lt_of_le_of_lt early hr.lt_length) (Nat.not_lt.2 hle)
  rw [none] at found
  exact List.map_eq_nil_iff.1 found

/-- What the first pass gives up on, it gives up on with rules added at the end. -/
theorem presence_append (longer : engine'.rules = engine.rules ++ added) {abort : Abort}
    (h : (engine.validate subject).result = .error abort) (stage : abort.stage = .presence) :
    engine'.validate subject = .pure (.error abort) := by
  have gaveUp := gaveUp_of_validate h stage
  refine validate_of_gaveUp ?_
  rw [longer, findPresence_append, gaveUp]
  rfl

end Engine

/-! ## Rule sets with added rules -/

/-- Only the keyword for it makes a check exclude fields: those in its list. -/
theorem RuleContext.excluded_of_readDirective {context : RuleContext} {directive : Directive} {check : Check}
    {field : String} (h : context.readDirective directive = .ok (.check check)) (hf : field ∈ check.excluded) :
    directive.name = Keyword.exclusive.name ∧ field ∈ directive.members 1 := by
  rcases readDirective_cases h with ⟨-, hc⟩ | ⟨keyword, named, hk⟩
  · cases hc
  · cases askedBy_of_readKeyword hk with
    | exclusive code => exact ⟨named, hf⟩
    | stopIfFailed | external | test => cases hf

namespace Blueprint

open FieldRules.Path (IsAncestor)

/-- A directive of a rule excludes the field, those of a shared rule that it refers to included. -/
def Excludes (blueprint : Blueprint) (tokens : List String) (field : String) : Prop :=
  ∃ directives, resolveDirectives blueprint.registry tokens = .ok directives ∧
    ∃ text ∈ directives, (Directive.parse text).name = Keyword.exclusive.name ∧
      field ∈ (Directive.parse text).members 1

/-- The rule set with rules added at the end. -/
def extended (blueprint : Blueprint) (added : List (List String)) : Blueprint :=
  { blueprint with rules := blueprint.rules ++ added }

/-- Added rules have nothing to do with a rule set: none is for an ancestor of one of its fields, or for a field that
one of its rules excludes. -/
structure Unrelated (blueprint : Blueprint) (added : List (List String)) : Prop where
  notAbove : ∀ tokens ∈ blueprint.rules, ∀ other ∈ added, ¬ IsAncestor (fieldOf other) (fieldOf tokens)
  notExcluded : ∀ tokens ∈ blueprint.rules, ∀ other ∈ added, ¬ blueprint.Excludes tokens (fieldOf other)

variable {blueprint : Blueprint} {added : List (List String)} {engine engine' : Engine} {tokens : List String}
  {rule : FieldRule}

theorem excludes_of_buildRule (built : blueprint.buildRule tokens = .ok rule) {check : Check}
    (hc : check ∈ rule.checks) {field : String} (hf : field ∈ check.excluded) : blueprint.Excludes tokens field := by
  obtain ⟨directives, type, resolved, -, hb⟩ := buildRule_eq_ok_iff.1 built
  obtain ⟨clauses, read, rfl⟩ := FieldRule.build_eq_ok_iff.1 hb
  obtain ⟨clause, hcl, asCheck⟩ := List.mem_filterMap.1 hc
  obtain ⟨text, ht, hr⟩ := exists_mem_of_ok read hcl
  cases clause with
  | check step =>
    obtain rfl := Option.some.inj asCheck
    exact ⟨directives, resolved, text, ht, RuleContext.excluded_of_readDirective hr hf⟩
  | _ => cases asCheck

/-- A rule set with added rules is built as the chain without them, followed by the added rules. -/
theorem rules_of_extended (built : blueprint.build = .ok engine)
    (built' : (blueprint.extended added).build = .ok engine') :
    ∃ later, added.map blueprint.buildRule = later.map .ok ∧ engine'.rules = engine.rules ++ later := by
  obtain ⟨-, chain, -⟩ := build_eq_ok_iff.1 built
  obtain ⟨-, chain', -⟩ := build_eq_ok_iff.1 built'
  have whole : blueprint.rules.map blueprint.buildRule ++ added.map blueprint.buildRule = engine'.rules.map .ok := by
    rw [← List.map_append]
    exact chain'
  obtain ⟨first, later, cut, hfirst, hlater⟩ := List.map_eq_append_iff.1 whole.symm
  obtain rfl : first = engine.rules := (List.map_inj_right fun _ _ => Except.ok.inj).1 (hfirst.trans chain)
  exact ⟨later, hlater.symm, cut⟩

theorem Unrelated.leaves (unrelated : blueprint.Unrelated added) (built : blueprint.build = .ok engine)
    {later : List FieldRule} (read : added.map blueprint.buildRule = later.map .ok) :
    Engine.Leaves engine.rules later := by
  constructor
  · intro rule hr other ho
    obtain ⟨tokens, ht, hb⟩ := exists_buildRule built hr
    obtain ⟨tokens', ht', hb'⟩ := exists_mem_of_ok read ho
    rw [field_of_buildRule hb, field_of_buildRule hb']
    exact unrelated.notAbove tokens ht tokens' ht'
  · intro rule hr other ho check hc hf
    obtain ⟨tokens, ht, hb⟩ := exists_buildRule built hr
    obtain ⟨tokens', ht', hb'⟩ := exists_mem_of_ok read ho
    rw [field_of_buildRule hb'] at hf
    exact unrelated.notExcluded tokens ht tokens' ht' (excludes_of_buildRule hb hc hf)

/-- **Unrelated rules at the end disturb nothing.** When a payload is validated without them and with them, the
findings without them come first. What follows is found by the added rules, in their fields, and there is nothing when a
reported rule of the chain ends the validation. What the first pass gives up on without them it gives up on with
them. -/
theorem findings_of_extended (blueprint : Blueprint) (added : List (List String)) (engine engine' : Engine)
    (built : blueprint.build = .ok engine) (built' : (blueprint.extended added).build = .ok engine')
    (unrelated : blueprint.Unrelated added) (subject : Json) :
    (∀ findings findings', (engine.validate subject).result = .ok findings →
      (engine'.validate subject).result = .ok findings' →
        ∃ rest, findings' = findings ++ rest ∧ Engine.FoundAfter subject engine engine' rest ∧
          (∀ finding ∈ rest, ∃ tokens ∈ added, finding.field = fieldOf tokens) ∧
          ((∃ i, Engine.Reported subject engine.rules i ∧ Engine.stopsAt engine.rules i = true) → rest = [])) ∧
    ∀ abort, (engine.validate subject).result = .error abort → abort.stage = .presence →
      engine'.validate subject = .pure (.error abort) := by
  obtain ⟨later, read, longer⟩ := rules_of_extended built built'
  have leaves : Engine.Leaves engine.rules later := unrelated.leaves built read
  refine ⟨fun findings findings' h h' => ?_, fun abort h stage => Engine.presence_append longer h stage⟩
  obtain ⟨rest, first, after⟩ := Engine.findings_append longer leaves h h'
  refine ⟨rest, first, after, fun finding hf => ?_, fun ⟨i, hr, stops⟩ => after.eq_nil longer leaves hr stops⟩
  obtain ⟨rule, hl, hfield⟩ := after.exists_rule longer hf
  obtain ⟨tokens, ht, hb⟩ := exists_mem_of_ok read hl
  exact ⟨tokens, ht, hfield.trans (field_of_buildRule hb)⟩

/-- A field that excludes another, and a parent that ends the validation. -/
def guardedRules : Blueprint where
  rules := [["x", "STR", "MEX:y:BOTH"], ["y", "STR"], ["p", "OBJ", "STOPALL", "LEN:2:*:SMALL"]]

/-- A child of the parent, and a field of its own. -/
def laterRules : List (List String) :=
  [["p.q", "INT", "REQ:NO_Q"], ["z", "STR", "REQ:NO_Z"]]

def guardedEngine : Engine :=
  guardedRules.build.toOption.getD ⟨"", [], .empty⟩

def extendedEngine : Engine :=
  (guardedRules.extended laterRules).build.toOption.getD ⟨"", [], .empty⟩

def bothPayload : Json :=
  .obj [("x", .str "v"), ("y", .str "w"), ("p", .obj [("a", .null), ("b", .null)])]

def smallPayload : Json :=
  .obj [("p", .obj [])]

def numberPayload : Json :=
  .obj [("x", .int 5)]

theorem laterRules_unrelated : guardedRules.Unrelated laterRules := by
  refine ⟨by decide, fun tokens ht other ho ⟨directives, resolved, text, htext, named, listed⟩ => ?_⟩
  have apart : ∀ tokens ∈ guardedRules.rules,
      ∀ text ∈ (resolveDirectives guardedRules.registry tokens).toOption.getD [],
        (Directive.parse text).name = Keyword.exclusive.name →
          ∀ other ∈ laterRules, fieldOf other ∉ (Directive.parse text).members 1 := by decide
  exact apart tokens ht text (by rw [resolved]; exact htext) named other ho listed

theorem findings_of_extended_guarded :
    guardedRules.build = .ok guardedEngine ∧ (guardedRules.extended laterRules).build = .ok extendedEngine ∧
      guardedRules.Unrelated laterRules ∧
      (guardedEngine.validate bothPayload).result = .ok [⟨"x", ["BOTH"]⟩] ∧
      (extendedEngine.validate bothPayload).result =
        .ok [⟨"x", ["BOTH"]⟩, ⟨"p.q", ["NO_Q"]⟩, ⟨"z", ["NO_Z"]⟩] ∧
      (∃ rest, [⟨"x", ["BOTH"]⟩, ⟨"p.q", ["NO_Q"]⟩, ⟨"z", ["NO_Z"]⟩] = [(⟨"x", ["BOTH"]⟩ : Finding)] ++ rest ∧
        Engine.FoundAfter bothPayload guardedEngine extendedEngine rest) ∧
      (guardedEngine.validate smallPayload).result = .ok [⟨"p", ["SMALL"]⟩] ∧
      (extendedEngine.validate smallPayload).result = .ok [⟨"p", ["SMALL"]⟩] ∧
      extendedEngine.validate numberPayload =
        .pure (.error ⟨"x", .presence, .typeMismatch "x" .str .integer⟩) := by
  have built : guardedRules.build = .ok guardedEngine := rfl
  have built' : (guardedRules.extended laterRules).build = .ok extendedEngine := rfl
  have runs := findings_of_extended guardedRules laterRules guardedEngine extendedEngine built built'
    laterRules_unrelated
  obtain ⟨rest, first, after, -, -⟩ := (runs bothPayload).1 _ _ rfl rfl
  exact ⟨built, built', laterRules_unrelated, rfl, rfl, ⟨rest, first, after⟩, rfl, rfl,
    (runs numberPayload).2 _ rfl rfl⟩

end Blueprint

end FieldRules
