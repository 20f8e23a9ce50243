import Mathlib.Data.List.Sort
import FieldRules.Proofs.Alike
import FieldRules.Proofs.Forms
import FieldRules.Proofs.Reordering

/-!
# Rules that end the validation

A rule set may be freed of the directives that end a validation. The freed set builds the same chain, except that no
rule stops. Its first pass is the same, and up to the first reported position that stops so is its second: a position
is reported by the chain exactly when it is reported by the freed chain and no earlier report there stops
(`reported_unstopped`). So the findings are those of the freed chain up to the first one of a rule that stops, and
what the freed chain gives up on is given up on alike, or never reached (`validate_of_unstopped`).
-/

namespace FieldRules

/-! ## Freed rules -/

/-- The rule, except that it never ends the validation. -/
def FieldRule.unstopped (rule : FieldRule) : FieldRule :=
  { rule with stopAll := false }

namespace Engine

open FieldRules.Path (IsAncestor)

variable {subject : Json} {rules : List FieldRule} {i : Nat} {rule : FieldRule}

/-- The rule at a position of the chain ends the validation when it fails. -/
def stopsAt (rules : List FieldRule) (i : Nat) : Bool :=
  rules[i]?.any FieldRule.stopAll

/-- No position that the freed chain reports before `i` ends the validation. -/
def RunsTo (subject : Json) (rules : List FieldRule) (i : Nat) : Prop :=
  ∀ j < i, Reported subject (rules.map FieldRule.unstopped) j → stopsAt rules j = false

theorem stopsAt_of_getElem? (hi : rules[i]? = some rule) : stopsAt rules i = rule.stopAll := by
  simp [stopsAt, hi]

theorem setFields_unstopped : setFields subject (rules.map FieldRule.unstopped) = setFields subject rules := by
  simp only [setFields, List.filter_map, List.map_map]
  rfl

theorem parentsPresent_unstopped {field : String} :
    ParentsPresent subject (rules.map FieldRule.unstopped) field ↔ ParentsPresent subject rules field := by
  simp only [ParentsPresent, List.forall_mem_map]
  rfl

theorem findingAt_unstopped : findingAt subject (rules.map FieldRule.unstopped) i = findingAt subject rules i := by
  rw [findingAt, findingAt, List.getElem?_map, setFields_unstopped, Option.bind_map]
  rfl

/-- Where reports before a position are the same but for the stops, so is what makes it due. -/
theorem due_unstopped_of (before : ∀ j < i, Reported subject rules j ↔
      Reported subject (rules.map FieldRule.unstopped) j ∧ RunsTo subject rules j) :
    Due subject rules i rule ↔
      Due subject (rules.map FieldRule.unstopped) i rule.unstopped ∧ RunsTo subject rules i := by
  constructor
  · rintro ⟨parents, quiet⟩
    have runs : ∀ j < i, Reported subject (rules.map FieldRule.unstopped) j → stopsAt rules j = false := by
      intro j
      induction j using Nat.strongRecOn with
      | ind j ih =>
        intro hj hr
        have reported : Reported subject rules j := (before j hj).2 ⟨hr, fun k hk => ih k hk (by omega)⟩
        obtain ⟨earlier, he⟩ := reported.exists_rule
        rw [stopsAt_of_getElem? he]
        exact (quiet earlier ⟨j, hj, he, reported⟩).2
    refine ⟨⟨parentsPresent_unstopped.2 parents, ?_⟩, runs⟩
    rintro other ⟨j, hj, he, hr⟩
    rw [List.getElem?_map] at he
    obtain ⟨earlier, hj', rfl⟩ := Option.map_eq_some_iff.1 he
    have reported : Reported subject rules j := (before j hj).2 ⟨hr, fun k hk => runs k (by omega)⟩
    exact ⟨(quiet earlier ⟨j, hj, hj', reported⟩).1, rfl⟩
  · rintro ⟨⟨parents, quiet⟩, runs⟩
    refine ⟨parentsPresent_unstopped.1 parents, ?_⟩
    rintro earlier ⟨j, hj, he, hr⟩
    have freed : Reported subject (rules.map FieldRule.unstopped) j := ((before j hj).1 hr).1
    have he' : (rules.map FieldRule.unstopped)[j]? = some earlier.unstopped := by simp [he]
    refine ⟨(quiet earlier.unstopped ⟨j, hj, he', freed⟩).1, ?_⟩
    rw [← stopsAt_of_getElem? he]
    exact runs j hj freed

/-- **What is reported**: what the freed chain reports, until a report stops. -/
theorem reported_unstopped : Reported subject rules i ↔
    Reported subject (rules.map FieldRule.unstopped) i ∧ RunsTo subject rules i := by
  induction i using Nat.strongRecOn with
  | ind i ih =>
    cases hi : rules[i]? with
    | none =>
      have hi' : (rules.map FieldRule.unstopped)[i]? = none := by simp [hi]
      simp [not_reported_of_none hi, not_reported_of_none hi']
    | some rule =>
      have hi' : (rules.map FieldRule.unstopped)[i]? = some rule.unstopped := by simp [hi]
      rw [reported_iff hi, reported_iff hi', findingAt_unstopped, due_unstopped_of ih]
      exact and_right_comm

theorem due_unstopped : Due subject rules i rule ↔
    Due subject (rules.map FieldRule.unstopped) i rule.unstopped ∧ RunsTo subject rules i :=
  due_unstopped_of fun _ _ => reported_unstopped

/-- A chain of which no report stops runs to its end. -/
theorem runsTo_of_none (h : ∀ j, Reported subject rules j → stopsAt rules j = false) (i : Nat) :
    RunsTo subject rules i := by
  intro j _
  induction j using Nat.strongRecOn with
  | ind j ih => exact fun hr => h j (reported_unstopped.2 ⟨hr, fun k hk => ih k hk (by omega)⟩)

/-! ## Both passes -/

theorem findPresence_unstopped (presence : Presence) :
    findPresence subject (rules.map FieldRule.unstopped) presence = findPresence subject rules presence := by
  refine findPresence_alike (List.forall₂_map_right_iff.2 ?_) presence
  exact List.forall₂_same.2 fun _ _ => ⟨rfl, rfl⟩

section
variable {known : List String} {standing : Standing}

/-- A step that goes on does so without the stop. -/
theorem step_unstopped_of_next {next : Standing} {found : List Finding}
    (h : (step subject known standing rule).result = .next next found) :
    (step subject known standing rule.unstopped).result = .next next found := by
  have hc := step_case subject known standing rule
  rw [h] at hc
  have same : rule.unstopped.validate { subject, known } = rule.validate { subject, known } := rfl
  have goesOn : rule.unstopped.stopAll = false := rfl
  unfold step
  rw [waitsFor_of_field (show rule.unstopped.field = rule.field from rfl), same, goesOn]
  cases hc with
  | passedOver waits => simp [waits, Traced.pure]
  | fine opens judged fine => simp [opens, judged, fine, Standing.after, FieldRule.unstopped]
  | faulty opens judged faulty goesOn => simp [opens, judged, faulty, Standing.after, FieldRule.unstopped]

/-- A step that gives up does so without the stop. -/
theorem step_unstopped_of_error {abort : Abort}
    (h : (step subject known standing rule).result = .done (.error abort)) :
    (step subject known standing rule.unstopped).result = .done (.error abort) := by
  have hc := step_case subject known standing rule
  rw [h] at hc
  have same : rule.unstopped.validate { subject, known } = rule.validate { subject, known } := rfl
  unfold step
  rw [waitsFor_of_field (show rule.unstopped.field = rule.field from rfl), same]
  cases hc with
  | gaveUp opens failed => simp [opens, failed, FieldRule.unstopped]

/-- A second pass that gives up gives up on the same without the stops. -/
theorem judge_error_unstopped {abort : Abort} (h : (judge subject known rules standing.closed).result = .error abort) :
    (judge subject known (rules.map FieldRule.unstopped) standing.closed).result = .error abort := by
  induction rules generalizing standing with
  | nil => cases h
  | cons rule rules ih =>
    rw [judge_cons] at h
    rw [List.map_cons, judge_cons]
    cases hs : (step subject known standing rule).result with
    | done result =>
      rw [hs] at h
      obtain rfl : result = .error abort := h
      rw [step_unstopped_of_error hs]
    | next next found =>
      rw [hs] at h
      rw [step_unstopped_of_next hs]
      cases hr : (judge subject known rules next.closed).result with
      | ok findings => simp [putFirst, hr, Except.map] at h
      | error other =>
        obtain rfl : other = abort := by simpa [putFirst, hr, Except.map] using h
        simp [putFirst, ih hr, Except.map]

/-! ## Questions -/

theorem step_calls : (step subject known standing rule).calls =
    if waitsFor rule standing.closed then [] else (rule.validate { subject, known }).calls := by
  unfold step
  split <;> rfl

end

/-- What the rule at a position asks components when it is judged. -/
def callsAt (subject : Json) (rules : List FieldRule) (i : Nat) : List Call :=
  match rules[i]? with
  | none => []
  | some rule => (rule.validate { subject, known := setFields subject rules }).calls

/-- **What the second pass asks**, from any position on, is what the rules at due positions ask, in chain order. -/
theorem judge_calls {presence : Presence} (hp : presence.Describes subject rules) {standing : Standing}
    (h : standing.Describes subject rules presence i) {rest : List FieldRule} (hrest : rules.drop i = rest) :
    ∃ judged : List Nat, judged.Pairwise (· < ·) ∧
      (∀ k ∈ judged, i ≤ k ∧ ∃ rule, rules[k]? = some rule ∧ Due subject rules k rule) ∧
      (judge subject presence.set rest standing.closed).calls = judged.flatMap (callsAt subject rules) := by
  induction rest generalizing i standing with
  | nil => exact ⟨[], .nil, by simp, rfl⟩
  | cons rule rest ih =>
    obtain ⟨hi, hrest'⟩ := getElem?_of_drop_eq_cons hrest
    -- The position itself asks exactly when the gate is open, which is when it is due.
    obtain ⟨own, hown, asked⟩ : ∃ own : List Nat, (own = [] ∨ own = [i] ∧ Due subject rules i rule) ∧
        (step subject presence.set standing rule).calls = own.flatMap (callsAt subject rules) := by
      rw [step_calls, validate_found hp]
      cases hw : waitsFor rule standing.closed with
      | true => exact ⟨[], Or.inl rfl, rfl⟩
      | false => exact ⟨[i], Or.inr ⟨rfl, (h.opens_iff hp rule).1 hw⟩, by simp [callsAt, hi]⟩
    rw [judge_cons]
    cases hs : (step subject presence.set standing rule).result with
    | done result =>
      refine ⟨own, ?_, ?_, asked⟩
      · rcases hown with rfl | ⟨rfl, -⟩ <;> simp
      · rcases hown with rfl | ⟨rfl, due⟩
        · simp
        · simpa using ⟨rule, hi, due⟩
    | next next found =>
      obtain ⟨judged, increasing, due, calls⟩ := ih (step_next hp h hi hs).1 hrest'
      have later : ∀ k ∈ judged, i < k := fun k hk => (due k hk).1
      refine ⟨own ++ judged, ?_, ?_, ?_⟩
      · rcases hown with rfl | ⟨rfl, -⟩
        · exact increasing
        · exact List.pairwise_cons.2 ⟨later, increasing⟩
      · intro k hk
        rcases List.mem_append.1 hk with hk | hk
        · rcases hown with rfl | ⟨rfl, here⟩
          · cases hk
          · rw [List.mem_singleton.1 hk]
            exact ⟨Nat.le_refl i, rule, hi, here⟩
        · exact ⟨Nat.le_of_lt (later k hk), (due k hk).2⟩
      · rw [List.flatMap_append, ← asked, ← calls]
        rfl

/-! ## Validations -/

/-- Of increasing positions, those up to and including the first with a property are those without one before. -/
theorem mem_take_findIdx {positions : List Nat} (increasing : positions.Pairwise (· < ·)) {p : Nat → Bool} {k : Nat} :
    k ∈ positions.take (positions.findIdx p + 1) ↔ k ∈ positions ∧ ∀ j ∈ positions, j < k → p j = false := by
  induction positions with
  | nil => simp
  | cons first rest ih =>
    obtain ⟨above, increasing⟩ := List.pairwise_cons.1 increasing
    rw [List.take_succ_cons, List.findIdx_cons]
    cases hp : p first with
    | true =>
      simp only [cond_true, List.take_zero, List.mem_cons, List.not_mem_nil, or_false]
      constructor
      · rintro rfl
        refine ⟨Or.inl rfl, fun j hj hlt => ?_⟩
        rcases hj with rfl | hj
        · omega
        · have := above j hj
          omega
      · rintro ⟨rfl | hk, none⟩
        · rfl
        · rw [none first (Or.inl rfl) (above k hk)] at hp
          cases hp
    | false =>
      simp only [cond_false, List.mem_cons, ih increasing]
      constructor
      · rintro (rfl | ⟨hk, none⟩)
        · refine ⟨Or.inl rfl, fun j hj hlt => ?_⟩
          rcases hj with rfl | hj
          · exact hp
          · have := above j hj
            omega
        · refine ⟨Or.inr hk, fun j hj hlt => ?_⟩
          rcases hj with rfl | hj
          · exact hp
          · exact none j hj hlt
      · rintro ⟨rfl | hk, none⟩
        · exact Or.inl rfl
        · exact Or.inr ⟨hk, fun j hj => none j (Or.inr hj)⟩

variable {engine free : Engine} {findings : List Finding}

/-- What is due in a chain can be judged when the freed chain can judge what is due there. -/
theorem succeeds_of_unstopped (freed : free.rules = engine.rules.map FieldRule.unstopped)
    (h : ∃ findings, (free.validate subject).result = .ok findings) :
    ∃ findings, (engine.validate subject).result = .ok findings := by
  rw [validate_succeeds_iff, freed, findPresence_unstopped, setFields_unstopped] at h
  obtain ⟨ends, judged⟩ := h
  refine validate_succeeds_iff.2 ⟨ends, fun i rule hi due => ?_⟩
  exact judged i rule.unstopped (by simp [hi]) (due_unstopped.1 due).1

/-- The freed chain can judge what is due there when the chain can and none of its reports stops. -/
theorem unstopped_succeeds_of (freed : free.rules = engine.rules.map FieldRule.unstopped)
    (never : ∀ j, Reported subject engine.rules j → stopsAt engine.rules j = false)
    (h : ∃ findings, (engine.validate subject).result = .ok findings) :
    ∃ findings, (free.validate subject).result = .ok findings := by
  obtain ⟨ends, judged⟩ := validate_succeeds_iff.1 h
  rw [validate_succeeds_iff, freed, findPresence_unstopped, setFields_unstopped]
  refine ⟨ends, fun i other hi due => ?_⟩
  rw [List.getElem?_map] at hi
  obtain ⟨rule, hr, rfl⟩ := Option.map_eq_some_iff.1 hi
  exact judged i rule hr (due_unstopped.2 ⟨due, runsTo_of_none never i⟩)

/-- **The findings up to a stop**: of the findings of the freed chain those up to and including the first one of a
position that stops. -/
theorem findings_unstopped (freed : free.rules = engine.rules.map FieldRule.unstopped)
    (h : (free.validate subject).result = .ok findings) :
    ∃ positions : List Nat, positions.Pairwise (· < ·) ∧ (∀ i, i ∈ positions ↔ Reported subject free.rules i) ∧
      positions.map (findingAt subject free.rules) = findings.map some ∧
      (engine.validate subject).result = .ok (findings.take (positions.findIdx (stopsAt engine.rules) + 1)) := by
  obtain ⟨stopped, hs⟩ := succeeds_of_unstopped freed ⟨findings, h⟩
  cases outcome_of_validate h with
  | ended positions increasing mem found _ =>
  cases outcome_of_validate hs with
  | ended positions' increasing' mem' found' _ =>
  simp only [Nat.zero_le, true_and] at mem mem'
  have cut : positions' = positions.take (positions.findIdx (stopsAt engine.rules) + 1) := by
    refine increasing'.eq_of_mem_iff (increasing.sublist (List.take_sublist _ _)) fun k => ?_
    rw [mem', reported_unstopped, mem_take_findIdx increasing, mem, freed]
    refine and_congr_right fun _ => ⟨fun runs j hj hlt => ?_, fun none j hlt hr => ?_⟩
    · rw [mem, freed] at hj
      exact runs j hlt hj
    · refine none j ?_ hlt
      rwa [mem, freed]
  refine ⟨positions, increasing, mem, found, ?_⟩
  rw [hs]
  have taken : stopped.map some =
      (findings.take (positions.findIdx (stopsAt engine.rules) + 1)).map some := by
    rw [← found', cut, List.map_take, List.map_take, ← found, freed]
    exact congrArg _ (List.map_congr_left fun _ _ => findingAt_unstopped.symm)
  exact congrArg _ (List.map_injective_iff.2 (Option.some_injective _) taken)

/-- A validation ends at a position: its rule is reported and stops, its finding is the last one, and only rules up to
it were asked to question a component. -/
structure EndsAt (engine : Engine) (subject : Json) (findings : List Finding) (i : Nat) : Prop where
  reported : Reported subject engine.rules i
  stops : stopsAt engine.rules i = true
  last : findings.getLast? = findingAt subject engine.rules i
  asked : ∃ judged : List Nat, judged.Pairwise (· < ·) ∧ (∀ k ∈ judged, k ≤ i) ∧
    (engine.validate subject).calls = judged.flatMap (callsAt subject engine.rules)

/-- Nothing is due after a report that stops. -/
theorem Due.le_of_stops (due : Due subject rules i rule) {j : Nat} (reported : Reported subject rules j)
    (stops : stopsAt rules j = true) : i ≤ j := by
  by_contra later
  obtain ⟨earlier, he⟩ := reported.exists_rule
  have quiet := (due.2 earlier ⟨j, by omega, he, reported⟩).2
  rw [stopsAt_of_getElem? he, quiet] at stops
  cases stops

/-- The questions of a validation are those of due positions. -/
theorem validate_calls (engine : Engine) (subject : Json) : ∃ judged : List Nat, judged.Pairwise (· < ·) ∧
    (∀ k ∈ judged, ∃ rule, engine.rules[k]? = some rule ∧ Due subject engine.rules k rule) ∧
    (engine.validate subject).calls = judged.flatMap (callsAt subject engine.rules) := by
  unfold validate
  cases found : findPresence subject engine.rules ⟨[], []⟩ with
  | error abort => exact ⟨[], .nil, by simp, rfl⟩
  | ok presence =>
    have described : presence.Describes subject engine.rules := findPresence_describes .start found
    obtain ⟨judged, increasing, due, calls⟩ :=
      judge_calls described .start (show engine.rules.drop 0 = engine.rules from rfl)
    exact ⟨judged, increasing, fun k hk => (due k hk).2, calls⟩

/-- The last of increasing positions is the one that none exceeds. -/
theorem getLast?_of_le {positions : List Nat} (increasing : positions.Pairwise (· < ·)) (hi : i ∈ positions)
    (last : ∀ k ∈ positions, k ≤ i) : positions.getLast? = some i := by
  obtain ⟨before, after, rfl⟩ := List.append_of_mem hi
  have nothing : after = [] := by
    refine List.eq_nil_iff_forall_not_mem.2 fun k hk => ?_
    have above := List.rel_of_pairwise_cons (List.pairwise_append.1 increasing).2.1 hk
    have := last k (by simp [hk])
    omega
  simp [nothing]

theorem endsAt_of_reported (h : (engine.validate subject).result = .ok findings)
    (reported : Reported subject engine.rules i) (stops : stopsAt engine.rules i = true) :
    EndsAt engine subject findings i := by
  obtain ⟨judged, increasing, due, calls⟩ := validate_calls engine subject
  refine ⟨reported, stops, ?_, judged, increasing, fun k hk => ?_, calls⟩
  · cases outcome_of_validate h with
    | ended positions increasing mem found _ =>
    have last : positions.getLast? = some i := by
      refine getLast?_of_le increasing ((mem i).2 ⟨Nat.zero_le i, reported⟩) fun k hk => ?_
      obtain ⟨rule, hr⟩ := ((mem k).1 hk).2.exists_rule
      exact ((reported_iff hr).1 ((mem k).1 hk).2).1.le_of_stops reported stops
    have := congrArg List.getLast? found
    rw [List.getLast?_map, List.getLast?_map, last] at this
    cases hf : findings.getLast? with
    | none => simp [hf] at this
    | some finding => simpa [hf] using this.symm
  · obtain ⟨rule, -, here⟩ := due k hk
    exact here.le_of_stops reported stops

/-- Where the freed chain gives up, the chain gives up on the same, or ends at a position that
stops. -/
theorem aborts_unstopped (freed : free.rules = engine.rules.map FieldRule.unstopped) {abort : Abort}
    (h : (free.validate subject).result = .error abort) :
    (engine.validate subject).result = .error abort ∨
      ∃ findings i, (engine.validate subject).result = .ok findings ∧ EndsAt engine subject findings i := by
  cases hr : (engine.validate subject).result with
  | error other =>
    have same : (free.validate subject).result = .error other := by
      unfold validate at hr ⊢
      rw [freed, findPresence_unstopped]
      cases found : findPresence subject engine.rules ⟨[], []⟩ with
      | error gaveUp =>
        rw [found] at hr
        exact hr
      | ok presence =>
        rw [found] at hr
        have start : (judge subject presence.set engine.rules
            (Standing.mk presence.unset []).closed).result = .error other := hr
        exact judge_error_unstopped start
    rw [h] at same
    exact Or.inl same.symm
  | ok findings =>
    right
    by_cases never : ∀ j, Reported subject engine.rules j → stopsAt engine.rules j = false
    · obtain ⟨freely, hf⟩ := unstopped_succeeds_of freed never ⟨findings, hr⟩
      rw [h] at hf
      cases hf
    · simp only [not_forall, Bool.not_eq_false] at never
      obtain ⟨i, reported, stops⟩ := never
      exact ⟨findings, i, rfl, endsAt_of_reported hr reported stops⟩

/-- A validation that gives up in the first pass does so with the stops as well. -/
theorem presence_unstopped (freed : free.rules = engine.rules.map FieldRule.unstopped) {abort : Abort}
    (h : (free.validate subject).result = .error abort) (stage : abort.stage = .presence) :
    (engine.validate subject).result = .error abort := by
  have gaveUp := gaveUp_of_validate h stage
  rw [freed, findPresence_unstopped] at gaveUp
  rw [validate_of_gaveUp gaveUp]
  rfl

end Engine

/-! ## Freed rule sets -/

/-- A directive that ends the validation. -/
def Directive.isStop (text : String) : Bool :=
  (parse text).name == Keyword.stopAll.name

namespace RuleContext

variable {context : RuleContext} {directive : Directive} {clause : Clause}

/-- A directive ends the validation exactly when it is read as the clause for it. -/
theorem isStopAll_iff_name (h : context.readDirective directive = .ok clause) :
    clause.isStopAll = true ↔ directive.name = Keyword.stopAll.name := by
  constructor
  · intro stops
    cases clause with
    | stopAll => exact name_of_stopAll h
    | _ => cases stops
  · intro named
    rcases readDirective_cases h with ⟨marker, -⟩ | ⟨keyword, hk, read⟩
    · exact absurd (marker.symm.trans named) (Keyword.name_ne_marker .stopAll _).symm
    · have stopAll : Keyword.ofName? directive.name = some .stopAll := Keyword.ofName?_eq_some_iff.2 named
      obtain rfl : keyword = .stopAll :=
        Option.some.inj ((Keyword.ofName?_eq_some_iff.2 hk).symm.trans stopAll)
      cases read
      rfl

/-- A directive that can be read refers to no shared rule. -/
theorem reference?_eq_none {text : String} (h : context.readDirective (Directive.parse text) = .ok clause) :
    Directive.reference? text = none := by
  have other : (Directive.parse text).name ≠ "RULE" := by
    intro named
    rw [readDirective_reference named] at h
    cases h
  unfold Directive.reference?
  split
  · next name reference parts =>
    obtain ⟨rfl, -⟩ := List.cons.inj parts
    exact if_neg other
  · rfl

end RuleContext

namespace Blueprint

variable {blueprint : Blueprint} {engine : Engine} {tokens : List String} {rule : FieldRule}

/-- A rule with its directives written out and without those that end the validation. -/
def unstopTokens (registry : Option RuleRegistry) (tokens : List String) : List String :=
  match resolveDirectives registry tokens with
  | .ok directives => fieldOf tokens :: directives.filter fun text => !Directive.isStop text
  | .error _ => tokens

/-- The rule set without the directives that end a validation, those of shared rules included. -/
def unstopped (blueprint : Blueprint) : Blueprint :=
  { blueprint with rules := blueprint.rules.map (unstopTokens blueprint.registry) }

theorem not_marker_of_isStop {text : String} (stop : Directive.isStop text = true) :
    RuleType.ofMarker? (Directive.parse text).name = none := by
  rw [eq_of_beq stop]
  decide

/-- What ends a validation plays no part in finding the type of a rule. -/
theorem ofDirectives?_unstopped (directives : List String) :
    RuleType.ofDirectives? (directives.filter fun text => !Directive.isStop text) =
      RuleType.ofDirectives? directives := by
  unfold RuleType.ofDirectives?
  induction directives with
  | nil => rfl
  | cons text rest ih =>
    cases stop : Directive.isStop text with
    | true => simp [stop, ih, not_marker_of_isStop stop]
    | false => simp [stop, List.findSome?_cons, ih]

/-- Nor in finding its default code. -/
theorem defaultCode_unstopped (type : RuleType) (directives : List String) (fallback : String) :
    type.defaultCode (directives.filter fun text => !Directive.isStop text) fallback =
      type.defaultCode directives fallback := by
  have first : ((directives.filter fun text => !Directive.isStop text).map Directive.parse).find?
      (fun directive => directive.name == type.marker) =
        (directives.map Directive.parse).find? fun directive => directive.name == type.marker := by
    induction directives with
    | nil => rfl
    | cons text rest ih =>
      cases stop : Directive.isStop text with
      | true =>
        have other : ((Directive.parse text).name == type.marker) = false := by
          rw [eq_of_beq stop]
          exact beq_eq_false_iff_ne.2 (Keyword.name_ne_marker .stopAll type)
        simp [stop, ih, other]
      | false => simp [stop, List.find?_cons, ih]
  unfold RuleType.defaultCode
  rw [first]

/-- The clauses that do not stop make up the rule that does not. -/
theorem ofClauses_unstopped (context : RuleContext) (clauses : List Clause) :
    FieldRule.ofClauses context (clauses.filter fun clause => !clause.isStopAll) =
      (FieldRule.ofClauses context clauses).unstopped := by
  have kept : ∀ {α : Type} (f : Clause → Option α), f .stopAll = none →
      (clauses.filter fun clause => !clause.isStopAll).filterMap f = clauses.filterMap f := by
    intro α f hf
    rw [List.filterMap_filter]
    refine List.filterMap_congr fun clause _ => ?_
    cases clause with
    | stopAll => exact hf.symm
    | _ => rfl
  have trims : (clauses.filter fun clause => !clause.isStopAll).any Clause.isTrim = clauses.any Clause.isTrim := by
    rw [List.any_filter]
    refine List.any_congr rfl fun clause => ?_
    cases clause <;> rfl
  have stops : (clauses.filter fun clause => !clause.isStopAll).any Clause.isStopAll = false := by
    rw [List.any_filter]
    simp
  simp only [FieldRule.ofClauses, FieldRule.unstopped, kept Clause.required? rfl, kept Clause.check? rfl,
    kept Clause.code? rfl, trims, stops]

/-- A freed rule is built as the rule, except that it never stops. -/
theorem buildRule_unstopped (h : blueprint.buildRule tokens = .ok rule) :
    blueprint.unstopped.buildRule (unstopTokens blueprint.registry tokens) = .ok rule.unstopped := by
  obtain ⟨directives, type, resolved, typed, built⟩ := buildRule_eq_ok_iff.1 h
  obtain ⟨clauses, read, rfl⟩ := FieldRule.build_eq_ok_iff.1 built
  have freed : unstopTokens blueprint.registry tokens =
      fieldOf tokens :: directives.filter fun text => !Directive.isStop text := by
    rw [unstopTokens, resolved]
  have readable : ∀ text ∈ directives, ∃ clause, RuleContext.readDirective
      { field := fieldOf tokens, type, components := blueprint.components,
        defaultCode := type.defaultCode directives blueprint.defaultCode } (Directive.parse text) = .ok clause := by
    intro text ht
    obtain ⟨clause, -, hc⟩ := exists_ok_of_mem read ht
    exact ⟨clause, hc⟩
  refine buildRule_eq_ok_iff.2 ⟨directives.filter fun text => !Directive.isStop text, type, ?_, ?_, ?_⟩
  · cases hk : directives.filter fun text => !Directive.isStop text with
    | nil =>
      rw [← ofDirectives?_unstopped, hk] at typed
      cases typed
    | cons first rest =>
      have listed : first ∈ directives.filter fun text => !Directive.isStop text := by simp [hk]
      obtain ⟨clause, hc⟩ := readable first (List.mem_of_mem_filter listed)
      rw [freed, hk, resolveDirectives, RuleContext.reference?_eq_none hc]
  · rw [ofDirectives?_unstopped, typed]
  · rw [freed]
    refine FieldRule.build_eq_ok_iff.2 ⟨clauses.filter fun clause => !clause.isStopAll, ?_, ?_⟩
    · rw [defaultCode_unstopped]
      refine map_filter_eq_ok read fun text _ clause hr => ?_
      have stops := RuleContext.isStopAll_iff_name hr
      rw [Bool.not_inj_iff, Bool.eq_iff_iff, stops, Directive.isStop, beq_iff_eq]
    · rw [defaultCode_unstopped, ofClauses_unstopped]
      rfl

/-- **A freed rule set is built** as the same chain, except that no rule stops, with the same codes in use. -/
theorem build_unstopped (built : blueprint.build = .ok engine) :
    ∃ free, blueprint.unstopped.build = .ok free ∧ free.rules = engine.rules.map FieldRule.unstopped ∧
      free.codes = engine.codes := by
  obtain ⟨nonempty, read, whole⟩ := build_eq_ok_iff.1 built
  have codes : codesOf blueprint.defaultCode (engine.rules.map FieldRule.unstopped) = engine.codes := by
    rw [whole, codesOf, codesOf, List.foldr_map]
    rfl
  refine ⟨⟨blueprint.name, engine.rules.map FieldRule.unstopped, engine.codes⟩,
    build_eq_ok_iff.2 ⟨?_, ?_, ?_⟩, rfl, rfl⟩
  · simpa [unstopped] using nonempty
  · exact map_eq_ok_map read fun tokens _ rule => buildRule_unstopped
  · rw [← codes]
    rfl

/-- **Stops only cut findings short.** A rule set that is built is built without its directives for the end of the
validation as well, with the same fields and the same codes in use. A payload that is validated without stops is
validated with them, and the findings are the same up to and including that of the first reported rule that stops.
What the first pass gives up on without stops it gives up on with them. What the second pass gives up on without stops
it gives up on with them, or the validation ends before at a reported rule that stops, whose finding is the last and
after which no component is asked. -/
theorem validate_of_unstopped (blueprint : Blueprint) (engine : Engine) (built : blueprint.build = .ok engine) :
    ∃ free, blueprint.unstopped.build = .ok free ∧ free.fields = engine.fields ∧ free.codes = engine.codes ∧
      ∀ subject,
        (∀ findings, (free.validate subject).result = .ok findings →
          ∃ positions : List Nat, positions.Pairwise (· < ·) ∧
            (∀ i, i ∈ positions ↔ Engine.Reported subject free.rules i) ∧
            positions.map (Engine.findingAt subject free.rules) = findings.map some ∧
            (engine.validate subject).result =
              .ok (findings.take (positions.findIdx (Engine.stopsAt engine.rules) + 1))) ∧
        (∀ abort, (free.validate subject).result = .error abort → abort.stage = .presence →
          (engine.validate subject).result = .error abort) ∧
        ∀ abort, (free.validate subject).result = .error abort → abort.stage = .validation →
          (engine.validate subject).result = .error abort ∨
            ∃ findings i, (engine.validate subject).result = .ok findings ∧
              Engine.EndsAt engine subject findings i := by
  obtain ⟨free, builtFree, freed, codes⟩ := build_unstopped built
  refine ⟨free, builtFree, ?_, codes, fun subject => ⟨?_, ?_, ?_⟩⟩
  · rw [Engine.fields, Engine.fields, freed, List.map_map]
    rfl
  · intro findings h
    exact Engine.findings_unstopped freed h
  · intro abort h stage
    exact Engine.presence_unstopped freed h stage
  · intro abort h _
    exact Engine.aborts_unstopped freed h

/-- A shared rule that ends the validation, before a rule whose component is out of order. -/
def strictRules : Blueprint where
  rules := [["a", "STR", "REQ:NO_A"], ["b", "RULE:digit"], ["c", "STR", "REQ:NO_C", "EXT:service:REFUSED"]]
  registry := some (Dict.empty.insert "digit" ["STOPALL", "INT", "RANGE:0:9:NO_DIGIT"])
  components := some fun name => if name = "service" then some fun _ => .error "out of order" else none

def strictEngine : Engine :=
  strictRules.build.toOption.getD ⟨"", [], .empty⟩

def laxEngine : Engine :=
  strictRules.unstopped.build.toOption.getD ⟨"", [], .empty⟩

def unaskedPayload : Json :=
  .obj [("b", .int 12)]

def askedPayload : Json :=
  .obj [("b", .int 12), ("c", .str "x")]

theorem validate_of_unstopped_strict :
    strictRules.build = .ok strictEngine ∧ strictRules.unstopped.build = .ok laxEngine ∧
      (laxEngine.validate unaskedPayload).result = .ok [⟨"a", ["NO_A"]⟩, ⟨"b", ["NO_DIGIT"]⟩, ⟨"c", ["NO_C"]⟩] ∧
      (strictEngine.validate unaskedPayload).result = .ok [⟨"a", ["NO_A"]⟩, ⟨"b", ["NO_DIGIT"]⟩] ∧
      (laxEngine.validate askedPayload).result =
        .error ⟨"c", .validation, .external "c" "service" "out of order"⟩ ∧
      ∃ findings i, (strictEngine.validate askedPayload).result = .ok findings ∧
        Engine.EndsAt strictEngine askedPayload findings i := by
  have built : strictRules.build = .ok strictEngine := rfl
  have builtLax : strictRules.unstopped.build = .ok laxEngine := rfl
  obtain ⟨free, builtFree, -, -, runs⟩ := validate_of_unstopped strictRules strictEngine built
  obtain rfl : laxEngine = free := Except.ok.inj (builtLax.symm.trans builtFree)
  obtain ⟨-, -, givesUp⟩ := runs askedPayload
  rcases givesUp _ rfl rfl with same | ends
  · cases same
  · exact ⟨built, builtLax, rfl, rfl, rfl, ends⟩

end Blueprint

end FieldRules
