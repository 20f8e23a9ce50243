import FieldRules.Proofs.Step

/-!
# What a validation reports

Which rules the second pass judges, and what it finds, can be said without the sets that it fills on the way. A
position of the chain is *due* when every rule for an ancestor of its field finds it set, and nothing reported
before it is for an ancestor or ends the validation; it is *reported* when it is due and its rule, judged with the
set fields of the whole chain, has codes (`Reported`). What a step of the pass keeps is `Standing.Describes`; what
a whole run comes to is `judge_outcome`; and the findings of a validation are those of the reported positions
(`findings_of_validate`).
-/

namespace FieldRules.Engine

open FieldRules.Path (IsAncestor)

/-! ## What is reported, without the order of the run -/

/-- Every rule of the chain for an ancestor of the field finds it set. -/
def ParentsPresent (subject : Json) (rules : List FieldRule) (field : String) : Prop :=
  ∀ other ∈ rules, IsAncestor other.field field → IsPresent subject other

/-- The fields that some rule of the chain finds set. -/
def setFields (subject : Json) (rules : List FieldRule) : List String :=
  (rules.filter (IsPresent subject ·)).map FieldRule.field

/-- What a rule finds wrong with its field, given the fields that are set: nothing when it has no codes. -/
def findingOf (subject : Json) (known : List String) (rule : FieldRule) : Option Finding :=
  match (rule.validate { subject, known }).result with
  | .error _ => none
  | .ok verdict => if verdict.hasErrors then some ⟨rule.field, verdict.codes⟩ else none

/-- What the rule at a position of the chain finds wrong. -/
def findingAt (subject : Json) (rules : List FieldRule) (i : Nat) : Option Finding :=
  rules[i]?.bind (findingOf subject (setFields subject rules))

/-- **A position of the chain is reported** iff every rule for an ancestor of its field, earlier or later, finds it
set; no position reported before it is for an ancestor of its field; none of them ends the validation; and its
rule has codes. -/
def Reported (subject : Json) (rules : List FieldRule) (i : Nat) : Prop :=
  ∃ rule, rules[i]? = some rule ∧ ParentsPresent subject rules rule.field ∧
    (∀ j < i, ∀ earlier, rules[j]? = some earlier → Reported subject rules j →
      ¬ IsAncestor earlier.field rule.field) ∧
    (∀ j < i, ∀ earlier, rules[j]? = some earlier → Reported subject rules j → earlier.stopAll = false) ∧
    (findingAt subject rules i).isSome

/-- The rule stands at a position reported before position `i`. -/
def ReportedBefore (subject : Json) (rules : List FieldRule) (i : Nat) (earlier : FieldRule) : Prop :=
  ∃ j < i, rules[j]? = some earlier ∧ Reported subject rules j

/-- The second pass comes to judge the rule at a position. -/
def Due (subject : Json) (rules : List FieldRule) (i : Nat) (rule : FieldRule) : Prop :=
  ParentsPresent subject rules rule.field ∧
    ∀ earlier, ReportedBefore subject rules i earlier →
      ¬ IsAncestor earlier.field rule.field ∧ earlier.stopAll = false

variable {subject : Json} {rules : List FieldRule} {i : Nat} {rule : FieldRule}

theorem mem_setFields {field : String} :
    field ∈ setFields subject rules ↔ ∃ rule ∈ rules, rule.field = field ∧ IsPresent subject rule := by
  simp only [setFields, List.mem_map, List.mem_filter, decide_eq_true_eq]
  constructor
  · rintro ⟨rule, ⟨hr, hs⟩, hf⟩
    exact ⟨rule, hr, hf, hs⟩
  · rintro ⟨rule, hr, hf, hs⟩
    exact ⟨rule, ⟨hr, hs⟩, hf⟩

theorem findingOf_eq_some_iff {known : List String} {finding : Finding} : findingOf subject known rule = some finding ↔
    ∃ verdict, (rule.validate { subject, known }).result = .ok verdict ∧ verdict.hasErrors = true ∧
      finding = ⟨rule.field, verdict.codes⟩ := by
  unfold findingOf
  cases (rule.validate { subject, known }).result with
  | error error => simp
  | ok verdict => simp [eq_comm (a := finding)]

/-- A position is reported when it is due and its rule finds something. -/
theorem reported_iff (hi : rules[i]? = some rule) :
    Reported subject rules i ↔ Due subject rules i rule ∧ (findingAt subject rules i).isSome := by
  rw [Reported, Due]
  constructor
  · rintro ⟨other, ho, hp, ha, hs, hf⟩
    obtain rfl : rule = other := Option.some.inj (hi.symm.trans ho)
    exact ⟨⟨hp, fun earlier ⟨j, hj, he, hr⟩ => ⟨ha j hj earlier he hr, hs j hj earlier he hr⟩⟩, hf⟩
  · rintro ⟨⟨hp, he⟩, hf⟩
    exact ⟨rule, hi, hp, fun j hj earlier hj' hr => (he earlier ⟨j, hj, hj', hr⟩).1,
      fun j hj earlier hj' hr => (he earlier ⟨j, hj, hj', hr⟩).2, hf⟩

theorem Reported.exists_rule (h : Reported subject rules i) : ∃ rule, rules[i]? = some rule := by
  rw [Reported] at h
  exact h.imp fun _ h => h.1

theorem Reported.lt_length (h : Reported subject rules i) : i < rules.length := by
  obtain ⟨rule, hr⟩ := h.exists_rule
  exact (List.getElem?_eq_some_iff.1 hr).1

theorem not_reportedBefore_zero (earlier : FieldRule) : ¬ ReportedBefore subject rules 0 earlier := by
  rintro ⟨j, hj, -⟩
  omega

theorem not_reported_of_none (hi : rules[i]? = none) : ¬ Reported subject rules i := by
  intro h
  obtain ⟨rule, hr⟩ := h.exists_rule
  rw [hi] at hr
  cases hr

theorem reportedBefore_succ_of_not (h : ¬ Reported subject rules i) {earlier : FieldRule} :
    ReportedBefore subject rules (i + 1) earlier ↔ ReportedBefore subject rules i earlier := by
  constructor
  · rintro ⟨j, hj, he, hr⟩
    have : j ≠ i := fun e => h (e ▸ hr)
    exact ⟨j, by omega, he, hr⟩
  · rintro ⟨j, hj, he, hr⟩
    exact ⟨j, by omega, he, hr⟩

theorem reportedBefore_succ (hi : rules[i]? = some rule) {earlier : FieldRule} :
    ReportedBefore subject rules (i + 1) earlier ↔
      ReportedBefore subject rules i earlier ∨ rule = earlier ∧ Reported subject rules i := by
  constructor
  · rintro ⟨j, hj, he, hr⟩
    by_cases h : j = i
    · subst h
      exact Or.inr ⟨Option.some.inj (hi.symm.trans he), hr⟩
    · exact Or.inl ⟨j, by omega, he, hr⟩
  · rintro (⟨j, hj, he, hr⟩ | ⟨rfl, hr⟩)
    · exact ⟨j, by omega, he, hr⟩
    · exact ⟨i, by omega, hi, hr⟩

/-- Below an unset field no rule finds anything set: the parents of a field are all set when none is unset. -/
theorem parentsPresent_iff {presence : Presence} (h : presence.Describes subject rules) {field : String} :
    ParentsPresent subject rules field ↔ ¬ Blocked subject rules field := by
  constructor
  · rintro hp ⟨other, ho, ha, hu⟩
    have set := hp other ho ha
    rw [IsPresent, hu] at set
    cases set
  · intro hb other ho ha
    rcases h.answered other ho with waits | ⟨set, hs⟩
    · exact absurd ((h.waitsFor_iff.1 waits).below ha) hb
    · cases set with
      | true => exact hs
      | false => exact absurd ⟨other, ho, ha, hs⟩ hb

/-- The second pass judges with the set fields of the whole chain. -/
theorem validate_found {presence : Presence} (hp : presence.Describes subject rules) (rule : FieldRule) :
    rule.validate { subject, known := presence.set } = rule.validate { subject, known := setFields subject rules } :=
  FieldRule.validate_congr_known fun field => (hp.mem_set field).trans mem_setFields.symm

/-- What the rule at a position finds, from its verdict. -/
theorem findingAt_of_validate (hi : rules[i]? = some rule) {verdict : Verdict}
    (judged : (rule.validate { subject, known := setFields subject rules }).result = .ok verdict) :
    findingAt subject rules i = if verdict.hasErrors then some ⟨rule.field, verdict.codes⟩ else none := by
  simp [findingAt, findingOf, hi, judged]

/-! ## What a step keeps -/

/-- Where the pass stands before a position, once the first pass has found the presence: nothing more was found
unset, what is closed are the unset fields and those reported, and no report has ended the pass. -/
structure Standing.Describes (subject : Json) (rules : List FieldRule) (presence : Presence) (i : Nat)
    (standing : Standing) : Prop where
  unset : ∀ field, field ∈ standing.unset ↔ field ∈ presence.unset
  closed : ∀ field, field ∈ standing.closed ↔
    field ∈ presence.unset ∨ ∃ earlier, ReportedBefore subject rules i earlier ∧ earlier.field = field
  running : ∀ earlier, ReportedBefore subject rules i earlier → earlier.stopAll = false

namespace Standing.Describes

variable {presence : Presence} {standing : Standing}

theorem start : Standing.Describes subject rules presence 0 ⟨presence.unset, presence.unset⟩ := by
  constructor <;> simp [not_reportedBefore_zero]

/-- **The gate of the second pass** opens for the positions that are due. -/
theorem opens_iff (hp : presence.Describes subject rules) (h : standing.Describes subject rules presence i)
    (rule : FieldRule) : waitsFor rule standing.closed = false ↔ Due subject rules i rule := by
  rw [← Bool.not_eq_true, waitsFor_iff, Due, parentsPresent_iff hp, ← hp.waitsFor_iff, waitsFor_iff]
  constructor
  · intro opens
    refine ⟨?_, fun earlier he => ⟨fun ha => ?_, h.running earlier he⟩⟩
    · rintro ⟨field, hf, ha⟩
      exact opens ⟨field, (h.closed field).2 (Or.inl hf), ha⟩
    · exact opens ⟨earlier.field, (h.closed _).2 (Or.inr ⟨earlier, he, rfl⟩), ha⟩
  · rintro ⟨hopen, hrep⟩ ⟨field, hf, ha⟩
    rcases (h.closed field).1 hf with hf | ⟨earlier, he, rfl⟩
    · exact hopen ⟨field, hf, ha⟩
    · exact (hrep earlier he).1 ha

/-- A field found unset in the second pass was found unset in the first. -/
theorem mem_unset (hp : presence.Describes subject rules) (h : standing.Describes subject rules presence i)
    (hi : rules[i]? = some rule) (opens : waitsFor rule standing.closed = false) (absent : IsAbsent subject rule) :
    rule.field ∈ presence.unset := by
  rcases hp.covered rule (List.mem_of_getElem? hi) absent with hm | hw
  · exact hm
  · exact absurd (hp.waitsFor_iff.1 hw) ((parentsPresent_iff hp).1 ((opens_iff hp h rule).1 opens).1)

/-- A position that is not reported leaves the pass where it stands. -/
theorem passOver (h : standing.Describes subject rules presence i) (hr : ¬ Reported subject rules i) :
    standing.Describes subject rules presence (i + 1) := by
  have same : ∀ earlier, ReportedBefore subject rules (i + 1) earlier ↔ ReportedBefore subject rules i earlier :=
    fun _ => reportedBefore_succ_of_not hr
  exact ⟨h.unset, fun field => by simp [same, h.closed field], fun earlier he => h.running earlier ((same _).1 he)⟩

/-- A verdict closes the field when it reports it, and closes nothing new when it finds it unset. -/
theorem after (hp : presence.Describes subject rules) (h : standing.Describes subject rules presence i)
    (hi : rules[i]? = some rule) (opens : waitsFor rule standing.closed = false) {verdict : Verdict}
    (judged : (rule.validate { subject, known := setFields subject rules }).result = .ok verdict)
    (reported : Reported subject rules i ↔ verdict.hasErrors = true)
    (goesOn : verdict.hasErrors = true → rule.stopAll = false) :
    (standing.after rule verdict).Describes subject rules presence (i + 1) := by
  have hu : verdict.unset = true → rule.field ∈ presence.unset := by
    intro unset
    have answer := FieldRule.isSet_of_validate judged
    rw [unset] at answer
    exact mem_unset hp h hi opens answer
  refine ⟨fun field => ?_, fun field => ?_, fun earlier he => ?_⟩
  · rw [← h.unset field, Standing.after]
    cases hv : verdict.unset with
    | true => simpa using fun e => e ▸ (h.unset _).2 (hu hv)
    | false => simp
  · simp only [reportedBefore_succ hi, or_and_right, exists_or, reported]
    have hc := h.closed field
    unfold Standing.after
    cases hf : verdict.hasErrors with
    | true => grind
    | false =>
      cases hv : verdict.unset with
      | true => grind
      | false => grind
  · rcases (reportedBefore_succ hi).1 he with he | ⟨rfl, hr⟩
    · exact h.running earlier he
    · exact goesOn (reported.1 hr)

end Standing.Describes

/-- A step that goes on has judged the position if it was due, keeps to what the positions are by themselves, and
finds what is reported there. -/
theorem step_next {presence : Presence} {standing next : Standing} {found : List Finding}
    (hp : presence.Describes subject rules) (h : standing.Describes subject rules presence i)
    (hi : rules[i]? = some rule) (hs : (step subject presence.set standing rule).result = .next next found) :
    next.Describes subject rules presence (i + 1) ∧
      (Due subject rules i rule →
        ∃ verdict, (rule.validate { subject, known := setFields subject rules }).result = .ok verdict) ∧
      (¬ Reported subject rules i ∧ found = [] ∨
        ∃ finding, Reported subject rules i ∧ findingAt subject rules i = some finding ∧ found = [finding]) := by
  have gate := h.opens_iff hp rule
  have hr : Reported subject rules i ↔ Due subject rules i rule ∧ (findingAt subject rules i).isSome := reported_iff hi
  have known := validate_found hp rule
  have hc := step_case subject presence.set standing rule
  rw [hs] at hc
  cases hc with
  | passedOver waits =>
    have notDue : ¬ Due subject rules i rule := by simp [← gate, waits]
    have notReported : ¬ Reported subject rules i := fun reported => notDue (hr.1 reported).1
    exact ⟨h.passOver notReported, fun due => absurd due notDue, Or.inl ⟨notReported, rfl⟩⟩
  | @fine verdict opens judged fine =>
    rw [known] at judged
    have nothing : findingAt subject rules i = none := by simp [findingAt_of_validate hi judged, fine]
    have notReported : ¬ Reported subject rules i := by simp [hr, nothing]
    exact ⟨h.after hp hi opens judged (by simp [notReported, fine]) (by simp [fine]), fun _ => ⟨verdict, judged⟩,
      Or.inl ⟨notReported, rfl⟩⟩
  | @faulty verdict opens judged faulty goesOn =>
    rw [known] at judged
    have finding : findingAt subject rules i = some ⟨rule.field, verdict.codes⟩ := by
      simp [findingAt_of_validate hi judged, faulty]
    have reported : Reported subject rules i := hr.2 ⟨gate.1 opens, by simp [finding]⟩
    exact ⟨h.after hp hi opens judged (by simp [reported, faulty]) fun _ => goesOn, fun _ => ⟨verdict, judged⟩,
      Or.inr ⟨_, reported, finding, rfl⟩⟩

/-- A step that ends the pass does so at a due position: its rule cannot be judged, or it is reported and its rule
asks for the end. -/
theorem step_done {presence : Presence} {standing : Standing} {result : Except Abort (List Finding)}
    (hp : presence.Describes subject rules) (h : standing.Describes subject rules presence i)
    (hi : rules[i]? = some rule) (hs : (step subject presence.set standing rule).result = .done result) :
    Due subject rules i rule ∧
      ((∃ error, (rule.validate { subject, known := setFields subject rules }).result = .error error ∧
          result = .error ⟨rule.field, .validation, error⟩) ∨
        ∃ verdict finding, (rule.validate { subject, known := setFields subject rules }).result = .ok verdict ∧
          Reported subject rules i ∧ findingAt subject rules i = some finding ∧ rule.stopAll = true ∧
          result = .ok [finding]) := by
  have gate := h.opens_iff hp rule
  have known := validate_found hp rule
  have hc := step_case subject presence.set standing rule
  rw [hs] at hc
  cases hc with
  | @gaveUp error opens failed => exact ⟨gate.1 opens, Or.inl ⟨error, known ▸ failed, rfl⟩⟩
  | @stopped verdict opens judged faulty stops =>
    rw [known] at judged
    have finding : findingAt subject rules i = some ⟨rule.field, verdict.codes⟩ := by
      simp [findingAt_of_validate hi judged, faulty]
    have reported : Reported subject rules i := (reported_iff hi).2 ⟨gate.1 opens, by simp [finding]⟩
    exact ⟨gate.1 opens, Or.inr ⟨verdict, _, judged, reported, finding, stops, rfl⟩⟩

/-- **Getting through rules** keeps to what the positions are by themselves. -/
theorem reach_describes {presence : Presence} {standing : Standing} (hp : presence.Describes subject rules)
    (h : reach subject presence.set ⟨presence.unset, presence.unset⟩ (rules.take i) = some standing) :
    standing.Describes subject rules presence i := by
  induction i generalizing standing with
  | zero =>
    cases h
    exact .start
  | succ i ih =>
    cases hi : rules[i]? with
    | none =>
      rw [show rules.take (i + 1) = rules.take i by simp [List.take_add_one, hi]] at h
      exact (ih h).passOver (not_reported_of_none hi)
    | some rule =>
      rw [show rules.take (i + 1) = rules.take i ++ [rule] by simp [List.take_add_one, hi],
        reach_append_singleton] at h
      obtain ⟨before, hb, found, hs⟩ := h
      exact (step_next hp (ih hb) hi hs).1

/-! ## Whole runs -/

/-- What the second pass comes to from position `i` on: the findings of exactly the reported positions, in chain
order, after every position that is due was judged; or it gives up at a due position whose rule cannot be judged. -/
inductive Outcome (subject : Json) (rules : List FieldRule) (i : Nat) :
    Except Abort (List Finding) → Prop
  | ended {findings : List Finding} (positions : List Nat) (increasing : positions.Pairwise (· < ·))
    (mem : ∀ k, k ∈ positions ↔ i ≤ k ∧ Reported subject rules k)
    (found : positions.map (findingAt subject rules) = findings.map some)
    (judged : ∀ k rule, i ≤ k → rules[k]? = some rule → Due subject rules k rule →
      ∃ verdict, (rule.validate { subject, known := setFields subject rules }).result = .ok verdict) :
    Outcome subject rules i (.ok findings)
  | gaveUp (k : Nat) (rule : FieldRule) (later : i ≤ k) (hk : rules[k]? = some rule) (due : Due subject rules k rule)
    {error : SubjectError}
    (failed : (rule.validate { subject, known := setFields subject rules }).result = .error error) :
    Outcome subject rules i (.error ⟨rule.field, .validation, error⟩)

namespace Outcome

variable {result : Except Abort (List Finding)}

/-- A position that is not reported, and judged if it is due, adds nothing. -/
theorem notReported (h : Outcome subject rules (i + 1) result) (hi : rules[i]? = some rule)
    (hr : ¬ Reported subject rules i)
    (hj : Due subject rules i rule →
      ∃ verdict, (rule.validate { subject, known := setFields subject rules }).result = .ok verdict) :
    Outcome subject rules i result := by
  cases h with
  | ended positions increasing mem found judged =>
    refine .ended positions increasing (fun k => ?_) found fun k other hk ho due => ?_
    · rw [mem k]
      constructor
      · exact fun ⟨hk, hr'⟩ => ⟨by omega, hr'⟩
      · rintro ⟨hk, hr'⟩
        have : k ≠ i := fun e => hr (e ▸ hr')
        exact ⟨by omega, hr'⟩
    · by_cases e : k = i
      · subst e
        obtain rfl : rule = other := Option.some.inj (hi.symm.trans ho)
        exact hj due
      · exact judged k other (by omega) ho due
  | gaveUp k other later hk due failed => exact .gaveUp k other (by omega) hk due failed

/-- A reported position puts its finding first. -/
theorem reported (h : Outcome subject rules (i + 1) result) (hi : rules[i]? = some rule)
    (hr : Reported subject rules i) {finding : Finding} (hf : findingAt subject rules i = some finding)
    (hj : ∃ verdict, (rule.validate { subject, known := setFields subject rules }).result = .ok verdict) :
    Outcome subject rules i (result.map (finding :: ·)) := by
  cases h with
  | ended positions increasing mem found judged =>
    refine .ended (i :: positions) ?_ (fun k => ?_) (by simp [found, hf]) fun k other hk ho due => ?_
    · refine List.pairwise_cons.2 ⟨fun k hk => ?_, increasing⟩
      have := ((mem k).1 hk).1
      omega
    · rw [List.mem_cons, mem k]
      constructor
      · rintro (rfl | ⟨hk, hr'⟩)
        · exact ⟨Nat.le_refl _, hr⟩
        · exact ⟨by omega, hr'⟩
      · rintro ⟨hk, hr'⟩
        by_cases e : k = i
        · exact Or.inl e
        · exact Or.inr ⟨by omega, hr'⟩
    · by_cases e : k = i
      · subst e
        obtain rfl : rule = other := Option.some.inj (hi.symm.trans ho)
        exact hj
      · exact judged k other (by omega) ho due
  | gaveUp k other later hk due failed => exact .gaveUp k other (by omega) hk due failed

/-- Nothing is left from the end of the chain on. -/
theorem atEnd (short : rules.length ≤ i) : Outcome subject rules i (.ok []) := by
  refine .ended [] .nil (fun k => ?_) rfl fun k rule hk ho => ?_
  · simp only [List.not_mem_nil, false_iff, not_and]
    exact fun hk => not_reported_of_none (List.getElem?_eq_none (by omega))
  · rw [List.getElem?_eq_none (by omega)] at ho
    cases ho

/-- A reported position that asks for the end is the last one due. -/
theorem stopped (hi : rules[i]? = some rule) (hr : Reported subject rules i) {finding : Finding}
    (hf : findingAt subject rules i = some finding) (stops : rule.stopAll = true)
    (hj : ∃ verdict, (rule.validate { subject, known := setFields subject rules }).result = .ok verdict) :
    Outcome subject rules i (.ok [finding]) := by
  have last : ∀ k other, i ≤ k → Due subject rules k other → k = i := by
    intro k other hk due
    rcases Nat.lt_or_eq_of_le hk with hlt | heq
    · have goesOn := (due.2 rule ⟨i, hlt, hi, hr⟩).2
      rw [stops] at goesOn
      cases goesOn
    · exact heq.symm
  refine .ended [i] (List.pairwise_singleton _ _) (fun k => ?_) (by simp [hf]) fun k other hk ho due => ?_
  · rw [List.mem_singleton]
    constructor
    · rintro rfl
      exact ⟨Nat.le_refl _, hr⟩
    · rintro ⟨hk, hr'⟩
      obtain ⟨other, ho⟩ := hr'.exists_rule
      exact last k other hk ((reported_iff ho).1 hr').1
  · obtain rfl := last k other hk due
    obtain rfl : rule = other := Option.some.inj (hi.symm.trans ho)
    exact hj

end Outcome

/-- The first rule of the rest of a chain is the one at the position, and the rest after it that of the next. -/
theorem getElem?_of_drop_eq_cons {rest : List FieldRule} (h : rules.drop i = rule :: rest) :
    rules[i]? = some rule ∧ rules.drop (i + 1) = rest := by
  have first := congrArg (·[0]?) h
  have later := congrArg List.tail h
  exact ⟨by simpa using first, by simpa using later⟩

/-- **A run of the second pass**, from any position on, has the outcome that the positions have by themselves. -/
theorem judge_outcome {presence : Presence} (hp : presence.Describes subject rules) {standing : Standing}
    (h : standing.Describes subject rules presence i) {rest : List FieldRule} (hrest : rules.drop i = rest) :
    Outcome subject rules i (judge subject presence.set rest standing.closed).result := by
  induction rest generalizing i standing with
  | nil => exact .atEnd (List.drop_eq_nil_iff.1 hrest)
  | cons rule rest ih =>
    obtain ⟨hi, hrest'⟩ := getElem?_of_drop_eq_cons hrest
    rw [judge_cons]
    cases hs : (step subject presence.set standing rule).result with
    | next next found =>
      obtain ⟨described, judged, ⟨notReported, rfl⟩ | ⟨finding, reported, hf, rfl⟩⟩ := step_next hp h hi hs
      · have later := ih described hrest'
        simpa only [putFirst_nil, Traced.after] using later.notReported hi notReported judged
      · exact (ih described hrest').reported hi reported hf (judged ((reported_iff hi).1 reported).1)
    | done result =>
      obtain ⟨due, ⟨error, failed, rfl⟩ | ⟨verdict, finding, judged, reported, hf, stops, rfl⟩⟩ := step_done hp h hi hs
      · exact .gaveUp i rule (Nat.le_refl _) hi due failed
      · exact .stopped hi reported hf stops ⟨verdict, judged⟩

/-! ## Validations -/

/-- A validation gives up in the first pass, without a question to any component, or has the outcome that the
positions have by themselves. -/
theorem validate_cases (engine : Engine) (subject : Json) :
    (∃ abort, findPresence subject engine.rules ⟨[], []⟩ = .error abort ∧
      engine.validate subject = .pure (.error abort)) ∨
    ∃ presence, findPresence subject engine.rules ⟨[], []⟩ = .ok presence ∧
      presence.Describes subject engine.rules ∧
      Outcome subject engine.rules 0 (engine.validate subject).result := by
  unfold validate
  cases hp : findPresence subject engine.rules ⟨[], []⟩ with
  | error abort => exact Or.inl ⟨abort, rfl, rfl⟩
  | ok presence =>
    have described : presence.Describes subject engine.rules := findPresence_describes .start hp
    exact Or.inr ⟨presence, rfl, described, judge_outcome described .start rfl⟩

theorem validate_of_gaveUp {engine : Engine} {abort : Abort}
    (h : findPresence subject engine.rules ⟨[], []⟩ = .error abort) :
    engine.validate subject = .pure (.error abort) := by
  rw [validate, h]

/-- Only the first pass gives up at its stage. -/
theorem gaveUp_of_validate {engine : Engine} {abort : Abort} (h : (engine.validate subject).result = .error abort)
    (stage : abort.stage = .presence) : findPresence subject engine.rules ⟨[], []⟩ = .error abort := by
  rcases validate_cases engine subject with ⟨other, gaveUp, he⟩ | ⟨presence, -, -, outcome⟩
  · rw [he] at h
    obtain rfl : other = abort := Except.error.inj h
    exact gaveUp
  · rw [h] at outcome
    cases outcome with
    | gaveUp k rule later hk due failed => cases stage

/-- A validation that succeeds has the outcome that the positions have by themselves. -/
theorem outcome_of_validate {engine : Engine} {findings : List Finding}
    (h : (engine.validate subject).result = .ok findings) : Outcome subject engine.rules 0 (.ok findings) := by
  rcases validate_cases engine subject with ⟨abort, -, he⟩ | ⟨presence, -, -, ho⟩
  · rw [he] at h
    cases h
  · exact h ▸ ho

/-- **A validation succeeds** exactly when the first pass ends and every rule that is due can judge its field. -/
theorem validate_succeeds_iff {engine : Engine} :
    (∃ findings, (engine.validate subject).result = .ok findings) ↔
      (∃ presence, findPresence subject engine.rules ⟨[], []⟩ = .ok presence) ∧
        ∀ i rule, engine.rules[i]? = some rule → Due subject engine.rules i rule →
          ∃ verdict, (rule.validate { subject, known := setFields subject engine.rules }).result = .ok verdict := by
  rcases validate_cases engine subject with ⟨abort, hp, he⟩ | ⟨presence, hp, -, ho⟩
  · simp [hp, he, Traced.pure]
  · constructor
    · rintro ⟨findings, h⟩
      rw [h] at ho
      cases ho with
      | ended positions increasing mem found judged =>
        exact ⟨⟨presence, hp⟩, fun i rule hi due => judged i rule (Nat.zero_le i) hi due⟩
    · rintro ⟨-, judged⟩
      generalize (engine.validate subject).result = result at ho ⊢
      cases ho with
      | ended positions increasing mem found judged => exact ⟨_, rfl⟩
      | gaveUp k rule later hk due failed =>
        obtain ⟨verdict, hv⟩ := judged k rule hk due
        rw [failed] at hv
        cases hv

/-- A finding is what some rule of the chain finds. -/
theorem exists_rule_of_finding {engine : Engine} {findings : List Finding} {finding : Finding}
    (h : (engine.validate subject).result = .ok findings) (hf : finding ∈ findings) :
    ∃ rule ∈ engine.rules, ∃ verdict,
      (rule.validate { subject, known := setFields subject engine.rules }).result = .ok verdict ∧
        verdict.hasErrors = true ∧ finding = ⟨rule.field, verdict.codes⟩ := by
  cases outcome_of_validate h with
  | ended positions increasing mem found judged =>
    have hs : some finding ∈ positions.map (findingAt subject engine.rules) := found ▸ List.mem_map_of_mem hf
    obtain ⟨i, -, hi⟩ := List.mem_map.1 hs
    obtain ⟨rule, hr, hfound⟩ := Option.bind_eq_some_iff.1 hi
    exact ⟨rule, List.mem_of_getElem? hr, findingOf_eq_some_iff.1 hfound⟩

/-- **The findings of a validation** are what the rules at the reported positions find with the set fields of the
whole chain, each once and in chain order. -/
theorem findings_of_validate (engine : Engine) (subject : Json) (findings : List Finding)
    (h : (engine.validate subject).result = .ok findings) :
    ∃ positions : List Nat, positions.Pairwise (· < ·) ∧
      (∀ i, i ∈ positions ↔ Reported subject engine.rules i) ∧
      positions.map (findingAt subject engine.rules) = findings.map some := by
  cases outcome_of_validate h with
  | ended positions increasing mem found judged => exact ⟨positions, increasing, by simpa using mem, found⟩

/-- A child before its parent, another after it, a field with two rules, and one excluded by a later field. -/
def mixedRules : Blueprint where
  rules := [["a.b", "INT", "REQ"], ["x", "STR", "MEX:a:BOTH"], ["a", "OBJ", "LEN:2:*:SMALL"],
    ["a.c", "STR", "REQ:NO_C"], ["x", "STR", "TRIM", "IN:y:OTHER"]]
  defaultCode := "BAD"

def mixedPayload : Json :=
  .obj [("a", .obj [("z", .null)]), ("x", .str " y")]

theorem findings_of_validate_mixed :
    ∃ engine findings, mixedRules.build = .ok engine ∧ (engine.validate mixedPayload).result = .ok findings ∧
      findings = [⟨"a.b", ["BAD"]⟩, ⟨"x", ["BOTH"]⟩, ⟨"a", ["SMALL"]⟩] ∧
      ∃ positions : List Nat, positions.Pairwise (· < ·) ∧
        (∀ i, i ∈ positions ↔ Reported mixedPayload engine.rules i) ∧
        positions.map (findingAt mixedPayload engine.rules) = findings.map some :=
  ⟨_, _, rfl, rfl, rfl, findings_of_validate _ _ _ rfl⟩

end FieldRules.Engine
