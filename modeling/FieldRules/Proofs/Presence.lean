import FieldRules.Engine
import FieldRules.Proofs.Reading

/-!
# The first pass

The first pass goes through the chain and asks each rule whether its field is set, except those below a field
already found unset. What it has found after some rules is a matter of these rules only (`Presence.Describes`),
and not of which of them it passed over: a rule that is passed over can find nothing set, and whatever waits for
its field waits for the unset ancestor as well.
-/

namespace FieldRules.Engine

/-- The rule finds its field set. -/
def IsPresent (subject : Json) (rule : FieldRule) : Prop :=
  rule.isSet rule.field subject = .ok true

/-- The rule finds its field unset. -/
def IsAbsent (subject : Json) (rule : FieldRule) : Prop :=
  rule.isSet rule.field subject = .ok false

instance (subject : Json) (rule : FieldRule) : Decidable (IsPresent subject rule) :=
  match h : rule.isSet rule.field subject with
  | .ok true => .isTrue h
  | .ok false => .isFalse (by simp [IsPresent, h])
  | .error _ => .isFalse (by simp [IsPresent, h])

/-- One of the rules finds an ancestor of the field unset. -/
def Blocked (subject : Json) (rules : List FieldRule) (field : String) : Prop :=
  ∃ other ∈ rules, Path.IsAncestor other.field field ∧ IsAbsent subject other

theorem waitsFor_iff {rule : FieldRule} {fields : List String} :
    waitsFor rule fields = true ↔ ∃ field ∈ fields, Path.IsAncestor field rule.field := by
  simp [waitsFor, FieldRule.dependencies, Path.IsAncestor, and_comm]

theorem not_present_of_absent {subject : Json} {above below : FieldRule}
    (h : Path.IsAncestor above.field below.field) (absent : IsAbsent subject above) : ¬ IsPresent subject below :=
  FieldRule.isSet_below_unset h absent

/-- A rule below a blocked field is blocked by the same rule. -/
theorem Blocked.below {subject : Json} {rules : List FieldRule} {field below : String}
    (h : Blocked subject rules field) (hb : Path.IsAncestor field below) : Blocked subject rules below := by
  obtain ⟨other, ho, ha, hu⟩ := h
  exact ⟨other, ho, ha.trans hb, hu⟩

theorem Blocked.mono {subject : Json} {rules more : List FieldRule} {field : String}
    (h : Blocked subject rules field) (sub : ∀ rule ∈ rules, rule ∈ more) : Blocked subject more field := by
  obtain ⟨other, ho, ha⟩ := h
  exact ⟨other, sub other ho, ha⟩

/-! ## What the pass has found -/

/-- What the first pass has found after some rules: exactly the fields that one of them finds set; of those found
unset enough to block what waits for any of them; and of each rule an answer, unless it is blocked. -/
structure Presence.Describes (subject : Json) (rules : List FieldRule) (presence : Presence) : Prop where
  mem_set : ∀ field, field ∈ presence.set ↔ ∃ rule ∈ rules, rule.field = field ∧ IsPresent subject rule
  absent : ∀ field ∈ presence.unset, ∃ rule ∈ rules, rule.field = field ∧ IsAbsent subject rule
  covered : ∀ rule ∈ rules, IsAbsent subject rule → rule.field ∈ presence.unset ∨ waitsFor rule presence.unset = true
  answered : ∀ rule ∈ rules, waitsFor rule presence.unset = true ∨ ∃ set, rule.isSet rule.field subject = .ok set

namespace Presence.Describes

variable {subject : Json} {rules : List FieldRule} {presence : Presence} {rule : FieldRule}

theorem start : (⟨[], []⟩ : Presence).Describes subject [] := by
  constructor <;> simp

/-- **The gate of the first pass**: a rule waits exactly when some rule finds an ancestor of its field unset,
passed over or not. -/
theorem waitsFor_iff (h : presence.Describes subject rules) :
    waitsFor rule presence.unset = true ↔ Blocked subject rules rule.field := by
  rw [Engine.waitsFor_iff]
  constructor
  · rintro ⟨field, hf, ha⟩
    obtain ⟨other, ho, rfl, hu⟩ := h.absent field hf
    exact ⟨other, ho, ha, hu⟩
  · rintro ⟨other, ho, ha, hu⟩
    rcases h.covered other ho hu with hm | hw
    · exact ⟨other.field, hm, ha⟩
    · obtain ⟨field, hf, hfa⟩ := Engine.waitsFor_iff.1 hw
      exact ⟨field, hf, hfa.trans ha⟩

theorem passOver (h : presence.Describes subject rules) (waits : waitsFor rule presence.unset = true) :
    presence.Describes subject (rules ++ [rule]) := by
  have hidden : ¬ IsPresent subject rule := by
    obtain ⟨other, -, ha, hu⟩ := h.waitsFor_iff.1 waits
    exact not_present_of_absent ha hu
  constructor
  · intro field
    simp [h.mem_set field, or_and_right, exists_or, hidden]
  · intro field hf
    obtain ⟨other, ho, hs⟩ := h.absent field hf
    exact ⟨other, List.mem_append_left _ ho, hs⟩
  · exact List.forall_mem_append.2 ⟨h.covered, List.forall_mem_singleton.2 fun _ => Or.inr waits⟩
  · exact List.forall_mem_append.2 ⟨h.answered, List.forall_mem_singleton.2 (Or.inl waits)⟩

theorem addSet (h : presence.Describes subject rules) (set : IsPresent subject rule) :
    Presence.Describes subject (rules ++ [rule]) { presence with set := rule.field :: presence.set } := by
  constructor
  · intro field
    simp only [List.mem_cons, h.mem_set field, List.mem_append, List.not_mem_nil, or_false, or_and_right, exists_or,
      exists_eq_left]
    rw [or_comm, and_iff_left set, eq_comm]
  · intro field hf
    obtain ⟨other, ho, hs⟩ := h.absent field hf
    exact ⟨other, List.mem_append_left _ ho, hs⟩
  · have present : ¬ IsAbsent subject rule := fun absent => by rw [IsAbsent, set] at absent; cases absent
    exact List.forall_mem_append.2 ⟨h.covered, List.forall_mem_singleton.2 fun absent => absurd absent present⟩
  · exact List.forall_mem_append.2 ⟨h.answered, List.forall_mem_singleton.2 (Or.inr ⟨true, set⟩)⟩

theorem addUnset (h : presence.Describes subject rules) (unset : IsAbsent subject rule) :
    Presence.Describes subject (rules ++ [rule]) { presence with unset := rule.field :: presence.unset } := by
  have more : ∀ other : FieldRule, waitsFor other presence.unset = true →
      waitsFor other (rule.field :: presence.unset) = true := by
    intro other hw
    obtain ⟨field, hf, ha⟩ := Engine.waitsFor_iff.1 hw
    exact Engine.waitsFor_iff.2 ⟨field, List.mem_cons_of_mem _ hf, ha⟩
  constructor
  · have absent : ¬ IsPresent subject rule := fun present => by rw [IsPresent, unset] at present; cases present
    intro field
    simp [h.mem_set field, or_and_right, exists_or, absent]
  · intro field hf
    rcases List.mem_cons.1 hf with rfl | hf
    · exact ⟨rule, by simp, rfl, unset⟩
    · obtain ⟨other, ho, hs⟩ := h.absent field hf
      exact ⟨other, List.mem_append_left _ ho, hs⟩
  · refine List.forall_mem_append.2 ⟨?_, List.forall_mem_singleton.2 fun _ => Or.inl (List.mem_cons_self ..)⟩
    exact fun other ho hu => (h.covered other ho hu).imp (List.mem_cons_of_mem _) (more other)
  · refine List.forall_mem_append.2 ⟨?_, List.forall_mem_singleton.2 (Or.inr ⟨false, unset⟩)⟩
    exact fun other ho => (h.answered other ho).imp (more other) id

end Presence.Describes

/-! ## Runs of the pass -/

variable {subject : Json} {rules before : List FieldRule} {start found : Presence}

/-- What a rule makes of the pass: it is passed over, gives up, or adds its field to one side. -/
theorem findPresence_cons (rule : FieldRule) :
    findPresence subject (rule :: rules) start =
      if waitsFor rule start.unset then findPresence subject rules start
      else
        match rule.isSet rule.field subject with
        | .error error => .error ⟨rule.field, .presence, error⟩
        | .ok true => findPresence subject rules { start with set := rule.field :: start.set }
        | .ok false => findPresence subject rules { start with unset := rule.field :: start.unset } :=
  rfl

/-- **A run of the first pass**, begun anywhere in the chain, keeps to what the rules passed so far find. -/
theorem findPresence_describes (h : start.Describes subject before)
    (run : findPresence subject rules start = .ok found) : found.Describes subject (before ++ rules) := by
  induction rules generalizing before start with
  | nil =>
    cases run
    simpa using h
  | cons rule rules ih =>
    rw [findPresence_cons] at run
    rw [List.append_cons before rule rules]
    split at run
    · next waits => exact ih (h.passOver waits) run
    · split at run
      · cases run
      · next set => exact ih (h.addSet set) run
      · next unset => exact ih (h.addUnset unset) run

/-- A pass that gives up does so at a rule that is not blocked by those before it and cannot be read. -/
theorem findPresence_error {abort : Abort} (h : start.Describes subject before)
    (run : findPresence subject rules start = .error abort) :
    ∃ i rule, rules[i]? = some rule ∧ ¬ Blocked subject (before ++ rules.take i) rule.field ∧
      rule.isSet rule.field subject = .error abort.cause ∧ abort.field = rule.field ∧ abort.stage = .presence := by
  induction rules generalizing before start with
  | nil => cases run
  | cons rule rules ih =>
    have later : ∀ {next : Presence}, next.Describes subject (before ++ [rule]) →
        findPresence subject rules next = .error abort →
        ∃ i other, (rule :: rules)[i]? = some other ∧
          ¬ Blocked subject (before ++ (rule :: rules).take i) other.field ∧
          other.isSet other.field subject = .error abort.cause ∧ abort.field = other.field ∧
          abort.stage = .presence := by
      intro next hn hr
      obtain ⟨i, other, hi, hb, he⟩ := ih hn hr
      exact ⟨i + 1, other, hi, by simpa using hb, he⟩
    rw [findPresence_cons] at run
    split at run
    · next waits => exact later (h.passOver waits) run
    · next opens =>
      split at run
      · next cause failed =>
        cases run
        exact ⟨0, rule, rfl, by simpa [← h.waitsFor_iff] using opens, failed, rfl, rfl⟩
      · next set => exact later (h.addSet set) run
      · next unset => exact later (h.addUnset unset) run

/-- A pass that ends has an answer of every rule that is not blocked by those before it. -/
theorem findPresence_answered (h : start.Describes subject before)
    (run : findPresence subject rules start = .ok found) {i : Nat} {rule : FieldRule} (hi : rules[i]? = some rule)
    (opens : ¬ Blocked subject (before ++ rules.take i) rule.field) :
    ∃ set, rule.isSet rule.field subject = .ok set := by
  induction rules generalizing before start i with
  | nil => cases hi
  | cons other rules ih =>
    rw [findPresence_cons] at run
    cases i with
    | zero =>
      obtain rfl : other = rule := Option.some.inj hi
      have waits : ¬ waitsFor other start.unset = true := by simpa [h.waitsFor_iff] using opens
      rw [if_neg waits] at run
      split at run
      · cases run
      · next set => exact ⟨true, set⟩
      · next unset => exact ⟨false, unset⟩
    | succ i =>
      have opens' : ¬ Blocked subject ((before ++ [other]) ++ rules.take i) rule.field := by simpa using opens
      split at run
      · next waits => exact ih (h.passOver waits) run hi opens'
      · split at run
        · cases run
        · next set => exact ih (h.addSet set) run hi opens'
        · next unset => exact ih (h.addUnset unset) run hi opens'

/-- **The first pass ends** exactly when every rule that those before it do not block can be read. -/
theorem findPresence_ends_iff :
    (∃ found, findPresence subject rules ⟨[], []⟩ = .ok found) ↔
      ∀ i rule, rules[i]? = some rule → ¬ Blocked subject (rules.take i) rule.field →
        ∃ set, rule.isSet rule.field subject = .ok set := by
  constructor
  · rintro ⟨found, run⟩ i rule hi opens
    exact findPresence_answered .start run hi (by simpa using opens)
  · intro answered
    cases run : findPresence subject rules ⟨[], []⟩ with
    | ok found => exact ⟨found, rfl⟩
    | error abort =>
      obtain ⟨i, rule, hi, opens, failed, -⟩ := findPresence_error .start run
      obtain ⟨set, hs⟩ := answered i rule hi (by simpa using opens)
      rw [failed] at hs
      cases hs

/-- A pass that ends also ends after the first rules. -/
theorem findPresence_take (run : findPresence subject rules start = .ok found) (i : Nat) :
    ∃ presence, findPresence subject (rules.take i) start = .ok presence := by
  induction rules generalizing start i with
  | nil => exact ⟨start, by simp [findPresence]⟩
  | cons rule rules ih =>
    cases i with
    | zero => exact ⟨start, rfl⟩
    | succ i =>
      rw [List.take_succ_cons, findPresence_cons]
      rw [findPresence_cons] at run
      split at run
      · next waits => simpa only [if_pos waits] using ih run i
      · next opens =>
        simp only [if_neg opens]
        split at run
        · cases run
        · next set => simpa only [set] using ih run i
        · next unset => simpa only [unset] using ih run i

end FieldRules.Engine
