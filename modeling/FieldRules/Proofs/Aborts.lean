import FieldRules.Proofs.Report

/-!
# Validations that give up

A validation gives up in the first pass when the payload cannot be read, and in the second when an outside
component fails. The two never mix (`aborts_of_validate`), because the second pass judges only what the first has
read: a rule that it judges was asked before, the two readings agree, and so nothing is found unset anew.
-/

namespace FieldRules.Engine

/-- The first pass asks the rule at a position: it gets through the rules before, and no ancestor was unset. -/
def Asked (subject : Json) (rules : List FieldRule) (i : Nat) (rule : FieldRule) : Prop :=
  ∃ presence, findPresence subject (rules.take i) ⟨[], []⟩ = .ok presence ∧ waitsFor rule presence.unset = false

/-- The standing of the second pass before a position, if it gets there. -/
def standingAt (subject : Json) (rules : List FieldRule) (presence : Presence) (i : Nat) : Option Standing :=
  reach subject presence.set ⟨presence.unset, presence.unset⟩ (rules.take i)

/-- The second pass judges the rule at a position: it gets through the rules before, and no ancestor is closed. -/
def Judged (subject : Json) (rules : List FieldRule) (presence : Presence) (i : Nat) (rule : FieldRule) : Prop :=
  ∃ standing, standingAt subject rules presence i = some standing ∧ waitsFor rule standing.closed = false

variable {subject : Json} {rules : List FieldRule} {presence : Presence} {i : Nat} {rule : FieldRule}

/-- What the second pass comes to was read by the first. -/
theorem Due.answered (found : findPresence subject rules ⟨[], []⟩ = .ok presence) (hi : rules[i]? = some rule)
    (due : Due subject rules i rule) : ∃ set, rule.isSet rule.field subject = .ok set := by
  have hp : presence.Describes subject rules := findPresence_describes .start found
  have opens : ¬ Blocked subject rules rule.field := (parentsPresent_iff hp).1 due.1
  exact findPresence_answered .start found hi fun blocked =>
    opens (blocked.mono fun other ho => List.mem_of_mem_take (by simpa using ho))

theorem Due.asked (found : findPresence subject rules ⟨[], []⟩ = .ok presence) (due : Due subject rules i rule) :
    Asked subject rules i rule := by
  have hp : presence.Describes subject rules := findPresence_describes .start found
  have opens : ¬ Blocked subject rules rule.field := (parentsPresent_iff hp).1 due.1
  obtain ⟨before, hb⟩ := findPresence_take found i
  have hd : before.Describes subject (rules.take i) := by simpa using findPresence_describes .start hb
  refine ⟨before, hb, ?_⟩
  rw [← Bool.not_eq_true, hd.waitsFor_iff]
  exact fun blocked => opens (blocked.mono fun other => List.mem_of_mem_take)

theorem Judged.due (hp : presence.Describes subject rules) (h : Judged subject rules presence i rule) :
    Due subject rules i rule := by
  obtain ⟨standing, hs, opens⟩ := h
  exact ((reach_describes hp hs).opens_iff hp rule).1 opens

/-- **The two kinds of giving up never mix.** In the second pass the cause is an outside component; in the first it
is the shape of the payload, and no component was asked anything. For what the second pass judges was asked in
the first, with the same answer, and the second pass finds no field unset that the first did not. -/
theorem aborts_of_validate (engine : Engine) (subject : Json) :
    (∀ abort, (engine.validate subject).result = .error abort →
      (abort.stage = .validation → abort.cause.IsExternal) ∧
      (abort.stage = .presence → ¬ abort.cause.IsExternal ∧ (engine.validate subject).calls = [])) ∧
    ∀ presence, findPresence subject engine.rules ⟨[], []⟩ = .ok presence →
      (∀ i rule, engine.rules[i]? = some rule → Judged subject engine.rules presence i rule →
        Asked subject engine.rules i rule ∧
          ∃ set, rule.isSet rule.field subject = .ok set ∧
            ∀ verdict, (rule.validate { subject, known := presence.set }).result = .ok verdict →
              verdict.unset = !set) ∧
      ∀ i standing, standingAt subject engine.rules presence i = some standing →
        ∀ field, field ∈ standing.unset ↔ field ∈ presence.unset := by
  refine ⟨fun abort ha => ?_, fun presence found => ⟨fun i rule hi judged => ?_, fun i standing hs => ?_⟩⟩
  · rcases validate_cases engine subject with ⟨other, gaveUp, he⟩ | ⟨presence, found, -, ho⟩
    · obtain ⟨i, rule, -, -, failed, -, stage⟩ := findPresence_error .start gaveUp
      rw [he] at ha ⊢
      cases ha
      have shape := FieldRule.read_error (FieldRule.isSet_eq_error_iff.1 failed)
      refine ⟨fun validation => ?_, fun _ => ⟨shape, rfl⟩⟩
      rw [stage] at validation
      cases validation
    · rw [ha] at ho
      cases ho with
      | @gaveUp k rule later hk due error failed =>
        obtain ⟨set, hs⟩ := due.answered found hk
        rcases FieldRule.validate_error failed with unread | ⟨-, external⟩
        · rw [show FieldRule.Situation.path _ rule.field = rule.field from rfl] at unread
          rw [unread] at hs
          cases hs
        · exact ⟨fun _ => external, fun presence => by cases presence⟩
  · have hp : presence.Describes subject engine.rules := findPresence_describes .start found
    have due := judged.due hp
    obtain ⟨set, hs⟩ := due.answered found hi
    refine ⟨due.asked found, set, hs, fun verdict hv => ?_⟩
    have same : Except.ok (!verdict.unset) = Except.ok set := (FieldRule.isSet_of_validate hv).symm.trans hs
    simpa using (congrArg Bool.not (Except.ok.inj same))
  · have hp : presence.Describes subject engine.rules := findPresence_describes .start found
    exact (reach_describes hp hs).unset

/-- A component that is out of order, behind a field that the first pass has to find set. -/
def brokenRules : Blueprint where
  rules := [["a", "OBJ"], ["a.b", "STR", "REQ", "EXT:service"]]
  defaultCode := "BAD"
  components := some fun name => if name = "service" then some fun _ => .error "out of order" else none

def brokenPayload : Json :=
  .obj [("a", .obj [("b", .str "x")])]

def brokenEngine : Engine :=
  brokenRules.build.toOption.getD ⟨"", [], .empty⟩

theorem aborts_of_validate_broken :
    brokenRules.build = .ok brokenEngine ∧
      (∃ abort, (brokenEngine.validate brokenPayload).result = .error abort ∧ abort.stage = .validation ∧
        abort.cause.IsExternal) ∧
      ∃ presence rule, findPresence brokenPayload brokenEngine.rules ⟨[], []⟩ = .ok presence ∧
        brokenEngine.rules[1]? = some rule ∧ Judged brokenPayload brokenEngine.rules presence 1 rule ∧
        Asked brokenPayload brokenEngine.rules 1 rule := by
  obtain ⟨mixed, read⟩ := aborts_of_validate brokenEngine brokenPayload
  refine ⟨rfl, ⟨_, rfl, rfl, (mixed _ rfl).1 rfl⟩, _, _, rfl, rfl, ⟨_, rfl, rfl⟩, ?_⟩
  exact ((read _ rfl).1 1 _ rfl ⟨_, rfl, rfl⟩).1

end FieldRules.Engine
