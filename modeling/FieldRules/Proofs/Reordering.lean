import Mathlib.Data.Fin.SuccPred
import Mathlib.Data.List.Nodup
import FieldRules.Proofs.Codes

/-!
# The order of rules

The order of a chain matters between a field and its ancestors only. A `Reordering` permutes a chain and keeps
the order of any two rules of which one has a field that is an ancestor of the other's. Whether a rule is blocked
in the first pass, and whether it is due and reported in the second, depends on rules for ancestors alone, so both
passes come to the same at the place where a rule is moved to (`blocked_place`, `reported_place`).
-/

namespace FieldRules

open FieldRules.Path (IsAncestor)

/-! ## Permutations that keep ancestors and descendants in order -/

/-- One of two paths is an ancestor of the other. -/
def Path.Related (a b : String) : Prop :=
  IsAncestor a b ∨ IsAncestor b a

instance (a b : String) : Decidable (Path.Related a b) :=
  inferInstanceAs (Decidable (_ ∨ _))

/-- A permutation of a chain, given by the place that each member is moved to, which keeps the order of any two
members of which one has a field that is an ancestor of the other's. -/
structure Reordering {α : Type} (field : α → String) (xs ys : List α) where
  place : Fin xs.length ≃ Fin ys.length
  get_place : ∀ i, ys.get (place i) = xs.get i
  keeps : ∀ i j, Path.Related (field (xs.get i)) (field (xs.get j)) → i < j → place i < place j

namespace Reordering

variable {α β ε : Type} {field : α → String} {xs ys : List α}

/-- Between related members the order is the same on both sides. -/
theorem place_lt_iff (order : Reordering field xs ys) {i j : Fin xs.length}
    (related : Path.Related (field (xs.get i)) (field (xs.get j))) : order.place i < order.place j ↔ i < j := by
  refine ⟨fun h => ?_, order.keeps i j related⟩
  rcases Nat.lt_trichotomy i j with hlt | heq | hgt
  · exact hlt
  · rw [Fin.ext heq] at h
    exact absurd h (Nat.lt_irrefl _)
  · exact absurd h (Nat.lt_asymm (order.keeps j i related.symm hgt))

/-- The way back. -/
def symm (order : Reordering field xs ys) : Reordering field ys xs where
  place := order.place.symm
  get_place i := by rw [← order.get_place, Equiv.apply_symm_apply]
  keeps i j related h := by
    have hi := order.get_place (order.place.symm i)
    have hj := order.get_place (order.place.symm j)
    rw [Equiv.apply_symm_apply] at hi hj
    rw [hi, hj] at related
    rw [← order.place_lt_iff related]
    simpa using h

theorem getElem?_place (order : Reordering field xs ys) (i : Fin xs.length) :
    ys[(order.place i : Nat)]? = some (xs.get i) := by
  rw [← order.get_place i]
  simp

/-- Every place is the one of some member. -/
theorem exists_place (order : Reordering field xs ys) {k : Nat} {x : α} (hk : ys[k]? = some x) :
    ∃ i, (order.place i : Nat) = k ∧ xs.get i = x := by
  obtain ⟨hlt, hx⟩ := List.getElem?_eq_some_iff.1 hk
  refine ⟨order.place.symm ⟨k, hlt⟩, by rw [Equiv.apply_symm_apply], ?_⟩
  rw [← order.get_place, Equiv.apply_symm_apply]
  exact hx

theorem mem_iff (order : Reordering field xs ys) {x : α} : x ∈ ys ↔ x ∈ xs := by
  simp only [List.mem_iff_get]
  constructor
  · rintro ⟨i, hi⟩
    exact ⟨order.place.symm i, by rw [← order.get_place, Equiv.apply_symm_apply, hi]⟩
  · rintro ⟨i, hi⟩
    exact ⟨order.place i, by rw [order.get_place, hi]⟩

/-- **What stands before a place**: of the members related to the one that is moved there, those that stand before
it. -/
theorem exists_before_place (order : Reordering field xs ys) (i : Fin xs.length) {x : α}
    (related : Path.Related (field x) (field (xs.get i))) (p : Fin ys.length → Prop) :
    (∃ k < order.place i, ys.get k = x ∧ p k) ↔ ∃ j < i, xs.get j = x ∧ p (order.place j) := by
  rw [order.place.surjective.exists]
  refine exists_congr fun j => ?_
  rw [order.get_place]
  constructor
  · rintro ⟨hlt, rfl, hp⟩
    exact ⟨(order.place_lt_iff related).1 hlt, rfl, hp⟩
  · rintro ⟨hlt, rfl, hp⟩
    exact ⟨(order.place_lt_iff related).2 hlt, rfl, hp⟩

theorem mem_take_iff {i : Nat} {x : α} : x ∈ xs.take i ↔ ∃ j : Fin xs.length, (j : Nat) < i ∧ xs.get j = x := by
  rw [List.mem_take_iff_getElem]
  constructor
  · rintro ⟨j, hj, hx⟩
    exact ⟨⟨j, by omega⟩, by simp only; omega, hx⟩
  · rintro ⟨j, hj, hx⟩
    exact ⟨j, by omega, hx⟩

theorem mem_take_place (order : Reordering field xs ys) (i : Fin xs.length) {x : α}
    (related : Path.Related (field x) (field (xs.get i))) : x ∈ ys.take (order.place i) ↔ x ∈ xs.take i := by
  have before := order.exists_before_place i related fun _ => True
  simp only [and_true] at before
  rw [mem_take_iff, mem_take_iff]
  exact before

/-- What a list is read as, member by member, stands at the same places. -/
theorem read_get {read : α → Except ε β} {zs : List β} (h : xs.map read = zs.map .ok)
    (len : zs.length = xs.length) (i : Fin zs.length) : read (xs.get (finCongr len i)) = .ok (zs.get i) := by
  have hi : (i : Nat) < (xs.map read).length := by
    rw [List.length_map, ← len]
    exact i.isLt
  simpa using List.getElem_of_eq h hi

/-- What a chain and its reordering are read as, member by member, are reorderings as well. -/
def lift {field' : β → String} {read : α → Except ε β} {xs' ys' : List β} (order : Reordering field xs ys)
    (hx : xs.map read = xs'.map .ok) (hy : ys.map read = ys'.map .ok)
    (same : ∀ x x', read x = .ok x' → field' x' = field x) : Reordering field' xs' ys' :=
  have lx : xs'.length = xs.length := by simpa using (congrArg List.length hx).symm
  have ly : ys'.length = ys.length := by simpa using (congrArg List.length hy).symm
  { place := (finCongr lx).trans (order.place.trans (finCongr ly).symm)
    get_place := fun i => by
      have h := read_get hy ly ((finCongr ly).symm (order.place (finCongr lx i)))
      rw [Equiv.apply_symm_apply, order.get_place, read_get hx lx] at h
      exact (Except.ok.inj h).symm
    keeps := fun i j related h => by
      rw [same _ _ (read_get hx lx i), same _ _ (read_get hx lx j)] at related
      exact order.keeps _ _ related h }

end Reordering

namespace Engine

/-! ## Chains in another order -/

variable {subject : Json} {rules rules' : List FieldRule}

theorem setFields_reordered (order : Reordering FieldRule.field rules rules') {field : String} :
    field ∈ setFields subject rules' ↔ field ∈ setFields subject rules := by
  simp only [mem_setFields, order.mem_iff]

/-- A rule judges its field alike, with the set fields of either chain. -/
theorem validate_reordered (order : Reordering FieldRule.field rules rules') (rule : FieldRule) :
    rule.validate { subject, known := setFields subject rules' } =
      rule.validate { subject, known := setFields subject rules } :=
  FieldRule.validate_congr_known fun _ => setFields_reordered order

theorem parentsPresent_reordered (order : Reordering FieldRule.field rules rules') {field : String} :
    ParentsPresent subject rules' field ↔ ParentsPresent subject rules field := by
  simp only [ParentsPresent, order.mem_iff]

theorem findingAt_place (order : Reordering FieldRule.field rules rules') (i : Fin rules.length) :
    findingAt subject rules' (order.place i) = findingAt subject rules i := by
  have hi : rules[(i : Nat)]? = some (rules.get i) := by simp
  rw [findingAt, findingAt, order.getElem?_place, hi]
  simp only [Option.bind_some, findingOf, validate_reordered order]

/-- A rule is blocked at its place exactly when it is blocked where it comes from. -/
theorem blocked_place (order : Reordering FieldRule.field rules rules') (i : Fin rules.length) :
    Blocked subject (rules'.take (order.place i)) (rules.get i).field ↔
      Blocked subject (rules.take i) (rules.get i).field :=
  exists_congr fun _ => and_congr_left fun ⟨above, _⟩ => order.mem_take_place i (Or.inl above)

theorem reportedBefore_iff {i : Nat} {earlier : FieldRule} : ReportedBefore subject rules i earlier ↔
    ∃ j : Fin rules.length, (j : Nat) < i ∧ rules.get j = earlier ∧ Reported subject rules j := by
  constructor
  · rintro ⟨j, hj, he, hr⟩
    obtain ⟨hlt, rfl⟩ := List.getElem?_eq_some_iff.1 he
    exact ⟨⟨j, hlt⟩, hj, rfl, hr⟩
  · rintro ⟨j, hj, rfl, hr⟩
    exact ⟨j, hj, by simp, hr⟩

/-- A rule is due at its place exactly when it is due where it comes from, if what stands before it is reported
alike. -/
theorem due_place (order : Reordering FieldRule.field rules rules') (running : ∀ rule ∈ rules, rule.stopAll = false)
    (i : Fin rules.length)
    (before : ∀ j < i, Reported subject rules' (order.place j) ↔ Reported subject rules j) :
    Due subject rules' (order.place i) (rules.get i) ↔ Due subject rules i (rules.get i) := by
  refine and_congr (parentsPresent_reordered order) (forall_congr' fun earlier => ?_)
  by_cases above : IsAncestor earlier.field (rules.get i).field
  · have same : ReportedBefore subject rules' (order.place i) earlier ↔ ReportedBefore subject rules i earlier := by
      rw [reportedBefore_iff, reportedBefore_iff]
      refine (order.exists_before_place i (Or.inl above) fun k => Reported subject rules' k).trans ?_
      exact exists_congr fun j => and_congr_right fun hj => and_congr_right fun _ => before j hj
    rw [same]
  · -- Who is no ancestor could only end the validation, which no rule of either chain asks for.
    have runs : earlier ∈ rules → ¬ IsAncestor earlier.field (rules.get i).field ∧ earlier.stopAll = false :=
      fun he => ⟨above, running earlier he⟩
    constructor
    · rintro - ⟨j, -, he, -⟩
      exact runs (List.mem_of_getElem? he)
    · rintro - ⟨j, -, he, -⟩
      exact runs (order.mem_iff.1 (List.mem_of_getElem? he))

/-- **A position is reported at its place** exactly when it is reported where it comes from. -/
theorem reported_place (order : Reordering FieldRule.field rules rules')
    (running : ∀ rule ∈ rules, rule.stopAll = false) (i : Fin rules.length) :
    Reported subject rules' (order.place i) ↔ Reported subject rules i := by
  induction h : (i : Nat) using Nat.strongRecOn generalizing i with
  | ind n ih =>
    subst h
    have hi : rules[(i : Nat)]? = some (rules.get i) := by simp
    rw [reported_iff (order.getElem?_place i), reported_iff hi, findingAt_place]
    exact and_congr_left fun _ => due_place order running i fun j hj => ih j hj j rfl

/-! ## Validations in another order -/

/-- The findings are those of some positions of the chain, in its order. -/
def InChainOrder (subject : Json) (rules : List FieldRule) (findings : List Finding) : Prop :=
  ∃ positions : List Nat, positions.Pairwise (· < ·) ∧ positions.map (findingAt subject rules) = findings.map some

variable {engine engine' : Engine} {findings findings' : List Finding}

theorem inChainOrder_of_validate (h : (engine.validate subject).result = .ok findings) :
    InChainOrder subject engine.rules findings := by
  cases outcome_of_validate h with
  | ended positions increasing mem found judged => exact ⟨positions, increasing, found⟩

/-- **The first pass** ends in another order when it ends. -/
theorem findPresence_reordered (order : Reordering FieldRule.field rules rules')
    (h : ∃ found, findPresence subject rules ⟨[], []⟩ = .ok found) :
    ∃ found, findPresence subject rules' ⟨[], []⟩ = .ok found := by
  rw [findPresence_ends_iff] at h ⊢
  intro k rule hk opens
  obtain ⟨i, rfl, rfl⟩ := order.exists_place hk
  rw [blocked_place order] at opens
  exact h i (rules.get i) (by simp) opens

/-- A validation succeeds in another order when it succeeds. -/
theorem succeeds_reordered (order : Reordering FieldRule.field engine.rules engine'.rules)
    (running : ∀ rule ∈ engine.rules, rule.stopAll = false)
    (h : ∃ findings, (engine.validate subject).result = .ok findings) :
    ∃ findings, (engine'.validate subject).result = .ok findings := by
  rw [validate_succeeds_iff] at h ⊢
  obtain ⟨ends, judged⟩ := h
  refine ⟨findPresence_reordered order ends, fun k rule hk due => ?_⟩
  obtain ⟨i, rfl, rfl⟩ := order.exists_place hk
  have here := (due_place order running i fun j _ => reported_place order running j).1 due
  rw [validate_reordered order]
  exact judged i (engine.rules.get i) (by simp) here

/-- The places that the reported positions are moved to are the reported positions of the other order. -/
theorem reported_perm (order : Reordering FieldRule.field rules rules')
    (running : ∀ rule ∈ rules, rule.stopAll = false) {positions positions' : List Nat}
    (increasing : positions.Pairwise (· < ·)) (mem : ∀ k, k ∈ positions ↔ Reported subject rules k)
    (increasing' : positions'.Pairwise (· < ·)) (mem' : ∀ k, k ∈ positions' ↔ Reported subject rules' k)
    (inside : ∀ i ∈ positions, i < rules.length) :
    positions'.Perm (positions.pmap (fun i hi => (order.place ⟨i, hi⟩ : Nat)) inside) := by
  have nodup : (positions.pmap (fun i hi => (order.place ⟨i, hi⟩ : Nat)) inside).Nodup := by
    refine List.Nodup.pmap (fun i hi j hj h => ?_) (increasing.imp Nat.ne_of_lt)
    simpa using order.place.injective (Fin.ext h)
  rw [List.perm_ext_iff_of_nodup (increasing'.imp Nat.ne_of_lt) nodup]
  intro k
  simp only [List.mem_pmap, mem, mem']
  constructor
  · intro hr
    obtain ⟨rule, hk⟩ := hr.exists_rule
    obtain ⟨i, rfl, rfl⟩ := order.exists_place hk
    exact ⟨i, (reported_place order running i).1 hr, rfl⟩
  · rintro ⟨i, hr, rfl⟩
    exact (reported_place order running _).2 hr

/-- **The findings of two orders** are those of the same rules. -/
theorem findings_reordered (order : Reordering FieldRule.field engine.rules engine'.rules)
    (running : ∀ rule ∈ engine.rules, rule.stopAll = false)
    (h : (engine.validate subject).result = .ok findings) (h' : (engine'.validate subject).result = .ok findings') :
    findings'.Perm findings := by
  cases outcome_of_validate h with
  | ended positions increasing mem found _ =>
  cases outcome_of_validate h' with
  | ended positions' increasing' mem' found' _ =>
  simp only [Nat.zero_le, true_and] at mem mem'
  have inside : ∀ i ∈ positions, i < engine.rules.length := fun i hi => ((mem i).1 hi).lt_length
  have perm := (reported_perm order running increasing mem increasing' mem' inside).map
    (findingAt subject engine'.rules)
  rw [found', List.map_pmap] at perm
  simp only [findingAt_place order] at perm
  rw [List.pmap_eq_map inside, found] at perm
  simpa using perm.filterMap id

end Engine

/-! ## Rule sets in another order -/

/-- Only the keyword for it makes a rule end the validation. -/
theorem RuleContext.name_of_stopAll {context : RuleContext} {directive : Directive}
    (h : context.readDirective directive = .ok .stopAll) : directive.name = Keyword.stopAll.name := by
  rcases readDirective_cases h with ⟨-, hc⟩ | ⟨keyword, named, hk⟩
  · cases hc
  · cases askedBy_of_readKeyword hk
    exact named

namespace Blueprint

variable {blueprint : Blueprint} {engine : Engine} {rules' : List (List String)}

/-- No directive of a rule asks for the end of the validation, those of shared rules included. -/
def NeverStops (blueprint : Blueprint) : Prop :=
  ∀ tokens ∈ blueprint.rules, ∀ directives, resolveDirectives blueprint.registry tokens = .ok directives →
    ∀ text ∈ directives, (Directive.parse text).name ≠ Keyword.stopAll.name

theorem running_of_neverStops (h : blueprint.NeverStops) (built : blueprint.build = .ok engine) :
    ∀ rule ∈ engine.rules, rule.stopAll = false := by
  intro rule hr
  obtain ⟨tokens, ht, hb⟩ := exists_buildRule built hr
  obtain ⟨directives, type, hd, -, hf⟩ := buildRule_eq_ok_iff.1 hb
  obtain ⟨clauses, hc, rfl⟩ := FieldRule.build_eq_ok_iff.1 hf
  refine List.any_eq_false.2 fun clause hcl => ?_
  obtain ⟨text, htext, hr⟩ := exists_mem_of_ok hc hcl
  cases clause with
  | stopAll => exact absurd (RuleContext.name_of_stopAll hr) (h tokens ht directives hd text htext)
  | _ => simp [Clause.isStopAll]

/-- A rule set builds in another order when it builds, and its chain is then in that order. -/
theorem build_reordered (order : Reordering fieldOf blueprint.rules rules') (built : blueprint.build = .ok engine) :
    ∃ engine', { blueprint with rules := rules' }.build = .ok engine' ∧
      Nonempty (Reordering FieldRule.field engine.rules engine'.rules) := by
  obtain ⟨nonempty, hrules, -⟩ := build_eq_ok_iff.1 built
  obtain ⟨chain, hchain⟩ : ∃ chain : List FieldRule, rules'.map blueprint.buildRule = chain.map .ok := by
    refine exists_map_eq_ok fun tokens ht => ?_
    obtain ⟨rule, -, hb⟩ := exists_rule built (order.mem_iff.1 ht)
    exact ⟨rule, hb⟩
  have nonempty' : rules' ≠ [] := by
    obtain ⟨tokens, ht⟩ := List.exists_mem_of_ne_nil _ nonempty
    exact List.ne_nil_of_mem (order.mem_iff.2 ht)
  refine ⟨⟨blueprint.name, chain, codesOf blueprint.defaultCode chain⟩,
    build_eq_ok_iff.2 ⟨nonempty', hchain, rfl⟩, ⟨order.lift hrules hchain fun _ _ => field_of_buildRule⟩⟩

/-- **The order of a rule set does not matter** except between a field and its ancestors, when no rule ends the
validation. In any order that keeps to that a rule set builds as well; a payload is validated in both orders or in
none; and then the findings are the same, each list in the order of its chain. Every rule judges its field alike,
wherever the fields that it excludes stand. -/
theorem validate_of_reordering (blueprint : Blueprint) (engine : Engine) (rules' : List (List String))
    (order : Reordering fieldOf blueprint.rules rules') (built : blueprint.build = .ok engine)
    (never : blueprint.NeverStops) :
    ∃ engine', { blueprint with rules := rules' }.build = .ok engine' ∧ ∀ subject,
      ((∃ findings, (engine.validate subject).result = .ok findings) ↔
        ∃ findings, (engine'.validate subject).result = .ok findings) ∧
      (∀ findings findings', (engine.validate subject).result = .ok findings →
        (engine'.validate subject).result = .ok findings' →
          findings'.Perm findings ∧ Engine.InChainOrder subject engine.rules findings ∧
            Engine.InChainOrder subject engine'.rules findings') ∧
      ∀ presence presence', Engine.findPresence subject engine.rules ⟨[], []⟩ = .ok presence →
        Engine.findPresence subject engine'.rules ⟨[], []⟩ = .ok presence' →
          ∀ rule : FieldRule, rule.validate { subject, known := presence'.set } =
            rule.validate { subject, known := presence.set } := by
  obtain ⟨engine', built', ⟨moved⟩⟩ := build_reordered order built
  have running := running_of_neverStops never built
  have running' : ∀ rule ∈ engine'.rules, rule.stopAll = false := fun rule hr => running rule (moved.mem_iff.1 hr)
  refine ⟨engine', built', fun subject => ⟨⟨?_, ?_⟩, fun findings findings' h h' => ⟨?_, ?_, ?_⟩, ?_⟩⟩
  · exact Engine.succeeds_reordered moved running
  · exact Engine.succeeds_reordered moved.symm running'
  · exact Engine.findings_reordered moved running h h'
  · exact Engine.inChainOrder_of_validate h
  · exact Engine.inChainOrder_of_validate h'
  · intro presence presence' found found' rule
    have described := Engine.findPresence_describes .start found
    have described' := Engine.findPresence_describes .start found'
    rw [Engine.validate_found described, Engine.validate_found described']
    exact Engine.validate_reordered moved rule

/-- A field that excludes a later one, and a parent with a child. -/
def exclusiveRules : Blueprint where
  rules := [["x", "STR", "MEX:y:BOTH"], ["a", "OBJ"], ["y", "STR", "IN:n:Y"], ["a.b", "INT", "REQ:NO_B"]]
  defaultCode := "BAD"

/-- The same rules, with the excluded field first. -/
def excludedFirst : List (List String) :=
  [["y", "STR", "IN:n:Y"], ["a", "OBJ"], ["x", "STR", "MEX:y:BOTH"], ["a.b", "INT", "REQ:NO_B"]]

def excludedFirstOrder : Reordering fieldOf exclusiveRules.rules excludedFirst where
  place := (Equiv.swap 0 2 : Equiv.Perm (Fin 4))
  get_place := by decide
  keeps := by decide

def exclusiveEngine : Engine :=
  exclusiveRules.build.toOption.getD ⟨"", [], .empty⟩

def excludedFirstEngine : Engine :=
  { exclusiveRules with rules := excludedFirst }.build.toOption.getD ⟨"", [], .empty⟩

def exclusivePayload : Json :=
  .obj [("x", .str "v"), ("y", .str "w"), ("a", .obj [("c", .null)])]

theorem exclusiveRules_neverStops : exclusiveRules.NeverStops := by
  have listed : ∀ tokens ∈ exclusiveRules.rules,
      ∀ text ∈ (resolveDirectives exclusiveRules.registry tokens).toOption.getD [],
        (Directive.parse text).name ≠ Keyword.stopAll.name := by decide
  intro tokens ht directives hd text htext
  exact listed tokens ht text (by rw [hd]; exact htext)

theorem validate_of_reordering_excluded :
    exclusiveRules.NeverStops ∧ exclusiveRules.build = .ok exclusiveEngine ∧
      { exclusiveRules with rules := excludedFirst }.build = .ok excludedFirstEngine ∧
      (exclusiveEngine.validate exclusivePayload).result =
        .ok [⟨"x", ["BOTH"]⟩, ⟨"y", ["Y"]⟩, ⟨"a.b", ["NO_B"]⟩] ∧
      (excludedFirstEngine.validate exclusivePayload).result =
        .ok [⟨"y", ["Y"]⟩, ⟨"x", ["BOTH"]⟩, ⟨"a.b", ["NO_B"]⟩] ∧
      List.Perm [(⟨"y", ["Y"]⟩ : Finding), ⟨"x", ["BOTH"]⟩, ⟨"a.b", ["NO_B"]⟩]
        [⟨"x", ["BOTH"]⟩, ⟨"y", ["Y"]⟩, ⟨"a.b", ["NO_B"]⟩] := by
  have built : exclusiveRules.build = .ok exclusiveEngine := rfl
  have built' : { exclusiveRules with rules := excludedFirst }.build = .ok excludedFirstEngine := rfl
  obtain ⟨engine', he, same⟩ := validate_of_reordering exclusiveRules exclusiveEngine excludedFirst
    excludedFirstOrder built exclusiveRules_neverStops
  obtain rfl : excludedFirstEngine = engine' := Except.ok.inj (built'.symm.trans he)
  obtain ⟨-, findings, -⟩ := same exclusivePayload
  exact ⟨exclusiveRules_neverStops, built, built', rfl, rfl, (findings _ _ rfl rfl).1⟩

end Blueprint

end FieldRules
