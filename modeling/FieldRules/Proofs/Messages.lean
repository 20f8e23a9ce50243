import FieldRules.Catalog
import FieldRules.Proofs.Codes

/-!
# Messages for every code

A catalog is checked once against the codes in use, before any payload is seen. The check finds every gap, and each
as often as there are users that have it (`count_missing`), in a fixed order (`pairwise_missing`). Since findings carry
recorded codes only, what is rendered after a check that found nothing has messages of the catalog throughout
(`verify_exact`).
-/

namespace FieldRules

namespace MissingMessage

theorem le_iff {a b : MissingMessage} :
    a.le b = true ↔ a.component < b.component ∨ a.component = b.component ∧ a.code ≤ b.code := by
  simp [le]

theorem le_trans (a b c : MissingMessage) (hab : a.le b = true) (hbc : b.le c = true) : a.le c = true := by
  rw [le_iff] at hab hbc ⊢
  rcases hab with hab | ⟨hab, codes⟩ <;> rcases hbc with hbc | ⟨hbc, codes'⟩
  · exact Or.inl (String.lt_trans hab hbc)
  · exact Or.inl (hbc ▸ hab)
  · exact Or.inl (hab ▸ hbc)
  · exact Or.inr ⟨hab.trans hbc, String.le_trans codes codes'⟩

theorem le_total (a b : MissingMessage) : (a.le b || b.le a) = true := by
  rw [Bool.or_eq_true, le_iff, le_iff]
  by_cases above : a.component < b.component
  · exact Or.inl (Or.inl above)
  · by_cases below : b.component < a.component
    · exact Or.inr (Or.inl below)
    · have same : a.component = b.component := String.le_antisymm (String.not_lt.1 below) (String.not_lt.1 above)
      rcases String.le_total a.code b.code with codes | codes
      · exact Or.inl (Or.inr ⟨same, codes⟩)
      · exact Or.inr (Or.inr ⟨same.symm, codes⟩)

end MissingMessage

namespace Catalog

variable {catalog : Catalog} {users : List CodeUser} {user : CodeUser} {gap : MissingMessage}

/-! ## Gaps -/

/-- A gap is one of a user: the code is in use there and has no message. -/
def HasGap (catalog : Catalog) (gap : MissingMessage) (user : CodeUser) : Prop :=
  user.name = gap.component ∧ gap.code ∈ user.codes ∧ catalog.message? gap.code = none

instance : Decidable (catalog.HasGap gap user) :=
  inferInstanceAs (Decidable (_ ∧ _ ∧ _))

theorem mem_missingFor : gap ∈ catalog.missingFor user ↔ catalog.HasGap gap user := by
  obtain ⟨component, code⟩ := gap
  simp only [missingFor, List.mem_map, List.mem_filter, Option.isNone_iff_eq_none, MissingMessage.mk.injEq, HasGap,
    CodeSet.mem_def]
  constructor
  · rintro ⟨_, ⟨used, none⟩, named, rfl⟩
    exact ⟨named, used, none⟩
  · rintro ⟨named, used, none⟩
    exact ⟨code, ⟨used, none⟩, named, rfl⟩

/-- A user names each of its codes once. -/
theorem nodup_missingFor : (catalog.missingFor user).Nodup := by
  have nodup : user.codes.codes.Nodup := user.codes.increasing.imp String.ne_of_lt
  refine List.pairwise_map.2 ((List.Pairwise.filter _ nodup).imp fun different same => different ?_)
  simpa using same

theorem mem_missing : gap ∈ catalog.missing users ↔ ∃ user ∈ users, catalog.HasGap gap user := by
  simp only [missing, List.mem_mergeSort, List.mem_flatMap, mem_missingFor]

/-- **Each gap is there once for every user that has it**, also where users share a name or a code. -/
theorem count_missing : (catalog.missing users).count gap = users.countP (catalog.HasGap gap ·) := by
  rw [missing, (List.mergeSort_perm _ _).count_eq]
  induction users with
  | nil => rfl
  | cons user users ih =>
    rw [List.flatMap_cons, List.count_append, ih, List.countP_cons, nodup_missingFor.count]
    simp [mem_missingFor, Nat.add_comm]

theorem pairwise_missing : (catalog.missing users).Pairwise fun a b =>
    a.component < b.component ∨ a.component = b.component ∧ a.code ≤ b.code :=
  (List.pairwise_mergeSort MissingMessage.le_trans MissingMessage.le_total _).imp MissingMessage.le_iff.1

theorem verify_eq_error_iff {gaps : List MissingMessage} :
    catalog.verify users = .error gaps ↔ gaps = catalog.missing users ∧ gaps ≠ [] := by
  unfold verify
  cases catalog.missing users with
  | nil => simp
  | cons gap gaps' =>
    simp only [List.isEmpty_cons, Bool.false_eq_true, if_false, Except.error.injEq]
    exact ⟨fun h => ⟨h.symm, by simp [← h]⟩, fun h => h.1.symm⟩

/-- **A check succeeds** when every code in use has a message. -/
theorem verify_eq_ok_iff : catalog.verify users = .ok () ↔
    ∀ user ∈ users, ∀ code, code ∈ user.codes → ∃ message, catalog.message? code = some message := by
  have empty : catalog.verify users = .ok () ↔ catalog.missing users = [] := by
    unfold verify
    cases catalog.missing users <;> simp
  simp only [empty, List.eq_nil_iff_forall_not_mem, mem_missing, HasGap, ← Option.isSome_iff_exists,
    ← Option.ne_none_iff_isSome]
  constructor
  · intro none user hu code used missing
    exact none ⟨user.name, code⟩ ⟨user, hu, rfl, used, missing⟩
  · rintro some gap ⟨user, hu, -, used, missing⟩
    exact some user hu gap.code used missing

/-! ## Closing gaps -/

/-- The catalog with further messages under their codes, each put in after the other. -/
def withMessages (catalog : Catalog) (messages : List (String × String)) : Catalog :=
  messages.foldl (fun catalog entry => catalog.withMessage entry.1 entry.2) catalog

theorem message?_withMessage (code message x : String) :
    (catalog.withMessage code message).message? x = if x = code then some message else catalog.message? x :=
  Dict.find?_insert code x message catalog.messages

/-- No message is lost where others are put in. -/
theorem isSome_message?_withMessages {messages : List (String × String)} {code : String} :
    ((catalog.withMessages messages).message? code).isSome ↔
      code ∈ messages.map Prod.fst ∨ (catalog.message? code).isSome := by
  induction messages generalizing catalog with
  | nil => simp [withMessages]
  | cons entry messages ih =>
    rw [withMessages, List.foldl_cons, ← withMessages, ih, message?_withMessage]
    by_cases h : code = entry.1 <;> simp [h]

/-- **The gaps are all that is missing**: with messages for their codes, whichever, nothing is. -/
theorem verify_withMessages {messages : List (String × String)}
    (closed : ∀ gap ∈ catalog.missing users, gap.code ∈ messages.map Prod.fst) :
    (catalog.withMessages messages).verify users = .ok () := by
  refine verify_eq_ok_iff.2 fun user hu code used => ?_
  rw [← Option.isSome_iff_exists, isSome_message?_withMessages]
  cases told : catalog.message? code with
  | none => exact Or.inl (closed ⟨user.name, code⟩ (mem_missing.2 ⟨user, hu, rfl, used, told⟩))
  | some message => exact Or.inr rfl

/-! ## Rendering -/

theorem mem_render {findings : List Finding} {entry : RenderedError} (h : entry ∈ catalog.render findings) :
    ∃ finding ∈ findings, entry.code ∈ finding.codes ∧
      entry.message = (catalog.message? entry.code).getD entry.code := by
  obtain ⟨finding, hf, he⟩ := List.mem_flatMap.1 h
  obtain ⟨code, hc, rfl⟩ := List.mem_map.1 he
  exact ⟨finding, hf, hc, rfl⟩

/-- What is rendered is one entry for each code of each finding, in their order. -/
theorem render_entries (findings : List Finding) :
    (catalog.render findings).map (fun entry => (entry.field, entry.code)) =
      findings.flatMap fun finding => finding.codes.map fun code => (finding.field, code) := by
  simp [render, List.map_flatMap, Function.comp_def]

end Catalog

/-- A code that is reported is one in use. -/
theorem Blueprint.mem_codes_of_finding {blueprint : Blueprint} {engine : Engine} (built : blueprint.build = .ok engine)
    {subject : Json} {findings : List Finding} (h : (engine.validate subject).result = .ok findings)
    {finding : Finding} (hf : finding ∈ findings) {code : String} (hc : code ∈ finding.codes) :
    code ∈ engine.codes := by
  obtain ⟨rule, hr, verdict, judged, -, rfl⟩ := Engine.exists_rule_of_finding h hf
  obtain ⟨coded, recorded⟩ := isCoded_of_build built hr
  exact recorded code ((FieldRule.validate_codes coded judged).2 code hc)

namespace Catalog

/-- **A catalog that passes the check has all messages.** The check succeeds exactly when every code of every user has
a message. Else its gaps are in order, by component and then by code, each gap once for every user that has it, and the
check succeeds after messages for their codes are put in. When it succeeds for an engine that is built, all that the
engine finds is rendered with messages of the catalog, one entry for each code of each finding, in their order. -/
theorem verify_exact (catalog : Catalog) (users : List CodeUser) :
    (catalog.verify users = .ok () ↔
      ∀ user ∈ users, ∀ code, code ∈ user.codes → ∃ message, catalog.message? code = some message) ∧
    (∀ gaps, catalog.verify users = .error gaps →
      gaps.Pairwise (fun a b => a.component < b.component ∨ a.component = b.component ∧ a.code ≤ b.code) ∧
      (∀ gap, gaps.count gap = users.countP fun user =>
        user.name = gap.component ∧ gap.code ∈ user.codes ∧ catalog.message? gap.code = none) ∧
      ∀ messages : List (String × String), (∀ gap ∈ gaps, gap.code ∈ messages.map Prod.fst) →
        (catalog.withMessages messages).verify users = .ok ()) ∧
    ∀ blueprint engine, Blueprint.build blueprint = .ok engine → engine.codeUser ∈ users →
      catalog.verify users = .ok () → ∀ subject findings, (engine.validate subject).result = .ok findings →
        (∀ entry ∈ catalog.render findings, catalog.message? entry.code = some entry.message) ∧
        (catalog.render findings).map (fun entry => (entry.field, entry.code)) =
          findings.flatMap fun finding => finding.codes.map fun code => (finding.field, code) := by
  refine ⟨verify_eq_ok_iff, fun gaps failed => ?_, ?_⟩
  · obtain ⟨rfl, -⟩ := verify_eq_error_iff.1 failed
    exact ⟨pairwise_missing, fun gap => count_missing, fun messages closed => verify_withMessages closed⟩
  · intro blueprint engine built isUser verified subject findings h
    refine ⟨fun entry he => ?_, render_entries findings⟩
    obtain ⟨finding, hf, hc, message⟩ := mem_render he
    have used := Blueprint.mem_codes_of_finding built h hf hc
    obtain ⟨own, told⟩ := verify_eq_ok_iff.1 verified engine.codeUser isUser entry.code used
    rw [message, told, Option.getD_some]

/-- Rules that name a code of their own, their default and the code of a component. -/
def signupRules : Blueprint where
  name := "signup"
  rules := [["age", "INT", "RANGE:18:*:TOO_YOUNG"], ["email", "STR", "REQ", "EXT:mailbox:NO_MAILBOX"]]
  defaultCode := "INVALID"
  components := some fun name => if name = "mailbox" then some fun _ => .ok false else none

def signupEngine : Engine :=
  signupRules.build.toOption.getD ⟨"", [], .empty⟩

/-- Two users of one name that share a code, and the engine. -/
def signupUsers : List CodeUser :=
  [⟨"shop", .ofList ["EMPTY", "INVALID"]⟩, ⟨"shop", .ofList ["EMPTY"]⟩, signupEngine.codeUser]

def signupCatalog : Catalog :=
  empty.withMessages [("INVALID", "Invalid value"), ("TOO_YOUNG", "Too young")]

def signupGaps : List MissingMessage :=
  [⟨"shop", "EMPTY"⟩, ⟨"shop", "EMPTY"⟩, ⟨"signup", "NO_MAILBOX"⟩]

def signupMessages : List (String × String) :=
  [("NO_MAILBOX", "No such mailbox"), ("EMPTY", "Nothing here")]

def signupPayload : Json :=
  .obj [("age", .int 17), ("email", .str "ada")]

theorem verify_exact_signup :
    signupRules.build = .ok signupEngine ∧ signupCatalog.verify signupUsers = .error signupGaps ∧
      signupGaps.count ⟨"shop", "EMPTY"⟩ = 2 ∧
      (signupCatalog.withMessages signupMessages).verify signupUsers = .ok () ∧
      (signupEngine.validate signupPayload).result = .ok [⟨"age", ["TOO_YOUNG"]⟩, ⟨"email", ["NO_MAILBOX"]⟩] ∧
      ∀ entry ∈ (signupCatalog.withMessages signupMessages).render
          [⟨"age", ["TOO_YOUNG"]⟩, ⟨"email", ["NO_MAILBOX"]⟩],
        (signupCatalog.withMessages signupMessages).message? entry.code = some entry.message := by
  have built : signupRules.build = .ok signupEngine := rfl
  have failed : signupCatalog.verify signupUsers = .error signupGaps := by
    have found : signupUsers.flatMap signupCatalog.missingFor = signupGaps := rfl
    have sorted : signupGaps.Pairwise fun a b => a.le b = true := by decide
    rw [verify_eq_error_iff, missing, found, List.mergeSort_of_pairwise sorted]
    exact ⟨rfl, by decide⟩
  have result : (signupEngine.validate signupPayload).result =
    .ok [⟨"age", ["TOO_YOUNG"]⟩, ⟨"email", ["NO_MAILBOX"]⟩] := rfl
  obtain ⟨-, count, close⟩ := (verify_exact signupCatalog signupUsers).2.1 signupGaps failed
  have verified := close signupMessages (by decide)
  obtain ⟨-, -, rendered⟩ := verify_exact (signupCatalog.withMessages signupMessages) signupUsers
  have twice : signupGaps.count ⟨"shop", "EMPTY"⟩ = 2 := (count _).trans (by decide)
  exact ⟨built, failed, twice, verified, result,
    (rendered signupRules signupEngine built (by simp [signupUsers]) verified signupPayload _ result).1⟩

end Catalog

end FieldRules
