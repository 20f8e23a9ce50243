import FieldRules.Regex.Match
import Mathlib.Logic.Function.Iterate

/-!
# Matching is found out

A pattern moves sets of places on, which are numbers with a bit for each place. What it moves a place to are exactly
the ends of its matches from there (`testBit_advance`). For a repetition this takes two facts: so many rounds of moving
on are so many matches one after another (`testBit_rounds`), and without an upper bound as many rounds as there are
places are enough, since a match that takes up nothing can be left out (`Rounds.shorten`). So a pattern is found in a
text exactly when it matches a stretch of it (`occursIn_iff`).
-/

namespace FieldRules.Regex

/-! ## Sets of places -/

theorem placesWhere_lt (p : Nat → Bool) (n : Nat) : placesWhere p n < 1 <<< n := by
  induction n with
  | zero => exact Nat.zero_lt_one
  | succ n ih =>
    have first : (if p n then 1 <<< n else 0) ≤ 1 <<< n := by
      split <;> simp
    calc placesWhere p (n + 1) ≤ 1 <<< n + placesWhere p n := Nat.add_le_add_right first _
      _ < 1 <<< n + 1 <<< n := Nat.add_lt_add_left ih _
      _ = 1 <<< (n + 1) := by rw [Nat.one_shiftLeft, Nat.one_shiftLeft, ← Nat.two_pow_succ]

/-- The places below a bound that have a property are in the set of these places. -/
theorem testBit_placesWhere (p : Nat → Bool) (n i : Nat) :
    (placesWhere p n).testBit i = true ↔ i < n ∧ p i = true := by
  induction n with
  | zero => simp [placesWhere]
  | succ n ih =>
    have apart : (if p n then 1 <<< n else 0) + placesWhere p n =
        (if p n then 1 <<< n else 0) ||| placesWhere p n := by
      split
      · have below := placesWhere_lt p n
        rw [Nat.one_shiftLeft] at below ⊢
        simpa using Nat.two_pow_add_eq_or_of_lt below 1
      · simp
    rw [placesWhere, apart, Nat.testBit_or, Bool.or_eq_true, ih]
    by_cases here : i = n
    · subst here
      cases p i <;> simp
    · have other : ((if p n then 1 <<< n else 0) : Nat).testBit i = false := by
        split
        · rw [Nat.one_shiftLeft]
          exact Nat.testBit_two_pow_of_ne fun same => here same.symm
        · exact Nat.zero_testBit i
      rw [other]
      simp only [Bool.false_eq_true, false_or]
      exact and_congr_left fun _ => by omega

/-- A set of places is empty when no place is in it. -/
theorem ne_zero_iff_exists_testBit {s : Places} : s ≠ 0 ↔ ∃ i, s.testBit i = true := by
  constructor
  · exact Nat.exists_testBit_of_ne_zero
  · rintro ⟨i, h⟩ rfl
    rw [Nat.zero_testBit] at h
    cases h

/-! ## Matches one after another -/

variable {text : Array Char} {e body : Expression} {i j k n min : Nat} {max : Option Nat}

/-- A match goes forward, and stays within the text. -/
theorem Matches.le (h : Matches text e i k) : i ≤ k ∧ k ≤ text.size := by
  induction h with
  | empty bound => exact ⟨Nat.le_refl _, bound⟩
  | char found =>
    have := (Array.getElem?_eq_some_iff.1 found).1
    omega
  | look bound => exact ⟨Nat.le_refl _, bound⟩
  | cat _ _ first second => omega
  | left _ ih => exact ih
  | right _ ih => exact ih
  | stop bound => exact ⟨Nat.le_refl _, bound⟩
  | more _ _ _ first later => omega

/-- So many matches of a pattern lead from one place to another. -/
inductive Rounds (text : Array Char) (body : Expression) : Nat → Nat → Nat → Prop
  | none {i : Nat} : i ≤ text.size → Rounds text body 0 i i
  | one {n i j k : Nat} : Matches text body i j → Rounds text body n j k → Rounds text body (n + 1) i k

namespace Rounds

theorem le (h : Rounds text body n i k) : i ≤ k ∧ k ≤ text.size := by
  induction h with
  | none bound => exact ⟨Nat.le_refl _, bound⟩
  | one first _ later =>
    have := first.le
    omega

theorem append {m : Nat} (h : Rounds text body m i j) (h' : Rounds text body n j k) :
    Rounds text body (m + n) i k := by
  induction h with
  | none _ => rwa [Nat.zero_add]
  | one first _ ih =>
    rw [Nat.add_right_comm]
    exact .one first (ih h')

theorem split {m : Nat} (h : Rounds text body (m + n) i k) : ∃ j, Rounds text body m i j ∧ Rounds text body n j k := by
  induction m generalizing i with
  | zero =>
    rw [Nat.zero_add] at h
    exact ⟨i, .none (by have := h.le; omega), h⟩
  | succ m ih =>
    rw [Nat.add_right_comm] at h
    cases h with
    | one first later =>
      obtain ⟨j, h, h'⟩ := ih later
      exact ⟨j, .one first h, h'⟩

/-- Rounds that take up nothing can be left out, and there are not more others than places are passed. -/
theorem shorten (h : Rounds text body n i k) : ∃ m ≤ k - i, Rounds text body m i k := by
  induction h with
  | none bound => exact ⟨0, Nat.zero_le _, .none bound⟩
  | @one n i j k first later ih =>
    obtain ⟨m, hm, short⟩ := ih
    have := first.le
    have := later.le
    by_cases still : i = j
    · subst still
      exact ⟨m, hm, short⟩
    · exact ⟨m + 1, by omega, .one first short⟩

end Rounds

/-- **A repetition matches** what a number of matches within its bounds makes up. -/
theorem matches_rep_iff : Matches text (.rep body min max) i k ↔
    ∃ n, min ≤ n ∧ (∀ most ∈ max, n ≤ most) ∧ Rounds text body n i k := by
  constructor
  · intro h
    generalize whole : Pattern.rep body min max = e at h
    induction h generalizing min max with
    | stop bound =>
      cases whole
      exact ⟨0, Nat.le_refl _, fun _ _ => Nat.zero_le _, .none bound⟩
    | more open' first _ _ ih =>
      cases whole
      obtain ⟨n, low, high, rounds⟩ := ih rfl
      refine ⟨n + 1, by omega, fun most hm => ?_, .one first rounds⟩
      have bounded := high (most - 1) (Option.mem_map_of_mem _ hm)
      have some : most ≠ 0 := fun zero => open' (by rw [Option.mem_def.1 hm, zero])
      omega
    | _ => cases whole
  · rintro ⟨n, low, high, rounds⟩
    induction n generalizing i min max with
    | zero =>
      obtain rfl : min = 0 := by omega
      cases rounds with
      | none bound => exact .stop bound
    | succ n ih =>
      cases rounds with
      | one first later =>
        refine .more ?_ first (ih (by omega) (fun most hm => ?_) later)
        · rintro rfl
          have := high 0 rfl
          omega
        · obtain ⟨before, hb, rfl⟩ := Option.map_eq_some_iff.1 hm
          have := high before hb
          omega

/-! ## Moving on -/

/-- The bounds of every repetition are in order. -/
def Pattern.Ordered {χ ρ : Type} : Pattern χ ρ → Prop
  | .cat a b | .alt a b => a.Ordered ∧ b.Ordered
  | .rep body min max => body.Ordered ∧ ∀ most ∈ max, min ≤ most
  | _ => True

/-- The places lie within a text. -/
def Within (text : Array Char) (s : Places) : Prop :=
  ∀ i, s.testBit i = true → i ≤ text.size

/-- Stopping at what changes no more makes no difference. -/
theorem iterate_eq (f : Places → Places) (n : Nat) (s : Places) : iterate f n s = f^[n] s := by
  induction n generalizing s with
  | zero => rfl
  | succ n ih =>
    rw [iterate]
    split
    · next same => exact (Function.iterate_fixed same (n + 1)).symm
    · rw [ih, Function.iterate_succ_apply]

section
variable {f : Places → Places} {s : Places}

/-- Moving on a number of times leads to the ends of so many matches. -/
theorem testBit_rounds
    (once : ∀ s, Within text s → ∀ k, (f s).testBit k = true ↔ ∃ j, s.testBit j = true ∧ Matches text body j k)
    (within : Within text s) (n k : Nat) :
    (f^[n] s).testBit k = true ↔ ∃ j, s.testBit j = true ∧ Rounds text body n j k := by
  induction n generalizing s with
  | zero =>
    constructor
    · exact fun h => ⟨k, h, .none (within k h)⟩
    · rintro ⟨j, h, rounds⟩
      cases rounds
      exact h
  | succ n ih =>
    have next : Within text (f s) := fun k hk => by
      obtain ⟨j, -, first⟩ := (once s within k).1 hk
      exact first.le.2
    rw [Function.iterate_succ_apply, ih next]
    constructor
    · rintro ⟨j, hj, rounds⟩
      obtain ⟨i, hi, first⟩ := (once s within j).1 hj
      exact ⟨i, hi, .one first rounds⟩
    · rintro ⟨i, hi, rounds⟩
      cases rounds with
      | one first later => exact ⟨_, (once s within _).2 ⟨i, hi, first⟩, later⟩

/-- Moving on while keeping the places so far leads to the ends of up to so many matches. -/
theorem testBit_rounds_upTo
    (once : ∀ s, Within text s → ∀ k, (f s).testBit k = true ↔ ∃ j, s.testBit j = true ∧ Matches text body j k)
    (within : Within text s) (n k : Nat) :
    ((fun t => t ||| f t)^[n] s).testBit k = true ↔ ∃ m ≤ n, ∃ j, s.testBit j = true ∧ Rounds text body m j k := by
  induction n generalizing s with
  | zero =>
    constructor
    · exact fun h => ⟨0, Nat.le_refl _, k, h, .none (within k h)⟩
    · rintro ⟨m, hm, j, h, rounds⟩
      obtain rfl : m = 0 := by omega
      cases rounds
      exact h
  | succ n ih =>
    have next : Within text (s ||| f s) := fun k hk => by
      rw [Nat.testBit_or, Bool.or_eq_true] at hk
      rcases hk with hk | hk
      · exact within k hk
      · obtain ⟨j, -, first⟩ := (once s within k).1 hk
        exact first.le.2
    rw [Function.iterate_succ_apply, ih next]
    simp only [Nat.testBit_or, Bool.or_eq_true]
    constructor
    · rintro ⟨m, hm, j, hj | hj, rounds⟩
      · exact ⟨m, by omega, j, hj, rounds⟩
      · obtain ⟨i, hi, first⟩ := (once s within j).1 hj
        exact ⟨m + 1, by omega, i, hi, .one first rounds⟩
    · rintro ⟨m, hm, j, hj, rounds⟩
      cases rounds with
      | none bound => exact ⟨0, Nat.zero_le _, _, Or.inl hj, .none bound⟩
      | @one m _ i _ first later => exact ⟨m, by omega, i, Or.inr ((once s within i).2 ⟨j, hj, first⟩), later⟩

end

/-- The places that a repetition moves some places to, where moving on once leads to the ends of matches. -/
theorem testBit_advance_rep {f : Places → Places} {s : Places}
    (once : ∀ s, Within text s → ∀ k, (f s).testBit k = true ↔ ∃ j, s.testBit j = true ∧ Matches text body j k)
    (within : Within text s) : (∀ most ∈ max, min ≤ most) →
      ((iterate (fun t => t ||| f t)
          (match max with
            | none => text.size + 1
            | some max => max - min)
          (iterate f min s)).testBit k = true ↔
        ∃ j, s.testBit j = true ∧ Matches text (.rep body min max) j k) := by
  intro ordered
  have first : Within text (f^[min] s) := fun i hi => by
    obtain ⟨_, -, rounds⟩ := (testBit_rounds once within min i).1 hi
    exact rounds.le.2
  rw [iterate_eq, iterate_eq, testBit_rounds_upTo once first]
  simp only [testBit_rounds once within, matches_rep_iff]
  constructor
  · rintro ⟨m, hm, j, ⟨i, hi, least⟩, more⟩
    refine ⟨i, hi, min + m, Nat.le_add_right .., fun most hmost => ?_, least.append more⟩
    obtain rfl := Option.mem_def.1 hmost
    have := ordered most rfl
    dsimp only at hm
    omega
  · rintro ⟨i, hi, n, low, high, rounds⟩
    obtain ⟨m, rfl⟩ := Nat.exists_eq_add_of_le low
    obtain ⟨j, least, more⟩ := rounds.split
    cases max with
    | none =>
      -- the rounds beyond the least number are no more than the places that they pass
      obtain ⟨m', hm', short⟩ := more.shorten
      have := short.le
      exact ⟨m', by dsimp only; omega, j, ⟨i, hi, least⟩, short⟩
    | some most =>
      have := high most rfl
      exact ⟨m, by dsimp only; omega, j, ⟨i, hi, least⟩, more⟩

/-- **Moving places on leads to the ends of the matches** that start there. -/
theorem testBit_advance (ordered : e.Ordered) {s : Places} (within : Within text s) (k : Nat) :
    (advance text.size (e.map (·.places text) (·.places text)) s).testBit k = true ↔
      ∃ j, s.testBit j = true ∧ Matches text e j k := by
  induction e generalizing s k with
  | empty =>
    constructor
    · exact fun h => ⟨k, h, .empty (within k h)⟩
    · rintro ⟨j, h, found⟩
      cases found
      exact h
  | char cls =>
    have bits (i : Nat) : (s &&& cls.places text).testBit i = true ↔
        s.testBit i = true ∧ ∃ c, text[i]? = some c ∧ cls.contains c = true := by
      rw [Nat.testBit_and, Bool.and_eq_true, CharClass.places, testBit_placesWhere]
      simp only [Option.any_eq_true]
      refine and_congr_right fun _ => ⟨fun h => h.2, fun ⟨c, hc, hm⟩ => ⟨?_, c, hc, hm⟩⟩
      exact (Array.getElem?_eq_some_iff.1 hc).1
    rw [Pattern.map, advance, Nat.testBit_shiftLeft, Bool.and_eq_true, decide_eq_true_iff]
    constructor
    · rintro ⟨past, h⟩
      obtain ⟨hs, c, hc, hm⟩ := (bits _).1 h
      refine ⟨k - 1, hs, ?_⟩
      have found : Matches text (.char cls) (k - 1) (k - 1 + 1) := .char hc hm
      rwa [Nat.sub_add_cancel past] at found
    · rintro ⟨j, hs, found⟩
      cases found with
      | char hc hm => exact ⟨by omega, (bits j).2 ⟨hs, _, hc, hm⟩⟩
  | look condition =>
    rw [Pattern.map, advance, Nat.testBit_and, Bool.and_eq_true, Look.places, testBit_placesWhere]
    constructor
    · rintro ⟨hs, bound, holds⟩
      exact ⟨k, hs, .look (by omega) holds⟩
    · rintro ⟨j, hs, found⟩
      cases found with
      | look bound holds => exact ⟨hs, by omega, holds⟩
  | cat a b iha ihb =>
    have between : Within text (advance text.size (a.map (·.places text) (·.places text)) s) := fun j hj => by
      obtain ⟨_, -, first⟩ := (iha ordered.1 within j).1 hj
      exact first.le.2
    rw [Pattern.map, advance, ihb ordered.2 between]
    constructor
    · rintro ⟨j, hj, second⟩
      obtain ⟨i, hi, first⟩ := (iha ordered.1 within j).1 hj
      exact ⟨i, hi, .cat first second⟩
    · rintro ⟨i, hi, found⟩
      cases found with
      | cat first second => exact ⟨_, (iha ordered.1 within _).2 ⟨i, hi, first⟩, second⟩
  | alt a b iha ihb =>
    rw [Pattern.map, advance, Nat.testBit_or, Bool.or_eq_true, iha ordered.1 within, ihb ordered.2 within]
    constructor
    · rintro (⟨j, hj, found⟩ | ⟨j, hj, found⟩)
      · exact ⟨j, hj, .left found⟩
      · exact ⟨j, hj, .right found⟩
    · rintro ⟨j, hj, found⟩
      cases found with
      | left found => exact Or.inl ⟨j, hj, found⟩
      | right found => exact Or.inr ⟨j, hj, found⟩
  | rep body min max ih =>
    exact testBit_advance_rep (fun s within k => ih ordered.1 within k) within ordered.2

/-- **A pattern is found in a text** exactly when it matches a stretch of it. -/
theorem occursIn_iff (ordered : e.Ordered) : e.occursIn text = true ↔ ∃ i k, Matches text e i k := by
  have all (i : Nat) : (1 <<< (text.size + 1) - 1 : Places).testBit i = true ↔ i ≤ text.size := by
    rw [Nat.one_shiftLeft, Nat.testBit_two_pow_sub_one, decide_eq_true_iff]
    omega
  rw [Expression.occursIn, bne_iff_ne, ne_zero_iff_exists_testBit]
  simp only [testBit_advance ordered fun i hi => (all i).1 hi, all]
  constructor
  · rintro ⟨k, i, -, found⟩
    exact ⟨i, k, found⟩
  · rintro ⟨i, k, found⟩
    exact ⟨k, i, by have := found.le; omega, found⟩

end FieldRules.Regex
