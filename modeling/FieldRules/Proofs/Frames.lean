import FieldRules.Proofs.Matching
import FieldRules.Proofs.StepLocality

/-!
# Groups around a pattern

A pattern is read in steps (`Run`), and a step does one of a few things to the groups that are open (`Effect`): so a
pattern that has been read is in order (`Run.sound`). A step looks no further out than the group that it closes
(`readStep_within`). With the locality of steps this tells what becomes of a pattern that is put into a group. What can
be read on its own is read the same inside the group, up to the signs that close it, unless a comment takes these in
(`Run.onward`); and what can be read inside only has to close a group that it did not open (`Run.back`).
-/

namespace FieldRules.Regex

variable {reading next final : Reading} {c : Char} {cs rest s : List Char} {around : List Group}

/-! ## Runs of steps -/

/-- Steps lead from a state to another one at the end of the text. -/
inductive Run : Reading → List Char → Reading → Prop
  | done {reading : Reading} {cs : List Char} : skip reading.group.flags.verbose cs = [] → Run reading cs reading
  | step {reading next final : Reading} {c : Char} {cs rest after : List Char} :
      skip reading.group.flags.verbose cs = c :: rest → readStep reading c rest = some (next, after) →
      Run next after final → Run reading cs final

theorem run_of_runReading {steps : Nat} (h : runReading steps reading cs = some final) : Run reading cs final := by
  induction steps generalizing reading cs with
  | zero => cases h
  | succ steps ih =>
    rw [runReading] at h
    split at h
    · next empty =>
      cases h
      exact .done empty
    · next found =>
      split at h
      · cases h
      · next step => exact .step found step (ih h)

/-- A run takes no more steps than there are characters. -/
theorem Run.runReading_eq (h : Run reading cs final) {steps : Nat} (enough : cs.length < steps) :
    runReading steps reading cs = some final := by
  induction h generalizing steps with
  | done empty =>
    obtain ⟨steps, rfl⟩ := Nat.exists_eq_add_of_le' (Nat.one_le_of_lt enough)
    rw [runReading, empty]
  | @step reading _ _ c cs rest after found step _ ih =>
    obtain ⟨steps, rfl⟩ := Nat.exists_eq_add_of_le' (Nat.one_le_of_lt enough)
    have behind := ((local_readStep reading c).suffix step).length_le
    have skipped : (c :: rest).length ≤ cs.length := found ▸ skip_suffix.length_le
    rw [List.length_cons] at skipped
    rw [runReading, found]
    dsimp only
    rw [step]
    exact ih (by omega)

theorem runReading_eq_some_iff : runReading (cs.length + 1) reading cs = some final ↔ Run reading cs final :=
  ⟨run_of_runReading, fun h => h.runReading_eq (Nat.lt_succ_self _)⟩

theorem run_iff_of_skip_nil (empty : skip reading.group.flags.verbose cs = []) :
    Run reading cs final ↔ final = reading := by
  constructor
  · intro h
    cases h with
    | done _ => rfl
    | step found => rw [empty] at found; cases found
  · rintro rfl
    exact .done empty

theorem run_iff_of_step (found : skip reading.group.flags.verbose cs = c :: rest) {after : List Char}
    (step : readStep reading c rest = some (next, after)) : Run reading cs final ↔ Run next after final := by
  constructor
  · intro h
    cases h with
    | done empty => rw [found] at empty; cases empty
    | step found' step' later =>
      obtain ⟨rfl, rfl⟩ := List.cons.inj (found.symm.trans found')
      obtain ⟨rfl, rfl⟩ := Prod.mk.inj (Option.some.inj (step.symm.trans step'))
      exact later
  · exact .step found step

/-- A run looks at what counts only. -/
theorem run_congr_skip {cs' : List Char}
    (same : skip reading.group.flags.verbose cs = skip reading.group.flags.verbose cs') :
    Run reading cs final ↔ Run reading cs' final := by
  constructor
  · intro h
    cases h with
    | done empty => exact .done (same.symm.trans empty)
    | step found step later => exact .step (same.symm.trans found) step later
  · intro h
    cases h with
    | done empty => exact .done (same.trans empty)
    | step found step later => exact .step (same.trans found) step later

/-! ## What a step does -/

/-- What has been read of a group repeats nothing within bounds that are out of order. -/
structure Group.Ordered (group : Group) : Prop where
  items : ∀ item ∈ group.items, item.toPiece.expression.Ordered
  branches : ∀ branch ∈ group.branches, branch.expression.Ordered

/-- What a step can do: open a group, close one, end a branch, add an item with flags for what follows, or repeat the
last item. -/
inductive Reading.Effect (reading : Reading) : Reading → Prop
  | enter {group : Group} {numbered : Nat} {names : List (List Char)} :
      group.items = [] → group.branches = [] →
      Effect reading ⟨group, reading.group :: reading.outer, numbered, names⟩
  | leave {next : Reading} : reading.leave = some next → Effect reading next
  | endBranch : Effect reading { reading with group := reading.group.endBranch }
  | push {item : Item} {flags : Flags} :
      item.toPiece.expression.Ordered →
      Effect reading { reading with group := { reading.group.push item with flags := flags } }
  | repeatLast {times : Repeat} {next : Reading} :
      (∀ most ∈ times.max, times.min ≤ most) → reading.repeatLast times = some next → Effect reading next

theorem readRepeatBounds_le {content : List Char} {min : Nat} {max : Option Nat}
    (h : readRepeatBounds content = some (min, max)) : ∀ most ∈ max, min ≤ most := by
  unfold readRepeatBounds at h
  split at h
  · obtain ⟨n, -, he⟩ := Option.map_eq_some_iff.1 h
    cases he
    simp
  · obtain ⟨n, -, he⟩ := Option.map_eq_some_iff.1 h
    cases he
    simp
  · obtain ⟨low, -, h⟩ := Option.bind_eq_some_iff.1 h
    obtain ⟨high, -, h⟩ := Option.bind_eq_some_iff.1 h
    split at h
    · next le =>
      cases h
      simpa using le
    · cases h
  · cases h

theorem repeatBetween_effect {min : Nat} {max : Option Nat} (bounds : ∀ most ∈ max, min ≤ most)
    (h : repeatBetween reading min max cs = some (next, rest)) : reading.Effect next := by
  obtain ⟨_, repeats, he⟩ := Option.map_eq_some_iff.1 h
  cases he
  exact .repeatLast bounds repeats

theorem openGroup_effect (h : openGroup reading cs = some (next, rest)) : reading.Effect next := by
  have named {cs : List Char} (h : openNamed reading cs = some (next, rest)) : reading.Effect next := by
    unfold openNamed at h
    dsimp only at h
    split at h
    · split at h
      · cases h
        exact .enter rfl rfl
      · cases h
    · cases h
  unfold openGroup at h
  split at h
  · cases h
  · cases h
  · cases h
  · cases h
  · exact named h
  · exact named h
  · rw [openFlags_eq] at h
    obtain ⟨-, h⟩ := Option.ite_none_right_eq_some.1 h
    unfold readFlagsEnd at h
    split at h
    · cases h
      exact .enter rfl rfl
    · split at h
      · cases h
      · cases h
        exact .push trivial
    · cases h
  · cases h
    exact .enter rfl rfl

theorem ordered_literalPiece (flags : Flags) (c : Char) : (literalPiece flags c).expression.Ordered := by
  unfold literalPiece
  split <;> trivial

theorem ordered_primitivePiece (flags : Flags) (primitive : Primitive) :
    (primitive.piece flags).expression.Ordered := by
  cases primitive with
  | literal c => exact ordered_literalPiece flags c
  | cls _ => trivial
  | look _ => trivial

/-- **What a step does** is one of a few things. -/
theorem readStep_effect (h : readStep reading c cs = some (next, rest)) : reading.Effect next := by
  unfold readStep at h
  dsimp only at h
  split at h
  · exact openGroup_effect h
  · obtain ⟨_, left, he⟩ := Option.map_eq_some_iff.1 h
    cases he
    exact .leave left
  · cases h
    exact .endBranch
  · obtain ⟨_, -, he⟩ := Option.map_eq_some_iff.1 h
    cases he
    exact .push trivial
  · exact repeatBetween_effect (by simp) h
  · exact repeatBetween_effect (by simp) h
  · exact repeatBetween_effect (by simp) h
  · obtain ⟨_, -, h⟩ := Option.bind_eq_some_iff.1 h
    obtain ⟨_, bounds, h⟩ := Option.bind_eq_some_iff.1 h
    exact repeatBetween_effect (readRepeatBounds_le bounds) h
  · obtain ⟨result, -, he⟩ := Option.map_eq_some_iff.1 h
    cases he
    exact .push (ordered_primitivePiece _ result.1)
  · split at h
    · cases h
      exact .push trivial
    · cases h
  · cases h
    exact .push trivial
  · cases h
    exact .push trivial
  · cases h
    exact .push (ordered_literalPiece _ _)

/-! ## What has been read is in order -/

theorem Pattern.ordered_catAll {χ ρ : Type} {es : List (Pattern χ ρ)} (h : ∀ e ∈ es, e.Ordered) :
    (Pattern.catAll es).Ordered := by
  induction es with
  | nil => trivial
  | cons e es ih =>
    obtain ⟨first, later⟩ := List.forall_mem_cons.1 h
    cases es with
    | nil => exact first
    | cons _ _ => exact ⟨first, ih later⟩

theorem Pattern.ordered_altAll {χ ρ : Type} {first : Pattern χ ρ} {es : List (Pattern χ ρ)} (hf : first.Ordered)
    (h : ∀ e ∈ es, e.Ordered) : (Pattern.altAll first es).Ordered := by
  induction es generalizing first with
  | nil => exact hf
  | cons e es ih =>
    obtain ⟨second, later⟩ := List.forall_mem_cons.1 h
    exact ⟨hf, ih second later⟩

theorem ordered_sequence {items : List Item} (h : ∀ item ∈ items, item.toPiece.expression.Ordered) :
    (sequence items).expression.Ordered := by
  unfold sequence
  split
  · trivial
  · exact h _ (List.mem_singleton_self _)
  · refine Pattern.ordered_catAll fun e he => ?_
    simp only [List.map_map, List.mem_map, Function.comp_apply] at he
    obtain ⟨item, hi, rfl⟩ := he
    exact h item hi

theorem Group.Ordered.content {group : Group} (h : group.Ordered) : group.content.expression.Ordered := by
  have all : ∀ branch ∈ (sequence group.items.reverse :: group.branches).reverse, branch.expression.Ordered := by
    intro branch hb
    rcases List.mem_cons.1 (List.mem_reverse.1 hb) with rfl | hb
    · exact ordered_sequence fun item hi => h.items item (List.mem_reverse.1 hi)
    · exact h.branches branch hb
  unfold Group.content choice
  split
  · trivial
  · next first others found =>
    rw [found] at all
    obtain ⟨hf, later⟩ := List.forall_mem_cons.1 all
    split
    · exact hf
    · refine Pattern.ordered_altAll hf fun e he => ?_
      obtain ⟨branch, hb, rfl⟩ := List.mem_map.1 he
      exact later branch hb

theorem Piece.ordered_repeated {piece : Piece} {times : Repeat} (h : piece.expression.Ordered)
    (bounds : ∀ most ∈ times.max, times.min ≤ most) : (piece.repeated times).expression.Ordered := by
  unfold Piece.repeated
  cases piece.expression.isWidthless with
  | false => exact ⟨h, bounds⟩
  | true =>
    refine ⟨h, fun most hm => ?_⟩
    obtain rfl := Option.some.inj hm
    have least := Nat.min_le_right times.min 1
    cases hmax : times.max with
    | none => exact least
    | some most => exact Nat.le_min.2 ⟨(Nat.min_le_left ..).trans (bounds most hmax), least⟩

/-- A state of reading is in order: its groups are, and the last around the others is the pattern itself, which has no
number. -/
structure Reading.Sound (reading : Reading) : Prop where
  ordered : ∀ group ∈ reading.group :: reading.outer, group.Ordered
  plain : ∀ group ∈ (reading.group :: reading.outer).getLast?, group.number = none

theorem Reading.sound_initial : Reading.initial.Sound where
  ordered group hg := by
    obtain rfl := List.mem_singleton.1 hg
    exact ⟨by simp [Reading.initial], by simp [Reading.initial]⟩
  plain group hg := by
    cases hg
    rfl

theorem Group.Ordered.push {group : Group} {item : Item} {flags : Flags} (h : group.Ordered)
    (hi : item.toPiece.expression.Ordered) : Group.Ordered { group.push item with flags := flags } :=
  ⟨List.forall_mem_cons.2 ⟨hi, h.items⟩, h.branches⟩

/-- A state stays in order when its innermost group is replaced by one with the same number. -/
theorem Reading.Sound.replace {group group' : Group} {outer : List Group} {numbered numbered' : Nat}
    {names names' : List (List Char)} (h : Reading.Sound ⟨group, outer, numbered, names⟩) (hg : group'.Ordered)
    (same : group'.number = group.number) : Reading.Sound ⟨group', outer, numbered', names'⟩ where
  ordered := List.forall_mem_cons.2 ⟨hg, (List.forall_mem_cons.1 h.ordered).2⟩
  plain last hl := by
    cases outer with
    | nil =>
      cases hl
      exact same.trans (h.plain group rfl)
    | cons parent outer => exact h.plain last hl

/-- **A step keeps a state in order.** -/
theorem Reading.Effect.sound (effect : reading.Effect next) (h : reading.Sound) : next.Sound := by
  obtain ⟨group, outer, numbered, names⟩ := reading
  have here : group.Ordered := h.ordered group (List.mem_cons_self ..)
  cases effect with
  | enter noItems noBranches =>
    refine ⟨List.forall_mem_cons.2 ⟨⟨?_, ?_⟩, h.ordered⟩, fun last hl => h.plain last ?_⟩
    · simp [noItems]
    · simp [noBranches]
    · rwa [List.getLast?_cons_cons] at hl
  | leave left =>
    cases outer with
    | nil => cases left
    | cons parent outer =>
      cases left
      obtain ⟨-, around⟩ := List.forall_mem_cons.1 h.ordered
      have outside : Reading.Sound ⟨parent, outer, numbered, names⟩ :=
        ⟨around, fun last hl => h.plain last (by rwa [List.getLast?_cons_cons])⟩
      exact outside.replace ((around parent (List.mem_cons_self ..)).push here.content) rfl
  | endBranch =>
    refine h.replace ⟨by simp [Group.endBranch], List.forall_mem_cons.2 ⟨?_, here.branches⟩⟩ rfl
    exact ordered_sequence fun item hi => here.items item (List.mem_reverse.1 hi)
  | push hi => exact h.replace (here.push hi) rfl
  | repeatLast bounds repeats =>
    unfold Reading.repeatLast at repeats
    split at repeats
    · next piece items found =>
      cases repeats
      dsimp only at found
      obtain ⟨last, before⟩ := List.forall_mem_cons.1 (found ▸ here.items)
      exact h.replace ⟨List.forall_mem_cons.2 ⟨Piece.ordered_repeated last bounds, before⟩, here.branches⟩ rfl
    · cases repeats

/-- **What is read is in order.** -/
theorem Run.sound (h : Run reading cs final) (sound : reading.Sound) : final.Sound := by
  induction h with
  | done _ => exact sound
  | step _ step _ ih => exact ih ((readStep_effect step).sound sound)

/-! ## Groups around -/

/-- The state with more groups around those that are open. -/
def Reading.within (reading : Reading) (around : List Group) : Reading :=
  { reading with outer := reading.outer ++ around }

@[simp]
theorem Reading.within_group : (reading.within around).group = reading.group :=
  rfl

@[simp]
theorem Reading.within_names : (reading.within around).names = reading.names :=
  rfl

theorem openNamed_within : openNamed (reading.within around) cs =
    (openNamed reading cs).map fun result => (result.1.within around, result.2) := by
  unfold openNamed
  rw [Reading.within_names]
  dsimp only
  split
  · split <;> rfl
  · rfl

theorem openGroup_within : openGroup (reading.within around) cs =
    (openGroup reading cs).map fun result => (result.1.within around, result.2) := by
  unfold openGroup
  rw [Reading.within_group]
  split
  · rfl
  · rfl
  · rfl
  · rfl
  · exact openNamed_within
  · exact openNamed_within
  · rw [openFlags_eq, openFlags_eq]
    dsimp only
    split
    · unfold readFlagsEnd
      split
      · rfl
      · split <;> rfl
      · rfl
    · rfl
  · rfl

theorem repeatBetween_within (min : Nat) (max : Option Nat) : repeatBetween (reading.within around) min max cs =
    (repeatBetween reading min max cs).map fun result => (result.1.within around, result.2) := by
  unfold repeatBetween Reading.repeatLast
  rw [Reading.within_group]
  dsimp only
  split <;> rfl

theorem repeatCounted_within : repeatCounted (reading.within around) cs =
    (repeatCounted reading cs).map fun result => (result.1.within around, result.2) := by
  unfold repeatCounted
  rw [Reading.within_group]
  simp only [Option.bind_eq_bind]
  cases takeBraced reading.group.flags.verbose false cs with
  | none => rfl
  | some braced =>
    rw [Option.bind_some, Option.bind_some]
    cases readRepeatBounds braced.1 with
    | none => rfl
    | some bounds => exact repeatBetween_within bounds.1 bounds.2

/-- **A step looks no further out than the group that it closes.** -/
theorem readStep_within (inside : c = ')' → reading.outer ≠ []) : readStep (reading.within around) c cs =
    (readStep reading c cs).map fun result => (result.1.within around, result.2) := by
  unfold readStep
  rw [Reading.within_group]
  dsimp only
  split
  · exact openGroup_within
  · obtain ⟨group, outer, numbered, names⟩ := reading
    cases outer with
    | nil => exact absurd rfl (inside rfl)
    | cons parent outer => rfl
  · rfl
  · cases readBracket reading.group.flags cs <;> rfl
  · exact repeatBetween_within 0 (some 1)
  · exact repeatBetween_within 0 none
  · exact repeatBetween_within 1 none
  · exact repeatCounted_within
  · cases readEscape reading.group.flags cs <;> rfl
  · split <;> rfl
  · rfl
  · rfl
  · rfl

/-- Reading meets the end of a group where none is open. -/
inductive Overruns : Reading → List Char → Prop
  | here {reading : Reading} {cs rest : List Char} :
      skip reading.group.flags.verbose cs = ')' :: rest → reading.outer = [] → Overruns reading cs
  | later {reading next : Reading} {c : Char} {cs rest after : List Char} :
      skip reading.group.flags.verbose cs = c :: rest → readStep reading c rest = some (next, after) →
      Overruns next after → Overruns reading cs

/-- **What is read on its own is read the same inside a group**, up to the signs that close it; or a comment takes them
in, and the group is left open. -/
theorem Run.onward (h : Run reading cs final) :
    (∀ s, IsClosing s → ∀ around last, Run (reading.within around) (cs ++ s) last ↔ Run (final.within around) s last) ∨
      ∀ s, IsClosing s → ∀ around last, Run (reading.within around) (cs ++ s) last ↔ last = final.within around := by
  induction h with
  | @done reading cs empty =>
    rcases skip_append reading.group.flags.verbose cs with on | ⟨-, swallowed⟩
    · refine Or.inl fun s hs around last => run_congr_skip ?_
      rw [Reading.within_group, on s hs, empty, List.nil_append, hs.skip]
    · exact Or.inr fun s hs around last => run_iff_of_skip_nil (swallowed s hs)
  | @step reading next final c cs rest after found step later ih =>
    have inside : c = ')' → reading.outer ≠ [] := by
      rintro rfl none
      obtain ⟨_, left, -⟩ := Option.map_eq_some_iff.1 step
      rw [Reading.leave, none] at left
      cases left
    have found' (s : List Char) (hs : IsClosing s) (around : List Group) :
        skip (reading.within around).group.flags.verbose (cs ++ s) = c :: (rest ++ s) := by
      rw [Reading.within_group, skip_append_of_ne_nil (by simp [found]) hs, found, List.cons_append]
    have framed {s after' : List Char} (step' : readStep reading c (rest ++ s) = some (next, after'))
        (around : List Group) : readStep (reading.within around) c (rest ++ s) = some (next.within around, after') := by
      rw [readStep_within inside, step']
      rfl
    rcases (local_readStep reading c).onward step with on | ⟨rfl, swallowed⟩
    · have passes (s : List Char) (hs : IsClosing s) (around : List Group) (last : Reading) :
          Run (reading.within around) (cs ++ s) last ↔ Run (next.within around) (after ++ s) last :=
        run_iff_of_step (found' s hs around) (framed (on s hs) around)
      exact ih.imp (fun same s hs around last => (passes s hs around last).trans (same s hs around last))
        fun open' s hs around last => (passes s hs around last).trans (open' s hs around last)
    · refine Or.inr fun s hs around last => ?_
      obtain rfl : final = next := (run_iff_of_skip_nil skip_nil).1 later
      rw [run_iff_of_step (found' s hs around) (framed (swallowed s hs) around)]
      exact run_iff_of_skip_nil skip_nil

/-- What is left of the closing signs behind the first closes no group. -/
theorem Run.outer_of_spilled {after : List Char} (h : Run reading after final) (spilled : after <:+ [')', '$'])
    (short : after.length < 2) : final.outer = reading.outer := by
  rcases List.suffix_cons_iff.1 spilled with rfl | inside
  · simp at short
  rcases List.suffix_cons_iff.1 inside with rfl | none
  · have sign : skip reading.group.flags.verbose ['$'] = ['$'] := by cases reading.group.flags.verbose <;> rfl
    have last := (run_iff_of_step sign rfl).1 h
    rw [(run_iff_of_skip_nil skip_nil).1 last]
    rfl
  · obtain rfl := List.suffix_nil.1 none
    rw [(run_iff_of_skip_nil skip_nil).1 h]

/-- **What can be read in a group between anchors**, with all groups closed at the end, closes a group that it did not
open, or else it can be read on its own, and leaves no group open. -/
theorem Run.back {base : Group} (h : Run (reading.within [base]) (cs ++ [')', '$']) final) (closed : final.outer = []) :
    Overruns reading cs ∨ ∃ last, Run reading cs last ∧ last.outer = [] := by
  have hs : IsClosing [')', '$'] := .anchored
  -- the group around stays open when the signs for its end are passed over
  have stuck {next final : Reading} {after : List Char} (later : Run (next.within [base]) after final)
      (closed : final.outer = []) (spilled : after <:+ [')', '$']) (short : after.length < 2) : False := by
    rw [later.outer_of_spilled spilled short] at closed
    exact absurd closed (by simp [Reading.within])
  generalize inner : reading.within [base] = start at h
  generalize whole : cs ++ [')', '$'] = text at h
  induction h generalizing reading cs with
  | done _ =>
    subst inner
    exact absurd closed (by simp [Reading.within])
  | @step _ next final c _ rest after found step later ih =>
    subst inner whole
    rw [Reading.within_group] at found
    cases signs : skip reading.group.flags.verbose cs with
    | nil =>
      rcases skip_append reading.group.flags.verbose cs with on | ⟨-, swallowed⟩
      · rw [on _ hs, signs] at found
        obtain ⟨rfl, rfl⟩ := List.cons.inj found
        by_cases none : reading.outer = []
        · exact Or.inr ⟨reading, .done signs, none⟩
        · rw [readStep_within fun _ => none] at step
          obtain ⟨⟨left, _⟩, closes, he⟩ := Option.map_eq_some_iff.1 step
          cases he
          have inside := (local_readStep reading ')').suffix closes
          exact (stuck later closed (inside.trans (List.suffix_cons ..)) (Nat.lt_succ_of_le inside.length_le)).elim
      · rw [swallowed _ hs] at found
        cases found
    | cons c' rest' =>
      rw [skip_append_of_ne_nil (by simp [signs]) hs, signs, List.cons_append] at found
      obtain ⟨rfl, rfl⟩ := List.cons.inj found
      by_cases beyond : c' = ')' ∧ reading.outer = []
      · obtain ⟨rfl, none⟩ := beyond
        exact Or.inl (.here signs none)
      · rw [readStep_within fun closes none => beyond ⟨closes, none⟩] at step
        obtain ⟨⟨left, after⟩, reads, he⟩ := Option.map_eq_some_iff.1 step
        cases he
        rcases (local_readStep reading c').back hs reads with ⟨before, stepped, rfl⟩ | far
        · exact (ih closed rfl rfl).imp (.later signs stepped)
            fun ⟨last, run, ends⟩ => ⟨last, .step signs stepped run, ends⟩
        · have short : after.length < 2 := Nat.lt_of_succ_le far
          have spilled := List.suffix_of_suffix_length_le ((local_readStep reading c').suffix reads)
            (List.suffix_append rest' [')', '$']) (Nat.le_of_lt short)
          exact (stuck later closed spilled short).elim

end FieldRules.Regex
