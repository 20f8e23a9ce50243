import FieldRules.Regex.Parser
import Mathlib.Data.List.Infix

/-!
# Readers and what stands behind

A pattern that is put into a group is read with closing signs behind it that are not its own. A reader is *local* when
these change little (`Local`): what it reads without them it reads with them, and leaves them over, unless a comment has
taken them in; and what it reads only with them it reads by going into them. Readers are made of smaller ones, one
after another (`Local.bind`) or by how the text starts (`Local.onPrefix`), and so is their locality: of blanks and
comments first, and of escapes (`local_readEscape`).
-/

namespace FieldRules.Regex

/-! ## Local readers -/

/-- Reads a beginning of a text, and leaves the rest over. -/
abbrev Reader (α : Type) :=
  List Char → Option (α × List Char)

/-- What closes a group around a pattern, alone or with the anchor of a text. -/
inductive IsClosing : List Char → Prop
  | group : IsClosing [')']
  | anchored : IsClosing [')', '$']

/-- A reader leaves a part of the text over, and closing signs behind the text change little. What is read without
them is read with them, and they are left over with the rest, unless they fall into a comment. What is read only with
them goes at least some characters into them. -/
structure Local {α : Type} (into : Nat) (f : Reader α) : Prop where
  suffix : ∀ {cs a rest}, f cs = some (a, rest) → rest <:+ cs
  onward : ∀ {cs a rest}, f cs = some (a, rest) →
    (∀ s, IsClosing s → f (cs ++ s) = some (a, rest ++ s)) ∨ rest = [] ∧ ∀ s, IsClosing s → f (cs ++ s) = some (a, [])
  back : ∀ {cs s a rest}, IsClosing s → f (cs ++ s) = some (a, rest) →
    (∃ before, f cs = some (a, before) ∧ rest = before ++ s) ∨ rest.length + into ≤ s.length

/-- A reader that does the same with closing signs behind a text as without them. -/
structure Exact {α : Type} (f : Reader α) : Prop where
  suffix : ∀ {cs a rest}, f cs = some (a, rest) → rest <:+ cs
  append : ∀ {cs s}, IsClosing s → f (cs ++ s) = (f cs).map fun result => (result.1, result.2 ++ s)

theorem Exact.local {α : Type} {into : Nat} {f : Reader α} (hf : Exact f) : Local into f where
  suffix := hf.suffix
  onward h := Or.inl fun s hs => by rw [hf.append hs, h]; rfl
  back hs h := by
    rw [hf.append hs] at h
    obtain ⟨⟨a, before⟩, first, h⟩ := Option.map_eq_some_iff.1 h
    cases h
    exact Or.inl ⟨before, first, rfl⟩

namespace IsClosing

variable {s : List Char}

theorem exists_cons (h : IsClosing s) : ∃ more, s = ')' :: more := by
  cases h <;> exact ⟨_, rfl⟩

theorem length_pos (h : IsClosing s) : 1 ≤ s.length := by
  cases h <;> simp

theorem mem {c : Char} (h : IsClosing s) (hc : c ∈ s) : c = ')' ∨ c = '$' := by
  cases h <;> simp_all

/-- What starts no later than closing signs does so without them. -/
theorem prefix_append_iff (h : IsClosing s) {pre cs : List Char} (other : ')' ∉ pre) :
    pre <+: cs ++ s ↔ pre <+: cs := by
  constructor
  · intro start
    rcases List.prefix_or_prefix_of_prefix start (List.prefix_append cs s) with whole | ⟨more, rfl⟩
    · exact whole
    · obtain ⟨after, rfl⟩ := h.exists_cons
      cases more with
      | nil => simp
      | cons c more =>
        rw [List.prefix_append_right_inj] at start
        obtain rfl : c = ')' := (List.cons_prefix_cons.1 start).1
        exact absurd (by simp) other
  · exact fun start => start.trans (List.prefix_append ..)

end IsClosing

namespace Local

variable {α β : Type} {into : Nat} {f : Reader α} {g : α → Reader β}

theorem pure (a : α) : Local into fun cs => some (a, cs) where
  suffix h := by
    cases h
    exact List.suffix_rfl
  onward h := by
    cases h
    exact Or.inl fun _ _ => rfl
  back _ h := by
    cases h
    exact Or.inl ⟨_, rfl, rfl⟩

theorem fail : Local into fun _ => (none : Option (α × List Char)) :=
  ⟨fun h => (nomatch h), fun h => (nomatch h), fun _ h => (nomatch h)⟩

/-- One local reader after another. -/
theorem bind (hf : Local into f) (hg : ∀ a, Local into (g a)) :
    Local into fun cs => (f cs).bind fun result => g result.1 result.2 where
  suffix h := by
    obtain ⟨⟨a, rest⟩, first, second⟩ := Option.bind_eq_some_iff.1 h
    exact ((hg a).suffix second).trans (hf.suffix first)
  onward h := by
    obtain ⟨⟨a, between⟩, first, second⟩ := Option.bind_eq_some_iff.1 h
    rcases hf.onward first with on | ⟨rfl, swallowed⟩
    · rcases (hg a).onward second with on' | ⟨rfl, swallowed⟩
      · exact Or.inl fun s hs => by rw [on s hs]; exact on' s hs
      · exact Or.inr ⟨rfl, fun s hs => by rw [on s hs]; exact swallowed s hs⟩
    · obtain rfl := List.suffix_nil.1 ((hg a).suffix second)
      exact Or.inr ⟨rfl, fun s hs => by rw [swallowed s hs]; exact second⟩
  back hs h := by
    obtain ⟨⟨a, between⟩, first, second⟩ := Option.bind_eq_some_iff.1 h
    rcases hf.back hs first with ⟨before, first', rfl⟩ | far
    · rcases (hg a).back hs second with ⟨before', second', rfl⟩ | far
      · exact Or.inl ⟨before', by rw [first']; exact second', rfl⟩
      · exact Or.inr far
    · have := ((hg a).suffix second).length_le
      exact Or.inr (by dsimp only at this; omega)

/-- A local reader whose result is looked at. -/
theorem bindOption (hf : Local into f) (h : α → Option β) :
    Local into fun cs => (f cs).bind fun result => (h result.1).map (·, result.2) := by
  refine bind (g := fun a cs => (h a).map (·, cs)) hf fun a => ?_
  cases h a with
  | none => exact fail
  | some b => exact pure b

theorem map (hf : Local into f) (h : α → β) : Local into fun cs => (f cs).map fun result => (h result.1, result.2) := by
  have same : (fun cs => (f cs).map fun result => (h result.1, result.2)) =
      fun cs => (f cs).bind fun result => (some (h result.1)).map (·, result.2) := by
    funext cs
    cases f cs <;> rfl
  rw [same]
  exact hf.bindOption fun a => some (h a)

theorem ofOption (a : Option α) : Local into fun cs => a.map (·, cs) := by
  cases a with
  | none => exact fail
  | some a => exact pure a

/-- Going further is going far enough. -/
theorem weaken (hf : Local 1 f) : Local 0 f where
  suffix := hf.suffix
  onward := hf.onward
  back hs h := (hf.back hs h).imp_right fun far => by omega

/-- A reader that may stop at the closing signs, before one that does not get through them. -/
theorem bindThrough {f : Reader α} (hf : Local 0 f) (hg : ∀ a, Local 1 (g a))
    (stuck : ∀ a s rest, IsClosing s → rest <:+ s → g a rest = none) :
    Local 1 fun cs => (f cs).bind fun result => g result.1 result.2 where
  suffix := (hf.bind fun a => (hg a).weaken).suffix
  onward := (hf.bind fun a => (hg a).weaken).onward
  back {cs s b rest} hs h := by
    obtain ⟨⟨a, between⟩, first, second⟩ := Option.bind_eq_some_iff.1 h
    rcases hf.back hs first with ⟨before, first', rfl⟩ | far
    · refine ((hg a).back hs second).imp_left fun ⟨before', second', same⟩ => ⟨before', ?_, same⟩
      rw [first']
      exact second'
    · have inside : between <:+ s := List.suffix_of_suffix_length_le (hf.suffix first) (List.suffix_append cs s) far
      have none : g a between = none := stuck a s between hs inside
      rw [none] at second
      cases second

/-- A reader that needs a character is local when it is so behind every character. -/
theorem of_cons (empty : f [] = none) (each : ∀ c, Local into fun cs => f (c :: cs)) (small : into ≤ 1) :
    Local into f where
  suffix {cs a rest} h := by
    cases cs with
    | nil =>
      rw [empty] at h
      cases h
    | cons c cs => exact ((each c).suffix h).trans (List.suffix_cons c cs)
  onward {cs a rest} h := by
    cases cs with
    | nil =>
      rw [empty] at h
      cases h
    | cons c cs => exact (each c).onward h
  back {cs s a rest} hs h := by
    cases cs with
    | nil =>
      obtain ⟨more, rfl⟩ := hs.exists_cons
      have := ((each ')').suffix h).length_le
      exact Or.inr (by rw [List.length_cons]; omega)
    | cons c cs => exact (each c).back hs h

end Local

/-- Reads by one reader behind a start, and by another where the text starts otherwise. -/
def onPrefix {α : Type} (pre : List Char) (f g : Reader α) : Reader α :=
  fun cs => if pre <+: cs then f (cs.drop pre.length) else g cs

section
variable {α : Type} {into : Nat} {f g : Reader α} {pre cs : List Char}

theorem onPrefix_append : onPrefix pre f g (pre ++ cs) = f cs := by
  rw [onPrefix, if_pos (List.prefix_append ..), List.drop_left]

theorem onPrefix_otherwise (h : ¬ pre <+: cs) : onPrefix pre f g cs = g cs :=
  if_neg h

theorem Exact.onPrefix (other : ')' ∉ pre) (hf : Exact f) (hg : Exact g) : Exact (onPrefix pre f g) where
  suffix {cs a rest} h := by
    by_cases start : pre <+: cs
    · obtain ⟨after, rfl⟩ := start
      rw [onPrefix_append] at h
      exact (hf.suffix h).trans (List.suffix_append ..)
    · rw [onPrefix_otherwise start] at h
      exact hg.suffix h
  append {cs s} hs := by
    by_cases start : pre <+: cs
    · obtain ⟨after, rfl⟩ := start
      rw [List.append_assoc, onPrefix_append, onPrefix_append]
      exact hf.append hs
    · rw [onPrefix_otherwise (mt (hs.prefix_append_iff other).1 start), onPrefix_otherwise start]
      exact hg.append hs

/-- A choice by how the text starts is local. -/
theorem Local.onPrefix (other : ')' ∉ pre) (hf : Local into f) (hg : Local into g) : Local into (onPrefix pre f g) where
  suffix {cs a rest} h := by
    by_cases start : pre <+: cs
    · obtain ⟨after, rfl⟩ := start
      rw [onPrefix_append] at h
      exact (hf.suffix h).trans (List.suffix_append ..)
    · rw [onPrefix_otherwise start] at h
      exact hg.suffix h
  onward {cs a rest} h := by
    by_cases start : pre <+: cs
    · obtain ⟨after, rfl⟩ := start
      rw [onPrefix_append] at h
      simp only [List.append_assoc, onPrefix_append]
      exact hf.onward h
    · rw [onPrefix_otherwise start] at h
      have same (s : List Char) (hs : IsClosing s) : Regex.onPrefix pre f g (cs ++ s) = g (cs ++ s) :=
        onPrefix_otherwise (mt (hs.prefix_append_iff other).1 start)
      exact (hg.onward h).imp (fun on s hs => (same s hs).trans (on s hs))
        fun ⟨empty, swallowed⟩ => ⟨empty, fun s hs => (same s hs).trans (swallowed s hs)⟩
  back {cs s a rest} hs h := by
    by_cases start : pre <+: cs
    · obtain ⟨after, rfl⟩ := start
      rw [List.append_assoc, onPrefix_append] at h
      rw [onPrefix_append]
      exact hf.back hs h
    · rw [onPrefix_otherwise (mt (hs.prefix_append_iff other).1 start)] at h
      rw [onPrefix_otherwise start]
      exact hg.back hs h

end

/-- Reads by a reader whose result is looked at, and by another where the first one fails. -/
def orElse {α β : Type} (f : Reader α) (h : α → Option β) (g : Reader β) : Reader β :=
  fun cs =>
    match f cs with
    | some (a, rest) => (h a).map (·, rest)
    | none => g cs

/-- A local reader takes over where an exact one fails. -/
theorem Exact.orElse {α β : Type} {into : Nat} {f : Reader α} {g : Reader β} (hf : Exact f) (h : α → Option β)
    (hg : Local into g) : Local into (orElse f h g) where
  suffix {cs b rest} found := by
    unfold Regex.orElse at found
    cases first : f cs with
    | none =>
      rw [first] at found
      exact hg.suffix found
    | some result =>
      rw [first] at found
      obtain ⟨_, -, he⟩ := Option.map_eq_some_iff.1 found
      cases he
      exact hf.suffix first
  onward {cs b rest} found := by
    unfold Regex.orElse at found ⊢
    cases first : f cs with
    | none =>
      rw [first] at found
      have fails (s : List Char) (hs : IsClosing s) : f (cs ++ s) = none := by
        rw [hf.append hs, first]
        rfl
      refine (hg.onward found).imp (fun on s hs => ?_) fun ⟨empty, swallowed⟩ => ⟨empty, fun s hs => ?_⟩
      · rw [fails s hs]
        exact on s hs
      · rw [fails s hs]
        exact swallowed s hs
    | some result =>
      rw [first] at found
      obtain ⟨b, hb, he⟩ := Option.map_eq_some_iff.1 found
      cases he
      refine Or.inl fun s hs => ?_
      rw [hf.append hs, first]
      simp [hb]
  back {cs s b rest} hs found := by
    unfold Regex.orElse at found ⊢
    rw [hf.append hs] at found
    cases first : f cs with
    | none =>
      rw [first] at found
      exact hg.back hs found
    | some result =>
      rw [first] at found
      obtain ⟨b, hb, he⟩ := Option.map_eq_some_iff.1 found
      cases he
      exact Or.inl ⟨result.2, by simp [hb], rfl⟩

/-! ## Blanks and comments -/

section
variable {cs s content rest : List Char} {verbose inComment : Bool} {count : Nat}

theorem dropTrivia_suffix : dropTrivia inComment cs <:+ cs := by
  induction cs generalizing inComment with
  | nil => exact List.suffix_rfl
  | cons c cs ih =>
    rw [dropTrivia]
    split
    · exact ih.trans (List.suffix_cons ..)
    · split
      · exact ih.trans (List.suffix_cons ..)
      · split
        · exact ih.trans (List.suffix_cons ..)
        · exact List.suffix_rfl

theorem skip_nil : skip verbose [] = [] := by
  cases verbose <;> rfl

theorem skip_suffix : skip verbose cs <:+ cs := by
  cases verbose
  · exact List.suffix_rfl
  · exact dropTrivia_suffix

/-- Closing signs behind a text are left over with what is left of it, or a comment takes them in. -/
theorem dropTrivia_append : (∀ s, IsClosing s → dropTrivia inComment (cs ++ s) = dropTrivia inComment cs ++ s) ∨
    dropTrivia inComment cs = [] ∧ ∀ s, IsClosing s → dropTrivia inComment (cs ++ s) = [] := by
  induction cs generalizing inComment with
  | nil =>
    cases inComment with
    | false => exact Or.inl fun s hs => by cases hs <;> decide
    | true => exact Or.inr ⟨rfl, fun s hs => by cases hs <;> decide⟩
  | cons c cs ih =>
    simp only [List.cons_append, dropTrivia]
    split
    · exact ih
    · split
      · exact ih
      · split
        · exact ih
        · exact Or.inl fun _ _ => rfl

theorem skip_append (verbose : Bool) (cs : List Char) :
    (∀ s, IsClosing s → skip verbose (cs ++ s) = skip verbose cs ++ s) ∨
      skip verbose cs = [] ∧ ∀ s, IsClosing s → skip verbose (cs ++ s) = [] := by
  cases verbose
  · exact Or.inl fun _ _ => rfl
  · exact dropTrivia_append

/-- There is nothing to skip before closing signs. -/
theorem IsClosing.skip (hs : IsClosing s) : skip verbose s = s := by
  cases verbose <;> cases hs <;> rfl

theorem local_skip {into : Nat} (small : into ≤ 1) : Local into fun cs => some ((), skip verbose cs) where
  suffix h := by
    cases h
    exact skip_suffix
  onward {cs a rest} h := by
    cases h
    rcases skip_append verbose cs with on | ⟨empty, swallowed⟩
    · exact Or.inl fun s hs => by rw [on s hs]
    · exact Or.inr ⟨empty, fun s hs => by rw [swallowed s hs]⟩
  back {cs s a rest} hs h := by
    cases h
    rcases skip_append verbose cs with on | ⟨-, swallowed⟩
    · exact Or.inl ⟨_, rfl, on s hs⟩
    · refine Or.inr ?_
      rw [swallowed s hs, List.length_nil, Nat.zero_add]
      exact Nat.le_trans small hs.length_pos

/-- Before enough characters are taken, the next one is passed over or taken, whatever comes after it. -/
theorem takeCounting_cons_cases (some : count ≠ 0) (c : Char) :
    (∃ inComment', ∀ cs, takeCounting verbose inComment count (c :: cs) = takeCounting verbose inComment' count cs) ∨
      ∀ cs, takeCounting verbose inComment count (c :: cs) =
        (takeCounting verbose false (count - 1) cs).map fun result => (c :: result.1, result.2) := by
  simp only [takeCounting, if_neg some]
  split
  · exact Or.inl ⟨_, fun _ => rfl⟩
  · split
    · exact Or.inl ⟨_, fun _ => rfl⟩
    · split
      · exact Or.inl ⟨_, fun _ => rfl⟩
      · refine Or.inr fun cs => ?_
        cases takeCounting verbose false (count - 1) cs <;> rfl

theorem takeCounting_zero : takeCounting verbose inComment 0 cs = some ([], cs) := by
  cases cs <;> simp [takeCounting]

theorem takeCounting_nil (some : count ≠ 0) : takeCounting verbose inComment count [] = none :=
  if_neg some

theorem takeCounting_suffix (h : takeCounting verbose inComment count cs = some (content, rest)) :
    rest <:+ cs ∧ (count ≠ 0 → rest.length < cs.length) := by
  induction cs generalizing inComment count content with
  | nil =>
    by_cases zero : count = 0
    · subst zero
      cases h
      exact ⟨List.suffix_rfl, fun some => absurd rfl some⟩
    · rw [takeCounting_nil zero] at h
      cases h
  | cons c cs ih =>
    by_cases zero : count = 0
    · subst zero
      rw [takeCounting_zero] at h
      cases h
      exact ⟨List.suffix_rfl, fun some => absurd rfl some⟩
    · have behind : rest <:+ cs := by
        rcases takeCounting_cons_cases zero c with ⟨_, passes⟩ | takes
        · rw [passes] at h
          exact (ih h).1
        · rw [takes] at h
          obtain ⟨⟨_, _⟩, later, he⟩ := Option.map_eq_some_iff.1 h
          cases he
          exact (ih later).1
      exact ⟨behind.trans (List.suffix_cons ..), fun _ => Nat.lt_succ_of_le behind.length_le⟩

theorem takeCounting_append (h : takeCounting verbose inComment count cs = some (content, rest)) (s : List Char) :
    takeCounting verbose inComment count (cs ++ s) = some (content, rest ++ s) := by
  induction cs generalizing inComment count content with
  | nil =>
    by_cases zero : count = 0
    · subst zero
      cases h
      exact takeCounting_zero
    · rw [takeCounting_nil zero] at h
      cases h
  | cons c cs ih =>
    by_cases zero : count = 0
    · subst zero
      rw [takeCounting_zero] at h ⊢
      cases h
      rfl
    · rw [List.cons_append]
      rcases takeCounting_cons_cases zero c with ⟨_, passes⟩ | takes
      · rw [passes] at h ⊢
        exact ih h
      · rw [takes] at h ⊢
        obtain ⟨⟨_, _⟩, later, he⟩ := Option.map_eq_some_iff.1 h
        cases he
        rw [ih later]
        rfl

/-- What is taken of a longer text only ends in what is behind the shorter one. -/
theorem takeCounting_back (h : takeCounting verbose inComment count (cs ++ s) = some (content, rest)) :
    (∃ before, takeCounting verbose inComment count cs = some (content, before) ∧ rest = before ++ s) ∨
      rest.length < s.length := by
  induction cs generalizing inComment count content with
  | nil =>
    by_cases zero : count = 0
    · subst zero
      rw [takeCounting_zero] at h
      cases h
      exact Or.inl ⟨[], rfl, rfl⟩
    · exact Or.inr ((takeCounting_suffix h).2 zero)
  | cons c cs ih =>
    by_cases zero : count = 0
    · subst zero
      rw [takeCounting_zero] at h
      cases h
      exact Or.inl ⟨_, takeCounting_zero, rfl⟩
    · rw [List.cons_append] at h
      rcases takeCounting_cons_cases zero c with ⟨_, passes⟩ | takes
      · rw [passes] at h
        simp only [passes]
        exact ih h
      · rw [takes] at h
        obtain ⟨⟨_, _⟩, later, he⟩ := Option.map_eq_some_iff.1 h
        cases he
        refine (ih later).imp_left fun ⟨before, hb, same⟩ => ⟨before, ?_, same⟩
        rw [takes, hb]
        rfl

theorem local_takeCounting : Local 1 (takeCounting verbose inComment count) where
  suffix h := (takeCounting_suffix h).1
  onward h := Or.inl fun s _ => takeCounting_append h s
  back _ h := takeCounting_back h

theorem takeBraced_suffix (h : takeBraced verbose inComment cs = some (content, rest)) : rest <:+ cs := by
  induction cs generalizing inComment content with
  | nil => cases h
  | cons c cs ih =>
    refine List.IsSuffix.trans ?_ (List.suffix_cons c cs)
    rw [takeBraced] at h
    split at h
    · exact ih h
    · split at h
      · exact ih h
      · split at h
        · exact ih h
        · split at h
          · cases h
            exact List.suffix_rfl
          · split at h
            · cases h
            · next later =>
              cases h
              exact ih later

/-- No closing sign is a brace. -/
theorem takeBraced_append (hs : IsClosing s) : takeBraced verbose inComment (cs ++ s) =
    (takeBraced verbose inComment cs).map fun result => (result.1, result.2 ++ s) := by
  induction cs generalizing inComment with
  | nil => cases verbose <;> cases inComment <;> cases hs <;> decide
  | cons c cs ih =>
    simp only [List.cons_append, takeBraced]
    split
    · exact ih
    · split
      · exact ih
      · split
        · exact ih
        · split
          · rfl
          · rw [ih]
            cases takeBraced verbose false cs <;> rfl

theorem exact_takeBraced : Exact (takeBraced verbose inComment) :=
  ⟨takeBraced_suffix, takeBraced_append⟩

end

/-- Reads from the next character that counts. -/
def afterBlanks {α : Type} (verbose : Bool) (f : Reader α) : Reader α :=
  fun cs => f (skip verbose cs)

theorem Local.afterBlanks {α : Type} {verbose : Bool} {into : Nat} {f : Reader α} (hf : Local into f)
    (small : into ≤ 1 := by decide) : Local into (afterBlanks verbose f) :=
  (local_skip small).bind fun _ => hf

/-! ## Escapes -/

section
variable {flags : Flags} {digits : Nat} {negated : Bool} {cs s rest : List Char} {primitive : Primitive}

/-- The character that some digits name. -/
def codePrimitive? (flags : Flags) (digits : Option Nat) (content : List Char) : Option Primitive :=
  ((Numeral.readHex? content).bind charWithCode?).bind fun c =>
    if digits = some 2 ∧ !flags.unicode ∧ 128 ≤ c.toNat then none else some (.literal c)

theorem readCode_eq : readCode flags digits = afterBlanks flags.verbose (onPrefix ['{']
    (fun cs => (takeBraced flags.verbose false cs).bind fun result =>
      (codePrimitive? flags none result.1).map (·, result.2))
    (fun cs => (takeCounting flags.verbose false digits cs).bind fun result =>
      (codePrimitive? flags (some digits) result.1).map (·, result.2))) := by
  funext cs
  rw [afterBlanks, readCode]
  generalize skip flags.verbose cs = cs
  by_cases start : ['{'] <+: cs
  · obtain ⟨after, rfl⟩ := start
    rw [onPrefix_append]
    simp only [List.cons_append, List.nil_append, codePrimitive?]
    cases takeBraced flags.verbose false after with
    | none => rfl
    | some result =>
      simp only [Option.bind_eq_bind, Option.bind_some]
      cases (Numeral.readHex? result.1).bind charWithCode? <;> rfl
  · rw [onPrefix_otherwise start]
    split
    · exact absurd (by simp) start
    · simp only [codePrimitive?]
      cases takeCounting flags.verbose false digits cs with
      | none => rfl
      | some result =>
        simp only [Option.bind_eq_bind, Option.bind_some]
        cases (Numeral.readHex? result.1).bind charWithCode? with
        | none => rfl
        | some c =>
          simp only [Option.bind_some, Option.some.injEq]
          split <;> rfl

theorem local_readCode : Local 1 (readCode flags digits) := by
  rw [readCode_eq]
  have braced : ')' ∉ ['{'] := by decide
  exact (Local.onPrefix braced (exact_takeBraced.local.bindOption _) (local_takeCounting.bindOption _)).afterBlanks

/-- The class that a property names. -/
def propertyPrimitive? (flags : Flags) (negated : Bool) (content : List Char) : Option Primitive :=
  (if flags.unicode then (PropertyQuery.ofText content).class? else none).map fun cls =>
    .cls ((if flags.ignoreCase then CharClass.folded cls else cls).negateIf
      (negated != (PropertyQuery.ofText content).negated))

theorem readProperty_eq : readProperty flags negated = afterBlanks flags.verbose (onPrefix ['{']
    (fun cs => (takeBraced flags.verbose false cs).bind fun result =>
      (propertyPrimitive? flags negated result.1).map (·, result.2))
    (fun cs => (takeCounting flags.verbose false 1 cs).bind fun result =>
      (propertyPrimitive? flags negated result.1).map (·, result.2))) := by
  funext cs
  rw [afterBlanks, readProperty]
  generalize skip flags.verbose cs = cs
  simp only [propertyPrimitive?]
  by_cases start : ['{'] <+: cs
  · obtain ⟨after, rfl⟩ := start
    rw [onPrefix_append]
    simp only [List.cons_append, List.nil_append]
    cases takeBraced flags.verbose false after with
    | none => rfl
    | some result =>
      dsimp only [Option.bind_eq_bind, Option.bind_some]
      split
      · cases (PropertyQuery.ofText result.1).class? <;> rfl
      · rfl
  · rw [onPrefix_otherwise start]
    split
    · exact absurd (by simp) start
    · cases takeCounting flags.verbose false 1 cs with
      | none => rfl
      | some result =>
        dsimp only [Option.bind_eq_bind, Option.bind_some]
        split
        · cases (PropertyQuery.ofText result.1).class? <;> rfl
        · rfl

theorem local_readProperty : Local 1 (readProperty flags negated) := by
  rw [readProperty_eq]
  have braced : ')' ∉ ['{'] := by decide
  exact (Local.onPrefix braced (exact_takeBraced.local.bindOption _) (local_takeCounting.bindOption _)).afterBlanks

/-- What is read behind the sign for a boundary: a condition with a name in braces, or else nothing. -/
theorem readBoundary_eq (cs : List Char) : readBoundary flags cs =
    if ['{'] <+: cs then
      (takeBraced flags.verbose false (cs.drop 1)).bind fun result =>
        if result.1.head?.any isLookNameChar then
          (wordLook? flags.wordKind result.1).map fun condition => (.look condition, result.2)
        else some (.look (.boundary flags.wordKind), cs)
    else some (.look (.boundary flags.wordKind), cs) := by
  by_cases start : ['{'] <+: cs
  · obtain ⟨after, rfl⟩ := start
    simp only [List.cons_append, List.nil_append, readBoundary]
    rw [if_pos (by simp)]
    simp only [List.drop_succ_cons, List.drop_zero]
    cases takeBraced flags.verbose false after with
    | none => rfl
    | some result =>
      simp only [Option.bind_eq_bind, Option.bind_some]
      cases result.1 with
      | nil => rfl
      | cons c cs =>
        have first : (c :: cs).head?.any isLookNameChar = isLookNameChar c := rfl
        dsimp only
        by_cases named : isLookNameChar c = true
        · rw [if_pos named, if_pos (first.trans named)]
          cases wordLook? flags.wordKind (c :: cs) <;> rfl
        · rw [if_neg named, if_neg (first ▸ named)]
  · rw [if_neg start, readBoundary]
    rintro after rfl
    exact absurd (by simp) start

theorem exact_readBoundary : Exact (readBoundary flags) := by
  refine ⟨fun {cs a rest} h => ?_, fun {cs s} hs => ?_⟩
  · rw [readBoundary_eq] at h
    split at h
    · obtain ⟨result, taken, h⟩ := Option.bind_eq_some_iff.1 h
      split at h
      · obtain ⟨_, -, h⟩ := Option.map_eq_some_iff.1 h
        cases h
        exact (takeBraced_suffix taken).trans (List.drop_suffix ..)
      · cases h
        exact List.suffix_rfl
    · cases h
      exact List.suffix_rfl
  · rw [readBoundary_eq, readBoundary_eq]
    have stays : ['{'] <+: cs ++ s ↔ ['{'] <+: cs := hs.prefix_append_iff (by decide)
    by_cases start : ['{'] <+: cs
    · have dropped : (cs ++ s).drop 1 = cs.drop 1 ++ s := List.drop_append_of_le_length start.length_le
      rw [if_pos (stays.2 start), if_pos start, dropped, takeBraced_append hs]
      cases takeBraced flags.verbose false (cs.drop 1) with
      | none => rfl
      | some result =>
        simp only [Option.map_some, Option.bind_some]
        split
        · cases wordLook? flags.wordKind result.1 <;> rfl
        · rfl
    · rw [if_neg (mt stays.1 start), if_neg start]
      rfl

theorem local_readEscape : Local 1 (readEscape flags) := by
  refine .of_cons rfl (fun c => ?_) (Nat.le_refl 1)
  simp only [readEscape]
  split
  · exact .pure _
  · split
    -- codes with two, four or eight digits, and properties
    iterate 3 exact local_readCode
    iterate 2 exact local_readProperty
    -- short classes, which the flags may not allow, then characters and the ends of a text
    iterate 6 exact .ofOption _
    iterate 8 exact .pure _
    · exact exact_readBoundary.local
    iterate 3 exact .pure _
    · exact .fail

end

end FieldRules.Regex
