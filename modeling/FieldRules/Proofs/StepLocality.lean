import FieldRules.Proofs.Locality

/-!
# Locality of steps

Brackets, groups and repetitions are read by local readers, made of the readers of blanks and escapes; so is every step
of reading a pattern (`local_readStep`). Only a step that opens or closes a group, or sets flags, looks at the groups
around the one at hand.
-/

namespace FieldRules.Regex

/-! ## Brackets -/

section
variable {flags : Flags} {verbose inComment : Bool} {bracket opened : Bracket} {cs s rest : List Char}

/-- What a character at the start of a bracket does, whatever comes after it: it is passed over, it stands for itself
where something follows, or the start is over. -/
theorem readLeading_cons_cases (c : Char) :
    (∃ inComment' bracket', ∀ cs,
      readLeading verbose inComment bracket (c :: cs) = readLeading verbose inComment' bracket' cs) ∨
    (∀ cs, readLeading verbose inComment bracket (c :: cs) =
      if skip verbose cs = [] then none else some (bracket.pushChar ']', skip verbose cs)) ∨
    ∀ cs, readLeading verbose inComment bracket (c :: cs) = some (bracket, c :: cs) := by
  simp only [readLeading]
  split
  · exact Or.inl ⟨_, _, fun _ => rfl⟩
  · split
    · exact Or.inl ⟨_, _, fun _ => rfl⟩
    · split
      · exact Or.inl ⟨_, _, fun _ => rfl⟩
      · split
        · exact Or.inl ⟨_, _, fun _ => rfl⟩
        · split
          · refine Or.inr (Or.inl fun cs => ?_)
            cases skip verbose cs <;> simp
          · exact Or.inr (Or.inr fun _ => rfl)

theorem readLeading_suffix (h : readLeading verbose inComment bracket cs = some (opened, rest)) : rest <:+ cs := by
  induction cs generalizing inComment bracket with
  | nil => cases h
  | cons c cs ih =>
    rcases readLeading_cons_cases c with ⟨_, _, passes⟩ | stands | ends
    · rw [passes] at h
      exact (ih h).trans (List.suffix_cons ..)
    · rw [stands] at h
      split at h
      · cases h
      · cases h
        exact skip_suffix.trans (List.suffix_cons ..)
    · rw [ends] at h
      cases h
      exact List.suffix_rfl

theorem skip_append_of_ne_nil (some : skip verbose cs ≠ []) (hs : IsClosing s) :
    skip verbose (cs ++ s) = skip verbose cs ++ s :=
  (skip_append verbose cs).elim (fun on => on s hs) fun ⟨empty, _⟩ => absurd empty some

theorem readLeading_append (h : readLeading verbose inComment bracket cs = some (opened, rest)) (hs : IsClosing s) :
    readLeading verbose inComment bracket (cs ++ s) = some (opened, rest ++ s) := by
  induction cs generalizing inComment bracket with
  | nil => cases h
  | cons c cs ih =>
    rw [List.cons_append]
    rcases readLeading_cons_cases c with ⟨_, _, passes⟩ | stands | ends
    · rw [passes] at h ⊢
      exact ih h
    · rw [stands] at h ⊢
      split at h
      · cases h
      · next some =>
        cases h
        rw [skip_append_of_ne_nil some hs, if_neg (by simp [some])]
    · rw [ends] at h ⊢
      cases h
      rfl

theorem readLeading_back (hs : IsClosing s)
    (h : readLeading verbose inComment bracket (cs ++ s) = some (opened, rest)) :
    (∃ before, readLeading verbose inComment bracket cs = some (opened, before) ∧ rest = before ++ s) ∨
      rest.length ≤ s.length := by
  induction cs generalizing inComment bracket with
  | nil => exact Or.inr (readLeading_suffix h).length_le
  | cons c cs ih =>
    rw [List.cons_append] at h
    rcases readLeading_cons_cases c with ⟨_, _, passes⟩ | stands | ends
    · rw [passes] at h
      simp only [passes]
      exact ih h
    · rw [stands] at h
      split at h
      · cases h
      · cases h
        by_cases some : skip verbose cs = []
        · refine Or.inr ?_
          rcases skip_append verbose cs with on | ⟨-, swallowed⟩
          · simp [on s hs, some]
          · simp [swallowed s hs]
        · exact Or.inl ⟨_, by rw [stands, if_neg some], skip_append_of_ne_nil some hs⟩
    · rw [ends] at h
      cases h
      exact Or.inl ⟨_, ends cs, rfl⟩

theorem local_readLeading : Local 0 (readLeading verbose inComment bracket) where
  suffix := readLeading_suffix
  onward h := Or.inl fun _ hs => readLeading_append h hs
  back hs h := readLeading_back hs h

theorem openBracket_eq : openBracket flags = afterBlanks flags.verbose (onPrefix ['^']
    (readLeading flags.verbose false ⟨true, none, []⟩) (readLeading flags.verbose false ⟨false, none, []⟩)) := by
  funext cs
  rw [afterBlanks, openBracket]
  generalize skip flags.verbose cs = cs
  by_cases start : ['^'] <+: cs
  · obtain ⟨after, rfl⟩ := start
    exact onPrefix_append.symm
  · rw [onPrefix_otherwise start]
    split
    · exact absurd (by simp) start
    · rfl

theorem local_openBracket : Local 0 (openBracket flags) := by
  rw [openBracket_eq]
  have sign : ')' ∉ ['^'] := by decide
  exact (Local.onPrefix sign local_readLeading local_readLeading).afterBlanks

/-! ### Items and ranges -/

/-- Characters are passed over up to a sign that closing signs do not hold: either there is none, or what stands behind
makes no difference. -/
theorem dropWhile_append_cases {p : Char → Bool} (hs : IsClosing s) (passes : p ')' = true ∧ p '$' = true)
    (cs : List Char) : (cs ++ s).dropWhile p = [] ∧ cs.dropWhile p = [] ∨
      cs.dropWhile p ≠ [] ∧ (cs ++ s).dropWhile p = cs.dropWhile p ++ s ∧ (cs ++ s).takeWhile p = cs.takeWhile p := by
  induction cs with
  | nil => exact Or.inl ⟨by cases hs <;> simp [passes], rfl⟩
  | cons c cs ih =>
    cases here : p c with
    | true => simpa [List.dropWhile_cons, List.takeWhile_cons, here] using ih
    | false => exact Or.inr (by simp [here])

/-- The class with a name, given what follows the opening bracket, its colon and a sign for the complement. -/
def readName (flags : Flags) (negated : Bool) (cs : List Char) : Option (Option Part × List Char) :=
  match cs.dropWhile (· != ':') with
  | ':' :: ']' :: rest =>
    match bracketNames.lookup (String.ofList (cs.takeWhile (· != ':'))) with
    | none => none
    | some ranges =>
      let cls := (Bracket.foldCase flags (.ofRanges ranges)).negateIf negated
      some (if negated ∧ !flags.unicode then none else some ⟨cls, 0⟩, rest)
  | _ => none

theorem readName_eq (negated : Bool) : readName flags negated = fun cs =>
    onPrefix [':', ']']
      (fun rest =>
        (bracketNames.lookup (String.ofList (cs.takeWhile (· != ':')))).map fun ranges =>
          (if negated ∧ !flags.unicode then none
            else some ⟨(Bracket.foldCase flags (.ofRanges ranges)).negateIf negated, 0⟩, rest))
      (fun _ => none) (cs.dropWhile (· != ':')) := by
  funext cs
  unfold readName
  split
  · next rest found =>
    rw [found]
    change _ = onPrefix [':', ']'] _ _ ([':', ']'] ++ rest)
    rw [onPrefix_append]
    cases bracketNames.lookup (String.ofList (cs.takeWhile (· != ':'))) <;> rfl
  · next other =>
    rw [onPrefix_otherwise]
    rintro ⟨after, found⟩
    exact other after found.symm

theorem exact_readName (negated : Bool) : Exact (readName flags negated) := by
  rw [readName_eq]
  refine ⟨fun {cs a rest} h => ?_, fun {cs s} hs => ?_⟩
  · by_cases start : [':', ']'] <+: cs.dropWhile (· != ':')
    · obtain ⟨after, found⟩ := start
      rw [← found, onPrefix_append] at h
      obtain ⟨ranges, -, h⟩ := Option.map_eq_some_iff.1 h
      cases h
      exact (List.suffix_append ..).trans (found ▸ List.dropWhile_suffix _)
    · rw [onPrefix_otherwise start] at h
      cases h
  · rcases dropWhile_append_cases (p := (· != ':')) hs (by decide) cs with ⟨empty, empty'⟩ | ⟨some, dropped, taken⟩
    · rw [empty, empty', onPrefix_otherwise (by simp), onPrefix_otherwise (by simp)]
      rfl
    · rw [dropped, taken]
      by_cases start : [':', ']'] <+: cs.dropWhile (· != ':')
      · obtain ⟨after, found⟩ := start
        rw [← found, List.append_assoc, onPrefix_append, onPrefix_append]
        cases bracketNames.lookup (String.ofList (cs.takeWhile (· != ':'))) <;> rfl
      · rw [onPrefix_otherwise start, onPrefix_otherwise (mt (hs.prefix_append_iff (by decide)).1 start)]
        rfl

/-- A caret before the name of a class asks for its complement. -/
def readCaret : List Char → Bool × List Char
  | '^' :: cs => (true, cs)
  | cs => (false, cs)

theorem readBracketName_colon (cs : List Char) :
    readBracketName flags (':' :: cs) = readName flags (readCaret cs).1 (readCaret cs).2 :=
  rfl

theorem readBracketName_eq : readBracketName flags =
    onPrefix [':', '^'] (readName flags true) (onPrefix [':'] (readName flags false) fun _ => none) := by
  funext cs
  by_cases caret : [':', '^'] <+: cs
  · obtain ⟨after, rfl⟩ := caret
    rw [onPrefix_append]
    exact readBracketName_colon ('^' :: after)
  · rw [onPrefix_otherwise caret]
    by_cases colon : [':'] <+: cs
    · obtain ⟨after, rfl⟩ := colon
      have plain : readCaret after = (false, after) := by
        rw [readCaret]
        rintro more rfl
        exact caret ⟨more, rfl⟩
      rw [onPrefix_append]
      exact (readBracketName_colon after).trans (by rw [plain])
    · rw [onPrefix_otherwise colon, readBracketName]
      rintro after rfl
      exact absurd (by simp) colon

theorem exact_readBracketName : Exact (readBracketName flags) := by
  have negated : ')' ∉ [':', '^'] := by decide
  have plain : ')' ∉ [':'] := by decide
  rw [readBracketName_eq]
  refine .onPrefix negated (exact_readName true) (.onPrefix plain (exact_readName false) ?_)
  exact ⟨fun h => (nomatch h), fun _ => rfl⟩

theorem local_readItem_cons (c : Char) : Local 1 fun cs => readItem flags (c :: cs) := by
  by_cases escaped : c = '\\'
  · subst escaped
    exact local_readEscape
  · have literal : (fun cs => readItem flags (c :: cs)) = fun cs => some (.literal c, cs) := by
      funext cs
      rw [readItem]
      exact fun same => escaped same
    rw [literal]
    exact .pure _

theorem local_readItem : Local 1 (readItem flags) :=
  .of_cons rfl local_readItem_cons (Nat.le_refl 1)

theorem readItem_length_lt {item : Primitive} (h : readItem flags cs = some (item, rest)) :
    rest.length < cs.length := by
  cases cs with
  | nil => cases h
  | cons c cs => exact Nat.lt_succ_of_le ((local_readItem_cons c).suffix h).length_le

theorem dropBlanks_append (hs : IsClosing s) : Text.dropBlanks (cs ++ s) = Text.dropBlanks cs ++ s := by
  have none : s.dropWhile Text.isBlank = s := by cases hs <;> decide
  rw [Text.dropBlanks, Text.dropBlanks, List.dropWhile_append, none]
  split
  · next empty => rw [List.isEmpty_iff.1 empty, List.nil_append]
  · rfl

theorem peekAfterHyphen_eq : peekAfterHyphen verbose cs =
    if verbose then
      if ['#'] <+: Text.dropBlanks cs then (Text.dropBlanks ((Text.dropBlanks cs).drop 1)).head?
      else (Text.dropBlanks cs).head?
    else cs.head? := by
  cases verbose with
  | false => rfl
  | true =>
    rw [peekAfterHyphen, if_pos rfl, if_pos rfl]
    generalize Text.dropBlanks cs = cs
    by_cases start : ['#'] <+: cs
    · rw [if_pos start]
      obtain ⟨after, rfl⟩ := start
      rfl
    · rw [if_neg start]
      split
      · exact absurd (by simp) start
      · rfl

/-- Whether a sign follows a hyphen is told without what stands behind. -/
theorem peekAfterHyphen_append (hs : IsClosing s) {sign : Char} (other : sign ≠ ')') :
    peekAfterHyphen verbose (cs ++ s) = some sign ↔ peekAfterHyphen verbose cs = some sign := by
  have first (cs : List Char) : (cs ++ s).head? = some sign ↔ cs.head? = some sign := by
    obtain ⟨more, rfl⟩ := hs.exists_cons
    cases cs with
    | nil => simp [other.symm]
    | cons c cs => rfl
  rw [peekAfterHyphen_eq, peekAfterHyphen_eq]
  split
  · rw [dropBlanks_append hs]
    by_cases start : ['#'] <+: Text.dropBlanks cs
    · have dropped : (Text.dropBlanks cs ++ s).drop 1 = (Text.dropBlanks cs).drop 1 ++ s :=
        List.drop_append_of_le_length start.length_le
      rw [if_pos ((hs.prefix_append_iff (by decide)).2 start), if_pos start, dropped, dropBlanks_append hs]
      exact first _
    · rw [if_neg (mt (hs.prefix_append_iff (by decide)).1 start), if_neg start]
      exact first _
  · exact first _

/-- The class of a range of characters between two items. -/
def Primitive.range? (flags : Flags) : Primitive → Primitive → Option Part
  | .literal low, .literal high =>
    if low ≤ high ∧ flags.admits high then some ⟨.between low high, 0⟩ else none
  | _, _ => none

/-- A hyphen starts the end of a range, unless a sign follows that makes it a character. -/
def startsRange (verbose : Bool) (cs : List Char) : Prop :=
  ['-'] <+: cs ∧ peekAfterHyphen verbose (cs.drop 1) ≠ some ']' ∧ peekAfterHyphen verbose (cs.drop 1) ≠ some '-'

instance : Decidable (startsRange verbose cs) :=
  inferInstanceAs (Decidable (_ ∧ _))

theorem startsRange_append (hs : IsClosing s) : startsRange verbose (cs ++ s) ↔ startsRange verbose cs := by
  unfold startsRange
  rw [hs.prefix_append_iff (by decide)]
  refine and_congr_right fun start => ?_
  have dropped : (cs ++ s).drop 1 = cs.drop 1 ++ s := List.drop_append_of_le_length start.length_le
  rw [dropped, Ne, Ne, peekAfterHyphen_append hs (by decide), peekAfterHyphen_append hs (by decide)]

/-- Reads the end of a range. -/
def readLast (flags : Flags) (first : Primitive) : Reader Part :=
  fun cs => (afterBlanks flags.verbose (readItem flags) cs).bind fun result =>
    (first.range? flags result.1).map (·, result.2)

/-- Reads what follows the first item: the end of a range, or nothing that belongs to it. -/
def readRangeEnd (flags : Flags) (first : Primitive) : Reader Part :=
  fun cs =>
    if startsRange flags.verbose cs then readLast flags first (cs.drop 1)
    else if cs = [] then none
    else (first.part? flags).map (·, cs)

theorem readRange_eq : readRange flags = fun cs =>
    (readItem flags cs).bind fun result => afterBlanks flags.verbose (readRangeEnd flags result.1) result.2 := by
  funext cs
  rw [readRange]
  refine congrArg (Option.bind _) (funext fun (first, rest) => ?_)
  dsimp only
  rw [afterBlanks, readRangeEnd]
  generalize skip flags.verbose rest = cs
  by_cases start : startsRange flags.verbose cs
  · rw [if_pos start]
    obtain ⟨⟨after, rfl⟩, noEnd, noHyphen⟩ := start
    have wide : ¬ (peekAfterHyphen flags.verbose after = some ']' ∨ peekAfterHyphen flags.verbose after = some '-') :=
      not_or.2 ⟨noEnd, noHyphen⟩
    simp only [List.cons_append, List.nil_append, if_neg wide]
    refine congrArg (Option.bind _) (funext fun (last, rest) => ?_)
    cases first with
    | literal low =>
      cases last with
      | literal high =>
        simp only [Primitive.range?]
        split <;> rfl
      | _ => rfl
    | _ => rfl
  · rw [if_neg start]
    split
    · rfl
    · next after =>
      have single : peekAfterHyphen flags.verbose after = some ']' ∨
          peekAfterHyphen flags.verbose after = some '-' := by
        by_cases closes : peekAfterHyphen flags.verbose after = some ']'
        · exact Or.inl closes
        · exact Or.inr (Decidable.not_not.1 fun other => start ⟨by simp, closes, other⟩)
      rw [if_pos single, if_neg (by simp)]
      cases first.part? flags <;> rfl
    · next other some =>
      rw [if_neg other]
      cases first.part? flags <;> rfl

theorem local_readLast (first : Primitive) : Local 0 (readLast flags first) :=
  local_readItem.weaken.afterBlanks.bindOption fun item => first.range? flags item

theorem local_readRangeEnd (first : Primitive) : Local 0 (readRangeEnd flags first) where
  suffix {cs a rest} h := by
    unfold readRangeEnd at h
    split at h
    · exact ((local_readLast first).suffix h).trans (List.drop_suffix ..)
    · split at h
      · cases h
      · obtain ⟨_, -, he⟩ := Option.map_eq_some_iff.1 h
        cases he
        exact List.suffix_rfl
  onward {cs a rest} h := by
    unfold readRangeEnd at h ⊢
    by_cases start : startsRange flags.verbose cs
    · rw [if_pos start] at h
      refine ((local_readLast first).onward h).imp (fun on s hs => ?_) fun ⟨empty, swallowed⟩ => ⟨empty, fun s hs => ?_⟩
      all_goals
        have dropped : (cs ++ s).drop 1 = cs.drop 1 ++ s := List.drop_append_of_le_length start.1.length_le
        rw [if_pos ((startsRange_append hs).2 start), dropped]
      · exact on s hs
      · exact swallowed s hs
    · rw [if_neg start] at h
      split at h
      · cases h
      · next some =>
        obtain ⟨part, hp, he⟩ := Option.map_eq_some_iff.1 h
        cases he
        refine Or.inl fun s hs => ?_
        rw [if_neg (mt (startsRange_append hs).1 start), if_neg (by simp [some]), hp]
        rfl
  back {cs s a rest} hs h := by
    unfold readRangeEnd at h ⊢
    by_cases start : startsRange flags.verbose cs
    · have dropped : (cs ++ s).drop 1 = cs.drop 1 ++ s := List.drop_append_of_le_length start.1.length_le
      rw [if_pos ((startsRange_append hs).2 start), dropped] at h
      rw [if_pos start]
      exact (local_readLast first).back hs h
    · rw [if_neg (mt (startsRange_append hs).1 start)] at h
      split at h
      · cases h
      · obtain ⟨part, hp, he⟩ := Option.map_eq_some_iff.1 h
        cases he
        by_cases some : cs = []
        · subst some
          exact Or.inr (Nat.le_refl _)
        · exact Or.inl ⟨cs, by rw [if_neg start, if_neg some, hp]; rfl, rfl⟩

theorem local_readRange : Local 0 (readRange flags) := by
  rw [readRange_eq]
  exact local_readItem.weaken.bind fun first => (local_readRangeEnd first).afterBlanks

/-! ### Rounds -/

variable {outer : List Bracket} {n : Nat}

/-- What an opening bracket inside a bracket starts: a class with a name, or a bracket of its own. -/
def readInner (flags : Flags) (bracket : Bracket) (outer : List Bracket) : Reader (Bracket × List Bracket) :=
  orElse (readBracketName flags) (fun part => part.map fun part => (bracket.push part, outer))
    fun cs => (openBracket flags cs).map fun result => ((result.1, bracket :: outer), result.2)

/-- Reads an item or operation of a bracket, or goes into one inside. -/
def readInside (flags : Flags) (bracket : Bracket) (outer : List Bracket) : Reader (Bracket × List Bracket) :=
  onPrefix ['['] (readInner flags bracket outer) <|
  onPrefix ['&', '&'] (fun cs => some ((bracket.operate flags .intersection, outer), cs)) <|
  onPrefix ['-', '-'] (fun cs => some ((bracket.operate flags .difference, outer), cs)) <|
  onPrefix ['~', '~'] (fun cs => some ((bracket.operate flags .symmetricDifference, outer), cs)) <|
  fun cs => (readRange flags cs).map fun result => ((bracket.push result.1, outer), result.2)

theorem bracketStep_closing (h : skip flags.verbose cs = ']' :: rest) : bracketStep flags bracket outer cs =
    (bracket.close flags).bind fun part =>
      match outer with
      | [] => some (.closed part rest)
      | parent :: outer => some (.inside (parent.push part) outer rest) := by
  rw [bracketStep, h]
  rfl

theorem bracketStep_inside (h : ¬ [']'] <+: skip flags.verbose cs) : bracketStep flags bracket outer cs =
    (readInside flags bracket outer (skip flags.verbose cs)).map fun result =>
      .inside result.1.1 result.1.2 result.2 := by
  rw [bracketStep]
  generalize skip flags.verbose cs = cs at h
  split
  · rfl
  · next rest =>
    have inner : readInside flags bracket outer ('[' :: rest) = readInner flags bracket outer rest := onPrefix_append
    rw [inner, readInner, orElse]
    cases readBracketName flags rest with
    | none => cases openBracket flags rest <;> rfl
    | some result => obtain ⟨_ | part, rest⟩ := result <;> rfl
  · exact absurd (by simp) h
  · rfl
  · rfl
  · rfl
  · next noBracket _ noAnd noHyphens noTildes =>
    have item : readInside flags bracket outer cs =
        (readRange flags cs).map fun result => ((bracket.push result.1, outer), result.2) := by
      rw [readInside, onPrefix_otherwise fun ⟨after, found⟩ => noBracket after found.symm,
        onPrefix_otherwise fun ⟨after, found⟩ => noAnd after found.symm,
        onPrefix_otherwise fun ⟨after, found⟩ => noHyphens after found.symm,
        onPrefix_otherwise fun ⟨after, found⟩ => noTildes after found.symm]
    rw [item]
    cases readRange flags cs <;> rfl

/-- Closes a bracket and goes on with the one around it. -/
def leaveBracket (flags : Flags) (n : Nat) (bracket : Bracket) (outer : List Bracket) : Reader Part :=
  fun cs =>
    (bracket.close flags).bind fun part =>
      match outer with
      | [] => some (part, cs)
      | parent :: outer => runBracket flags n (parent.push part) outer cs

/-- A round closes a bracket or reads something inside it. -/
theorem runBracket_succ : runBracket flags (n + 1) bracket outer =
    afterBlanks flags.verbose (onPrefix [']'] (leaveBracket flags n bracket outer) fun cs =>
      (readInside flags bracket outer cs).bind fun result => runBracket flags n result.1.1 result.1.2 result.2) := by
  funext cs
  rw [runBracket, afterBlanks]
  by_cases start : [']'] <+: skip flags.verbose cs
  · obtain ⟨rest, found⟩ := start
    rw [bracketStep_closing found.symm, ← found, onPrefix_append, leaveBracket]
    cases bracket.close flags with
    | none => rfl
    | some part => cases outer <;> rfl
  · rw [bracketStep_inside start, onPrefix_otherwise start]
    cases readInside flags bracket outer (skip flags.verbose cs) <;> rfl

theorem local_readInner : Local 0 (readInner flags bracket outer) :=
  exact_readBracketName.orElse _ (local_openBracket.map fun inner => (inner, bracket :: outer))

theorem local_readInside : Local 0 (readInside flags bracket outer) := by
  have bracketSign : ')' ∉ ['['] := by decide
  have ands : ')' ∉ ['&', '&'] := by decide
  have hyphens : ')' ∉ ['-', '-'] := by decide
  have tildes : ')' ∉ ['~', '~'] := by decide
  exact .onPrefix bracketSign local_readInner <| .onPrefix ands (.pure _) <| .onPrefix hyphens (.pure _) <|
    .onPrefix tildes (.pure _) (local_readRange.map fun part => (bracket.push part, outer))

/-- A bracket is not closed without a sign for it. -/
theorem runBracket_of_not_mem (open' : ']' ∉ cs) : runBracket flags n bracket outer cs = none := by
  induction n generalizing bracket outer cs with
  | zero => rfl
  | succ n ih =>
    have start : ¬ [']'] <+: skip flags.verbose cs := fun ⟨rest, found⟩ =>
      open' (skip_suffix.subset (by rw [← found]; exact List.mem_cons_self ..))
    rw [runBracket_succ, afterBlanks, onPrefix_otherwise start]
    cases inside : readInside flags bracket outer (skip flags.verbose cs) with
    | none => rfl
    | some result =>
      have rest : result.2 <:+ cs := (local_readInside.suffix inside).trans skip_suffix
      exact ih fun sign => open' (rest.subset sign)

theorem runBracket_of_suffix (hs : IsClosing s) (inside : rest <:+ s) : runBracket flags n bracket outer rest = none :=
  runBracket_of_not_mem fun sign => by
    rcases hs.mem (inside.subset sign) with h | h <;> cases h

/-- **Rounds of reading a bracket are local.** -/
theorem local_runBracket : Local 1 (runBracket flags n bracket outer) := by
  induction n generalizing bracket outer with
  | zero => exact .fail
  | succ n ih =>
    have sign : ')' ∉ [']'] := by decide
    rw [runBracket_succ]
    refine (Local.onPrefix sign ?_ ?_).afterBlanks
    · unfold leaveBracket
      cases bracket.close flags with
      | none => exact .fail
      | some part =>
        cases outer with
        | nil => exact .pure part
        | cons parent outer => exact ih
    · exact local_readInside.bindThrough (fun _ => ih) fun _ _ _ hs inside => runBracket_of_suffix hs inside

theorem readRange_length_lt {part : Part} (h : readRange flags cs = some (part, rest)) : rest.length < cs.length := by
  rw [readRange_eq] at h
  obtain ⟨⟨item, between⟩, first, second⟩ := Option.bind_eq_some_iff.1 h
  have later := ((local_readRangeEnd item).afterBlanks.suffix second).length_le
  exact Nat.lt_of_le_of_lt later (readItem_length_lt first)

theorem onPrefix_length_lt {α : Type} {f g : Reader α} {pre : List Char} {a : α} (some' : pre ≠ [])
    (hf : Local 0 f) (hg : g cs = some (a, rest) → rest.length < cs.length)
    (h : onPrefix pre f g cs = some (a, rest)) : rest.length < cs.length := by
  by_cases start : pre <+: cs
  · obtain ⟨after, rfl⟩ := start
    rw [onPrefix_append] at h
    have behind := (hf.suffix h).length_le
    have passed := List.length_pos_iff.2 some'
    rw [List.length_append]
    omega
  · rw [onPrefix_otherwise start] at h
    exact hg h

/-- Reading inside a bracket takes up a character. -/
theorem readInside_length_lt {result : Bracket × List Bracket}
    (h : readInside flags bracket outer cs = some (result, rest)) : rest.length < cs.length := by
  refine onPrefix_length_lt (by simp) local_readInner (fun h => ?_) h
  refine onPrefix_length_lt (by simp) (.pure _) (fun h => ?_) h
  refine onPrefix_length_lt (by simp) (.pure _) (fun h => ?_) h
  refine onPrefix_length_lt (by simp) (.pure _) (fun h => ?_) h
  obtain ⟨_, read, he⟩ := Option.map_eq_some_iff.1 h
  cases he
  exact readRange_length_lt read

/-- More rounds than there are characters make no difference. -/
theorem runBracket_more {part : Part} (h : runBracket flags n bracket outer cs = some (part, rest)) {m : Nat}
    (enough : cs.length < m) : runBracket flags m bracket outer cs = some (part, rest) := by
  induction n generalizing bracket outer cs m with
  | zero => cases h
  | succ n ih =>
    obtain ⟨m, rfl⟩ : ∃ before, m = before + 1 := ⟨m - 1, by omega⟩
    have skipped : (skip flags.verbose cs).length ≤ cs.length := skip_suffix.length_le
    rw [runBracket_succ, afterBlanks] at h ⊢
    by_cases start : [']'] <+: skip flags.verbose cs
    · obtain ⟨after, found⟩ := start
      rw [← found, onPrefix_append] at h ⊢
      rw [← found, List.length_append, List.length_singleton] at skipped
      unfold leaveBracket at h ⊢
      obtain ⟨part, hp, h⟩ := Option.bind_eq_some_iff.1 h
      rw [hp, Option.bind_some]
      cases outer with
      | nil => exact h
      | cons parent outer => exact ih h (by omega)
    · rw [onPrefix_otherwise start] at h ⊢
      obtain ⟨⟨result, after⟩, inside, h⟩ := Option.bind_eq_some_iff.1 h
      rw [inside, Option.bind_some]
      have passed : after.length < _ := readInside_length_lt inside
      exact ih h (show after.length < m by omega)

/-- **Reading a bracket is local.** -/
theorem local_readBracket : Local 1 (readBracket flags) := by
  have run (bracket : Bracket) : Local 1 fun cs => runBracket flags (cs.length + 1) bracket [] cs := by
    refine ⟨local_runBracket.suffix, fun {cs a rest} h => ?_, fun {cs s a rest} hs h => ?_⟩
    · refine (local_runBracket.onward h).imp (fun on s hs => ?_) fun ⟨empty, swallowed⟩ => ⟨empty, fun s hs => ?_⟩
      · exact runBracket_more (on s hs) (Nat.lt_succ_self _)
      · exact runBracket_more (swallowed s hs) (Nat.lt_succ_self _)
    · exact (local_runBracket.back hs h).imp_left fun ⟨before, found, same⟩ =>
        ⟨before, runBracket_more found (Nat.lt_succ_self _), same⟩
  exact local_openBracket.bindThrough run fun bracket s rest hs inside => runBracket_of_suffix hs inside

end

/-! ## Groups -/

section
variable {reading : Reading} {letters cs s rest : List Char}

theorem exact_openNamed : Exact (openNamed reading) where
  suffix {cs a rest} h := by
    unfold openNamed at h
    dsimp only at h
    split at h
    · next found =>
      split at h
      · cases h
        exact (List.suffix_cons ..).trans (found ▸ List.dropWhile_suffix _)
      · cases h
    · cases h
  append {cs s} hs := by
    unfold openNamed
    rcases dropWhile_append_cases (p := (· != '>')) hs (by decide) cs with ⟨empty, empty'⟩ | ⟨some, dropped, taken⟩
    · rw [empty, empty']
      rfl
    · rw [dropped, taken]
      generalize cs.dropWhile (· != '>') = after at some
      cases after with
      | nil => exact absurd rfl some
      | cons c after =>
        by_cases sign : c = '>'
        · subst sign
          simp only [List.cons_append]
          split <;> rfl
        · simp [sign]

/-- What stands behind the letters of flags: a sign that opens a group for them, or that closes them. -/
def readFlagsEnd (reading : Reading) (letters : List Char) : Reader Reading
  | ':' :: rest => some (reading.enter (reading.group.flags.apply true letters), rest)
  | ')' :: rest =>
    if letters.isEmpty then none
    else
      let group := { reading.group.push .setting with flags := reading.group.flags.apply true letters }
      some ({ reading with group := group }, rest)
  | _ => none

/-- The letters of flags go on to a colon or a closing parenthesis. -/
def isFlagLetter (c : Char) : Bool :=
  c != ':' && c != ')'

theorem openFlags_eq : openFlags reading = fun cs =>
    if wellFormedFlags (cs.takeWhile isFlagLetter) then
      readFlagsEnd reading (cs.takeWhile isFlagLetter) (cs.dropWhile isFlagLetter)
    else none := by
  funext cs
  unfold openFlags
  change (if (!wellFormedFlags (cs.takeWhile isFlagLetter)) = true then none else
    match cs.dropWhile isFlagLetter with
    | ':' :: rest => _
    | ')' :: rest => _
    | _ => none) = _
  cases wellFormedFlags (cs.takeWhile isFlagLetter) with
  | false => rfl
  | true =>
    simp only [Bool.not_true, if_true]
    rw [if_neg (by simp)]
    generalize cs.dropWhile isFlagLetter = after
    unfold readFlagsEnd
    rfl

theorem local_readFlagsEnd : Local 1 (readFlagsEnd reading letters) := by
  refine .of_cons rfl (fun c => ?_) (Nat.le_refl 1)
  by_cases colon : c = ':'
  · subst colon
    exact .pure _
  · by_cases sign : c = ')'
    · subst sign
      simp only [readFlagsEnd]
      split
      · exact .fail
      · exact .pure _
    · have stuck : (fun cs => readFlagsEnd reading letters (c :: cs)) = fun _ => none := by
        funext cs
        unfold readFlagsEnd
        split <;> simp_all
      rw [stuck]
      exact .fail

/-- The letters of flags end within a text, or at the closing signs behind it. -/
theorem dropWhile_isFlagLetter_cases (hs : IsClosing s) (cs : List Char) :
    cs.dropWhile isFlagLetter = [] ∧ (cs ++ s).dropWhile isFlagLetter = s ∨
      cs.dropWhile isFlagLetter ≠ [] ∧ (cs ++ s).dropWhile isFlagLetter = cs.dropWhile isFlagLetter ++ s ∧
        (cs ++ s).takeWhile isFlagLetter = cs.takeWhile isFlagLetter := by
  induction cs with
  | nil => exact Or.inl ⟨rfl, by cases hs <;> rfl⟩
  | cons c cs ih =>
    cases here : isFlagLetter c with
    | true => simpa [List.dropWhile_cons, List.takeWhile_cons, here] using ih
    | false => exact Or.inr (by simp [here])

theorem local_openFlags : Local 1 (openFlags reading) := by
  rw [openFlags_eq]
  refine ⟨fun {cs a rest} h => ?_, fun {cs a rest} h => ?_, fun {cs s a rest} hs h => ?_⟩
  · obtain ⟨-, h⟩ := Option.ite_none_right_eq_some.1 h
    exact (local_readFlagsEnd.suffix h).trans (List.dropWhile_suffix _)
  · obtain ⟨letters, h⟩ := Option.ite_none_right_eq_some.1 h
    have same (s : List Char) (hs : IsClosing s) :
        (cs ++ s).dropWhile isFlagLetter = cs.dropWhile isFlagLetter ++ s ∧
          (cs ++ s).takeWhile isFlagLetter = cs.takeWhile isFlagLetter := by
      rcases dropWhile_isFlagLetter_cases hs cs with ⟨empty, -⟩ | ⟨-, same⟩
      · rw [empty] at h
        cases h
      · exact same
    refine (local_readFlagsEnd.onward h).imp (fun on s hs => ?_) fun ⟨empty, swallowed⟩ => ⟨empty, fun s hs => ?_⟩
    · rw [(same s hs).1, (same s hs).2, if_pos letters]
      exact on s hs
    · rw [(same s hs).1, (same s hs).2, if_pos letters]
      exact swallowed s hs
  · obtain ⟨letters, h⟩ := Option.ite_none_right_eq_some.1 h
    rcases dropWhile_isFlagLetter_cases hs cs with ⟨-, atSigns⟩ | ⟨-, dropped, taken⟩
    · rw [atSigns] at h
      have atEnd : readFlagsEnd reading ((cs ++ s).takeWhile isFlagLetter) ([] ++ s) = some (a, rest) := h
      exact (local_readFlagsEnd.back hs atEnd).elim (fun ⟨_, found, _⟩ => nomatch found) Or.inr
    · rw [dropped, taken] at h
      rw [taken] at letters
      rw [if_pos letters]
      exact local_readFlagsEnd.back hs h

theorem openGroup_eq : openGroup reading = afterBlanks reading.group.flags.verbose (
    onPrefix ['?', '='] (fun _ => none) <|
    onPrefix ['?', '!'] (fun _ => none) <|
    onPrefix ['?', '<', '='] (fun _ => none) <|
    onPrefix ['?', '<', '!'] (fun _ => none) <|
    onPrefix ['?', 'P', '<'] (openNamed reading) <|
    onPrefix ['?', '<'] (openNamed reading) <|
    onPrefix ['?'] (openFlags reading) fun cs => some (reading.enterNumbered, cs)) := by
  funext cs
  rw [openGroup, afterBlanks]
  generalize skip reading.group.flags.verbose cs = cs
  split <;> simp_all [onPrefix, List.prefix_iff_exists_eq_append]

theorem local_openGroup : Local 1 (openGroup reading) := by
  rw [openGroup_eq]
  refine (Local.onPrefix (by decide) .fail <| .onPrefix (by decide) .fail <| .onPrefix (by decide) .fail <|
    .onPrefix (by decide) .fail <| .onPrefix (by decide) exact_openNamed.local <|
    .onPrefix (by decide) exact_openNamed.local <| .onPrefix (by decide) local_openFlags (.pure _)).afterBlanks

/-! ## Repetitions and steps -/

theorem repeatBetween_eq (min : Nat) (max : Option Nat) : repeatBetween reading min max =
    onPrefix ['?'] (fun cs => (reading.repeatLast ⟨min, max, reading.group.flags.swapGreed⟩).map (·, cs))
      fun cs => (reading.repeatLast ⟨min, max, !reading.group.flags.swapGreed⟩).map (·, cs) := by
  funext cs
  by_cases lazily : ['?'] <+: cs
  · obtain ⟨after, rfl⟩ := lazily
    rw [onPrefix_append]
    rfl
  · rw [onPrefix_otherwise lazily, repeatBetween, readGreed]
    rintro after rfl
    exact lazily (by simp)

theorem local_repeatBetween (min : Nat) (max : Option Nat) : Local 1 (repeatBetween reading min max) := by
  rw [repeatBetween_eq]
  have sign : ')' ∉ ['?'] := by decide
  exact .onPrefix sign (.ofOption _) (.ofOption _)

theorem local_repeatCounted : Local 1 (repeatCounted reading) := by
  have behind (content : List Char) : Local 1 fun cs => (readRepeatBounds content).bind fun bounds =>
      afterBlanks reading.group.flags.verbose (repeatBetween reading bounds.1 bounds.2) cs := by
    cases readRepeatBounds content with
    | none => exact .fail
    | some bounds => exact (local_repeatBetween bounds.1 bounds.2).afterBlanks
  exact exact_takeBraced.local.bind behind

/-- **Every step of reading a pattern is local.** -/
theorem local_readStep (reading : Reading) (c : Char) : Local 1 (readStep reading c) := by
  unfold readStep
  dsimp only
  split
  · exact local_openGroup
  · exact .ofOption _
  · exact .pure _
  · exact local_readBracket.map fun part => reading.push (classPiece reading.group.flags part)
  · exact local_repeatBetween 0 (some 1)
  · exact local_repeatBetween 0 none
  · exact local_repeatBetween 1 none
  · exact local_repeatCounted
  · exact local_readEscape.map fun primitive => reading.push (primitive.piece reading.group.flags)
  · split
    · exact .pure _
    · exact .fail
  · exact .pure _
  · exact .pure _
  · exact .pure _

end

end FieldRules.Regex
