import FieldRules.Proofs.Building
import FieldRules.Proofs.Codes
import FieldRules.Proofs.Frames
import FieldRules.Proofs.Parts
import FieldRules.Proofs.Reading

/-!
# Patterns that are to match whole texts

A pattern that is to match a whole text is put between anchors as it is written, in a group of its own. What it
describes on its own it describes between anchors as well, and there it matches whole texts
(`describe?_anchoredChars_iff`, `occursIn_anchored_iff`), with two exceptions. A comment at its end takes in the anchor
behind it, so that it is refused; and what closes the group that it is put into can be a pattern there while it is none
on its own (`overruns_of_describe?_anchoredChars`). So where a rule is built from a pattern, it matches the pattern as
it is written (`pattern_matches_whole`); but not every pattern builds one, and what is no pattern can
(`accepted_between_anchors_only`).
-/

namespace FieldRules

namespace Regex

variable {source cs : List Char} {piece whole : Piece} {final last : Reading}

/-! ## Patterns on their own -/

/-- What a pattern describes, however large it is. -/
def describe? (source : List Char) : Option Piece :=
  (runReading (source.length + 1) .initial source).bind fun reading =>
    if reading.outer.isEmpty then some reading.group.content else none

/-- A piece is small enough: it does not nest too deep, and its automata are not too large. -/
def Piece.WithinLimits (piece : Piece) : Prop :=
  piece.depth ≤ nestingLimit ∧ piece.shape.fits = true

instance : Decidable piece.WithinLimits :=
  inferInstanceAs (Decidable (_ ∧ _))

theorem describe?_eq_some_iff : describe? source = some piece ↔
    ∃ final, Run .initial source final ∧ final.outer = [] ∧ final.group.content = piece := by
  simp only [describe?, Option.bind_eq_some_iff, runReading_eq_some_iff, Option.ite_none_right_eq_some,
    List.isEmpty_iff, Option.some.injEq]

theorem readPattern_eq_some_iff :
    readPattern source = some piece ↔ describe? source = some piece ∧ piece.depth ≤ nestingLimit := by
  unfold readPattern describe?
  cases runReading (source.length + 1) .initial source with
  | none => simp
  | some reading =>
    rw [Option.bind_some]
    by_cases closed : reading.outer = []
    · simp only [closed, List.isEmpty_nil, Bool.true_and, if_true, Option.ite_none_right_eq_some, decide_eq_true_iff,
        Option.some.injEq]
      exact ⟨fun ⟨shallow, same⟩ => ⟨same, same ▸ shallow⟩, fun ⟨same, shallow⟩ => ⟨same ▸ shallow, same⟩⟩
    · simp [closed]

/-- A pattern is accepted when it describes something small enough. -/
theorem parse?_eq_some_iff {expression : Expression} : parse? source = some expression ↔
    ∃ piece, describe? source = some piece ∧ piece.WithinLimits ∧ piece.expression = expression := by
  unfold parse?
  cases read : readPattern source with
  | none =>
    have refused (piece : Piece) (h : describe? source = some piece) : ¬ piece.depth ≤ nestingLimit := fun shallow => by
      rw [readPattern_eq_some_iff.2 ⟨h, shallow⟩] at read
      cases read
    simp only [reduceCtorEq, false_iff]
    exact fun ⟨piece, h, limits, _⟩ => refused piece h limits.1
  | some piece =>
    obtain ⟨h, shallow⟩ := readPattern_eq_some_iff.1 read
    simp only [h, Option.some.injEq, exists_eq_left', Piece.WithinLimits, shallow, true_and,
      Option.ite_none_right_eq_some]

/-- What a pattern describes is in order. -/
theorem ordered_of_describe? (h : describe? source = some piece) : piece.expression.Ordered := by
  obtain ⟨final, run, -, rfl⟩ := describe?_eq_some_iff.1 h
  exact ((run.sound Reading.sound_initial).ordered _ (List.mem_cons_self ..)).content

/-- A closing sign behind a pattern does not end a group: a comment at the end of the pattern takes it in. -/
def EndsInComment (source : List Char) : Prop :=
  (describe? (source ++ [')'])).isSome = true

instance : Decidable (EndsInComment source) :=
  inferInstanceAs (Decidable (_ = true))

/-! ## Patterns between anchors -/

/-- The group around a pattern that is to match whole texts, before anything of the pattern is read. -/
def anchorGroup : Group :=
  ⟨none, {}, [.piece (lookPiece .textStart)], []⟩

/-- A piece between the anchors of a text. -/
def Piece.anchored (piece : Piece) : Piece :=
  sequence [.piece (lookPiece .textStart), .piece { piece with depth := piece.depth + 1 }, .piece (lookPiece .textEnd)]

/-- The characters of a pattern between the anchors of a text. -/
def anchoredChars (source : List Char) : List Char :=
  '^' :: '(' :: '?' :: ':' :: (source ++ [')', '$'])

theorem toList_anchored (source : String) : (anchored source).toList = anchoredChars source.toList := by
  simp [anchored, anchoredChars]

theorem run_anchoredChars_iff : Run .initial (anchoredChars source) final ↔
    Run (Reading.initial.within [anchorGroup]) (source ++ [')', '$']) final := by
  have anchor : Run .initial (anchoredChars source) final ↔
      Run (Reading.initial.push (lookPiece .textStart)) ('(' :: '?' :: ':' :: (source ++ [')', '$'])) final :=
    run_iff_of_step rfl rfl
  rw [anchor]
  exact run_iff_of_step rfl rfl

/-- No group is closed where none is open. -/
theorem not_run_of_closed (closed : final.outer = []) : ¬ Run (final.within []) [')'] last := by
  have sign : skip final.group.flags.verbose [')'] = [')'] := IsClosing.group.skip
  intro h
  cases h with
  | done empty => cases sign.symm.trans empty
  | step found step _ =>
    obtain ⟨rfl, rfl⟩ := List.cons.inj (sign.symm.trans found)
    obtain ⟨_, left, -⟩ := Option.map_eq_some_iff.1 step
    rw [Reading.leave, Reading.within, closed] at left
    cases left

/-- The signs behind a pattern that has been read close the group around it and end the text. -/
theorem run_anchors_iff (closed : final.outer = []) (plain : final.group.number = none) :
    (∃ last, Run (final.within [anchorGroup]) [')', '$'] last ∧ last.outer = [] ∧ last.group.content = whole) ↔
      whole = final.group.content.anchored := by
  obtain ⟨⟨number, flags, items, branches⟩, outer, numbered, names⟩ := final
  subst closed plain
  let content := Group.content ⟨none, flags, items, branches⟩
  let left : Reading :=
    ⟨anchorGroup.push (.piece ⟨content.expression, content.shape, content.depth + 1⟩), [], numbered, names⟩
  have sign : skip flags.verbose [')', '$'] = [')', '$'] := IsClosing.anchored.skip
  have closes (last : Reading) :
      Run (Reading.within ⟨⟨none, flags, items, branches⟩, [], numbered, names⟩ [anchorGroup]) [')', '$'] last ↔
        Run left ['$'] last :=
    run_iff_of_step sign rfl
  have ends (last : Reading) : Run left ['$'] last ↔ last = left.push (lookPiece .textEnd) :=
    (run_iff_of_step rfl rfl).trans (run_iff_of_skip_nil rfl)
  simp only [closes, ends]
  constructor
  · rintro ⟨last, rfl, -, rfl⟩
    rfl
  · rintro rfl
    exact ⟨_, rfl, rfl, rfl⟩

/-- **A pattern on its own and between anchors.** Where it describes something, it describes the same between anchors,
unless a comment at its end takes these in. -/
theorem describe?_anchoredChars_iff (h : describe? source = some piece) :
    describe? (anchoredChars source) = some whole ↔ ¬ EndsInComment source ∧ whole = piece.anchored := by
  obtain ⟨final, run, closed, rfl⟩ := describe?_eq_some_iff.1 h
  have plain : final.group.number = none :=
    (run.sound Reading.sound_initial).plain final.group (by rw [closed]; rfl)
  have here : Reading.initial.within [] = Reading.initial := rfl
  rw [describe?_eq_some_iff]
  simp only [run_anchoredChars_iff]
  rcases run.onward with same | open'
  · have ends : ¬ EndsInComment source := fun ends => by
      obtain ⟨piece, found⟩ := Option.isSome_iff_exists.1 ends
      obtain ⟨last, run', -, -⟩ := describe?_eq_some_iff.1 found
      rw [← here, same _ .group [] last] at run'
      exact not_run_of_closed closed run'
    simp only [same _ .anchored, ends, not_false_eq_true, true_and]
    exact run_anchors_iff closed plain
  · have ends : EndsInComment source := by
      refine Option.isSome_iff_exists.2 ⟨final.group.content, describe?_eq_some_iff.2 ⟨final, ?_, closed, rfl⟩⟩
      rw [← here, open' _ .group [] final, Reading.within, List.append_nil]
    simp only [open' _ .anchored, ends, not_true_eq_false, false_and, iff_false]
    rintro ⟨last, rfl, none, -⟩
    simp [Reading.within] at none

/-- **A pattern that describes nothing on its own** describes something between anchors only by closing the group that
it is put into. -/
theorem overruns_of_describe?_anchoredChars (h : describe? source = none)
    (found : describe? (anchoredChars source) = some whole) : Overruns .initial source := by
  obtain ⟨last, run, closed, -⟩ := describe?_eq_some_iff.1 found
  refine ((run_anchoredChars_iff.1 run).back closed).resolve_right ?_
  rintro ⟨final, run', none⟩
  rw [describe?_eq_some_iff.2 ⟨final, run', none, rfl⟩] at h
  cases h

/-! ## What they match -/

/-- **A piece between anchors matches somewhere in a text** when the piece matches the whole text. -/
theorem occursIn_anchored_iff (ordered : piece.expression.Ordered) {text : Array Char} :
    piece.anchored.expression.occursIn text = true ↔ Matches text piece.expression 0 text.size := by
  have cats : piece.anchored.expression = .cat (.look .textStart) (.cat piece.expression (.look .textEnd)) := rfl
  have ordered' : piece.anchored.expression.Ordered := ⟨trivial, ordered, trivial⟩
  rw [occursIn_iff ordered', cats]
  constructor
  · rintro ⟨i, k, found⟩
    cases found with
    | cat start rest =>
      cases start with
      | look _ atStart =>
        cases rest with
        | cat found finish =>
          cases finish with
          | look _ atEnd =>
            obtain rfl : i = 0 := by simpa [Look.holds] using atStart
            obtain rfl : k = text.size := by simpa [Look.holds] using atEnd
            exact found
  · intro found
    refine ⟨0, text.size, .cat (.look (Nat.zero_le _) rfl) (.cat found (.look (Nat.le_refl _) ?_))⟩
    simp [Look.holds]

theorem isSome_ofPattern?_iff {source : String} :
    (ofPattern? source).isSome = true ↔ ∃ piece, describe? source.toList = some piece ∧ piece.WithinLimits := by
  simp only [ofPattern?, Option.isSome_map, Option.isSome_iff_exists, parse?_eq_some_iff]
  exact ⟨fun ⟨_, piece, h, limits, _⟩ => ⟨piece, h, limits⟩, fun ⟨piece, h, limits⟩ => ⟨_, piece, h, limits, rfl⟩⟩

theorem ofWhole?_eq_some_iff {source : String} {regex : Regex} : ofWhole? source = some regex ↔
    ∃ whole, describe? (anchoredChars source.toList) = some whole ∧ whole.WithinLimits ∧
      regex = ⟨whole.expression⟩ := by
  simp only [ofWhole?, ofPattern?, toList_anchored, Option.map_eq_some_iff, parse?_eq_some_iff]
  constructor
  · rintro ⟨_, ⟨whole, h, limits, rfl⟩, rfl⟩
    exact ⟨whole, h, limits, rfl⟩
  · rintro ⟨whole, h, limits, rfl⟩
    exact ⟨_, ⟨whole, h, limits, rfl⟩, rfl⟩

end Regex

/-! ## Rules -/

namespace Directive

/-- A pattern as the only argument of its directive. -/
theorem parse_pattern {source : String} (start : source.toList.head? ≠ some ':') :
    parse ("REG:" ++ escape source) = ⟨"REG", [source]⟩ := by
  have written : "REG:" ++ escape source = join ["REG", source] := by
    apply String.toList_injective
    rw [toList_join]
    simp [escape, Directive.written, escapeChars]
  rw [written]
  exact parse_join_of_separable ⟨start, fun _ => rfl, trivial⟩

end Directive

theorem RuleContext.readPattern_eq_ok_iff {source : String} {regex : Regex} :
    readPattern source = .ok regex ↔ Regex.ofWhole? source = some regex := by
  unfold readPattern
  cases Regex.ofWhole? source <;> simp

/-- A pattern without a code of its own is read as a test with the default code. -/
theorem RuleContext.readDirective_pattern_eq_ok_iff {context : RuleContext} {source : String} {clause : Clause}
    (typed : context.type = .str) (start : source.toList.head? ≠ some ':') (coded : context.defaultCode ≠ "") :
    context.readDirective (Directive.parse ("REG:" ++ Directive.escape source)) = .ok clause ↔
      ∃ regex, Regex.ofWhole? source = some regex ∧
        clause = .check (.test (.fullMatch regex) context.defaultCode) := by
  obtain ⟨field, type, defaultCode, components⟩ := context
  subst typed
  have code : Directive.code? ⟨"REG", [source]⟩ 2 defaultCode = some defaultCode :=
    if_neg fun empty => coded (String.isEmpty_iff.1 empty)
  have asks : readDirective ⟨field, .str, defaultCode, components⟩ ⟨"REG", [source]⟩ =
      testClause ⟨field, .str, defaultCode, components⟩ ⟨"REG", [source]⟩ 2 (.fullMatch <$> readPattern source) := rfl
  rw [Directive.parse_pattern start, asks, testClause_eq_ok_iff]
  simp only [map_eq_ok_iff, readPattern_eq_ok_iff, code, Option.some.injEq]
  constructor
  · rintro ⟨_, _, ⟨regex, read, rfl⟩, rfl, rfl⟩
    exact ⟨regex, read, rfl⟩
  · rintro ⟨regex, read, rfl⟩
    exact ⟨_, _, ⟨regex, read, rfl⟩, rfl, rfl⟩

namespace FieldRule

variable {field source defaultCode : String} {components : Option ComponentLookup} {rule : FieldRule}

/-- The directives of a rule that does nothing but match a pattern. -/
def patternDirectives (source : String) : List String :=
  ["STR", "REG:" ++ Directive.escape source]

/-- A rule that is built from a marker and a pattern has the pattern as its only check. -/
theorem build_pattern_eq_ok_iff (start : source.toList.head? ≠ some ':') (coded : defaultCode ≠ "") :
    build .str field (patternDirectives source) defaultCode components = .ok rule ↔
      ∃ regex, Regex.ofWhole? source = some regex ∧
        rule = ofClauses { field, type := .str, defaultCode, components }
          [.marker, .check (.test (.fullMatch regex) defaultCode)] := by
  have default : RuleType.str.defaultCode (patternDirectives source) defaultCode = defaultCode := rfl
  have marker : RuleContext.readDirective { field, type := .str, defaultCode, components } (Directive.parse "STR") =
      .ok .marker := rfl
  have pattern (clause : Clause) : RuleContext.readDirective { field, type := .str, defaultCode, components }
      (Directive.parse ("REG:" ++ Directive.escape source)) = .ok clause ↔ _ :=
    RuleContext.readDirective_pattern_eq_ok_iff rfl start coded
  rw [build_eq_ok_iff, default]
  simp only [patternDirectives, List.map_cons, List.map_nil, marker]
  constructor
  · rintro ⟨clauses, read, rfl⟩
    have counted : clauses.length = 2 := by simpa using (congrArg List.length read).symm
    obtain ⟨first, second, rfl⟩ := List.length_eq_two.1 counted
    obtain ⟨readMarker, readSecond⟩ := List.cons.inj read
    obtain ⟨regex, compiled, rfl⟩ := (pattern second).1 (List.cons.inj readSecond).1
    obtain rfl := Except.ok.inj readMarker
    exact ⟨regex, compiled, rfl⟩
  · rintro ⟨regex, compiled, rfl⟩
    refine ⟨_, ?_, rfl⟩
    rw [(pattern _).2 ⟨regex, compiled, rfl⟩]
    rfl

/-- What a rule of type text reads where a text stands that is not empty. -/
theorem read_text {path text : String} {subject : Json} (typed : rule.type = .str) (plain : rule.trim = false)
    (found : Subject.resolve subject path = .ok (some (.str text))) (some' : text ≠ "") :
    rule.read path subject = .ok (some (.str text)) := by
  have filled : text.isEmpty = false := by simpa [String.isEmpty_iff] using some'
  rw [read, found]
  simp [bind, Except.bind, convert, typed, plain, filled]

/-- A rule with a test only gives its code or none. -/
theorem validate_test {condition : Test} {code text : String} {situation : Situation} (typed : rule.type = .str)
    (plain : rule.trim = false) (checks : rule.checks = [.test condition code])
    (found : Subject.resolve situation.subject (situation.path rule.field) = .ok (some (.str text)))
    (some' : text ≠ "") :
    rule.validate situation = .pure (.ok { codes := if condition.holds (.str text) then [] else [code] }) := by
  have reads : rule.read (situation.path rule.field) situation.subject = .ok (some (.str text)) :=
    read_text typed plain found some'
  rw [validate_of_read_some reads, checks, Check.runAll]
  cases condition.holds (.str text) <;> rfl

/-- **A pattern is matched against whole texts as it is written.** Let a pattern not start with a colon, and let there
be a default code. If the pattern describes something on its own, it builds a rule exactly when no comment is left open
at its end and it is small enough between anchors; and the rule passes the texts that the pattern matches from start to
end, and gives the default code for all others. If it describes nothing on its own, it builds a rule only by closing the
group that it is put into. -/
theorem pattern_matches_whole (field source defaultCode : String) (components : Option ComponentLookup)
    (start : source.toList.head? ≠ some ':') (coded : defaultCode ≠ "") :
    ((Regex.ofPattern? source).isSome = true ↔
      ∃ piece, Regex.describe? source.toList = some piece ∧ piece.WithinLimits) ∧
    (∀ piece, Regex.describe? source.toList = some piece →
      ((∃ rule, build .str field (patternDirectives source) defaultCode components = .ok rule) ↔
        ¬ Regex.EndsInComment source.toList ∧ piece.anchored.WithinLimits) ∧
      ∀ rule, build .str field (patternDirectives source) defaultCode components = .ok rule →
        ∀ (situation : Situation) (text : String), text ≠ "" →
          Subject.resolve situation.subject (situation.path field) = .ok (some (.str text)) →
          ∃ codes, rule.validate situation = .pure (.ok { codes := codes }) ∧
            (Regex.Matches text.toList.toArray piece.expression 0 text.length → codes = []) ∧
            (¬ Regex.Matches text.toList.toArray piece.expression 0 text.length → codes = [defaultCode])) ∧
    (Regex.describe? source.toList = none →
      (∃ rule, build .str field (patternDirectives source) defaultCode components = .ok rule) →
      Regex.Overruns .initial source.toList) := by
  refine ⟨Regex.isSome_ofPattern?_iff, fun piece described => ⟨?_, ?_⟩, fun none => ?_⟩
  · simp only [build_pattern_eq_ok_iff start coded, Regex.ofWhole?_eq_some_iff,
      Regex.describe?_anchoredChars_iff described]
    constructor
    · rintro ⟨_, _, ⟨_, ⟨ends, rfl⟩, limits, -⟩, -⟩
      exact ⟨ends, limits⟩
    · rintro ⟨ends, limits⟩
      exact ⟨_, _, ⟨_, ⟨ends, rfl⟩, limits, rfl⟩, rfl⟩
  · intro rule built situation text some' found
    obtain ⟨regex, compiled, rfl⟩ := (build_pattern_eq_ok_iff start coded).1 built
    obtain ⟨whole, between, -, rfl⟩ := Regex.ofWhole?_eq_some_iff.1 compiled
    obtain ⟨-, rfl⟩ := (Regex.describe?_anchoredChars_iff described).1 between
    have holds : Test.holds (.fullMatch ⟨piece.anchored.expression⟩) (.str text) = true ↔
        Regex.Matches text.toList.toArray piece.expression 0 text.length := by
      rw [← String.length_toList]
      exact Regex.occursIn_anchored_iff (Regex.ordered_of_describe? described)
    refine ⟨_, validate_test rfl rfl rfl found some', fun matched => if_pos (holds.2 matched), fun unmatched => ?_⟩
    exact if_neg (mt holds.1 unmatched)
  · rintro ⟨rule, built⟩
    obtain ⟨regex, compiled, -⟩ := (build_pattern_eq_ok_iff start coded).1 built
    obtain ⟨whole, between, -⟩ := Regex.ofWhole?_eq_some_iff.1 compiled
    exact Regex.overruns_of_describe?_anchoredChars none between

/-- A text with a colon, and one letter or more behind it. -/
def labelPattern : String :=
  "a:b+"

theorem pattern_matches_whole_label :
    labelPattern.toList.head? ≠ some ':' ∧ "BAD" ≠ "" ∧
      ∃ rule, build .str "f" (patternDirectives labelPattern) "BAD" none = .ok rule ∧
        rule.validate { subject := .obj [("f", .str "a:bb")], known := [] } = .pure (.ok { codes := [] }) := by
  have start : labelPattern.toList.head? ≠ some ':' := by decide
  obtain ⟨built, matched⟩ := (pattern_matches_whole "f" labelPattern "BAD" none start (by decide)).2.1 _ rfl
  obtain ⟨rule, hb⟩ := built.2 ⟨by decide, by decide +kernel⟩
  obtain ⟨codes, judged, passes, -⟩ :=
    matched rule hb { subject := .obj [("f", .str "a:bb")], known := [] } "a:bb" (by decide) rfl
  have letters : codes = [] := passes <| .cat (.char rfl rfl) <| .cat (.char rfl rfl) <|
    .more (by decide) (.char rfl rfl) <| .more (by decide) (.char rfl rfl) (.stop (by decide))
  exact ⟨start, by decide, rule, hb, letters ▸ judged⟩

/-- **Between anchors other patterns are accepted than on their own.** One closes the group that it is put into and
opens another: it is no pattern, but it is one between anchors. Another ends in a comment: it is a pattern, but the
comment takes in what is put behind it. -/
theorem accepted_between_anchors_only :
    (Regex.ofPattern? "a)|(b").isSome = false ∧
      (∃ rule, build .str "f" (patternDirectives "a)|(b") "D" none = .ok rule) ∧
      (Regex.ofPattern? "(?x)a#b").isSome = true ∧
      ¬ ∃ rule, build .str "f" (patternDirectives "(?x)a#b") "D" none = .ok rule := by
  have accepted : (Regex.ofWhole? "a)|(b").isSome = true := by decide +kernel
  obtain ⟨regex, compiled⟩ := Option.isSome_iff_exists.1 accepted
  have refused : Regex.ofWhole? "(?x)a#b" = none := rfl
  refine ⟨rfl, ⟨_, (build_pattern_eq_ok_iff (by decide) (by decide)).2 ⟨regex, compiled, rfl⟩⟩, by decide +kernel, ?_⟩
  rintro ⟨rule, built⟩
  obtain ⟨_, compiled', -⟩ := (build_pattern_eq_ok_iff (by decide) (by decide)).1 built
  rw [refused] at compiled'
  cases compiled'

end FieldRule

end FieldRules
