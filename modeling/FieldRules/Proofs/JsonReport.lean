import FieldRules.Cli.Report
import FieldRules.Json.Draft
import Mathlib.Data.String.Basic

/-!
# Reading a report back

A report for a program is a JSON document: whatever the findings are made of, it is read as an object with the verdict
and the findings in their order (`parse_jsonReport`). The text is taken piece by piece. A piece *spells* some tokens
when it is read as them wherever it stands (`Spells`); pieces put together spell their tokens together, so that what is
left of the report is a list of tokens (`spells_jsonReport`), from which the reader builds the document.
-/

namespace FieldRules.Json

/-! ## Texts -/

/-- The digits of a control character are read as the unit that it is. -/
theorem readHex?_fourDigits : ∀ n < 32, (fourDigits n).length = 4 ∧ Text.byteLength (fourDigits n) = 4 ∧
    Numeral.readHex? (fourDigits n) = some n := by
  decide

theorem readUnit_fourDigits {n : Nat} (h : n < 32) (rest : List Char) :
    readUnit (fourDigits n ++ rest) = .ok (n, rest) := by
  obtain ⟨length, bytes, value⟩ := readHex?_fourDigits n h
  have digits : (fourDigits n ++ rest).take 4 = fourDigits n := by rw [← length, List.take_left]
  have others : (fourDigits n ++ rest).drop 4 = rest := by rw [← length, List.drop_left]
  rw [readUnit, digits, others, bytes, value]
  simp [length]

theorem readEscape_fourDigits {c : Char} (h : c < ' ') (rest : List Char) :
    readEscape ('u' :: (fourDigits c.toNat ++ rest)) = .ok (c, rest) := by
  have small : c.toNat < 32 := by simpa [Char.lt_def, UInt32.lt_iff_toNat_lt] using h
  have low : ¬ (0xDC00 ≤ c.toNat ∧ c.toNat < 0xE000) := by omega
  have high : ¬ (0xD800 ≤ c.toNat ∧ c.toNat < 0xDC00) := by omega
  simp only [readEscape, readUnits, readUnit_fourDigits small, bind, Except.bind, if_neg low, if_neg high]
  rw [Char.ofNat_toNat]

/-- The spelling of a character is read as the character. -/
theorem readTextFrom_literalChar (bound : Nat) (read : List Char) (c : Char) (rest : List Char) :
    readTextFrom (bound + 1) read (literalChar c ++ rest) = readTextFrom bound (c :: read) rest := by
  unfold literalChar
  split
  · next h =>
    rcases h with rfl | rfl <;> simp [readTextFrom, readEscape]
  · next plain =>
    split_ifs with h h h h h control
    any_goals (subst h; simp [readTextFrom, readEscape])
    · simp [readTextFrom, readEscape_fourDigits control]
    · have quote : c ≠ '"' := fun h => plain (Or.inl h)
      have backslash : c ≠ '\\' := fun h => plain (Or.inr h)
      simp [readTextFrom, quote, backslash, control]

theorem readTextFrom_literal {bound : Nat} {text : List Char} (enough : text.length < bound) (read rest : List Char) :
    readTextFrom bound read (text.flatMap literalChar ++ '"' :: rest) =
      .ok (String.ofList (read.reverse ++ text), rest) := by
  induction text generalizing bound read with
  | nil =>
    obtain ⟨bound, rfl⟩ := Nat.exists_eq_add_one_of_ne_zero (Nat.ne_of_gt enough)
    simp [readTextFrom]
  | cons c text ih =>
    obtain ⟨bound, rfl⟩ := Nat.exists_eq_add_one_of_ne_zero (Nat.ne_of_gt (Nat.zero_lt_of_lt enough))
    rw [List.flatMap_cons, List.append_assoc, readTextFrom_literalChar, ih (by simpa using enough)]
    simp

theorem literalChar_length_pos (c : Char) : 1 ≤ (literalChar c).length := by
  unfold literalChar
  split_ifs <;> simp

/-- A text is spelled with at least as many characters as it has. -/
theorem length_le_literal (text : List Char) : text.length ≤ (text.flatMap literalChar).length := by
  induction text with
  | nil => simp
  | cons c text ih =>
    have := literalChar_length_pos c
    simp only [List.flatMap_cons, List.length_append, List.length_cons]
    omega

theorem readText_literal (text rest : List Char) :
    readText (text.flatMap literalChar ++ '"' :: rest) = .ok (String.ofList text, rest) := by
  have enough : text.length < (text.flatMap literalChar ++ '"' :: rest).length := by
    have := length_le_literal text
    simp only [List.length_append, List.length_cons]
    omega
  simpa [readText] using readTextFrom_literal enough [] rest

/-! ## Pieces of a text -/

/-- A text spells tokens: wherever it stands, it is read as the tokens, and what follows it is read after. -/
structure Spells (text : String) (ts : List Token) : Prop where
  length_le : ts.length ≤ text.toList.length
  tokensFrom_append : ∀ bound rest,
    tokensFrom (bound + ts.length) (text.toList ++ rest) = ts ++ tokensFrom bound rest

namespace Spells

theorem empty : Spells "" [] :=
  ⟨Nat.le_refl _, fun _ _ => rfl⟩

theorem append {text next : String} {ts us : List Token} (first : Spells text ts) (second : Spells next us) :
    Spells (text ++ next) (ts ++ us) := by
  refine ⟨?_, fun bound rest => ?_⟩
  · have before := first.length_le
    have after := second.length_le
    simp only [String.toList_append, List.length_append]
    omega
  · have total : bound + (ts ++ us).length = bound + us.length + ts.length := by
      simp only [List.length_append]
      omega
    rw [total, String.toList_append, List.append_assoc, first.tokensFrom_append, second.tokensFrom_append,
      List.append_assoc]

/-- Blanks spell nothing. -/
theorem blank (text : String) (h : text.toList.all isSpace = true) : Spells text [] := by
  refine ⟨by simp, fun bound rest => ?_⟩
  cases bound with
  | zero => rfl
  | succ bound =>
    have passed : (text.toList ++ rest).dropWhile isSpace = rest.dropWhile isSpace :=
      List.dropWhile_append_of_pos (List.all_eq_true.1 h)
    simp [tokensFrom, passed]

theorem sign (c : Char) {token : Token} (h : sign? c = some token) : Spells (String.singleton c) [token] := by
  refine ⟨by simp, fun bound rest => ?_⟩
  have visible : isSpace c = false := by
    unfold sign? at h
    split at h <;> first | rfl | cases h
  simp [tokensFrom, visible, h]

theorem word (value : Bool) : Spells (if value then "true" else "false") [.scalar (.bool value)] := by
  cases value with
  | true => exact ⟨by decide, fun bound rest => rfl⟩
  | false => exact ⟨by decide, fun bound rest => rfl⟩

/-- **A literal spells its text**, whatever the text is made of. -/
theorem literal (text : String) : Spells (Json.literal text) [.scalar (.str text)] := by
  have spelled : (Json.literal text).toList = '"' :: (text.toList.flatMap literalChar ++ ['"']) := by
    simp [Json.literal]
  have quote : isSpace '"' = false := rfl
  have noSign : sign? '"' = none := rfl
  refine ⟨by simp [spelled], fun bound rest => ?_⟩
  simp [spelled, tokensFrom, quote, noSign, readText_literal]

/-- A sign, a key behind some blanks, and the colon after it. -/
theorem key (c : Char) {token : Token} (h : sign? c = some token) (blanks : String)
    (hb : blanks.toList.all isSpace = true) (name : String) :
    Spells (String.singleton c ++ blanks ++ Json.literal name ++ ": ") [token, .scalar (.str name), .colon] :=
  have colon : Spells ": " [.colon] := (sign ':' rfl).append (blank " " rfl)
  (((sign c h).append (blank blanks hb)).append (literal name)).append colon

/-- Pieces with the same piece between any two of them. -/
theorem intercalate {α : Type} {between : String} {us : List Token} (h : Spells between us)
    {text : α → String} {ts : α → List Token} (each : ∀ x, Spells (text x) (ts x)) (xs : List α) :
    Spells (String.intercalate between (xs.map text)) (us.intercalate (xs.map ts)) := by
  match xs with
  | [] => exact empty
  | [x] => simpa using each x
  | x :: y :: rest =>
    have others := intercalate h each (y :: rest)
    simp only [List.map_cons, List.intercalate_cons_cons, String.intercalate_cons_cons] at others ⊢
    exact ((each x).append h).append others

/-- A text that spells tokens is read as them. -/
theorem tokens_eq {text : String} {ts : List Token} (h : Spells text ts) : tokens text = ts := by
  -- the reader allows for as many tokens as there are characters, which is enough and may be more
  have fits : text.toList.length = text.toList.length - ts.length + ts.length := (Nat.sub_add_cancel h.length_le).symm
  have read := h.tokensFrom_append (text.toList.length - ts.length) []
  rw [List.append_nil, ← fits] at read
  have ended : ∀ bound, tokensFrom bound [] = [] := by
    intro bound
    cases bound <;> rfl
  rw [tokens, read, ended, List.append_nil]

end Spells

/-- The empty text is no document. -/
theorem parse_empty : parse "" = .error .truncated := by
  have none : tokens "" = [] := Spells.empty.tokens_eq
  simp [parse, draft, none, build, abandon, Document.read, Draft.toJson]

end FieldRules.Json

namespace FieldRules.Cli

open Json (Spells Token Draft Frame)

/-! ## The report -/

/-- A finding as a value. -/
def errorValue (error : RenderedError) : Json :=
  .obj [("field", .str error.field), ("code", .str error.code), ("message", .str error.message)]

/-- A report as a value: the verdict and the findings. -/
def reportValue (errors : List RenderedError) : Json :=
  .obj [("valid", .bool errors.isEmpty), ("errors", .arr (errors.map errorValue))]

/-- The tokens of a finding. -/
def errorTokens (error : RenderedError) : List Token :=
  [.openObject, .scalar (.str "field"), .colon, .scalar (.str error.field), .comma,
    .scalar (.str "code"), .colon, .scalar (.str error.code), .comma,
    .scalar (.str "message"), .colon, .scalar (.str error.message), .closeObject]

/-- The tokens of a list of findings. -/
def listTokens (errors : List RenderedError) : List Token :=
  [.openArray] ++ [.comma].intercalate (errors.map errorTokens) ++ [.closeArray]

/-- The tokens of a report. -/
def reportTokens (errors : List RenderedError) : List Token :=
  [.openObject, .scalar (.str "valid"), .colon, .scalar (.bool errors.isEmpty), .comma,
    .scalar (.str "errors"), .colon] ++ listTokens errors ++ [.closeObject]

theorem spells_errorObject (error : RenderedError) : Spells (errorObject error) (errorTokens error) := by
  have field : Spells "    \x7b\n      \"field\": " [.openObject, .scalar (.str "field"), .colon] :=
    (Spells.blank "    " rfl).append (Spells.key '{' rfl "\n      " rfl "field")
  have code : Spells ",\n      \"code\": " [.comma, .scalar (.str "code"), .colon] :=
    Spells.key ',' rfl "\n      " rfl "code"
  have message : Spells ",\n      \"message\": " [.comma, .scalar (.str "message"), .colon] :=
    Spells.key ',' rfl "\n      " rfl "message"
  have ending : Spells "\n    \x7d" [.closeObject] :=
    (Spells.blank "\n    " rfl).append (Spells.sign '}' rfl)
  exact (((((field.append (.literal error.field)).append code).append (.literal error.code)).append message).append
    (.literal error.message)).append ending

theorem spells_list (errors : List RenderedError) :
    Spells (if errors.isEmpty then "[]" else "[\n" ++ String.intercalate ",\n" (errors.map errorObject) ++ "\n  ]")
      (listTokens errors) := by
  have opening : Spells "[" [.openArray] := Spells.sign '[' rfl
  have closing : Spells "]" [.closeArray] := Spells.sign ']' rfl
  cases errors with
  | nil => exact opening.append closing
  | cons error errors =>
    have newline : Spells "\n" [] := Spells.blank _ rfl
    have margin : Spells "\n  " [] := Spells.blank _ rfl
    have comma : Spells ",\n" [.comma] := (Spells.sign ',' rfl).append newline
    exact ((opening.append newline).append (.intercalate comma spells_errorObject (error :: errors))).append
      (margin.append closing)

theorem spells_jsonReport (errors : List RenderedError) : Spells (jsonReport errors) (reportTokens errors) := by
  have valid : Spells "\x7b\n  \"valid\": " [.openObject, .scalar (.str "valid"), .colon] :=
    Spells.key '{' rfl "\n  " rfl "valid"
  have list : Spells ",\n  \"errors\": " [.comma, .scalar (.str "errors"), .colon] :=
    Spells.key ',' rfl "\n  " rfl "errors"
  have ending : Spells "\n\x7d\n" [.closeObject] :=
    ((Spells.blank "\n" rfl).append (Spells.sign '}' rfl)).append (Spells.blank "\n" rfl)
  exact (((valid.append (.word errors.isEmpty)).append list).append (spells_list errors)).append ending

/-! ## The document -/

/-- What is read of a finding. -/
def errorDraft (error : RenderedError) : Draft :=
  .object [("field", .scalar (.str error.field)), ("code", .scalar (.str error.code)),
    ("message", .scalar (.str error.message))] none

theorem build_errorTokens {frames : List Frame} (h : frames.length < Json.depthLimit) (error : RenderedError)
    (rest : List Token) :
    Json.build frames .value (errorTokens error ++ rest) = Json.build frames (.after (errorDraft error)) rest := by
  simp [errorTokens, errorDraft, Json.build, Json.build.startValue, h]

/-- The findings are read one after another, and put behind those that have been read. -/
theorem build_errors {frames : List Frame} (h : frames.length + 1 < Json.depthLimit) (read : List Draft)
    (error : RenderedError) (errors : List RenderedError) (rest : List Token) :
    Json.build (.array read :: frames) .value
        ([.comma].intercalate ((error :: errors).map errorTokens) ++ .closeArray :: rest) =
      Json.build frames (.after (.array (read.reverse ++ (error :: errors).map errorDraft) none)) rest := by
  have room : (Frame.array read :: frames).length < Json.depthLimit := h
  induction errors generalizing read error with
  | nil =>
    simp only [List.map_cons, List.map_nil, List.intercalate_singleton]
    rw [build_errorTokens room]
    simp [Json.build]
  | cons next errors ih =>
    have step := ih (errorDraft error :: read) next h
    simp only [List.map_cons, List.intercalate_cons_cons, List.append_assoc] at step ⊢
    rw [build_errorTokens room]
    simp [Json.build, step]

theorem build_listTokens (frames : List Frame) (h : frames.length + 1 < Json.depthLimit)
    (errors : List RenderedError) (rest : List Token) :
    Json.build frames .value (listTokens errors ++ rest) =
      Json.build frames (.after (.array (errors.map errorDraft) none)) rest := by
  have room : frames.length < Json.depthLimit := Nat.lt_of_succ_lt h
  cases errors with
  | nil => simp [listTokens, Json.build, Json.build.startValue, room]
  | cons error errors =>
    have items := build_errors h [] error errors rest
    -- an array that is not empty starts with its first item, which is read as any value is
    have first : Json.build frames .value (listTokens (error :: errors) ++ rest) =
        Json.build (.array [] :: frames) .value
          ([.comma].intercalate ((error :: errors).map errorTokens) ++ .closeArray :: rest) := by
      simp [listTokens, Json.build, Json.build.startValue, room, errorTokens]
    rw [first, items]
    rfl

theorem toJson_errorDraft (error : RenderedError) : (errorDraft error).toJson = .ok (errorValue error) := by
  simp [errorDraft, errorValue, Draft.toJson, Draft.toMembers, Except.map, List.lookup_cons]

theorem toItems_errorDrafts (errors : List RenderedError) :
    Draft.toItems (errors.map errorDraft) = .ok (errors.map errorValue) := by
  induction errors with
  | nil => rfl
  | cons error errors ih => simp [Draft.toItems, toJson_errorDraft, ih, Except.map]

/-- **A report is read back**: its text is that of a document, with the verdict and the findings in their order. -/
theorem parse_jsonReport (errors : List RenderedError) :
    Json.parse (jsonReport errors) = .ok (reportValue errors) := by
  have read : Json.draft (jsonReport errors) =
      ⟨.object [("valid", .scalar (.bool errors.isEmpty)), ("errors", .array (errors.map errorDraft) none)] none,
        false⟩ := by
    rw [Json.draft, (spells_jsonReport errors).tokens_eq]
    have list := build_listTokens [.object [("valid", .scalar (.bool errors.isEmpty))] "errors"]
      (by simp [Json.depthLimit]) errors [.closeObject]
    have room : 0 < Json.depthLimit := by decide
    simp [reportTokens, Json.build, Json.build.startValue, list, room]
  rw [Json.parse, read]
  simp [Json.Document.read, Draft.toJson, Draft.toMembers, toItems_errorDrafts, Except.map, reportValue,
    List.lookup_cons]

end FieldRules.Cli
