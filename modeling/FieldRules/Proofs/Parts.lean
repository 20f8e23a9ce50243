import FieldRules.Directive

/-!
# Directives and their parts

A directive is written from its parts by doubling their colons and setting single ones between them; it is read by
pairing colons from the left. What is written is read back exactly when no part behind the first can be mistaken for
something else (`decompose_join_iff`): a part that starts with a colon lends it to the separator before it, and so does
the separator behind an empty part. That the condition is enough is seen part by part (`cut_escapeChars`,
`cut_written`); that it is needed is seen from the reader, which gives no other lists (`separable_cut`).
-/

namespace FieldRules.Directive

/-! ## The reader, one character at a time -/

theorem cut_pair (cs : List Char) : cut (':' :: ':' :: cs) = (':' :: (cut cs).1, (cut cs).2) := by
  rw [cut]

theorem cut_separator {cs : List Char} (h : cs.head? ≠ some ':') :
    cut (':' :: cs) = ([], (cut cs).1 :: (cut cs).2) := by
  rw [cut]
  rintro rest rfl
  exact h rfl

theorem cut_plain {c : Char} (h : c ≠ ':') (cs : List Char) : cut (c :: cs) = (c :: (cut cs).1, (cut cs).2) := by
  rw [cut]
  · rintro rest rfl _
    exact h rfl
  · rintro rfl
    exact h rfl

/-! ## Parts that can be told apart -/

/-- Parts that can stand behind a separator: none starts with a colon, and none is empty but the last. -/
def Separable : List (List Char) → Prop
  | [] => True
  | part :: parts => part.head? ≠ some ':' ∧ (part = [] → parts = []) ∧ Separable parts

theorem separable_iff {parts : List (List Char)} : Separable parts ↔
    ∀ i part, parts[i]? = some part → part.head? ≠ some ':' ∧ (part = [] → i + 1 = parts.length) := by
  induction parts with
  | nil => simp [Separable]
  | cons first parts ih =>
    simp only [Separable, ih, List.length_cons]
    constructor
    · rintro ⟨start, last, rest⟩ i part found
      cases i with
      | zero =>
        obtain rfl : first = part := by simpa using found
        refine ⟨start, fun empty => ?_⟩
        simp [last empty]
      | succ i =>
        obtain ⟨start', last'⟩ := rest i part (by simpa using found)
        refine ⟨start', fun empty => ?_⟩
        have := last' empty
        omega
    · intro all
      obtain ⟨start, last⟩ := all 0 first (by simp)
      refine ⟨start, fun empty => ?_, fun i part found => ?_⟩
      · have := last empty
        exact List.eq_nil_of_length_eq_zero (by omega)
      · obtain ⟨start', last'⟩ := all (i + 1) part (by simpa using found)
        refine ⟨start', fun empty => ?_⟩
        have := last' empty
        omega

/-- What is read up to the first separator starts as the text does. -/
theorem head?_cut_fst {cs : List Char} (h : cs.head? ≠ some ':') : (cut cs).1.head? = cs.head? := by
  cases cs with
  | nil => rfl
  | cons c cs =>
    have plain : c ≠ ':' := by simpa using h
    rw [cut_plain plain]
    rfl

/-- **The reader gives separable parts**: a single colon is never followed by another one. -/
theorem separable_cut (cs : List Char) : Separable (cut cs).2 := by
  induction cs using cut.induct with
  | case1 => simp [cut, Separable]
  | case2 cs _ _ _ ih =>
    rw [cut_pair]
    exact ih
  | case3 cs single _ _ _ ih =>
    have start : cs.head? ≠ some ':' := by
      intro colon
      obtain ⟨rest, rfl⟩ := List.head?_eq_some_iff.1 colon
      exact single rest rfl
    rw [cut_separator start]
    refine ⟨?_, fun empty => ?_, ih⟩
    · rw [head?_cut_fst start]
      exact start
    · -- Nothing is read up to the next separator only where the text ends.
      have ends : cs.head? = none := by rw [← head?_cut_fst start, empty, List.head?_nil]
      rw [List.head?_eq_none_iff.1 ends, cut]
  | case4 c cs _ plain _ _ _ ih =>
    rw [cut_plain plain]
    exact ih

/-! ## What is written -/

theorem escapeChars_cons (c : Char) (cs : List Char) :
    escapeChars (c :: cs) = (if c = ':' then [':', ':'] else [c]) ++ escapeChars cs :=
  List.flatMap_cons

/-- Parts as they are written behind the first. -/
def written (parts : List (List Char)) : List Char :=
  parts.flatMap fun part => ':' :: escapeChars part

theorem toList_join (first : String) (parts : List String) :
    (join (first :: parts)).toList = escapeChars first.toList ++ written (parts.map String.toList) := by
  rw [join, String.toList_ofList, List.map_cons]
  induction parts generalizing first with
  | nil => simp [written]
  | cons part parts ih =>
    rw [List.map_cons, List.intercalate_cons_cons, ih]
    simp [written]

/-- **A part that is written is read as a whole**, whatever follows it. -/
theorem cut_escapeChars (part rest : List Char) :
    cut (escapeChars part ++ rest) = (part ++ (cut rest).1, (cut rest).2) := by
  induction part with
  | nil => rfl
  | cons c part ih =>
    rw [escapeChars_cons]
    by_cases colon : c = ':'
    · rw [if_pos colon, colon]
      simp only [List.cons_append, List.nil_append, cut_pair, ih]
    · rw [if_neg colon]
      simp only [List.cons_append, List.nil_append, cut_plain colon, ih]

/-- A part that does not start with a colon is not written with one at the start either. -/
theorem head?_escapeChars {part : List Char} (h : part.head? ≠ some ':') :
    (escapeChars part).head? = part.head? := by
  cases part with
  | nil => rfl
  | cons c part =>
    have plain : c ≠ ':' := by simpa using h
    rw [escapeChars_cons, if_neg plain]
    rfl

/-- **Separable parts are read back** behind the first one. -/
theorem cut_written {parts : List (List Char)} (h : Separable parts) : cut (written parts) = ([], parts) := by
  induction parts with
  | nil => rfl
  | cons part parts ih =>
    obtain ⟨start, last, rest⟩ := h
    have single : (escapeChars part ++ written parts).head? ≠ some ':' := by
      cases part with
      | nil => simp [last rfl, escapeChars, written]
      | cons c part =>
        rw [List.head?_append, head?_escapeChars start]
        exact start
    have separated : written (part :: parts) = ':' :: (escapeChars part ++ written parts) := rfl
    rw [separated, cut_separator single, cut_escapeChars, ih rest, List.append_nil]

/-- What is read from written parts: the first ends where the second begins. -/
theorem decompose_join_cons (first : String) (parts : List String) :
    decompose (join (first :: parts)) =
      String.ofList (first.toList ++ (cut (written (parts.map String.toList))).1) ::
        (cut (written (parts.map String.toList))).2.map String.ofList := by
  simp only [decompose, Directive.parts, parse, toList_join, cut_escapeChars]

theorem decompose_join_of_separable {first : String} {parts : List String}
    (h : Separable (parts.map String.toList)) : decompose (join (first :: parts)) = first :: parts := by
  rw [decompose_join_cons, cut_written h]
  simp [List.map_map, Function.comp_def]

/-- A directive is its parts. -/
theorem parse_of_decompose {text name : String} {arguments : List String} (parts : decompose text = name :: arguments) :
    parse text = ⟨name, arguments⟩ := by
  obtain ⟨rfl, rfl⟩ := List.cons.inj parts
  rfl

theorem parse_join_of_separable {name : String} {arguments : List String}
    (h : Separable (arguments.map String.toList)) :
    parse (join (name :: arguments)) = ⟨name, arguments⟩ :=
  parse_of_decompose (decompose_join_of_separable h)

/-- The parts of a text, but for the first, are separable. -/
theorem separable_of_decompose {text first : String} {parts : List String} (h : decompose text = first :: parts) :
    Separable (parts.map String.toList) := by
  obtain ⟨-, rfl⟩ := List.cons.inj h
  simpa [parse, List.map_map, Function.comp_def] using separable_cut text.toList

/-- **Parts are read back as they were written** exactly when there are any and, behind the first, none starts with a
colon and none is empty but the last. A part alone is always read back. -/
theorem decompose_join_iff (parts : List String) (part : String) :
    (decompose (join parts) = parts ↔
      parts ≠ [] ∧ ∀ i later, 1 ≤ i → parts[i]? = some later →
        later.toList.head? ≠ some ':' ∧ (later = "" → i + 1 = parts.length)) ∧
    decompose (escape part) = [part] := by
  constructor
  · cases parts with
    | nil => simp [decompose_ne_nil]
    | cons first parts =>
      constructor
      · intro back
        have apart := separable_iff.1 (separable_of_decompose back)
        refine ⟨List.cons_ne_nil _ _, fun i later behind found => ?_⟩
        obtain ⟨i, rfl⟩ := Nat.exists_eq_add_of_le' behind
        have listed : parts[i]? = some later := by simpa using found
        obtain ⟨start, last⟩ := apart i later.toList (by simp [listed])
        refine ⟨start, fun empty => ?_⟩
        simpa using last (by simp [empty])
      · rintro ⟨-, apart⟩
        refine decompose_join_of_separable (separable_iff.2 fun i cs found => ?_)
        obtain ⟨later, listed, rfl⟩ : ∃ later, parts[i]? = some later ∧ later.toList = cs := by
          simpa using found
        obtain ⟨start, last⟩ := apart (i + 1) later (by omega) (by simpa using listed)
        refine ⟨start, fun empty => ?_⟩
        simpa using last (by simpa using empty)
  · have alone : escape part = join [part] := by simp [escape, join]
    rw [alone]
    exact decompose_join_of_separable trivial

/-- Empty parts at both ends are read back, and so is a colon that ends a part; an empty part between two is not. -/
example : decompose (join ["", "a:", ""]) = ["", "a:", ""] ∧ decompose (join ["a", "", "b"]) = ["a:b"] := by
  decide

/-! ## What is read is written back -/

/-- Separable parts by their members. -/
theorem separable_iff_forall_mem {parts : List (List Char)} : Separable parts ↔
    (∀ part ∈ parts, part.head? ≠ some ':') ∧ ∀ part ∈ parts.dropLast, part ≠ [] := by
  induction parts with
  | nil => simp [Separable]
  | cons first parts ih =>
    cases parts with
    | nil => simp [Separable]
    | cons second parts =>
      rw [Separable, ih, List.dropLast_cons_cons, List.forall_mem_cons, List.forall_mem_cons (l := List.dropLast _)]
      grind

/-- **The parts of a text, written again, are the text**: the two colons of a pair go into the part as one and come out
as two, and a single colon ends a part and is set behind it. -/
theorem escapeChars_cut (cs : List Char) : escapeChars (cut cs).1 ++ written (cut cs).2 = cs := by
  induction cs using cut.induct with
  | case1 => rfl
  | case2 cs _ _ _ ih =>
    rw [cut_pair, escapeChars_cons, if_pos rfl, List.append_assoc, ih]
    rfl
  | case3 cs single _ _ _ ih =>
    have start : cs.head? ≠ some ':' := by
      intro colon
      obtain ⟨rest, rfl⟩ := List.head?_eq_some_iff.1 colon
      exact single rest rfl
    have separated : written ((cut cs).1 :: (cut cs).2) = ':' :: (escapeChars (cut cs).1 ++ written (cut cs).2) := rfl
    rw [cut_separator start, separated, ih]
    rfl
  | case4 c cs _ plain _ _ _ ih =>
    rw [cut_plain plain, escapeChars_cons, if_neg plain, List.append_assoc, ih]
    rfl

theorem join_decompose (text : String) : join (decompose text) = text := by
  have parts : decompose text = String.ofList (cut text.toList).1 :: (cut text.toList).2.map String.ofList := rfl
  apply String.toList_injective
  rw [parts, toList_join]
  simpa [List.map_map, Function.comp_def] using escapeChars_cut text.toList

/-- **Reading a directive loses nothing.** Its parts, written again, give it back, so no two texts have the same parts;
and the lists of parts that are read are the ones with a first part, behind which no part starts with a colon and none
is empty but the last. -/
theorem decompose_lossless : (∀ text, join (decompose text) = text) ∧ Function.Injective decompose ∧
    ∀ parts, (∃ text, decompose text = parts) ↔
      parts ≠ [] ∧ (∀ part ∈ parts.tail, part.toList.head? ≠ some ':') ∧ ∀ part ∈ parts.tail.dropLast, part ≠ "" := by
  refine ⟨join_decompose, fun text text' same => ?_, fun parts => ?_⟩
  · calc text = join (decompose text) := (join_decompose text).symm
      _ = join (decompose text') := by rw [same]
      _ = text' := join_decompose text'
  · have apart (later : List String) : Separable (later.map String.toList) ↔
        (∀ part ∈ later, part.toList.head? ≠ some ':') ∧ ∀ part ∈ later.dropLast, part ≠ "" := by
      simp [separable_iff_forall_mem, ← List.map_dropLast]
    cases parts with
    | nil => simp [decompose_ne_nil]
    | cons first later =>
      simp only [List.tail_cons, ne_eq, List.cons_ne_nil, not_false_eq_true, true_and]
      rw [← apart]
      constructor
      · rintro ⟨text, read⟩
        exact separable_of_decompose read
      · intro separable
        exact ⟨join (first :: later), decompose_join_of_separable separable⟩

end FieldRules.Directive
