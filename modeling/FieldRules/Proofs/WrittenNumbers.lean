import FieldRules.Proofs.Admission
import Mathlib.Data.Nat.Digits.Defs

/-!
# Numbers as they are written

A count is written with ASCII digits, perhaps behind a plus sign, and an integer perhaps behind a minus sign as well.
The readers of machine words accept exactly the numerals of their width and give what these denote
(`readCount?_eq_some_iff`, `readInteger?_eq_some_iff`), however many zeros they start with. A bound is such a number,
or `*`, which leaves its side open (`Bounds.read_eq_ok_iff_isWritten`).
-/

namespace FieldRules

namespace Numeral

/-! ## Numerals -/

/-- The number that ASCII digits denote in base ten, the most significant first. -/
def decimalValue (digits : List Char) : Nat :=
  Nat.ofDigits 10 (digits.reverse.map fun c => c.toNat - '0'.toNat)

/-- ASCII digits, one at least. -/
def IsDigits (cs : List Char) : Prop :=
  cs ≠ [] ∧ ∀ c ∈ cs, c.isDigit = true

/-- The text is a numeral for a count. -/
inductive WritesCount : List Char → Nat → Prop
  | plain {digits : List Char} (numeral : IsDigits digits) : WritesCount digits (decimalValue digits)
  | plus {digits : List Char} (numeral : IsDigits digits) : WritesCount ('+' :: digits) (decimalValue digits)

/-- The text is a numeral for an integer. -/
inductive WritesInteger : List Char → Int → Prop
  | count {cs : List Char} {n : Nat} (written : WritesCount cs n) : WritesInteger cs n
  | minus {digits : List Char} (numeral : IsDigits digits) : WritesInteger ('-' :: digits) (-decimalValue digits)

variable {cs : List Char} {c : Char} {n d : Nat}

theorem decimalValue_cons (c : Char) (cs : List Char) :
    decimalValue (c :: cs) = (c.toNat - '0'.toNat) * 10 ^ cs.length + decimalValue cs := by
  rw [decimalValue, List.reverse_cons, List.map_append, Nat.ofDigits_append]
  simp [decimalValue, Nat.mul_comm, Nat.add_comm]

theorem decimalDigit?_eq_some_iff : decimalDigit? c = some d ↔ c.isDigit = true ∧ d = c.toNat - '0'.toNat := by
  have range : c.isDigit = true ↔ '0' ≤ c ∧ c ≤ '9' := Char.isDigit_iff_toNat
  rw [decimalDigit?, range, Option.ite_none_right_eq_some, Option.some.injEq, eq_comm (a := d)]

/-- Digits behind others count on from these. -/
theorem readDigits_eq_some_iff {value : Nat} : readDigits decimalDigit? 10 value cs = some n ↔
    (∀ c ∈ cs, c.isDigit = true) ∧ n = value * 10 ^ cs.length + decimalValue cs := by
  induction cs generalizing value with
  | nil => simp [readDigits, decimalValue, eq_comm (a := n)]
  | cons c cs ih =>
    rw [readDigits, List.forall_mem_cons, decimalValue_cons, List.length_cons]
    cases digit : decimalDigit? c with
    | none =>
      have noDigit : ¬ c.isDigit = true := fun isDigit => by
        rw [decimalDigit?_eq_some_iff.2 ⟨isDigit, rfl⟩] at digit
        cases digit
      simp [noDigit]
    | some d =>
      obtain ⟨isDigit, rfl⟩ := decimalDigit?_eq_some_iff.1 digit
      have same : (value * 10 + (c.toNat - '0'.toNat)) * 10 ^ cs.length + decimalValue cs =
          value * 10 ^ (cs.length + 1) + ((c.toNat - '0'.toNat) * 10 ^ cs.length + decimalValue cs) := by
        ring
      simp only [ih, isDigit, true_and, same]

theorem readDecimal?_eq_some_iff : readDecimal? cs = some n ↔ IsDigits cs ∧ n = decimalValue cs := by
  cases cs with
  | nil => simp [readDecimal?, IsDigits]
  | cons c cs => simp [readDecimal?, readDigits_eq_some_iff, IsDigits]

/-! ## The readers -/

/-- A sign is no digit. -/
theorem not_isDigits_sign {sign : Char} (noDigit : sign.isDigit = false) (cs : List Char) :
    ¬ IsDigits (sign :: cs) := fun numeral => by
  simp [numeral.2 sign (List.mem_cons_self ..)] at noDigit

theorem writesCount_plus_iff : WritesCount ('+' :: cs) n ↔ IsDigits cs ∧ n = decimalValue cs := by
  constructor
  · intro written
    cases written with
    | plain numeral => exact absurd numeral (not_isDigits_sign rfl cs)
    | plus numeral => exact ⟨numeral, rfl⟩
  · rintro ⟨numeral, rfl⟩
    exact .plus numeral

theorem writesCount_plain_iff (noSign : cs.head? ≠ some '+') :
    WritesCount cs n ↔ IsDigits cs ∧ n = decimalValue cs := by
  constructor
  · intro written
    cases written with
    | plain numeral => exact ⟨numeral, rfl⟩
    | plus numeral => exact absurd rfl noSign
  · rintro ⟨numeral, rfl⟩
    exact .plain numeral

theorem bound64_eq_some_iff {m : Nat} : bound64 m = some n ↔ n = m ∧ n < 2 ^ 64 := by
  have size : UInt64.size = 2 ^ 64 := rfl
  rw [bound64, size, Option.ite_none_right_eq_some, Option.some.injEq]
  constructor
  · rintro ⟨small, rfl⟩
    exact ⟨rfl, small⟩
  · rintro ⟨rfl, small⟩
    exact ⟨small, rfl⟩

theorem boundSigned64_eq_some_iff {m n : Int} : boundSigned64 m = some n ↔ n = m ∧ -2 ^ 63 ≤ n ∧ n < 2 ^ 63 := by
  rw [boundSigned64, Option.ite_none_right_eq_some, Option.some.injEq]
  constructor
  · rintro ⟨small, rfl⟩
    exact ⟨rfl, small⟩
  · rintro ⟨rfl, small⟩
    exact ⟨small, rfl⟩

/-- **A count is read** from a numeral for a number below 2^64, and from nothing else. -/
theorem readCount?_eq_some_iff : readCount? cs = some n ↔ WritesCount cs n ∧ n < 2 ^ 64 := by
  have read (digits : List Char) : (readDecimal? digits).bind bound64 = some n ↔
      (IsDigits digits ∧ n = decimalValue digits) ∧ n < 2 ^ 64 := by
    simp only [Option.bind_eq_some_iff, readDecimal?_eq_some_iff, bound64_eq_some_iff]
    constructor
    · rintro ⟨_, ⟨numeral, rfl⟩, rfl, small⟩
      exact ⟨⟨numeral, rfl⟩, small⟩
    · rintro ⟨⟨numeral, rfl⟩, small⟩
      exact ⟨_, ⟨numeral, rfl⟩, rfl, small⟩
  unfold readCount?
  split
  · next digits => rw [read, writesCount_plus_iff]
  · next noPlus =>
    have noSign : cs.head? ≠ some '+' := fun head => by
      obtain ⟨rest, rfl⟩ := List.head?_eq_some_iff.1 head
      exact noPlus rest rfl
    rw [read, writesCount_plain_iff noSign]

theorem writesInteger_minus_iff {n : Int} :
    WritesInteger ('-' :: cs) n ↔ IsDigits cs ∧ n = -(decimalValue cs : Int) := by
  constructor
  · intro written
    cases written with
    | count written =>
      exact absurd ((writesCount_plain_iff (by simp)).1 written).1 (not_isDigits_sign rfl cs)
    | minus numeral => exact ⟨numeral, rfl⟩
  · rintro ⟨numeral, rfl⟩
    exact .minus numeral

theorem writesInteger_count_iff {n : Int} (noSign : cs.head? ≠ some '-') :
    WritesInteger cs n ↔ ∃ m : Nat, WritesCount cs m ∧ n = m := by
  constructor
  · intro written
    cases written with
    | count written => exact ⟨_, written, rfl⟩
    | minus numeral => exact absurd rfl noSign
  · rintro ⟨m, written, rfl⟩
    exact .count written

/-- **An integer is read** from a numeral for one that fits in 64 bits with sign, and from nothing else. -/
theorem readInteger?_eq_some_iff {n : Int} :
    readInteger? cs = some n ↔ WritesInteger cs n ∧ -2 ^ 63 ≤ n ∧ n < 2 ^ 63 := by
  have read (digits : List Char) (signed : Nat → Int) :
      ((readDecimal? digits).bind fun m => boundSigned64 (signed m)) = some n ↔
        (IsDigits digits ∧ n = signed (decimalValue digits)) ∧ -2 ^ 63 ≤ n ∧ n < 2 ^ 63 := by
    simp only [Option.bind_eq_some_iff, readDecimal?_eq_some_iff, boundSigned64_eq_some_iff]
    constructor
    · rintro ⟨_, ⟨numeral, rfl⟩, rfl, small⟩
      exact ⟨⟨numeral, rfl⟩, small⟩
    · rintro ⟨⟨numeral, rfl⟩, small⟩
      exact ⟨_, ⟨numeral, rfl⟩, rfl, small⟩
  unfold readInteger?
  split
  · next digits =>
    rw [read digits fun m => m, writesInteger_count_iff (by simp)]
    simp [writesCount_plus_iff, and_assoc]
  · next digits => rw [read digits fun m => -m, writesInteger_minus_iff]
  · next noPlus noMinus =>
    have signs : cs.head? ≠ some '+' ∧ cs.head? ≠ some '-' := by
      constructor <;> intro head <;> obtain ⟨rest, rfl⟩ := List.head?_eq_some_iff.1 head
      · exact noPlus rest rfl
      · exact noMinus rest rfl
    rw [read cs fun m => m, writesInteger_count_iff signs.2]
    simp [writesCount_plain_iff signs.1, and_assoc]

end Numeral

/-! ## Bounds -/

namespace Bounds

variable {α : Type} {read : List Char → Option α} {Writes : List Char → α → Prop} {part name lower upper : String}
  {code : List String}

/-- What a bound says as it is written: nothing where its side is left open, else the number that is written there with
blanks around it, if any. -/
def IsWritten (Writes : List Char → α → Prop) (part : String) : Option α → Prop
  | none => Text.trim part = openMark
  | some value => Writes (Text.trim part).toList value

theorem readBound_eq_ok_iff_isWritten (reads : ∀ cs value, read cs = some value ↔ Writes cs value)
    (noMark : read ['*'] = none) {bound : Option α} :
    readBound read (some part) = .ok bound ↔ IsWritten Writes part bound := by
  rw [readBound_eq_ok_iff noMark]
  cases bound with
  | none =>
    constructor
    · rintro ⟨mark | ⟨value, found⟩, none⟩
      · exact mark
      · rw [found] at none
        cases none
    · intro mark
      have toList : (Text.trim part).toList = ['*'] := mark ▸ rfl
      exact ⟨Or.inl mark, by rw [toList, noMark]⟩
  | some value =>
    rw [IsWritten, ← reads]
    exact ⟨fun h => h.2.symm, fun found => ⟨Or.inr ⟨value, found⟩, found.symm⟩⟩

/-- A bound says one thing. -/
theorem IsWritten.unique (reads : ∀ cs value, read cs = some value ↔ Writes cs value) (noMark : read ['*'] = none)
    {bound other : Option α} (h : IsWritten Writes part bound) (h' : IsWritten Writes part other) : other = bound := by
  rw [← readBound_eq_ok_iff_isWritten reads noMark] at h h'
  exact Except.ok.inj (h'.symm.trans h)

/-- **Bounds are read** where both are written and the lower one is not above the upper one. -/
theorem read_eq_ok_iff_isWritten [LT α] [DecidableLT α] (reads : ∀ cs value, read cs = some value ↔ Writes cs value)
    (noMark : read ['*'] = none) {bounds : Bounds α} :
    Bounds.read read ⟨name, lower :: upper :: code⟩ = .ok bounds ↔ IsWritten Writes lower bounds.min ∧
      IsWritten Writes upper bounds.max ∧ ∀ min ∈ bounds.min, ∀ max ∈ bounds.max, ¬ max < min := by
  have first : Directive.part? ⟨name, lower :: upper :: code⟩ 1 = some lower := rfl
  have second : Directive.part? ⟨name, lower :: upper :: code⟩ 2 = some upper := rfl
  have straight : bounds.isReversed = false ↔ ∀ min ∈ bounds.min, ∀ max ∈ bounds.max, ¬ max < min := by
    rw [isReversed_eq_false_iff]
    exact ⟨fun h min hmin max hmax => h min max hmin hmax, fun h min max hmin hmax => h min hmin max hmax⟩
  simp only [Bounds.read, first, second, bind_eq_ok_iff, readBound_eq_ok_iff_isWritten reads noMark, ← straight]
  constructor
  · rintro ⟨min, isLower, max, isUpper, h⟩
    split at h
    · cases h
    · next ordered =>
      obtain rfl := Except.ok.inj h
      exact ⟨isLower, isUpper, by simpa using ordered⟩
  · rintro ⟨isLower, isUpper, ordered⟩
    refine ⟨_, isLower, _, isUpper, ?_⟩
    rw [ordered]
    rfl

theorem contains_iff [LE α] [DecidableLE α] {bounds : Bounds α} {value : α} : bounds.contains value = true ↔
    (∀ min ∈ bounds.min, min ≤ value) ∧ ∀ max ∈ bounds.max, value ≤ max := by
  simp [contains, Option.all_eq_true]

end Bounds

/-- A bound for integers that fit in 64 bits with sign. -/
def IntegerBound : String → Option Int → Prop :=
  Bounds.IsWritten fun cs n => Numeral.WritesInteger cs n ∧ -2 ^ 63 ≤ n ∧ n < 2 ^ 63

/-- A bound for counts that fit in 64 bits. -/
def CountBound : String → Option Nat → Prop :=
  Bounds.IsWritten fun cs n => Numeral.WritesCount cs n ∧ n < 2 ^ 64

theorem IntegerBound.unique {part : String} {bound other : Option Int} (h : IntegerBound part bound)
    (h' : IntegerBound part other) : other = bound :=
  Bounds.IsWritten.unique (fun _ _ => Numeral.readInteger?_eq_some_iff) rfl h h'

theorem CountBound.unique {part : String} {bound other : Option Nat} (h : CountBound part bound)
    (h' : CountBound part other) : other = bound :=
  Bounds.IsWritten.unique (fun _ _ => Numeral.readCount?_eq_some_iff) rfl h h'

section
variable {name lower upper : String} {code : List String}

theorem readIntegers_eq_ok_iff {bounds : Bounds Int} :
    Bounds.read Numeral.readInteger? ⟨name, lower :: upper :: code⟩ = .ok bounds ↔
      IntegerBound lower bounds.min ∧ IntegerBound upper bounds.max ∧
        ∀ min ∈ bounds.min, ∀ max ∈ bounds.max, min ≤ max := by
  have reads (cs : List Char) (n : Int) : Numeral.readInteger? cs = some n ↔ _ := Numeral.readInteger?_eq_some_iff
  simp only [Bounds.read_eq_ok_iff_isWritten reads rfl, Int.not_lt]
  rfl

theorem readCounts_eq_ok_iff {bounds : Bounds Nat} :
    Bounds.read Numeral.readCount? ⟨name, lower :: upper :: code⟩ = .ok bounds ↔
      CountBound lower bounds.min ∧ CountBound upper bounds.max ∧
        ∀ min ∈ bounds.min, ∀ max ∈ bounds.max, min ≤ max := by
  have reads (cs : List Char) (n : Nat) : Numeral.readCount? cs = some n ↔ _ := Numeral.readCount?_eq_some_iff
  simp only [Bounds.read_eq_ok_iff_isWritten reads rfl, Nat.not_lt]
  rfl

end

end FieldRules
