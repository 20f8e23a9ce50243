/-!
# Cutting a text at a count of bytes (called at `crates/validator/src/builders/string.rs:67`)

A character takes up one to four bytes. A text can be cut after a number of bytes when they make up whole
characters; then the two pieces give the text back, and the first has that many bytes.
-/

namespace FieldRules.Text

def byteLength : List Char → Nat
  | [] => 0
  | c :: cs => c.utf8Size + byteLength cs

/-- Cuts a text after a number of bytes, unless that is inside a character or beyond the end. -/
def splitBytes? : Nat → List Char → Option (List Char × List Char)
  | 0, cs => some ([], cs)
  | _ + 1, [] => none
  | n + 1, c :: cs =>
    if c.utf8Size ≤ n + 1 then
      (splitBytes? (n + 1 - c.utf8Size) cs).map fun (head, rest) => (c :: head, rest)
    else none

/-- The stretch of a text from one place to another, both given by the bytes before them. -/
def slice? (low high : Nat) (cs : List Char) : Option (List Char) := do
  let (head, _) ← splitBytes? high cs
  let (_, stretch) ← splitBytes? low head
  some stretch

theorem byteLength_append (cs ds : List Char) : byteLength (cs ++ ds) = byteLength cs + byteLength ds := by
  induction cs with
  | nil => simp [byteLength]
  | cons c cs ih => simp [byteLength, ih, Nat.add_assoc]

/-- A cut after a number of bytes gives the two pieces of which the first has that many. -/
theorem splitBytes?_eq_some_iff {n : Nat} {cs head rest : List Char} :
    splitBytes? n cs = some (head, rest) ↔ cs = head ++ rest ∧ byteLength head = n := by
  induction cs generalizing n head with
  | nil =>
    cases n with
    | zero =>
      simp only [splitBytes?, Option.some.injEq, Prod.mk.injEq, List.nil_eq_append_iff]
      constructor
      · rintro ⟨rfl, rfl⟩
        exact ⟨⟨rfl, rfl⟩, rfl⟩
      · rintro ⟨⟨rfl, rfl⟩, -⟩
        exact ⟨rfl, rfl⟩
    | succ n =>
      simp only [splitBytes?, reduceCtorEq, List.nil_eq_append_iff, false_iff]
      rintro ⟨⟨rfl, rfl⟩, h⟩
      simp [byteLength] at h
  | cons c cs ih =>
    have positive := c.utf8Size_pos
    cases n with
    | zero =>
      simp only [splitBytes?, Option.some.injEq, Prod.mk.injEq]
      constructor
      · rintro ⟨rfl, rfl⟩
        exact ⟨rfl, rfl⟩
      · rintro ⟨h, size⟩
        cases head with
        | nil => exact ⟨rfl, h⟩
        | cons d head =>
          have := d.utf8Size_pos
          simp only [byteLength] at size
          omega
    | succ n =>
      simp only [splitBytes?]
      split
      · next fits =>
        simp only [Option.map_eq_some_iff, Prod.exists, Prod.mk.injEq]
        constructor
        · rintro ⟨inner, after, h, rfl, rfl⟩
          obtain ⟨rfl, size⟩ := ih.1 h
          exact ⟨rfl, by simp only [byteLength]; omega⟩
        · rintro ⟨h, size⟩
          cases head with
          | nil => simp [byteLength] at size
          | cons d head =>
            simp only [List.cons_append, List.cons.injEq] at h
            obtain ⟨rfl, rfl⟩ := h
            simp only [byteLength] at size
            exact ⟨head, rest, ih.2 ⟨rfl, by omega⟩, rfl, rfl⟩
      · next exceeds =>
        simp only [reduceCtorEq, false_iff]
        rintro ⟨h, size⟩
        cases head with
        | nil => simp [byteLength] at size
        | cons d head =>
          simp only [List.cons_append, List.cons.injEq] at h
          obtain ⟨rfl, -⟩ := h
          simp only [byteLength] at size
          omega

end FieldRules.Text
