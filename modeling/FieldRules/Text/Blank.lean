/-!
# Blank characters and trimming (called at `crates/validator/src/op.rs:149-157`, `builders/string.rs:53`)

A character is *blank* when it has the Unicode property White_Space: tab to carriage return, space, next
line, no-break space and the space separators. Trimming removes blank characters at both ends and nothing
in between; a trimmed text neither starts nor ends with a blank.
-/

namespace FieldRules.Text

def blankRanges : List (Nat × Nat) :=
  [(0x9, 0xD), (0x20, 0x20), (0x85, 0x85), (0xA0, 0xA0), (0x1680, 0x1680), (0x2000, 0x200A),
   (0x2028, 0x2029), (0x202F, 0x202F), (0x205F, 0x205F), (0x3000, 0x3000)]

def isBlank (c : Char) : Bool :=
  blankRanges.any fun range => range.1 ≤ c.toNat && c.toNat ≤ range.2

def dropBlanks (cs : List Char) : List Char :=
  cs.dropWhile isBlank

def trimChars (cs : List Char) : List Char :=
  (dropBlanks (dropBlanks cs).reverse).reverse

def trim (s : String) : String :=
  String.ofList (trimChars s.toList)

theorem toList_trim (s : String) : (trim s).toList = trimChars s.toList := by
  simp [trim]

/-- Trimming keeps a text that starts and ends with a character that is not blank. -/
theorem trimChars_of_ends {cs : List Char} (first : ∀ c ∈ cs.head?, isBlank c = false)
    (last : ∀ c ∈ cs.getLast?, isBlank c = false) : trimChars cs = cs := by
  have keep : ∀ ds : List Char, (∀ c ∈ ds.head?, isBlank c = false) → dropBlanks ds = ds := by
    intro ds h
    cases ds with
    | nil => rfl
    | cons d ds => simp [dropBlanks, h d (by simp)]
  rw [trimChars, keep cs first, keep cs.reverse (by simpa using last), List.reverse_reverse]

end FieldRules.Text
