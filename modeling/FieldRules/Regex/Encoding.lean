import FieldRules.Text.CharRanges

/-!
# Characters as bytes (called at `crates/validator/src/builders/string.rs:133`)

A character is encoded in one to four bytes: a leading byte and up to three more, which carry six bits each.
A range of characters is cut into *runs*, whose encodings range over each byte on its own.
-/

namespace FieldRules.Regex

/-- A run of characters whose encodings range over each byte on its own: the ranges, the first byte first. -/
abbrev ByteRanges := List (Nat × Nat)

/-- Cuts the numbers of some digits in base 64, from one to another, into runs that range over each digit on its
own. The first argument is the number of digits after the first. -/
def cutDigits : Nat → Nat → Nat → List ByteRanges
  | 0, low, high => [[(low, high)]]
  | digits + 1, low, high =>
    let unit := 64 ^ (digits + 1)
    let first := low / unit
    let last := high / unit
    if first = last then
      (cutDigits digits (low % unit) (high % unit)).map ((first, first) :: ·)
    else
      let headCut := low % unit ≠ 0
      let tailCut := high % unit ≠ unit - 1
      let head :=
        if headCut then (cutDigits digits (low % unit) (unit - 1)).map ((first, first) :: ·) else []
      let tail :=
        if tailCut then (cutDigits digits 0 (high % unit)).map ((last, last) :: ·) else []
      let middleFirst := if headCut then first + 1 else first
      let middleLast := if tailCut then last - 1 else last
      let middle :=
        if middleFirst ≤ middleLast then
          [(middleFirst, middleLast) :: List.replicate (digits + 1) (0, 63)]
        else []
      head ++ middle ++ tail

/-- The code points that are encoded in a number of bytes. -/
structure EncodingBand where
  /-- The number of bytes after the leading one. -/
  more : Nat
  /-- What the leading byte holds beside its digit. -/
  mark : Nat
  low : Nat
  high : Nat

/-- The code points by the lengths of their encodings; surrogates are not encoded. -/
def encodingBands : List EncodingBand :=
  [⟨0, 0, 0, 0x7F⟩, ⟨1, 0xC0, 0x80, 0x7FF⟩, ⟨2, 0xE0, 0x800, 0xD7FF⟩, ⟨2, 0xE0, 0xE000, 0xFFFF⟩,
   ⟨3, 0xF0, 0x10000, 0x10FFFF⟩]

/-- The bytes that hold the digits of a run. -/
def markBytes (mark : Nat) : ByteRanges → ByteRanges
  | [] => []
  | first :: rest =>
    (mark + first.1, mark + first.2) :: rest.map fun range => (0x80 + range.1, 0x80 + range.2)

def encodings (range : Nat × Nat) : List ByteRanges :=
  encodingBands.flatMap fun band =>
    if max range.1 band.low ≤ min range.2 band.high then
      (cutDigits band.more (max range.1 band.low) (min range.2 band.high)).map (markBytes band.mark)
    else []

def encode (c : Char) : List Nat :=
  (encodings (c.toNat, c.toNat)).flatten.map Prod.fst

end FieldRules.Regex
