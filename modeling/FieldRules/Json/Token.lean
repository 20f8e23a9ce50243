import FieldRules.Json.Number
import FieldRules.Text.Bytes

/-!
# JSON tokens (called at `crates/validator/src/config.rs:47-52`)

A JSON text is cut into signs, texts and other scalars. Where no token can be read, a *broken* token says how
the text fails there, and the list ends; whether that is the first fault to be met depends on what stands
before it.
-/

namespace FieldRules.Json

inductive Token
  | openArray
  | closeArray
  | openObject
  | closeObject
  | comma
  | colon
  /-- A value that is no container. -/
  | scalar (value : Json)
  /-- A text that starts here and cannot be read. -/
  | brokenText (fault : JsonFault)
  /-- Something else that cannot be read. -/
  | broken (fault : JsonFault)

/-- The characters that may stand between tokens. -/
def isSpace (c : Char) : Bool :=
  c == ' ' || c == '\t' || c == '\n' || c == '\r'

/-! ## Texts -/

/-- Four hexadecimal digits. A text with fewer than four bytes left is cut short. -/
def readUnit (cs : List Char) : Except JsonFault (Nat × List Char) :=
  if Text.byteLength (cs.take 4) < 4 then .error .truncated
  else
    match Numeral.readHex? (cs.take 4) with
    | some unit => if (cs.take 4).length = 4 then .ok (unit, cs.drop 4) else .error .malformed
    | none => .error .malformed

/-- The second half of a pair of units, after the first. -/
def readLowUnit (high : Nat) (cs : List Char) : Except JsonFault (Char × List Char) :=
  match cs with
  | [] => .error .truncated
  | ['\\'] => .error .truncated
  | '\\' :: 'u' :: cs => do
    let (low, rest) ← readUnit cs
    if 0xDC00 ≤ low ∧ low < 0xE000 then
      .ok (Char.ofNat (0x10000 + (high - 0xD800) * 0x400 + (low - 0xDC00)), rest)
    else .error .malformed
  | _ => .error .malformed

/-- A character given by one unit or a pair of them. -/
def readUnits (cs : List Char) : Except JsonFault (Char × List Char) := do
  let (unit, rest) ← readUnit cs
  if 0xDC00 ≤ unit ∧ unit < 0xE000 then .error .malformed
  else if 0xD800 ≤ unit ∧ unit < 0xDC00 then readLowUnit unit rest
  else .ok (Char.ofNat unit, rest)

def readEscape (cs : List Char) : Except JsonFault (Char × List Char) :=
  match cs with
  | [] => .error .truncated
  | '"' :: cs => .ok ('"', cs)
  | '\\' :: cs => .ok ('\\', cs)
  | '/' :: cs => .ok ('/', cs)
  | 'b' :: cs => .ok ('\x08', cs)
  | 'f' :: cs => .ok ('\x0c', cs)
  | 'n' :: cs => .ok ('\n', cs)
  | 'r' :: cs => .ok ('\r', cs)
  | 't' :: cs => .ok ('\t', cs)
  | 'u' :: cs => readUnits cs
  | _ => .error .malformed

/-- Reads a text after its opening quote. The number bounds the characters of the text; the read ones are kept in
reverse. -/
def readTextFrom : Nat → List Char → List Char → Except JsonFault (String × List Char)
  | _, _, [] => .error .truncated
  | 0, _, _ => .error .truncated
  | bound + 1, read, c :: cs =>
    if c = '"' then .ok (String.ofList read.reverse, cs)
    else if c = '\\' then
      match readEscape cs with
      | .error fault => .error fault
      | .ok (c, rest) => readTextFrom bound (c :: read) rest
    else if c < ' ' then .error .malformed
    else readTextFrom bound (c :: read) cs

def readText (cs : List Char) : Except JsonFault (String × List Char) :=
  readTextFrom cs.length [] cs

/-! ## Words -/

def readWord (value : Json) : List Char → List Char → Except JsonFault (Json × List Char)
  | [], cs => .ok (value, cs)
  | _ :: _, [] => .error .truncated
  | w :: word, c :: cs => if w = c then readWord value word cs else .error .malformed

/-- Reads a scalar that is no text. -/
def readScalar (cs : List Char) : Except JsonFault (Json × List Char) :=
  match cs with
  | [] => .error .truncated
  | 'n' :: cs => readWord .null ['u', 'l', 'l'] cs
  | 't' :: cs => readWord (.bool true) ['r', 'u', 'e'] cs
  | 'f' :: cs => readWord (.bool false) ['a', 'l', 's', 'e'] cs
  | c :: cs => if c = '-' ∨ Numeral.isDecimalDigit c then readNumber (c :: cs) else .error .malformed

/-! ## Whole texts -/

def sign? : Char → Option Token
  | '[' => some .openArray
  | ']' => some .closeArray
  | '{' => some .openObject
  | '}' => some .closeObject
  | ',' => some .comma
  | ':' => some .colon
  | _ => none

/-- The tokens of a text; the number bounds how many there are. -/
def tokensFrom : Nat → List Char → List Token
  | 0, _ => []
  | bound + 1, cs =>
    match cs.dropWhile isSpace with
    | [] => []
    | c :: cs =>
      match sign? c with
      | some sign => sign :: tokensFrom bound cs
      | none =>
        if c = '"' then
          match readText cs with
          | .ok (text, rest) => .scalar (.str text) :: tokensFrom bound rest
          | .error fault => [.brokenText fault]
        else
          match readScalar (c :: cs) with
          | .ok (value, rest) => .scalar value :: tokensFrom bound rest
          | .error fault => [.broken fault]

def tokens (text : String) : List Token :=
  let cs := text.toList
  tokensFrom cs.length cs

end FieldRules.Json
