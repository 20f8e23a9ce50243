import FieldRules.Numeral.Radix

/-!
# JSON texts as they are written (called at `apps/cli/src/output.rs:32`)

A text in a JSON document: quotes, backslashes and control characters are escaped, the common control
characters by a letter; every other character stands for itself.
-/

namespace FieldRules.Json

/-- Four hexadecimal digits of a small number. -/
def fourDigits (n : Nat) : List Char :=
  let digits := Numeral.digits 16 n
  List.replicate (4 - digits.length) '0' ++ digits

def literalChar (c : Char) : List Char :=
  if c = '"' ∨ c = '\\' then ['\\', c]
  else if c = '\x08' then ['\\', 'b']
  else if c = '\x0c' then ['\\', 'f']
  else if c = '\n' then ['\\', 'n']
  else if c = '\r' then ['\\', 'r']
  else if c = '\t' then ['\\', 't']
  else if c < ' ' then ['\\', 'u'] ++ fourDigits c.toNat
  else [c]

def literal (s : String) : String :=
  "\"" ++ String.ofList (s.toList.flatMap literalChar) ++ "\""

end FieldRules.Json
