import FieldRules.Numeral.Radix

/-!
# Texts in TOML (called at `crates/validator/src/config.rs:47-52`)

A text stands between quotation marks or apostrophes, on one line or, with the mark tripled, on several. Only
between quotation marks does a backslash start an escape; at the end of a line of a text of several lines it
hides the line end and the blanks after it.
-/

namespace FieldRules.Toml

/-- A control character that may not stand in a text or comment; the tab may. -/
def isForbidden (c : Char) : Bool :=
  (c < ' ' && c != '\t') || c.toNat == 0x7F

def isInlineBlank (c : Char) : Bool :=
  c == ' ' || c == '\t'

/-- Takes a line end: a line feed, or a carriage return and a line feed. -/
def takeLineEnd? : List Char → Option (List Char)
  | '\n' :: cs => some cs
  | '\r' :: '\n' :: cs => some cs
  | _ => none

def readCode (digits : Nat) (cs : List Char) : Option (Char × List Char) :=
  if (cs.take digits).length = digits then do
    let code ← Numeral.readHex? (cs.take digits)
    if h : code.isValidChar then some (Char.ofNatAux code h, cs.drop digits) else none
  else none

def readEscape (cs : List Char) : Option (Char × List Char) :=
  match cs with
  | 'b' :: cs => some ('\x08', cs)
  | 't' :: cs => some ('\t', cs)
  | 'n' :: cs => some ('\n', cs)
  | 'f' :: cs => some ('\x0c', cs)
  | 'r' :: cs => some ('\r', cs)
  | 'e' :: cs => some ('\x1b', cs)
  | '"' :: cs => some ('"', cs)
  | '\\' :: cs => some ('\\', cs)
  | 'x' :: cs => readCode 2 cs
  | 'u' :: cs => readCode 4 cs
  | 'U' :: cs => readCode 8 cs
  | _ => none

/-- Reads a text of one line after its opening mark; `escapes` tells whether a backslash starts an escape. The
number bounds the characters of the text; the read ones are kept in reverse. -/
def readLineText (mark : Char) (escapes : Bool) : Nat → List Char → List Char → Option (String × List Char)
  | _, _, [] => none
  | 0, _, _ => none
  | bound + 1, read, c :: cs =>
    if c = mark then some (String.ofList read.reverse, cs)
    else if escapes && c == '\\' then
      match readEscape cs with
      | none => none
      | some (c, rest) => readLineText mark escapes bound (c :: read) rest
    else if isForbidden c then none
    else readLineText mark escapes bound (c :: read) cs

/-- Drops blanks and line ends. -/
def dropBlankLines : List Char → List Char
  | [] => []
  | '\r' :: '\n' :: cs => dropBlankLines cs
  | c :: cs => if isInlineBlank c || c == '\n' then dropBlankLines cs else c :: cs

/-- What follows a backslash that ends its line: the text from the next character that is no blank. -/
def continueLine? (cs : List Char) : Option (List Char) :=
  (takeLineEnd? (cs.dropWhile isInlineBlank)).map dropBlankLines

/-- Reads a text of several lines after its opening marks. Up to two marks may stand before the closing ones. -/
def readLinesText (mark : Char) (escapes : Bool) : Nat → List Char → List Char → Option (String × List Char)
  | _, _, [] => none
  | 0, _, _ => none
  | bound + 1, read, c :: cs =>
    if c = mark then
      let marks := ((c :: cs).takeWhile (· == mark)).length
      let rest := (c :: cs).dropWhile (· == mark)
      if marks < 3 then readLinesText mark escapes bound (List.replicate marks mark ++ read) rest
      else if marks ≤ 5 then some (String.ofList (List.replicate (marks - 3) mark ++ read).reverse, rest)
      else none
    else if escapes && c == '\\' then
      match continueLine? cs with
      | some rest => readLinesText mark escapes bound read rest
      | none =>
        match readEscape cs with
        | none => none
        | some (c, rest) => readLinesText mark escapes bound (c :: read) rest
    else if c = '\n' then readLinesText mark escapes bound (c :: read) cs
    else if c = '\r' then
      match cs with
      | '\n' :: cs => readLinesText mark escapes bound ('\n' :: '\r' :: read) cs
      | _ => none
    else if isForbidden c then none
    else readLinesText mark escapes bound (c :: read) cs

/-- Drops the line end right after the opening marks of a text of several lines. -/
def dropFirstLineEnd (cs : List Char) : List Char :=
  (takeLineEnd? cs).getD cs

def readShortText? (cs : List Char) : Option (String × List Char) :=
  match cs with
  | '"' :: cs => readLineText '"' true cs.length [] cs
  | '\x27' :: cs => readLineText '\x27' false cs.length [] cs
  | _ => none

def readText? (cs : List Char) : Option (String × List Char) :=
  match cs with
  | '"' :: '"' :: '"' :: cs =>
    readLinesText '"' true cs.length [] (dropFirstLineEnd cs)
  | '\x27' :: '\x27' :: '\x27' :: cs =>
    readLinesText '\x27' false cs.length [] (dropFirstLineEnd cs)
  | cs => readShortText? cs

end FieldRules.Toml
