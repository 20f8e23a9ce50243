import FieldRules.Toml.Text
import FieldRules.Toml.Value

/-!
# Reading TOML (called at `crates/validator/src/config.rs:47-52`)

A document is a sequence of lines: headers, keys with values, comments and blank lines. Values may span lines
inside brackets and braces, where comments may stand between the parts and a comma after the last one. The names
of one key, though, stand on one line.
-/

namespace FieldRules.Toml

/-! ## Blanks and comments -/

/-- Drops the blanks within a line. -/
def dropInline (cs : List Char) : List Char :=
  cs.dropWhile isInlineBlank

/-- Drops a comment up to the end of its line; its characters have to be allowed. -/
def dropComment : List Char → Option (List Char)
  | [] => some []
  | '\n' :: cs => some ('\n' :: cs)
  | '\r' :: '\n' :: cs => some ('\r' :: '\n' :: cs)
  | c :: cs => if isForbidden c then none else dropComment cs

/-- Drops the rest of a line, which may hold nothing but blanks and a comment. -/
def endLine (cs : List Char) : Option (List Char) := do
  let cs ←
    match dropInline cs with
    | '#' :: cs => dropComment cs
    | cs => some cs
  if cs.isEmpty then some [] else takeLineEnd? cs

/-- Drops blanks, line ends and comments; the number bounds the lines. -/
def dropSpacing : Nat → List Char → Option (List Char)
  | 0, cs => some cs
  | bound + 1, cs =>
    match dropInline cs with
    | '#' :: cs => do dropSpacing bound (← dropComment cs)
    | cs =>
      match takeLineEnd? cs with
      | some cs => dropSpacing bound cs
      | none => some cs

def dropAllSpacing (cs : List Char) : Option (List Char) :=
  dropSpacing (2 * cs.length + 1) cs

/-! ## Keys -/

/-- A character of a key without quotes. -/
def isBareChar (c : Char) : Bool :=
  c.isAlphanum || c == '_' || c == '-'

def readName (cs : List Char) : Option (String × List Char) :=
  match cs with
  | '"' :: _ => readShortText? cs
  | '\x27' :: _ => readShortText? cs
  | cs =>
    match cs.takeWhile isBareChar with
    | [] => none
    | name => some (String.ofList name, cs.dropWhile isBareChar)

/-- Reads the names of a dotted key; the number bounds them. -/
def readKeyFrom : Nat → List Char → Option (List String × List Char)
  | 0, _ => none
  | bound + 1, cs => do
    let (name, rest) ← readName (dropInline cs)
    match dropInline rest with
    | '.' :: rest => do
      let (names, rest) ← readKeyFrom bound rest
      some (name :: names, rest)
    | rest => some ([name], rest)

/-- Reads a dotted key and the blanks around it. -/
def readKey (cs : List Char) : Option (List String × List Char) :=
  readKeyFrom (cs.length + 1) cs

/-! ## Values -/

/-- What follows a part of a list or an inline table: a comma, or the closing sign. -/
def afterPart (close : Char) (cs : List Char) : Option (Bool × List Char) := do
  match ← dropAllSpacing cs with
  | ',' :: cs => some (true, cs)
  | c :: cs => if c = close then some (false, cs) else none
  | [] => none

mutual

/-- Reads a value. The number bounds the characters of the value. -/
def readValue : Nat → List Char → Option (Toml × List Char)
  | 0, _ => none
  | bound + 1, cs =>
    match cs with
    | '[' :: cs => readItems bound [] cs
    | '{' :: cs => readEntries bound [] cs
    | cs =>
      match readText? cs with
      | some (s, rest) => some (.text s, rest)
      | none => (readMoment? cs).map fun (m, rest) => (.moment m, rest)

/-- Reads the rest of a list; the read items are kept in reverse. -/
def readItems : Nat → List Toml → List Char → Option (Toml × List Char)
  | 0, _, _ => none
  | bound + 1, items, cs => do
    match ← dropAllSpacing cs with
    | ']' :: rest => some (.list items.reverse, rest)
    | cs => do
      let (item, rest) ← readValue bound cs
      let (more, rest) ← afterPart ']' rest
      if more then readItems bound (item :: items) rest
      else some (.list (item :: items).reverse, rest)

def readEntries : Nat → Entries → List Char → Option (Toml × List Char)
  | 0, _, _ => none
  | bound + 1, entries, cs => do
    match ← dropAllSpacing cs with
    | '}' :: rest => some (.table .closed entries, rest)
    | cs => do
      let (key, rest) ← readKey cs
      match ← dropAllSpacing rest with
      | '=' :: rest => do
        let (value, rest) ← readValue bound (← dropAllSpacing rest)
        let entries ← put entries key value
        let (more, rest) ← afterPart '}' rest
        if more then readEntries bound entries rest else some (.table .closed entries, rest)
      | _ => none

end

/-! ## Documents -/

/-- Reads the lines of a document, given the entries so far and the name of the table that keys belong to. -/
def readLines : Nat → Entries → List String → List Char → Option Entries
  | 0, entries, _, _ => some entries
  | bound + 1, entries, current, cs =>
    match dropInline cs with
    | [] => some entries
    | '[' :: cs => do
      let (names, rest) ← readKey cs
      match rest with
      | ']' :: rest => do
        let entries ← openTable entries names
        readLines bound entries names (← endLine rest)
      | _ => none
    | c :: cs =>
      if c = '#' ∨ c = '\n' ∨ c = '\r' then do
        readLines bound entries current (← endLine (c :: cs))
      else do
        let (key, rest) ← readKey (c :: cs)
        match rest with
        | '=' :: rest => do
          let (value, rest) ← readValue (rest.length + 1) (dropInline rest)
          let entries ← putUnder entries current key value
          readLines bound entries current (← endLine rest)
        | _ => none

/-- Drops a byte order mark at the start of a text. -/
def dropMark : List Char → List Char
  | [] => []
  | c :: cs => if c.toNat = 0xFEFF then cs else c :: cs

def parse? (source : String) : Option Toml :=
  let cs := dropMark source.toList
  (readLines (cs.length + 1) [] [] cs).map (.table .header)

end FieldRules.Toml
