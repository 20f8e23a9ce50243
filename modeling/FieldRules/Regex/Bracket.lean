import FieldRules.Regex.Escape

/-!
# Bracket expressions (called at `crates/validator/src/builders/string.rs:133`)

A bracket expression lists characters, ranges, named classes and further bracket expressions. The operations
`&&`, `--` and `~~` take everything before them as their left operand and everything up to the next operation
as their right one. Reading keeps the open brackets on a stack, innermost first.
-/

namespace FieldRules.Regex

/-- A class together with how deep its description nests. -/
structure Part where
  cls : CharClass
  depth : Nat

inductive SetOperation
  | intersection
  | difference
  | symmetricDifference
  deriving DecidableEq, Repr

def SetOperation.apply : SetOperation → CharClass → CharClass → CharClass
  | intersection => .inter
  | difference => .diff
  | symmetricDifference => .symDiff

/-- An open bracket: what has been read of it. -/
structure Bracket where
  negated : Bool
  /-- The left operand of the operation that waits for its right one. -/
  pending : Option (SetOperation × Part)
  /-- The items since the last operation, the last first. -/
  items : List Part

namespace Bracket

def push (bracket : Bracket) (item : Part) : Bracket :=
  { bracket with items := item :: bracket.items }

def pushChar (bracket : Bracket) (c : Char) : Bracket :=
  bracket.push ⟨.single c, 0⟩

/-- The class with the case variants of its members, if the flags ask for them. -/
def foldCase (flags : Flags) (cls : CharClass) : CharClass :=
  if flags.ignoreCase then
    if flags.unicode then .folded cls else .asciiFolded cls
  else cls

/-- The union of the items since the last operation. -/
def operand (bracket : Bracket) : Part :=
  match bracket.items with
  | [] => ⟨.none, 0⟩
  | [item] => ⟨.unionAll [item.cls], item.depth⟩
  | items =>
    ⟨.unionAll (items.reverse.map Part.cls), (items.map Part.depth).foldl max 0 + 1⟩

/-- Everything read so far, the waiting operation applied. -/
def content (flags : Flags) (bracket : Bracket) : Part :=
  match bracket.pending with
  | none => bracket.operand
  | some (operation, left) =>
    ⟨.unionAll [operation.apply (foldCase flags left.cls) (foldCase flags bracket.operand.cls)],
      max left.depth bracket.operand.depth + 1⟩

/-- The bracket with its content as the left operand of an operation. -/
def operate (flags : Flags) (bracket : Bracket) (operation : SetOperation) : Bracket :=
  { bracket with pending := some (operation, bracket.content flags), items := [] }

/-- The class of a closed bracket. A complement holds characters above ASCII, which only Unicode patterns may
accept. -/
def close (flags : Flags) (bracket : Bracket) : Option Part :=
  let content := bracket.content flags
  if bracket.negated ∧ !flags.unicode then none
  else some ⟨(foldCase flags content.cls).negateIf bracket.negated, content.depth + 1⟩

end Bracket

/-- The hyphens at the start of a bracket stand for themselves; so does a closing bracket that comes first. There
has to be something after them. -/
def readLeading (verbose : Bool) (inComment : Bool) (bracket : Bracket) :
    List Char → Option (Bracket × List Char)
  | [] => none
  | c :: cs =>
    if inComment then readLeading verbose (c != '\n') bracket cs
    else if verbose && Text.isBlank c then readLeading verbose false bracket cs
    else if verbose && c == '#' then readLeading verbose true bracket cs
    else if c = '-' then readLeading verbose false (bracket.pushChar '-') cs
    else if c = ']' ∧ bracket.items.isEmpty then
      match skip verbose cs with
      | [] => none
      | rest => some (bracket.pushChar ']', rest)
    else some (bracket, c :: cs)

/-- Reads what follows an opening bracket, up to its first item. -/
def openBracket (flags : Flags) (cs : List Char) : Option (Bracket × List Char) :=
  match skip flags.verbose cs with
  | '^' :: cs => readLeading flags.verbose false ⟨true, none, []⟩ cs
  | cs => readLeading flags.verbose false ⟨false, none, []⟩ cs

/-- The name of a class between `[:` and `:]`, after the opening bracket; nothing if this is no such name. -/
def readBracketName (flags : Flags) (cs : List Char) : Option (Option Part × List Char) :=
  match cs with
  | ':' :: cs =>
    let (negated, cs) :=
      match cs with
      | '^' :: cs => (true, cs)
      | cs => (false, cs)
    match cs.dropWhile (· != ':') with
    | ':' :: ']' :: rest =>
      match bracketNames.lookup (String.ofList (cs.takeWhile (· != ':'))) with
      | none => none
      | some ranges =>
        let cls := (Bracket.foldCase flags (.ofRanges ranges)).negateIf negated
        some (if negated ∧ !flags.unicode then none else some ⟨cls, 0⟩, rest)
    | _ => none
  | _ => none

def readItem (flags : Flags) : List Char → Option (Primitive × List Char)
  | [] => none
  | '\\' :: cs => readEscape flags cs
  | c :: cs => some (.literal c, cs)

/-- The next character that counts after a hyphen, looking past one comment sign. -/
def peekAfterHyphen (verbose : Bool) (cs : List Char) : Option Char :=
  if verbose then
    match Text.dropBlanks cs with
    | '#' :: cs => (Text.dropBlanks cs).head?
    | cs => cs.head?
  else cs.head?

/-- A character may stand in a class: any one in a Unicode pattern, else one of ASCII. -/
def Flags.admits (flags : Flags) (c : Char) : Bool :=
  flags.unicode || c.toNat < 128

/-- A single item as a class; conditions on places are none. -/
def Primitive.part? (flags : Flags) : Primitive → Option Part
  | .literal c => if flags.admits c then some ⟨.single c, 0⟩ else none
  | .cls description => some ⟨description, 0⟩
  | .look _ => none

/-- Reads an item, or a range from one character to another. -/
def readRange (flags : Flags) (cs : List Char) : Option (Part × List Char) := do
  let (first, rest) ← readItem flags cs
  match skip flags.verbose rest with
  | [] => none
  | '-' :: after =>
    if peekAfterHyphen flags.verbose after = some ']' ∨ peekAfterHyphen flags.verbose after = some '-' then
      let part ← first.part? flags
      some (part, '-' :: after)
    else
      let (last, rest) ← readItem flags (skip flags.verbose after)
      match first, last with
      | .literal low, .literal high =>
        if low ≤ high ∧ flags.admits high then some (⟨.between low high, 0⟩, rest) else none
      | _, _ => none
  | rest => do
    let part ← first.part? flags
    some (part, rest)

/-- What one round of reading a bracket leads to. -/
inductive BracketStep
  | closed (part : Part) (rest : List Char)
  | inside (bracket : Bracket) (outer : List Bracket) (rest : List Char)

/-- Reads one item, operation or bracket sign; the innermost open bracket is given apart from the outer ones. -/
def bracketStep (flags : Flags) (bracket : Bracket) (outer : List Bracket) (cs : List Char) :
    Option BracketStep :=
  match skip flags.verbose cs with
  | [] => none
  | '[' :: rest =>
    match readBracketName flags rest with
    | some (none, _) => none
    | some (some part, rest) => some (.inside (bracket.push part) outer rest)
    | none => do
      let (inner, rest) ← openBracket flags rest
      some (.inside inner (bracket :: outer) rest)
  | ']' :: rest => do
    let part ← bracket.close flags
    match outer with
    | [] => some (.closed part rest)
    | parent :: outer => some (.inside (parent.push part) outer rest)
  | '&' :: '&' :: rest => some (.inside (bracket.operate flags .intersection) outer rest)
  | '-' :: '-' :: rest => some (.inside (bracket.operate flags .difference) outer rest)
  | '~' :: '~' :: rest => some (.inside (bracket.operate flags .symmetricDifference) outer rest)
  | cs => do
    let (part, rest) ← readRange flags cs
    some (.inside (bracket.push part) outer rest)

/-- Reads a bracket expression to its end; every round takes up a character, so that the number of characters
bounds the number of rounds. -/
def runBracket (flags : Flags) : Nat → Bracket → List Bracket → List Char → Option (Part × List Char)
  | 0, _, _, _ => none
  | rounds + 1, bracket, outer, cs =>
    match bracketStep flags bracket outer cs with
    | none => none
    | some (.closed part rest) => some (part, rest)
    | some (.inside bracket outer rest) => runBracket flags rounds bracket outer rest

def readBracket (flags : Flags) (cs : List Char) : Option (Part × List Char) := do
  let (bracket, rest) ← openBracket flags cs
  runBracket flags (rest.length + 1) bracket [] rest

end FieldRules.Regex
