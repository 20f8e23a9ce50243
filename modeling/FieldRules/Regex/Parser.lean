import FieldRules.Regex.Bracket
import FieldRules.Regex.Size
import FieldRules.Text.Split
import FieldRules.Unicode.Word

/-!
# Reading patterns (called at `crates/validator/src/builders/string.rs:133`)

A pattern is read one item at a time, with the open groups on a stack. Flags set inside a group end with it.
A pattern may nest 250 levels deep, where every sequence, choice, repetition, group and bracket counts as one
level, and the automata for it may not be too large. Looking ahead and behind, and references to groups, are not
part of the language.
-/

namespace FieldRules.Regex

/-- A piece of a pattern: what it matches, the shape of its automaton, and how deep it nests. -/
structure Piece where
  expression : Expression
  shape : Shape
  depth : Nat

def Piece.empty : Piece :=
  ⟨.empty, .empty, 0⟩

/-- How often a piece is repeated, and whether more often rather than less. -/
structure Repeat where
  min : Nat
  max : Option Nat
  greedy : Bool

/-- The piece repeated. What takes up no characters is repeated once at most, since more makes no difference. -/
def Piece.repeated (piece : Piece) (times : Repeat) : Piece :=
  let (min, max) :=
    if piece.expression.isWidthless then (Nat.min times.min 1, some ((times.max.getD 1).min 1))
    else (times.min, times.max)
  ⟨.rep piece.expression min max, piece.shape.repeated min max times.greedy, piece.depth + 1⟩

/-- An item of a sequence: a piece, or a change of flags, which takes part in nesting only. -/
inductive Item
  | piece (piece : Piece)
  | setting

def Item.toPiece : Item → Piece
  | piece p => p
  | setting => .empty

def maxDepth (pieces : List Piece) : Nat :=
  (pieces.map Piece.depth).foldl max 0

def sequence (items : List Item) : Piece :=
  match items with
  | [] => .empty
  | [item] => item.toPiece
  | items =>
    let pieces := items.map Item.toPiece
    ⟨.catAll (pieces.map Piece.expression), .sequence (pieces.map Piece.shape), maxDepth pieces + 1⟩

def choice (first : Piece) (others : List Piece) : Piece :=
  match others with
  | [] => first
  | others =>
    ⟨.altAll first.expression (others.map Piece.expression),
      .choice ((first :: others).map Piece.shape), maxDepth (first :: others) + 1⟩

/-- What has been read of a group, or of the whole pattern. -/
structure Group where
  /-- The number of the group, if it keeps what it matches. -/
  number : Option Nat
  /-- The flags for what follows. -/
  flags : Flags
  /-- The items of the branch at hand, the last first. -/
  items : List Item
  /-- The finished branches, the last first. -/
  branches : List Piece

namespace Group

def push (group : Group) (item : Item) : Group :=
  { group with items := item :: group.items }

def endBranch (group : Group) : Group :=
  { group with items := [], branches := sequence group.items.reverse :: group.branches }

def content (group : Group) : Piece :=
  match (sequence group.items.reverse :: group.branches).reverse with
  | [] => .empty
  | first :: others => choice first others

end Group

/-- The state of reading: the innermost group, the groups around it, and the numbers and names of groups in use. -/
structure Reading where
  group : Group
  outer : List Group
  numbered : Nat
  names : List (List Char)

namespace Reading

def push (reading : Reading) (piece : Piece) : Reading :=
  { reading with group := reading.group.push (.piece piece) }

/-- The state with a group opened that keeps nothing. -/
def enter (reading : Reading) (flags : Flags) : Reading :=
  { reading with group := ⟨none, flags, [], []⟩, outer := reading.group :: reading.outer }

/-- The state with a group opened that keeps what it matches. -/
def enterNumbered (reading : Reading) : Reading :=
  { reading with
    group := ⟨some (reading.numbered + 1), reading.group.flags, [], []⟩
    outer := reading.group :: reading.outer
    numbered := reading.numbered + 1 }

def leave (reading : Reading) : Option Reading :=
  match reading.outer with
  | [] => none
  | parent :: outer =>
    let content := reading.group.content
    let shape :=
      match reading.group.number with
      | some number => Shape.group number content.shape
      | none => content.shape
    some { reading with
      group := parent.push (.piece ⟨content.expression, shape, content.depth + 1⟩), outer := outer }

/-- The state with the last item repeated; a change of flags cannot be. -/
def repeatLast (reading : Reading) (times : Repeat) : Option Reading :=
  match reading.group.items with
  | .piece piece :: items =>
    some { reading with group := { reading.group with items := .piece (piece.repeated times) :: items } }
  | _ => none

end Reading

/-! ## Items -/

def Flags.classKind (flags : Flags) : ClassKind :=
  if flags.unicode then .characters else .bytes

def classPiece (flags : Flags) (part : Part) : Piece :=
  ⟨.char part.cls, .ofClass flags.classKind part.cls.ranges, part.depth⟩

/-- A character as a piece, in either case if the flags say so. -/
def literalPiece (flags : Flags) (c : Char) : Piece :=
  if flags.ignoreCase then classPiece flags ⟨Bracket.foldCase flags (.single c), 0⟩
  else ⟨.char (.single c), .text [c], 0⟩

def lookPiece (condition : Look) : Piece :=
  ⟨.look condition, .look condition, 0⟩

def Primitive.piece (flags : Flags) : Primitive → Piece
  | .literal c => literalPiece flags c
  | .cls description => classPiece flags ⟨description, 0⟩
  | .look condition => lookPiece condition

def dotClass (flags : Flags) : CharClass :=
  if flags.dotAll then CharClass.none.compl
  else if flags.carriageReturn then (CharClass.unionAll [.single '\n', .single '\r']).compl
  else (CharClass.single '\n').compl

def startLook (flags : Flags) : Look :=
  if flags.multiLine then if flags.carriageReturn then .anyLineStart else .lineStart else .textStart

def endLook (flags : Flags) : Look :=
  if flags.multiLine then if flags.carriageReturn then .anyLineEnd else .lineEnd else .textEnd

/-! ## Groups -/

/-- A character that may stand in the name of a group, at its start or later. -/
def isNameChar (first : Bool) (c : Char) : Bool :=
  c == '_' || Unicode.isAlphabetic c
    || (!first && (c == '.' || c == '[' || c == ']' || Unicode.isAlphanumeric c))

def isGroupName : List Char → Bool
  | [] => false
  | c :: cs => isNameChar true c && cs.all (isNameChar false)

def openNamed (reading : Reading) (cs : List Char) : Option (Reading × List Char) :=
  let name := cs.takeWhile (· != '>')
  match cs.dropWhile (· != '>') with
  | '>' :: rest =>
    if isGroupName name ∧ !reading.names.contains name then
      some ({ reading.enterNumbered with names := name :: reading.names }, rest)
    else none
  | _ => none

/-- Sets flags for the rest of the group, or opens a group with flags of its own. -/
def openFlags (reading : Reading) (cs : List Char) : Option (Reading × List Char) :=
  let letters := cs.takeWhile fun c => c != ':' && c != ')'
  if !wellFormedFlags letters then none
  else
    let flags := reading.group.flags.apply true letters
    match cs.dropWhile fun c => c != ':' && c != ')' with
    | ':' :: rest => some (reading.enter flags, rest)
    | ')' :: rest =>
      if letters.isEmpty then none
      else some ({ reading with group := { reading.group.push .setting with flags := flags } }, rest)
    | _ => none

def openGroup (reading : Reading) (cs : List Char) : Option (Reading × List Char) :=
  match skip reading.group.flags.verbose cs with
  | '?' :: '=' :: _ => none
  | '?' :: '!' :: _ => none
  | '?' :: '<' :: '=' :: _ => none
  | '?' :: '<' :: '!' :: _ => none
  | '?' :: 'P' :: '<' :: rest => openNamed reading rest
  | '?' :: '<' :: rest => openNamed reading rest
  | '?' :: rest => openFlags reading rest
  | rest => some (reading.enterNumbered, rest)

/-! ## Repetition -/

/-- Reads what follows a repetition: a question mark makes it lazy, or greedy if the flags swap the two. -/
def readGreed (flags : Flags) : List Char → Bool × List Char
  | '?' :: cs => (flags.swapGreed, cs)
  | cs => (!flags.swapGreed, cs)

/-- Repeats the last item at least and at most some times, given what follows the sign for it. -/
def repeatBetween (reading : Reading) (min : Nat) (max : Option Nat) (cs : List Char) :
    Option (Reading × List Char) :=
  let (greedy, rest) := readGreed reading.group.flags cs
  (reading.repeatLast ⟨min, max, greedy⟩).map (·, rest)

/-- A bound of a repetition; blanks around it count nothing. -/
def readRepeatCount (cs : List Char) : Option Nat :=
  (Numeral.readDecimal? (Text.trimChars cs)).bind fun n => if n < UInt32.size then some n else none

def readRepeatBounds (content : List Char) : Option (Nat × Option Nat) :=
  match Text.splitChars ',' content with
  | [exact] => (readRepeatCount exact).map fun n => (n, some n)
  | [low, []] => (readRepeatCount low).map fun n => (n, none)
  | [low, high] => do
    let min ← readRepeatCount low
    let max ← readRepeatCount high
    if min ≤ max then some (min, some max) else none
  | _ => none

def repeatCounted (reading : Reading) (cs : List Char) : Option (Reading × List Char) := do
  let verbose := reading.group.flags.verbose
  let (content, rest) ← takeBraced verbose false cs
  let (min, max) ← readRepeatBounds content
  repeatBetween reading min max (skip verbose rest)

/-! ## Whole patterns -/

/-- Reads one item or sign, given its first character. -/
def readStep (reading : Reading) (c : Char) (cs : List Char) : Option (Reading × List Char) :=
  let flags := reading.group.flags
  match c with
  | '(' => openGroup reading cs
  | ')' => reading.leave.map (·, cs)
  | '|' => some ({ reading with group := reading.group.endBranch }, cs)
  | '[' => (readBracket flags cs).map fun (part, rest) => (reading.push (classPiece flags part), rest)
  | '?' => repeatBetween reading 0 (some 1) cs
  | '*' => repeatBetween reading 0 none cs
  | '+' => repeatBetween reading 1 none cs
  | '{' => repeatCounted reading cs
  | '\\' => (readEscape flags cs).map fun (primitive, rest) => (reading.push (primitive.piece flags), rest)
  | '.' => if flags.unicode then some (reading.push (classPiece flags ⟨dotClass flags, 0⟩), cs) else none
  | '^' => some (reading.push (lookPiece (startLook flags)), cs)
  | '$' => some (reading.push (lookPiece (endLook flags)), cs)
  | c => some (reading.push (literalPiece flags c), cs)

/-- Reads a pattern to its end; every step takes up a character, so that the number of characters bounds the number
of steps. -/
def runReading : Nat → Reading → List Char → Option Reading
  | 0, _, _ => none
  | steps + 1, reading, cs =>
    match skip reading.group.flags.verbose cs with
    | [] => some reading
    | c :: cs =>
      match readStep reading c cs with
      | none => none
      | some (reading, rest) => runReading steps reading rest

def Reading.initial : Reading :=
  ⟨⟨none, {}, [], []⟩, [], 0, []⟩

def nestingLimit : Nat :=
  250

/-- Reads a pattern, which may be of any size. -/
def readPattern (source : List Char) : Option Piece :=
  match runReading (source.length + 1) .initial source with
  | none => none
  | some reading =>
    if reading.outer.isEmpty && reading.group.content.depth ≤ nestingLimit then
      some reading.group.content
    else none

/-- Reads a pattern whose automata are within the limit. -/
def parse? (source : List Char) : Option Expression :=
  match readPattern source with
  | none => none
  | some piece => if piece.shape.fits then some piece.expression else none

end FieldRules.Regex
