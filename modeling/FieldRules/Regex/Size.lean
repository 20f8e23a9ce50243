import FieldRules.Regex.Encoding
import FieldRules.Regex.Shape
import Std.Data.HashMap

/-!
# The size of a pattern (called at `crates/validator/src/builders/string.rs:133`)

A pattern is refused when one of the two automata for it would be too large: the one that reads texts from
start to end, or the one that reads them backwards. A state takes 32 bytes, a transition of a state with several
of them 8, and a branch of a branch point 4. Repetitions are written out.

An automaton is not built here, only tallied: `tally` adds the states of a shape. It gives nothing as soon as
the limit is passed, so that no repetition is followed further than that.
-/

namespace FieldRules.Regex

open Text (CharRanges)

/-! ## Tallies -/

/-- What an automaton takes up so far: its states, and the bytes that they take beside their own. -/
structure Tally where
  states : Nat
  bytes : Nat

namespace Tally

def limit : Nat :=
  10 * 1024 * 1024

def size (tally : Tally) : Nat :=
  32 * tally.states + tally.bytes

/-- Adds states and bytes, if the automaton may be that large. -/
def add (states bytes : Nat) (tally : Tally) : Option Tally :=
  let next : Tally := ⟨tally.states + states, tally.bytes + bytes⟩
  if next.size ≤ limit then some next else none

def addTransitions (count : Nat) (tally : Tally) : Option Tally :=
  tally.add 1 (8 * count)

/-- Adds branches to branch points that are there already. -/
def addBranches (count : Nat) (tally : Tally) : Option Tally :=
  tally.add 0 (4 * count)

end Tally

/-- The end of a piece of an automaton: another piece is put after a branch point by one more branch, after other
states at no cost. -/
inductive PieceEnd
  | plain
  | branchPoint
  deriving DecidableEq, Repr

/-- Puts a state after the end of a piece. -/
def PieceEnd.connect (last : PieceEnd) (tally : Tally) : Option Tally :=
  match last with
  | plain => some tally
  | branchPoint => tally.addBranches 1

/-- Adds a piece of an automaton to a tally and tells its end. -/
abbrev Tallying := Tally → Option (Tally × PieceEnd)

namespace Tallying

def plain (add : Tally → Option Tally) : Tallying :=
  fun tally => (add tally).map fun tally => (tally, .plain)

def andThen (first second : Tallying) : Tallying :=
  fun tally => do
    let (tally, last) ← first tally
    let (tally, next) ← second tally
    let tally ← last.connect tally
    some (tally, next)

/-- A piece a number of times; no piece at all is a state. -/
def times (piece : Tallying) : Nat → Tallying
  | 0 => plain (·.add 1 0)
  | 1 => piece
  | count + 2 => fun tally => do
    let (tally, last) ← piece tally
    more (count + 1) tally last
where
  /-- The piece a number of times after what ends in a given way. -/
  more : Nat → Tally → PieceEnd → Option (Tally × PieceEnd)
    | 0, tally, last => some (tally, last)
    | count + 1, tally, last => do
      let (tally, next) ← piece tally
      let tally ← last.connect tally
      more count tally next

def optional (piece : Tallying) : Tallying :=
  fun tally => do
    let tally ← tally.add 1 0
    let (tally, last) ← piece tally
    let tally ← tally.add 1 8
    let tally ← last.connect tally
    some (tally, .plain)

/-- A piece any number of times. If it takes up characters, one branch point leads to it and past it; else there is
one before and one after it. -/
def anyTimes (takesUp : Bool) (piece : Tallying) : Tallying :=
  fun tally =>
    if takesUp then do
      let tally ← tally.add 1 0
      let (tally, last) ← piece tally
      let tally ← tally.addBranches 1
      let tally ← last.connect tally
      some (tally, .branchPoint)
    else do
      let (tally, last) ← piece tally
      let tally ← tally.add 1 4
      let tally ← last.connect tally
      let tally ← tally.add 2 12
      some (tally, .plain)

def onceOrMore (piece : Tallying) : Tallying :=
  fun tally => do
    let (tally, last) ← piece tally
    let tally ← tally.add 1 4
    let tally ← last.connect tally
    some (tally, .branchPoint)

def atLeast (takesUp : Bool) (piece : Tallying) : Nat → Tallying
  | 0 => anyTimes takesUp piece
  | 1 => onceOrMore piece
  | count + 2 => andThen (times piece (count + 1)) (onceOrMore piece)

/-- A piece up to a number of times, after what ends in a given way; one can stop before each. -/
def upTo (piece : Tallying) : Nat → Tally → PieceEnd → Option (Tally × PieceEnd)
  | 0, tally, last => do
    let tally ← last.connect tally
    some (tally, .plain)
  | count + 1, tally, last => do
    let tally ← tally.add 1 8
    let (tally, next) ← piece tally
    let tally ← last.connect tally
    upTo piece count tally next

def between (piece : Tallying) (min max : Nat) : Tallying :=
  fun tally => do
    let (tally, last) ← times piece min tally
    if min = max then some (tally, last)
    else do
      let tally ← tally.add 1 0
      upTo piece (max - min) tally last

end Tallying

/-! ## Classes -/

/-- The number that bytes and states are hashed to, among the slots of a table. -/
def slot (slots : Nat) (numbers : List Nat) : Nat :=
  let step (hash : UInt64) (n : Nat) : UInt64 := (hash ^^^ n.toUInt64) * 1099511628211
  (numbers.foldl step 14695981039346656037).toNat % slots

/-- A table with one entry a slot: a later entry takes the place of an earlier one. -/
structure SlotTable where
  slots : Nat
  entries : Std.HashMap Nat (List Nat × Nat)

namespace SlotTable

def empty (slots : Nat) : SlotTable :=
  ⟨slots, ∅⟩

def get? (table : SlotTable) (key : List Nat) : Option Nat :=
  match table.entries[slot table.slots key]? with
  | some (stored, value) => if stored = key then some value else none
  | none => none

def put (table : SlotTable) (key : List Nat) (value : Nat) : SlotTable :=
  { table with entries := table.entries.insert (slot table.slots key) (key, value) }

end SlotTable

/-- What is known while the states of a class are added: the tally, and the states that can be used again. -/
structure ClassTally where
  tally : Tally
  known : SlotTable

/-- The runs that start with the same bytes, together: the first bytes, and what comes after them. -/
def groupRuns : List ByteRanges → List ((Nat × Nat) × List ByteRanges)
  | [] => []
  | [] :: runs => groupRuns runs
  | (first :: rest) :: runs =>
    match groupRuns runs with
    | (next, rests) :: groups =>
      if first = next then (next, rest :: rests) :: groups
      else (first, [rest]) :: (next, rests) :: groups
    | [] => [(first, [rest])]

/-- Adds the state that some runs of a class start from, after the states that they lead to, and gives its number.
A state with the same transitions as a known one is that one. The number bounds the bytes of a run; `target` is
the state after the class. -/
def addRuns (target : Nat) : Nat → List ByteRanges → ClassTally → Option (ClassTally × Nat)
  | 0, _, work => some (work, target)
  | bound + 1, runs, work =>
    if runs.all List.isEmpty then some (work, target)
    else do
      let (work, key, count) ← (groupRuns runs).foldlM
        (fun (work, key, count) (first, rests) => do
          let (work, next) ← addRuns target bound rests work
          some (work, next :: first.2 :: first.1 :: key, count + 1))
        (work, [], 0)
      let key := key.reverse
      match work.known.get? key with
      | some state => some (work, state)
      | none => do
        let tally ← work.tally.addTransitions count
        some (⟨tally, work.known.put key work.tally.states⟩, work.tally.states)

/-- Adds the states for a class that are gone through from the first byte to the last. -/
def addClassForward (runs : List ByteRanges) (tally : Tally) : Option Tally := do
  let target := tally.states
  let tally ← tally.add 1 0
  let (work, _) ← addRuns target 4 runs ⟨tally, .empty 10000⟩
  some work.tally

/-- Adds the states for a run that are gone through from the last byte to the first. -/
def addRunBackward : ByteRanges → Nat → ClassTally → Option ClassTally
  | [], _, work => do
    let tally ← work.tally.addBranches 1
    some { work with tally := tally }
  | range :: rest, next, work =>
    let key := [next, range.1, range.2]
    match work.known.get? key with
    | some state => addRunBackward rest state work
    | none => do
      let tally ← work.tally.add 1 0
      addRunBackward rest work.tally.states ⟨tally, work.known.put key work.tally.states⟩

/-- Adds the states for a class that are gone through from the last byte to the first. -/
def addClassBackward (runs : List ByteRanges) (tally : Tally) : Option Tally := do
  let target := tally.states + 1
  let tally ← tally.add 2 0
  let work ← runs.foldlM (fun work run => addRunBackward run target work) ⟨tally, .empty 1000⟩
  some work.tally

/-- The way that an automaton goes through texts. -/
inductive Direction
  | forward
  | backward
  deriving DecidableEq, Repr

/-- Adds the states for a class. Within ASCII there are two: one with the ranges of the class, and one after it. -/
def addClass (direction : Direction) (ranges : CharRanges) (tally : Tally) : Option Tally :=
  if ranges.all fun range => range.2 < 128 then do
    let tally ← tally.add 1 0
    tally.addTransitions ranges.length
  else
    match direction with
    | .forward => addClassForward (ranges.flatMap encodings) tally
    | .backward => addClassBackward (ranges.flatMap encodings) tally

/-! ## Choices between texts -/

/-- A node of a tree of texts: the bytes that lead on from it, with the nodes that they lead to. A text that ends at
the node closes the bytes so far off from later ones. -/
structure TextNode where
  closed : List (List (Nat × Nat))
  current : List (Nat × Nat)

namespace TextNode

def leaf : TextNode :=
  ⟨[], []⟩

def isLeaf (node : TextNode) : Bool :=
  node.closed.all List.isEmpty && node.current.isEmpty

def close (node : TextNode) : TextNode :=
  if node.isLeaf ∧ ¬node.closed.isEmpty then node else ⟨node.closed ++ [node.current], []⟩

/-- Adds the states of the node: one for each lot of bytes, and a branch point for them and for the texts that end
between them. -/
def addTo (node : TextNode) (tally : Tally) : Option Tally :=
  if node.isLeaf then some tally
  else do
    let lots := (node.closed ++ [node.current]).filter fun lot => !lot.isEmpty
    let tally ← lots.foldlM
      (fun tally lot => if lot.length = 1 then tally.add 1 0 else tally.addTransitions lot.length) tally
    tally.add 1 (4 * (lots.length + node.closed.length))

end TextNode

def addText (nodes : Array TextNode) (place : Nat) : List Nat → Array TextNode
  | [] => nodes.modify place TextNode.close
  | byte :: bytes =>
    let node := nodes.getD place .leaf
    match node.current.lookup byte with
    | some next => addText nodes next bytes
    | none =>
      let next := nodes.size
      addText ((nodes.modify place fun node =>
        { node with current := (byte, next) :: node.current }).push .leaf) next bytes

def addTexts (direction : Direction) (texts : List (List Char)) (tally : Tally) : Option Tally := do
  let bytes := texts.map fun text =>
    match direction with
    | .forward => text.flatMap encode
    | .backward => (text.flatMap encode).reverse
  let nodes := bytes.foldl (fun nodes text => addText nodes 0 text) #[.leaf]
  let tally ← tally.add 1 0
  nodes.toList.foldlM (fun tally node => node.addTo tally) tally

/-! ## Shapes -/

def Shape.text? : Shape → Option (List Char)
  | .text characters => some characters
  | _ => none

mutual

def Shape.tally (direction : Direction) : Shape → Tallying
  | .empty => .plain (·.add 1 0)
  | .text characters => .plain (·.add (characters.flatMap encode).length 0)
  | .cls _ ranges => .plain (addClass direction ranges)
  | .look _ => .plain (·.add 1 0)
  | .rep body min max _ =>
    match max with
    | none => .atLeast (body.minLength.any (0 < ·)) (body.tally direction) min
    | some max =>
      if min = 0 ∧ max = 1 then .optional (body.tally direction)
      else .between (body.tally direction) min max
  | .group _ body =>
    match direction with
    | .forward => fun tally => do
      let tally ← tally.add 1 0
      let (tally, last) ← body.tally direction tally
      let tally ← tally.add 1 0
      let tally ← last.connect tally
      some (tally, .plain)
    | .backward => body.tally direction
  | .cat parts =>
    match direction with
    | .forward => tallySequence direction parts
    | .backward => tallyReversed direction parts
  | .alt branches =>
    match branches.mapM Shape.text? with
    | some texts => .plain (addTexts direction texts)
    | none => tallyChoice direction branches

def tallySequence (direction : Direction) : List Shape → Tallying
  | [] => .plain (·.add 1 0)
  | [shape] => shape.tally direction
  | shape :: shapes => .andThen (shape.tally direction) (tallySequence direction shapes)

/-- Adds the states of shapes, the last one first. -/
def tallyReversed (direction : Direction) : List Shape → Tallying
  | [] => .plain (·.add 1 0)
  | [shape] => shape.tally direction
  | shape :: shapes => .andThen (tallyReversed direction shapes) (shape.tally direction)

/-- Adds the states of a choice: a branch point before its branches and a state after them, which are added once two
branches are there. -/
def tallyChoice (direction : Direction) : List Shape → Tallying
  | [] => .plain (·.add 1 0)
  | [shape] => shape.tally direction
  | first :: second :: shapes => fun tally => do
    let (tally, last) ← first.tally direction tally
    let (tally, next) ← second.tally direction tally
    let tally ← tally.add 2 8
    let tally ← last.connect tally
    let tally ← next.connect tally
    tallyBranches direction shapes tally

def tallyBranches (direction : Direction) : List Shape → Tallying
  | [] => fun tally => some (tally, .plain)
  | shape :: shapes => fun tally => do
    let (tally, last) ← shape.tally direction tally
    let tally ← tally.addBranches 1
    let tally ← last.connect tally
    tallyBranches direction shapes tally

end

/-! ## Whole automata -/

/-- Adds what an automaton starts with: a state, or a loop over any bytes if a match may lie anywhere. -/
def addStart (held : Bool) (tally : Tally) : Option Tally :=
  if held then tally.add 1 0 else tally.add 3 16

/-- The tally of the automaton that reads texts from start to end; the whole match counts as a group. -/
def Shape.forwardTally (shape : Shape) : Option Tally := do
  let tally ← addStart (shape.isHeldAt .start) ⟨0, 0⟩
  let (tally, _) ← (Shape.group 0 shape).tally .forward tally
  tally.add 1 0

/-- The tally of the automaton that reads texts backwards. -/
def Shape.backwardTally (shape : Shape) : Option Tally := do
  let tally ← addStart (shape.isHeldAt .finish) ⟨0, 0⟩
  let (tally, last) ← shape.tally .backward tally
  let tally ← tally.add 1 0
  last.connect tally

/-- The automata for a shape are within the limit. -/
def Shape.fits (shape : Shape) : Bool :=
  shape.forwardTally.isSome && shape.backwardTally.isSome

end FieldRules.Regex
