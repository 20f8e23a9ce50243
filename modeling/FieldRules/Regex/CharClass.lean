import FieldRules.Text.CharRanges
import FieldRules.Unicode.CaseFold

/-!
# Classes of characters (called at `crates/validator/src/builders/string.rs:133`)

A class is what one place of a pattern accepts. It is kept as ranges of code points in their order, none of which
overlaps another. Code points that encode no character, the *surrogates*, are passed over: the character after
U+D7FF is U+E000. A union joins ranges whose code points touch; ranges on either side of the surrogates stay
apart.
-/

namespace FieldRules.Regex

open Text (CharRanges)

def lastCode : Nat :=
  0x10FFFF

/-- The code point of the character after one. -/
def nextCode (n : Nat) : Nat :=
  if n = 0xD7FF then 0xE000 else n + 1

def previousCode (n : Nat) : Nat :=
  if n = 0xE000 then 0xD7FF else n - 1

/-! ## Ranges in order -/

def holdsCode (ranges : CharRanges) (n : Nat) : Bool :=
  ranges.any fun range => range.1 ≤ n && n ≤ range.2

/-- Joins a range with those of the ranges after it that it touches, and those with the ones that they touch. -/
def joinOnto (range : Nat × Nat) : CharRanges → CharRanges
  | [] => [range]
  | next :: ranges =>
    if next.1 ≤ range.2 + 1 then joinOnto (range.1, max range.2 next.2) ranges
    else range :: joinOnto next ranges

/-- Joins the ranges that touch; they are sorted by their lower ends. -/
def joinTouching : CharRanges → CharRanges
  | [] => []
  | range :: ranges => joinOnto range ranges

/-- The same code points in disjoint ranges, sorted, with a gap after each range. -/
def normalRanges (ranges : CharRanges) : CharRanges :=
  joinTouching (ranges.mergeSort fun a b => decide (a.1 ≤ b.1))

/-- The range between two ends, whichever comes first. -/
def rangeBetween (a b : Nat) : Nat × Nat :=
  (min a b, max a b)

/-- The gaps after a code point and between the ranges that follow it. A gap goes from the character after one
range to the character before the next, so that the gap between ranges on either side of the surrogates, where
there is no character, consists of the two at its ends. -/
def gapsAfter (last : Nat) : CharRanges → CharRanges
  | [] => if last < lastCode then [(nextCode last, lastCode)] else []
  | range :: ranges => rangeBetween (nextCode last) (previousCode range.1) :: gapsAfter range.2 ranges

/-- The gaps before, between and after ranges. -/
def gaps : CharRanges → CharRanges
  | [] => [(0, lastCode)]
  | range :: ranges =>
    (if 0 < range.1 then [(0, previousCode range.1)] else []) ++ gapsAfter range.2 ranges

def commonRange? (a b : Nat × Nat) : Option (Nat × Nat) :=
  if max a.1 b.1 ≤ min a.2 b.2 then some (max a.1 b.1, min a.2 b.2) else none

def withoutRange (removed range : Nat × Nat) : CharRanges :=
  if (commonRange? removed range).isNone then [range]
  else
    (if range.1 < removed.1 then [(range.1, previousCode removed.1)] else [])
      ++ (if removed.2 < range.2 then [(nextCode removed.2, range.2)] else [])

def withoutRanges (removed : CharRanges) (range : Nat × Nat) : CharRanges :=
  removed.foldl (fun pieces removed => pieces.flatMap (withoutRange removed)) [range]

/-! ## Case variants -/

/-- The code points with case variants. -/
def casedCodes : List Nat :=
  Unicode.caseGroups.flatten ++ Unicode.caseRuns.flatMap fun run =>
    (List.range ((run.high - run.low) / run.step + 1)).flatMap fun i =>
      [run.low + i * run.step, run.low + i * run.step + run.distance]

/-- The other case of an ASCII letter; other characters are their own. -/
def swapAsciiCase (c : Char) : Char :=
  if c.isUpper then c.toLower else c.toUpper

/-! ## Classes -/

structure CharClass where
  ranges : CharRanges
  deriving DecidableEq, Repr

namespace CharClass

def ofRanges (ranges : CharRanges) : CharClass :=
  ⟨normalRanges ranges⟩

def contains (cls : CharClass) (c : Char) : Bool :=
  cls.ranges.contains c

def none : CharClass :=
  ⟨[]⟩

def single (c : Char) : CharClass :=
  ⟨[(c.toNat, c.toNat)]⟩

def between (low high : Char) : CharClass :=
  ⟨[(low.toNat, high.toNat)]⟩

def unionAll (classes : List CharClass) : CharClass :=
  ofRanges (classes.flatMap ranges)

def inter (a b : CharClass) : CharClass :=
  ⟨a.ranges.flatMap fun range => b.ranges.filterMap (commonRange? range)⟩

def diff (a b : CharClass) : CharClass :=
  ⟨a.ranges.flatMap (withoutRanges b.ranges)⟩

def symDiff (a b : CharClass) : CharClass :=
  (unionAll [a, b]).diff (a.inter b)

/-- The characters in the gaps of a class. -/
def compl (a : CharClass) : CharClass :=
  ⟨gaps a.ranges⟩

/-- A class as it is, or the characters outside it. -/
def negateIf (negated : Bool) (cls : CharClass) : CharClass :=
  if negated then compl cls else cls

/-- The members of the class and their case variants. -/
def folded (a : CharClass) : CharClass :=
  ofRanges (a.ranges ++ (casedCodes.filter (holdsCode a.ranges)).flatMap fun n =>
    (Unicode.caseVariantCodes n).map fun m => (m, m))

/-- The members of the class and the other cases of its ASCII letters. -/
def asciiFolded (a : CharClass) : CharClass :=
  ofRanges (a.ranges ++ ((List.range 128).filter (holdsCode a.ranges)).map fun n =>
    ((swapAsciiCase (Char.ofNat n)).toNat, (swapAsciiCase (Char.ofNat n)).toNat))

end CharClass

end FieldRules.Regex
