/-!
# Pattern flags (called at `crates/validator/src/builders/string.rs:133`)

Flags change how the rest of a group is read: `(?i)` sets one for what follows, `(?i:…)` for a group.
-/

namespace FieldRules.Regex

structure Flags where
  /-- Letters match in either case. -/
  ignoreCase : Bool := false
  /-- The line anchors match at every line. -/
  multiLine : Bool := false
  /-- The dot matches line ends too. -/
  dotAll : Bool := false
  /-- A carriage return ends a line too. -/
  carriageReturn : Bool := false
  /-- Repetitions are lazy unless a question mark makes them greedy. -/
  swapGreed : Bool := false
  /-- Classes range over all characters, not over ASCII. -/
  unicode : Bool := true
  /-- Blanks and comments in the pattern count nothing. -/
  verbose : Bool := false
  deriving DecidableEq, Repr

def flagLetters : List Char :=
  ['i', 'm', 's', 'U', 'u', 'R', 'x']

def Flags.set (flags : Flags) (letter : Char) (value : Bool) : Flags :=
  if letter = 'i' then { flags with ignoreCase := value }
  else if letter = 'm' then { flags with multiLine := value }
  else if letter = 's' then { flags with dotAll := value }
  else if letter = 'U' then { flags with swapGreed := value }
  else if letter = 'R' then { flags with carriageReturn := value }
  else if letter = 'u' then { flags with unicode := value }
  else if letter = 'x' then { flags with verbose := value }
  else flags

/-- Applies the letters of a flag group; those after a hyphen are cleared. -/
def Flags.apply (value : Bool) (flags : Flags) : List Char → Flags
  | [] => flags
  | '-' :: letters => flags.apply false letters
  | letter :: letters => (flags.set letter value).apply value letters

/-- A flag group is in order: known letters, nothing twice, and no hyphen at the end. -/
def wellFormedFlags (letters : List Char) : Bool :=
  letters.all (fun c => c == '-' || flagLetters.contains c)
    && letters.eraseDups.length == letters.length
    && letters.getLast? != some '-'

end FieldRules.Regex
