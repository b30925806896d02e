import StoreClient.Text.Pattern.CharClass

/-!
# Reading a pattern

A pattern is read from left to right. The cursor keeps what is left to read, the switches that are
on, and the names that groups have been given, each of which may be given once.
-/

namespace StoreClient.Text.Pattern

/-- What a pattern can switch on and off for a part of itself. -/
structure Switches where
  /-- Whether case does not count. -/
  ignoreCase : Bool := false
  /-- Whether lines have starts and ends of their own. -/
  multiLine : Bool := false
  /-- Whether the dot stands for line ends too. -/
  dotAll : Bool := false
  /-- Whether plain repetitions are lazy and the marked ones are not. -/
  swapGreed : Bool := false
  /-- Whether classes hold the characters of all scripts. Case, words and classes with a name are
  known for ASCII only, and then nothing can be written that needs them. Otherwise classes hold
  ASCII only, and none can be written that would hold more. -/
  allScripts : Bool := true
  /-- Whether lines may end with a carriage return. -/
  carriageReturn : Bool := false
  /-- Whether white space and comments do not count. -/
  spaced : Bool := false
deriving DecidableEq, Repr

/-- Turns the switch with that letter. -/
def Switches.turn? (s : Switches) (on : Bool) : Char → Option Switches
  | 'i' => some { s with ignoreCase := on }
  | 'm' => some { s with multiLine := on }
  | 's' => some { s with dotAll := on }
  | 'U' => some { s with swapGreed := on }
  | 'u' => some { s with allScripts := on }
  | 'R' => some { s with carriageReturn := on }
  | 'x' => some { s with spaced := on }
  | _ => none

/-- A place in a pattern that is being read. -/
structure Cursor where
  /-- What is left. -/
  rest : List Char
  /-- The switches. -/
  switches : Switches := {}
  /-- The names of groups so far. -/
  names : List (List Char) := []
deriving DecidableEq, Repr

/-- A part of the reading of a pattern, which fails if there is no such pattern. -/
abbrev Scan (α : Type) := StateT Cursor Option α

namespace Scan

/-- What is left to read. -/
def rest : Scan (List Char) := return (← get).rest

/-- The switches. -/
def switches : Scan Switches := return (← get).switches

/-- Goes on at another place. -/
def goTo (cs : List Char) : Scan Unit := modify ({ · with rest := cs })

/-- Reads one character. -/
def char : Scan Char := do
  match ← rest with
  | [] => failure
  | c :: cs => goTo cs; return c

/-- Reads a certain character. -/
def sign (expected : Char) : Scan Unit := do
  if (← char) ≠ expected then failure

/-- Reads a certain character if it is there, and tells whether it was. -/
def sign? (expected : Char) : Scan Bool := do
  match ← rest with
  | [] => return false
  | c :: cs => if c = expected then goTo cs; return true else return false

/-- The text after the white space and the comments at its front. A comment runs from a number sign
to the end of its line. -/
def afterSpace : (inComment : Bool) → List Char → List Char
  | _, [] => []
  | true, c :: cs => afterSpace (c ≠ '\n') cs
  | false, c :: cs =>
    if isSpace c then afterSpace false cs
    else if c = '#' then afterSpace true cs
    else c :: cs

/-- Skips white space and comments where they do not count. -/
def skip : Scan Unit := do
  if (← switches).spaced then goTo (afterSpace false (← rest))

/-- A test of characters for which case counts or not, as it is switched. -/
def inCase (test : Char → Bool) : Scan (Char → Bool) := do
  let s ← switches
  if s.ignoreCase && s.allScripts then failure
  return inAnyCase s.ignoreCase test

/-- The second character that is left. Where white space does not count it is passed over, and so is
one number sign. -/
def second? : Scan (Option Char) := do
  let cs := (← rest).tail
  if (← switches).spaced then
    match cs.dropWhile isSpace with
    | '#' :: cs => return (cs.dropWhile isSpace).head?
    | cs => return cs.head?
  else return cs.head?

end Scan

end StoreClient.Text.Pattern
