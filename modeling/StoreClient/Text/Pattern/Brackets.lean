import StoreClient.Text.Pattern.Escape

/-!
# Classes between brackets

Brackets hold characters, ranges, named classes and classes between further brackets, of which any
may be missed by a caret in front. Two such lists can be joined to what both hold (`&&`), to what
only the first holds (`--`), and to what one of them alone holds (`~~`), from left to right.

Every part that holds other parts counts as one level of nesting.
-/

namespace StoreClient.Text.Pattern

/-- A class of characters with the levels of nesting of its text. -/
structure CharSet where
  /-- Whether a character is in the class. -/
  test : Char → Bool
  /-- The levels of nesting. -/
  depth : Nat := 0

/-- How two classes are joined. -/
inductive Join where
  /-- What both hold. -/
  | both
  /-- What only the first holds. -/
  | without
  /-- What one of them alone holds. -/
  | oneOf
deriving DecidableEq, Repr

namespace CharSet

/-- What is in one of some classes. -/
def union : List CharSet → CharSet
  | [] => { test := fun _ => false }
  | [s] => s
  | sets => {
    test := fun c => sets.any (·.test c)
    depth := (sets.map depth).foldl max 0 + 1 }

/-- What is in two classes joined in some way. -/
def join (how : Join) (s t : CharSet) : CharSet where
  test c := match how with
    | .both => s.test c && t.test c
    | .without => s.test c && !t.test c
    | .oneOf => s.test c != t.test c
  depth := max s.depth t.depth + 1

/-- The class that ends with a list, after what was joined in front of it. -/
def close (before : Option (CharSet × Join)) (members : List CharSet) : CharSet :=
  match before with
  | some (s, how) => join how s (union members)
  | none => union members

end CharSet

namespace Scan

/-- The class of a character. Where classes hold ASCII only it has to be ASCII. -/
def charClass (low high : Char) : Scan CharSet := do
  let s ← switches
  if !s.allScripts && !(isAscii low && isAscii high) then failure
  if high < low then failure
  return { test := ← inCase fun c => low ≤ c && c ≤ high }

/-- A class or what it misses. Where classes hold ASCII only, none may be missed. -/
def negated (isNegated : Bool) (s : CharSet) : Scan CharSet := do
  if isNegated && !(← switches).allScripts then failure
  return { s with test := fun c => isNegated != s.test c }

/-- Reads a character or what a backslash stands for. -/
def bracketAtom : Scan Atom := do
  match ← rest with
  | '\\' :: _ => escape
  | _ => return .char (← char)

/-- Reads a character, a range of characters or a class after a backslash. A hyphen makes a range
unless a bracket or another hyphen follows. -/
def bracketMember : Scan CharSet := do
  let low ← bracketAtom
  skip
  let next := (← rest).head?
  let beyond ← second?
  if next = some '-' && beyond ≠ some ']' && beyond ≠ some '-' then
    sign '-'
    skip
    match low, ← bracketAtom with
    | .char low, .char high => charClass low high
    | _, _ => failure
  else
    match low with
    | .char c => charClass c c
    | .set test => return { test }
    | .place _ => failure

/-- Reads a class of ASCII that is named by a word, if there is one. -/
def wordClass : Scan (Option CharSet) := do
  match ← rest with
  | '[' :: ':' :: cs =>
    let (isNegated, cs) := match cs with
      | '^' :: cs => (true, cs)
      | cs => (false, cs)
    let name := cs.takeWhile (· ≠ ':')
    match wordClass? (String.ofList name), cs.drop name.length with
    | some test, ':' :: ']' :: cs =>
      goTo cs
      return some (← negated isNegated { test := ← inCase test })
    | _, _ => return none
  | _ => return none

/-- Reads the hyphens at the front, at most so many, which stand for themselves. -/
def hyphens : (count : Nat) → Scan (List CharSet)
  | 0 => return []
  | count + 1 => do
    if ← sign? '-' then
      skip
      return (← charClass '-' '-') :: (← hyphens count)
    else return []

/-- Reads an opening bracket, a caret, if there is one, and the hyphens or the closing bracket that
stand for themselves after it. -/
def openBracket : Scan (Bool × List CharSet) := do
  sign '['
  skip
  let isNegated ← sign? '^'
  skip
  let first ← hyphens (← rest).length
  if first.isEmpty && (← sign? ']') then
    skip
    return (isNegated, [← charClass ']' ']'])
  else return (isNegated, first)

/-- Reads what joins two lists, if it is there. -/
def join? : Scan (Option Join) := do
  match ← rest with
  | '&' :: '&' :: cs => goTo cs; return some .both
  | '-' :: '-' :: cs => goTo cs; return some .without
  | '~' :: '~' :: cs => goTo cs; return some .oneOf
  | _ => return none

/-- Reads the members of a class, of which some are read already, and the closing bracket. -/
def bracketBody : (fuel : Nat) → (before : Option (CharSet × Join)) → (members : List CharSet) →
    Scan CharSet
  | 0, _, _ => failure
  | fuel + 1, before, members => do
    skip
    match ← rest with
    | ']' :: cs => goTo cs; return .close before members
    | '[' :: _ =>
      match ← wordClass with
      | some s => bracketBody fuel before (s :: members)
      | none =>
        let (isNegated, first) ← openBracket
        let inner ← negated isNegated (← bracketBody fuel none first)
        bracketBody fuel before ({ inner with depth := inner.depth + 1 } :: members)
    | _ =>
      match ← join? with
      | some how => bracketBody fuel (some (.close before members, how)) []
      | none => bracketBody fuel before ((← bracketMember) :: members)

/-- Reads a class between brackets. -/
def brackets : Scan CharSet := do
  let fuel := (← rest).length
  let (isNegated, first) ← openBracket
  let s ← negated isNegated (← bracketBody fuel none first)
  return { s with depth := s.depth + 1 }

end Scan

end StoreClient.Text.Pattern
