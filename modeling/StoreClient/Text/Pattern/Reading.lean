import StoreClient.Text.Alphanumeric
import StoreClient.Text.Pattern.Brackets

/-!
# Patterns as they are written

Characters stand for themselves, apart from signs: a dot stands for any character but a line end, a
caret and a dollar sign for the start and the end, brackets for a class, parentheses for a group, a
vertical bar for a choice, and an asterisk, a plus sign and a question mark for repetitions of what
stands in front. Braces, with which repetitions can be counted elsewhere, may not be opened here.

After the opening parenthesis of a group a question mark may give the group a name or turn switches;
without a group after them, switches are turned up to the end of the group around them.
-/

namespace StoreClient.Text.Pattern

/-- A pattern with the levels of nesting of its text. -/
structure Node where
  /-- The pattern. -/
  pattern : Pattern
  /-- The levels of nesting. -/
  depth : Nat := 0
  /-- Whether it can be repeated. -/
  isRepeatable : Bool := true

namespace Node

/-- One pattern after the other; the last comes first in the list. -/
def sequence : (items : List Node) → Node
  | [] => { pattern := .empty }
  | [n] => n
  | items => {
    pattern := items.foldl (fun p n => .followed n.pattern p) .empty
    depth := (items.map depth).foldl max 0 + 1 }

/-- A choice of patterns; the last comes first in the list. -/
def choice : (branches : List Node) → Node
  | [] => { pattern := .empty }
  | [n] => n
  | n :: branches => {
    pattern := branches.foldl (fun p n => .either n.pattern p) n.pattern
    depth := ((n :: branches).map depth).foldl max 0 + 1 }

/-- A level of nesting more. -/
def deeper (n : Node) (p : Pattern) : Node := { pattern := p, depth := n.depth + 1 }

/-- The repetitions of a pattern for which a sign stands. -/
def repeated? (n : Node) (isLazy : Bool) : Char → Option Node
  | '?' => some (n.deeper (.optional isLazy n.pattern))
  | '*' => some (n.deeper (.optional isLazy (.repeated isLazy n.pattern)))
  | '+' => some (n.deeper (.repeated isLazy n.pattern))
  | _ => none

end Node

/-- The deepest nesting of a pattern. -/
def maxDepth : Nat := 250

/-- Turns switches up to a colon or a closing parenthesis: the switches then, and what follows with
that character. Those after a hyphen are turned off. No letter and no hyphen may stand there twice,
and no hyphen at the end. -/
def turnAll? (s : Switches) : (seen : List Char) → List Char → Option (Switches × List Char)
  | _, [] => none
  | seen, c :: cs =>
    if c = ':' || c = ')' then if seen.head? = some '-' then none else some (s, c :: cs)
    else if seen.contains c then none
    else if c = '-' then turnAll? s (c :: seen) cs
    else (s.turn? (!seen.contains '-') c).bind (turnAll? · (c :: seen) cs)

/-- Whether a group can have a name. -/
def isGroupName : List Char → Bool
  | [] => false
  | c :: cs => (c = '_' || isLetter c) &&
    cs.all fun c => ['_', '.', '[', ']'].contains c || isAlphanumeric c

namespace Scan

/-- Reads the name of a group and the angle bracket after it. -/
def groupName : Scan Unit := do
  let cs ← rest
  let name := cs.takeWhile (· ≠ '>')
  if !isGroupName name || (← get).names.contains name then failure
  modify fun cursor => { cursor with names := name :: cursor.names }
  goTo (cs.drop name.length)
  sign '>'

/-- Reads the opening parenthesis of a group and what stands in front of its pattern. If switches
are turned without a group, reads the closing parenthesis too. Whether there is a group. -/
def openGroup : Scan Bool := do
  sign '('
  skip
  match ← rest with
  | '?' :: 'P' :: '<' :: cs | '?' :: '<' :: cs => goTo cs; groupName; return true
  | '?' :: cs =>
    match turnAll? (← switches) [] cs with
    | some (s, c :: after) =>
      if c = ')' && cs.head? = some ')' then failure
      modify ({ · with switches := s })
      goTo after
      return c = ':'
    | _ => failure
  | _ => return true

/-- The pattern of a dot. Where classes hold ASCII only it cannot be written. -/
def dot : Scan Pattern := do
  let s ← switches
  if !s.allScripts then failure
  return .one fun c => s.dotAll || !(c == '\n' || (s.carriageReturn && c == '\r'))

/-- Reads a character that is no sign of structure, a dot, a place, or a backslash and what it
stands for. -/
def primitive : Scan Node := do
  let s ← switches
  let pattern ← match ← rest with
    | '\\' :: _ => do
      match ← escape with
      | .char c => pure (.one (← inCase (· == c)))
      | .set test => pure (.one test)
      | .place p => pure (.place p)
    | _ => do
      let c ← char
      if c = '.' then dot
      else if c = '^' then
        pure (.place (if s.multiLine then .lineStart s.carriageReturn else .start))
      else if c = '$' then
        pure (.place (if s.multiLine then .lineFinish s.carriageReturn else .finish))
      else pure (.one (← inCase (· == c)))
  return { pattern }

/-- Reads a pattern up to the end or the closing parenthesis of its group, of which some branches,
and some items of the branch after them, are read already. -/
def expression : (fuel : Nat) → (branches items : List Node) → Scan Node
  | 0, _, _ => failure
  | fuel + 1, branches, items => do
    skip
    match ← rest with
    | [] | ')' :: _ => return .choice (.sequence items :: branches)
    | '|' :: cs => goTo cs; expression fuel (.sequence items :: branches) []
    | '(' :: _ =>
      let outside ← switches
      if ← openGroup then
        let inner ← expression fuel [] []
        sign ')'
        modify ({ · with switches := outside })
        expression fuel branches (inner.deeper inner.pattern :: items)
      else expression fuel branches ({ pattern := .empty, isRepeatable := false } :: items)
    | '[' :: _ =>
      let s ← brackets
      expression fuel branches ({ pattern := .one s.test, depth := s.depth } :: items)
    | '\x7b' :: _ => failure
    | c :: cs =>
      if c = '?' || c = '*' || c = '+' then
        match items with
        | [] => failure
        | n :: items =>
          if !n.isRepeatable then failure
          goTo cs
          let isLazy := (← sign? '?') != (← switches).swapGreed
          match n.repeated? isLazy c with
          | some n => expression fuel branches (n :: items)
          | none => failure
      else expression fuel branches ((← primitive) :: items)

end Scan

/-- Reads a pattern. -/
def ofText? (s : String) : Option Pattern := do
  let cs := s.toList
  let (n, cursor) ← (Scan.expression (cs.length + 1) [] []).run { rest := cs }
  if cursor.rest.isEmpty && n.depth ≤ maxDepth then return n.pattern else none

end StoreClient.Text.Pattern
