import StoreClient.Toml.Datetime
import StoreClient.Toml.Draft
import StoreClient.Toml.Number

/-!
# Values as TOML documents write them

Arrays may spread over lines and end with a comma; tables between braces may do neither. Both nest
to a limited depth, which also bounds the recursion.
-/

namespace StoreClient.Toml

open Text

/-- How deep arrays and tables between braces may nest. -/
def maxDepth : Nat := 79

/-- Reads `true` or `false`. -/
def boolean? (cs : List Char) : Option (Bool × List Char) :=
  ((word? ['t', 'r', 'u', 'e'] cs).map (true, ·))
    <|> ((word? ['f', 'a', 'l', 's', 'e'] cs).map (false, ·))

/-- Reads a value that holds no others. -/
def scalar? (cs : List Char) : Option (Value × List Char) :=
  ((string? cs).map fun (s, cs) => (.string s, cs))
    <|> ((boolean? cs).map fun (b, cs) => (.boolean b, cs))
    <|> ((datetime? cs).map fun (d, cs) => (.datetime d, cs))
    <|> ((float? cs).map fun (x, cs) => (.float x, cs))
    <|> ((integer? cs).map fun (n, cs) => (.integer n, cs))

/-- Reads the items of an array and its closing bracket. -/
def items? (value : Reader Value) (cs : List Char) : Option (List Value × List Char) :=
  let item : Reader Value := fun cs => do
    let (v, cs) ← value (skipLines cs)
    return (v, skipLines cs)
  match optional (separated item ',') cs with
  | (some vs, cs) => do
    let cs := (char? ',' cs).getD cs
    return (vs, ← char? ']' (skipLines cs))
  | (none, cs) => do return ([], ← char? ']' (skipLines cs))

/-- Reads a key, an equals sign and a value. -/
def assignment? (value : Reader Value) (cs : List Char) : Option ((Key × Value) × List Char) := do
  let (key, cs) ← key? cs
  let (v, cs) ← value (skipBlanks (← char? '=' cs))
  return ((key, v), cs)

/-- Reads the entries of a table between braces and its closing brace. -/
def entries? (value : Reader Value) (cs : List Char) : Option (Table × List Char) := do
  let item : Reader (Key × Value) := fun cs => do
    let (a, cs) ← assignment? value cs
    return (a, skipBlanks cs)
  let (assignments, cs) := optional (separated item ',') cs
  let cs ← char? '\x7d' (skipBlanks cs)
  let es ← DraftTable.assignAll [] (assignments.getD [])
  return (Draft.finishEntries es, cs)

/-- Reads a value with room for so many levels of nesting. -/
def valueWithin? : (room : Nat) → Reader Value
  | 0, cs => scalar? cs
  | room + 1, cs =>
    match cs with
    | '[' :: cs => (items? (valueWithin? room) cs).map fun (vs, cs) => (.array vs, cs)
    | '\x7b' :: cs => (entries? (valueWithin? room) cs).map fun (es, cs) => (.table es, cs)
    | cs => scalar? cs

/-- Reads a value. -/
def value? (cs : List Char) : Option (Value × List Char) := valueWithin? maxDepth cs

end StoreClient.Toml
