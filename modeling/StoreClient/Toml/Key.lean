import StoreClient.Toml.StringLiteral

/-!
# Keys of TOML documents

A key is one or more names with dots between them, which may have blanks around them. A name is
bare or a string on one line.
-/

namespace StoreClient.Toml

open Text

/-- A key: the names of the tables on the way, and the name in the last of them. -/
structure Key where
  /-- The tables on the way, the outermost first. -/
  path : List String
  /-- The name in the last table. -/
  name : String
deriving DecidableEq, Repr

/-- A letter, a digit, a hyphen or an underscore. -/
def isBareKeyChar (c : Char) : Bool := c.isAlphanum || c = '-' || c = '_'

/-- Reads one name. -/
def name? (cs : List Char) : Option (String × List Char) :=
  match cs with
  | '"' :: _ => basicString? cs
  | '\'' :: _ => literalString? cs
  | _ => (run? isBareKeyChar cs).map fun (name, cs) => (String.ofList name, cs)

/-- The greatest number of names in a key. -/
def maxKeyLength : Nat := 79

/-- Reads a key with the blanks around it. -/
def key? (cs : List Char) : Option (Key × List Char) := do
  let spacedName : Reader String := fun cs => do
    let (name, cs) ← name? (skipBlanks cs)
    return (name, skipBlanks cs)
  let (names, cs) ← separated spacedName '.' cs
  let name ← names.getLast?
  if names.length ≤ maxKeyLength then return (⟨names.dropLast, name⟩, cs) else failure

end StoreClient.Toml
