import StoreClient.Text.Digit
import StoreClient.Text.Reader

/-!
# Socket addresses

The written forms are `a.b.c.d:port` and `[groups]:port`, the latter with an optional `%scope`
before the bracket closes. Every reader below takes the longest match at the front of a text and
returns what is left, or nothing.
-/

namespace StoreClient.Net

open StoreClient.Text (char? isDigit number)

/-- An address of a host and a port on it. -/
inductive SocketAddress where
  /-- Four octets and a port. -/
  | v4 (octets : List Nat) (port : Nat)
  /-- Eight groups of 16 bits, a scope and a port. -/
  | v6 (groups : List Nat) (scope port : Nat)
deriving DecidableEq, Repr

namespace SocketAddress

/-- How numbers of one kind are written. -/
structure Numeral where
  /-- The radix. -/
  radix : Nat
  /-- The greatest number of digits, if there is one. -/
  maxDigits : Option Nat := none
  /-- Whether a number of several digits may start with a zero. -/
  leadingZeros : Bool := true
  /-- Numbers stay below this bound. -/
  bound : Nat

/-- Octets of an address. -/
def Numeral.octet : Numeral :=
  { radix := 10, maxDigits := some 3, leadingZeros := false, bound := UInt8.size }

/-- Groups of an address. -/
def Numeral.group : Numeral := { radix := 16, maxDigits := some 4, bound := UInt16.size }

/-- Ports. -/
def Numeral.port : Numeral := { radix := 10, bound := UInt16.size }

/-- Scopes. -/
def Numeral.scope : Numeral := { radix := 10, bound := UInt32.size }

/-- Reads a number: all the digits at the front of the text. -/
def number? (f : Numeral) (cs : List Char) : Option (Nat × List Char) :=
  let ds := cs.takeWhile (isDigit f.radix)
  let n := number f.radix ds
  if ds.isEmpty || f.maxDigits.any (· < ds.length) || f.bound ≤ n
      || (!f.leadingZeros && ds.head? == some '0' && ds.length != 1) then none
  else some (n, cs.dropWhile (isDigit f.radix))

/-- Reads four octets with dots between them. -/
def octets? (cs : List Char) : Option (List Nat × List Char) := do
  let (a, cs) ← number? .octet cs
  let (b, cs) ← number? .octet (← char? '.' cs)
  let (c, cs) ← number? .octet (← char? '.' cs)
  let (d, cs) ← number? .octet (← char? '.' cs)
  return ([a, b, c, d], cs)

/-- Drops the colon that parts a group from the one before it. -/
def separator? (first : Bool) (cs : List Char) : Option (List Char) :=
  if first then some cs else char? ':' cs

/-- Reads at most `room` groups with colons between them. Where room for two is left, dotted octets
may stand for the last two; the flag says whether they do. -/
def groups : (room : Nat) → (first : Bool) → List Char → List Nat × Bool × List Char
  | 0, _, cs => ([], false, cs)
  | room + 1, first, cs =>
    let dotted := if room = 0 then none else (separator? first cs).bind octets?
    match dotted with
    | some ([a, b, c, d], rest) => ([a * 256 + b, c * 256 + d], true, rest)
    | _ =>
      match (separator? first cs).bind (number? .group) with
      | none => ([], false, cs)
      | some (g, rest) =>
        let (gs, ends, rest) := groups room false rest
        (g :: gs, ends, rest)

/-- Reads eight groups, or fewer around one `::` that stands for the missing ones, of which there is
at least one. Octets may not stand before `::`. -/
def sixteenBytes? (cs : List Char) : Option (List Nat × List Char) := do
  let (front, dotted, cs) := groups 8 true cs
  if front.length = 8 then return (front, cs)
  if dotted then failure
  let cs ← char? ':' (← char? ':' cs)
  let (back, _, cs) := groups (7 - front.length) true cs
  return (front ++ List.replicate (8 - front.length - back.length) 0 ++ back, cs)

/-- Reads a colon and a port. -/
def port? (cs : List Char) : Option (Nat × List Char) := do
  number? .port (← char? ':' cs)

/-- Reads the short form. -/
def v4? (cs : List Char) : Option (SocketAddress × List Char) := do
  let (octets, cs) ← octets? cs
  let (port, cs) ← port? cs
  return (.v4 octets port, cs)

/-- Reads the bracketed form; a scope that is not written is zero. -/
def v6? (cs : List Char) : Option (SocketAddress × List Char) := do
  let (groups, cs) ← sixteenBytes? (← char? '[' cs)
  let (scope, cs) := ((char? '%' cs).bind (number? .scope)).getD (0, cs)
  let (port, cs) ← port? (← char? ']' cs)
  return (.v6 groups scope port, cs)

/-- The address that a text denotes, if it is one from beginning to end. -/
def ofText? (text : String) : Option SocketAddress :=
  match (v4? text.toList) <|> (v6? text.toList) with
  | some (address, []) => some address
  | _ => none

end SocketAddress

end StoreClient.Net
