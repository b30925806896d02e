import StoreClient.Binary64.Decimal
import StoreClient.Text.Digit
import StoreClient.Text.Reader

/-!
# Numbers in TOML documents

A single underscore may stand between two digits. Integers are decimal with an optional sign, or
have a radix and no sign; they fit into 64 bits. A decimal number does not start with a superfluous
zero.
-/

namespace StoreClient.Toml

open Text

/-- Reads digits with single underscores between them. -/
def digits? (radix : Nat) (cs : List Char) : Option (List Char × List Char) := do
  let (first, cs) ← run? (isDigit radix) cs
  let (more, cs) := many (fun cs => (char? '_' cs).bind (run? (isDigit radix))) cs
  return (first ++ more.flatten, cs)

/-- Reads a decimal number without a superfluous zero at its front. -/
def whole? : Reader (List Char)
  | '0' :: cs => some (['0'], cs)
  | cs => digits? 10 cs

/-- The integer, if 64 bits hold it. -/
def int64? (n : Int) : Option Int := if -2 ^ 63 ≤ n ∧ n < 2 ^ 63 then some n else none

/-- Reads the digits of a nonnegative integer in a radix. -/
def radixInteger? (radix : Nat) (cs : List Char) : Option (Int × List Char) := do
  let (ds, cs) ← digits? radix cs
  let n ← int64? (number radix ds : Nat)
  return (n, cs)

/-- Reads a decimal integer. -/
def decimalInteger? (cs : List Char) : Option (Int × List Char) := do
  let (negative, cs) := Decimal.sign cs
  let (ds, cs) ← whole? cs
  let n ← int64? (if negative then -(Decimal.value ds : Int) else Decimal.value ds)
  return (n, cs)

/-- Reads an integer. -/
def integer? : Reader Int
  | '0' :: 'x' :: cs => radixInteger? 16 cs
  | '0' :: 'o' :: cs => radixInteger? 8 cs
  | '0' :: 'b' :: cs => radixInteger? 2 cs
  | cs => decimalInteger? cs

/-- Reads a point and the digits after it. -/
def fraction? (cs : List Char) : Option (List Char × List Char) :=
  (char? '.' cs).bind (digits? 10)

/-- Reads the letter `e` and the power of ten after it. -/
def exponent? (cs : List Char) : Option (Int × List Char) := do
  let (_, cs) ← charOf? (fun c => c = 'e' || c = 'E') cs
  let (negative, cs) := Decimal.sign cs
  let (ds, cs) ← digits? 10 cs
  return (if negative then -(Decimal.value ds : Int) else Decimal.value ds, cs)

/-- Reads a decimal number with a fraction, a power of ten or both. One above the greatest finite
number is refused; one below the least is minus infinity. -/
def decimalFloat? (negative : Bool) (cs : List Char) : Option (Binary64 × List Char) := do
  let (whole, cs) ← whole? cs
  let (fraction, cs) := optional fraction? cs
  let (exponent, cs) := optional exponent? cs
  if fraction.isNone && exponent.isNone then failure
  let x := Binary64.ofDecimal negative (.ofParts whole (fraction.getD []) (exponent.getD 0))
  if x = .infinite false then failure
  return (x, cs)

/-- Reads infinity or the number that is none. -/
def specialFloat? (negative : Bool) (cs : List Char) : Option (Binary64 × List Char) :=
  ((word? ['i', 'n', 'f'] cs).map (.infinite negative, ·))
    <|> ((word? ['n', 'a', 'n'] cs).map (.nan, ·))

/-- Reads a floating-point number. -/
def float? (cs : List Char) : Option (Binary64 × List Char) :=
  let (negative, cs) := Decimal.sign cs
  decimalFloat? negative cs <|> specialFloat? negative cs

end StoreClient.Toml
