import StoreClient.Binary64.Rounding

/-!
# Decimal numerals

A decimal numeral is a natural number times a power of ten. `ofDecimal` gives the nearest binary
number, and `Decimal.read?` reads the written form: digits, an optional fraction, an optional power
of ten.
-/

namespace StoreClient

/-- The number `digits * 10 ^ exponent`. -/
structure Decimal where
  /-- The digits, read as a natural number. -/
  digits : Nat
  /-- The power of ten. -/
  exponent : Int
deriving DecidableEq, Repr

namespace Decimal

/-- The natural number that a sequence of digits denotes. -/
def value (ds : List Char) : Nat :=
  ds.foldl (fun n c => 10 * n + (c.toNat - '0'.toNat)) 0

/-- The character of a digit below ten. -/
def digitChar (d : Nat) : Char := Char.ofNat ('0'.toNat + d)

/-- The decimal digits of a natural number, the most significant first. -/
def digitChars (n : Nat) : List Char :=
  if n < 10 then [digitChar n] else digitChars (n / 10) ++ [digitChar (n % 10)]

/-- The digits without their trailing zeros, and how many zeros there were. -/
def dropZeros (digits : Nat) : Nat × Nat :=
  if digits ≠ 0 ∧ digits % 10 = 0 then
    let (ds, zeros) := dropZeros (digits / 10)
    (ds, zeros + 1)
  else (digits, 0)
termination_by digits
decreasing_by omega

/-- The same number without trailing zeros among its digits. -/
def trim (d : Decimal) : Decimal :=
  let (digits, zeros) := dropZeros d.digits
  ⟨digits, d.exponent + zeros⟩

/-- The numeral with these digits before and after the point, times `10 ^ exponent`. -/
def ofParts (whole fraction : List Char) (exponent : Int) : Decimal :=
  ⟨value (whole ++ fraction), exponent - fraction.length⟩

/-- The digits at the front of a text, and the text after them. -/
def span (cs : List Char) : List Char × List Char :=
  (cs.takeWhile Char.isDigit, cs.dropWhile Char.isDigit)

/-- A sign at the front of a text: whether it is a minus, and the text after it. -/
def sign : List Char → Bool × List Char
  | '-' :: cs => (true, cs)
  | '+' :: cs => (false, cs)
  | cs => (false, cs)

/-- Reads the power of ten that may end a numeral. -/
def readExponent? : List Char → Option Int
  | [] => some 0
  | c :: cs =>
    if c = 'e' ∨ c = 'E' then
      let (negative, cs) := sign cs
      match span cs with
      | ([], _) => none
      | (ds, []) => some (if negative then -(value ds : Int) else value ds)
      | (_, _ :: _) => none
    else none

/-- Reads an unsigned numeral; at least one digit stands before or after the point. -/
def read? (cs : List Char) : Option Decimal :=
  let (whole, cs) := span cs
  let (fraction, cs) :=
    match cs with
    | '.' :: cs => span cs
    | cs => ([], cs)
  if whole.isEmpty && fraction.isEmpty then none
  else (readExponent? cs).map (ofParts whole fraction)

end Decimal

namespace Binary64

/-- The number nearest to a decimal numeral with a sign.

A nonzero numeral with an exponent above 400 exceeds every finite number, and one whose digits
cannot lift it above `10 ^ -400` is nearest to zero, so neither power of ten is computed. -/
def ofDecimal (negative : Bool) (d : Decimal) : Binary64 :=
  if d.digits = 0 then zero negative
  else if 400 < d.exponent then .infinite negative
  else if d.exponent + d.digits.log2 + 1 < -400 then zero negative
  else if 0 ≤ d.exponent then ofRatio negative (d.digits * 10 ^ d.exponent.toNat) 1
  else ofRatio negative d.digits (10 ^ (-d.exponent).toNat)

/-- Reads a number: a decimal numeral, `inf`, `infinity` or `nan` in any letter case, with an
optional sign. -/
def ofText? (text : String) : Option Binary64 :=
  let (negative, cs) := Decimal.sign text.toList
  let word := String.ofList (cs.map Char.toLower)
  if word = "nan" then some .nan
  else if word = "inf" ∨ word = "infinity" then some (.infinite negative)
  else (Decimal.read? cs).map (ofDecimal negative)

end Binary64

end StoreClient
