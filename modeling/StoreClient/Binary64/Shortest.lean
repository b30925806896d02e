import StoreClient.Binary64.Decimal

/-!
# The shortest decimal of a number

Among the decimals that read back as a given number, `shortest` takes one with the fewest digits,
and of two such the nearer. A number exactly between two of them takes the upper one.
-/

namespace StoreClient.Binary64

namespace Magnitude

/-- The magnitude as a finite positive number. -/
def toBinary64 (m : Magnitude) : Binary64 := .finite false m

/-- Whether a decimal is nearest to this magnitude among all numbers. -/
def isReadFrom (m : Magnitude) (d : Decimal) : Bool := ofDecimal false d == m.toBinary64

/-- The exact quotient of the magnitude by `10 ^ exponent`, as numerator and denominator. -/
def quotient (m : Magnitude) (exponent : Int) : Nat × Nat :=
  if 0 ≤ exponent then (m.units, one * 10 ^ exponent.toNat)
  else (m.units * 10 ^ (-exponent).toNat, one)

/-- The greatest `e` with `10 ^ e` at most the magnitude, for a magnitude above zero. The estimate
from the number of bits is at most two off. -/
def leadingExponent (m : Magnitude) : Int :=
  let estimate := ((m.units.log2 : Int) - places) * 30103 / 100000
  let candidates := [estimate + 2, estimate + 1, estimate, estimate - 1]
  (candidates.find? fun e => let (n, d) := m.quotient e; d ≤ n).getD (estimate - 2)

/-- The two multiples of `10 ^ exponent` around the magnitude, the nearer first and the upper one
first from the middle. -/
def neighbours (m : Magnitude) (exponent : Int) : List Decimal :=
  let (n, d) := m.quotient exponent
  let q := n / d
  let below : Decimal := ⟨q, exponent⟩
  let above : Decimal := ⟨q + 1, exponent⟩
  if 2 * (n % d) < d then [below, above] else [above, below]

/-- The magnitude written out in full, as a decimal that equals it. -/
def exact (m : Magnitude) : Decimal := ⟨m.units * 5 ^ places, -(places : Int)⟩

/-- The shortest decimal that reads back as the magnitude, before trailing zeros are dropped. Every
magnitude has one of at most 17 digits; the exact decimal stands behind the search. -/
def search (m : Magnitude) : Decimal :=
  let e := m.leadingExponent
  let found := (List.range 17).findSome? fun (extra : Nat) =>
    (m.neighbours (e - extra)).find? m.isReadFrom
  found.getD m.exact

end Magnitude

/-- The shortest decimal that reads back as the magnitude. -/
def Magnitude.shortest (m : Magnitude) : Decimal :=
  if m.units = 0 then ⟨0, 0⟩ else m.search.trim

end StoreClient.Binary64
