/-!
# Digits

Digits of the radices up to 16; letters count in both cases.
-/

namespace StoreClient.Text

/-- The value of a digit in a radix. -/
def digit? (radix : Nat) (c : Char) : Option Nat :=
  let d :=
    if '0' ≤ c ∧ c ≤ '9' then c.toNat - '0'.toNat
    else if 'a' ≤ c ∧ c ≤ 'f' then c.toNat - 'a'.toNat + 10
    else if 'A' ≤ c ∧ c ≤ 'F' then c.toNat - 'A'.toNat + 10
    else radix
  if d < radix then some d else none

/-- Whether a character is a digit of a radix. -/
def isDigit (radix : Nat) (c : Char) : Bool := (digit? radix c).isSome

/-- The number that digits of a radix denote. -/
def number (radix : Nat) (ds : List Char) : Nat :=
  ds.foldl (fun n c => n * radix + (digit? radix c).getD 0) 0

end StoreClient.Text
