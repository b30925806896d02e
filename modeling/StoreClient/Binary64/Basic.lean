/-!
# Binary floating-point numbers of 64 bits

The finite numbers are the multiples of one unit, `2 ^ -1074`, that have at most 53 significant
bits. A magnitude is therefore a natural number of units with a proof that it is representable, and
comparison of two numbers is comparison of integers.

There is one not-a-number: no operation of this library can tell two of them apart.
-/

namespace StoreClient

-- Powers of natural numbers and of integers are the built-in ones, also where algebra brings others
-- into scope.
attribute [default_instance 10001, instance(10001)] instPowNat

namespace Binary64

/-- The binary places after the point: `1` is `2 ^ places` units. -/
def places : Nat := 1074

/-- The number of units in `1`. -/
def one : Nat := 2 ^ places

/-- The binary places of the greatest magnitudes, before and after the point together. -/
def width : Nat := 1024 + places

/-- Finite magnitudes stay below this many units, which is `2 ^ 1024`. -/
def limit : Nat := 2 ^ width

/-- A number of units is representable when it is finite and has at most 53 significant bits. -/
def Representable (units : Nat) : Prop :=
  units < limit ∧ ∃ significand shift, significand < 2 ^ 53 ∧ units = significand * 2 ^ shift

theorem limit_pos : 0 < limit := Nat.two_pow_pos width

theorem Representable.zero : Representable 0 :=
  ⟨limit_pos, 0, 0, Nat.two_pow_pos _, (Nat.zero_mul _).symm⟩

/-- The absolute value of a finite number. -/
structure Magnitude where
  /-- The value, as a multiple of the least positive number. -/
  units : Nat
  /-- Only representable multiples occur. -/
  representable : Representable units
deriving DecidableEq

end Binary64

/-- A 64-bit binary floating-point number. -/
inductive Binary64 where
  /-- Not a number. -/
  | nan
  /-- An infinity, negative or positive. -/
  | infinite (negative : Bool)
  /-- A finite number; zero has a sign too. -/
  | finite (negative : Bool) (magnitude : Binary64.Magnitude)
deriving DecidableEq

namespace Binary64

/-- Positive or negative zero. -/
def zero (negative : Bool) : Binary64 := .finite negative ⟨0, .zero⟩

instance : Inhabited Binary64 := ⟨zero false⟩

/-- Whether a number is neither infinite nor not-a-number. -/
def isFinite : Binary64 → Bool
  | .finite _ _ => true
  | _ => false

/-- Whether a value is not-a-number. -/
def isNaN : Binary64 → Bool
  | .nan => true
  | _ => false

/-- The place of a number in the order: its signed units, the infinities just beyond every finite
number, and nothing for not-a-number. The two zeros share a place. -/
def place? : Binary64 → Option Int
  | .nan => none
  | .infinite negative => some (if negative then -(limit : Int) else limit)
  | .finite negative m => some (if negative then -(m.units : Int) else m.units)

/-- Strict order; false when either side is not a number. -/
def lt (x y : Binary64) : Bool :=
  match x.place?, y.place? with
  | some a, some b => a < b
  | _, _ => false

/-- Weak order; false when either side is not a number. -/
def le (x y : Binary64) : Bool :=
  match x.place?, y.place? with
  | some a, some b => a ≤ b
  | _, _ => false

/-- Equality of numbers: the two zeros are equal, and not-a-number differs from everything. -/
def equals (x y : Binary64) : Bool :=
  match x.place?, y.place? with
  | some a, some b => a == b
  | _, _ => false

@[simp] theorem place?_nan : place? .nan = none := rfl

@[simp] theorem place?_finite (negative : Bool) (m : Magnitude) :
    place? (.finite negative m) = some (if negative then -(m.units : Int) else m.units) := rfl

@[simp] theorem place?_zero (negative : Bool) : place? (zero negative) = some 0 := by
  cases negative <;> rfl

/-- The number, moved to the nearer end of `[lo, hi]` when it lies outside; not-a-number and numbers
inside, negative zero among them, are left alone. -/
def clamp (lo hi x : Binary64) : Binary64 :=
  if x.lt lo then lo else if hi.lt x then hi else x

end Binary64

end StoreClient
