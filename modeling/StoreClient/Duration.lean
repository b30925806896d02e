import StoreClient.Binary64.Layout

/-!
# Durations

A duration is a natural number of nanoseconds below `2 ^ 64` seconds. Sums saturate; conversion to
and from binary seconds rounds to nearest.
-/

namespace StoreClient

/-- A span of time. -/
structure Duration where
  /-- Its length in nanoseconds. -/
  nanoseconds : Nat
  /-- It lasts less than `2 ^ 64` seconds. -/
  lt_limit : nanoseconds < 2 ^ 64 * 10 ^ 9 := by omega
deriving DecidableEq

namespace Duration

/-- The number of nanoseconds in a second. -/
def perSecond : Nat := 10 ^ 9

/-- No time. -/
def zero : Duration := ⟨0, by omega⟩

instance : Inhabited Duration := ⟨zero⟩

/-- The longest duration. -/
def max : Duration := ⟨2 ^ 64 * 10 ^ 9 - 1, by omega⟩

/-- The duration of that many nanoseconds, if it is short enough. -/
def ofNanoseconds? (n : Nat) : Option Duration :=
  if h : n < 2 ^ 64 * 10 ^ 9 then some ⟨n, h⟩ else none

/-- The duration of that many nanoseconds, or the longest one. -/
def saturate (n : Nat) : Duration := (ofNanoseconds? n).getD max

/-- A number of milliseconds. -/
def ofMilliseconds (ms : UInt64) : Duration :=
  ⟨ms.toNat * 10 ^ 6, by have := ms.toNat_lt; omega⟩

/-- A number of seconds. -/
def ofSeconds (s : UInt64) : Duration :=
  ⟨s.toNat * 10 ^ 9, by have := s.toNat_lt; omega⟩

@[simp] theorem nanoseconds_ofMilliseconds (ms : UInt64) :
    (ofMilliseconds ms).nanoseconds = ms.toNat * 10 ^ 6 := rfl

@[simp] theorem nanoseconds_ofSeconds (s : UInt64) :
    (ofSeconds s).nanoseconds = s.toNat * 10 ^ 9 := rfl

theorem eq_of_nanoseconds_eq {a b : Duration} (h : a.nanoseconds = b.nanoseconds) : a = b := by
  cases a
  cases b
  cases h
  rfl

theorem nanoseconds_saturate (n : Nat) :
    (saturate n).nanoseconds = min n (2 ^ 64 * 10 ^ 9 - 1) := by
  rw [saturate, ofNanoseconds?]
  by_cases h : n < 2 ^ 64 * 10 ^ 9
  · rw [dif_pos h, Option.getD_some]
    exact (Nat.min_eq_left (Nat.le_sub_one_of_lt h)).symm
  · rw [dif_neg h, Option.getD_none]
    exact (Nat.min_eq_right (Nat.le_trans (Nat.sub_le _ 1) (Nat.le_of_not_lt h))).symm

/-- The whole seconds. -/
def seconds (d : Duration) : Nat := d.nanoseconds / perSecond

/-- Whether a duration is zero. -/
def isZero (d : Duration) : Bool := d.nanoseconds == 0

instance : LE Duration := ⟨fun a b => a.nanoseconds ≤ b.nanoseconds⟩

instance : LT Duration := ⟨fun a b => a.nanoseconds < b.nanoseconds⟩

instance (a b : Duration) : Decidable (a ≤ b) :=
  inferInstanceAs (Decidable (a.nanoseconds ≤ b.nanoseconds))

instance (a b : Duration) : Decidable (a < b) :=
  inferInstanceAs (Decidable (a.nanoseconds < b.nanoseconds))

instance : Min Duration := ⟨fun a b => if a ≤ b then a else b⟩

theorem nanoseconds_min (a b : Duration) :
    (min a b).nanoseconds = min a.nanoseconds b.nanoseconds := by
  show (if a ≤ b then a else b).nanoseconds = _
  by_cases h : a ≤ b
  · rw [if_pos h, Nat.min_eq_left h]
  · rw [if_neg h, Nat.min_eq_right (Nat.le_of_not_le h)]

instance : Max Duration := ⟨fun a b => if a ≤ b then b else a⟩

theorem nanoseconds_max (a b : Duration) :
    (Max.max a b).nanoseconds = Max.max a.nanoseconds b.nanoseconds := by
  show (if a ≤ b then b else a).nanoseconds = _
  by_cases h : a ≤ b
  · rw [if_pos h, Nat.max_eq_right h]
  · rw [if_neg h, Nat.max_eq_left (Nat.le_of_not_le h)]

/-- The sum, or the longest duration if the sum is longer. -/
def saturatingAdd (a b : Duration) : Duration := saturate (a.nanoseconds + b.nanoseconds)

theorem nanoseconds_saturatingAdd (a b : Duration) : (a.saturatingAdd b).nanoseconds =
    min (a.nanoseconds + b.nanoseconds) (2 ^ 64 * 10 ^ 9 - 1) := nanoseconds_saturate _

theorem saturatingAdd_le {a b a' b' : Duration} (ha : a ≤ a') (hb : b ≤ b') :
    a.saturatingAdd b ≤ a'.saturatingAdd b' := by
  show (a.saturatingAdd b).nanoseconds ≤ (a'.saturatingAdd b').nanoseconds
  have hsum : a.nanoseconds + b.nanoseconds ≤ a'.nanoseconds + b'.nanoseconds :=
    Nat.add_le_add ha hb
  rw [nanoseconds_saturatingAdd, nanoseconds_saturatingAdd]
  omega

/-- A fourth part, rounded down to a nanosecond. -/
def quarter (d : Duration) : Duration :=
  ⟨d.nanoseconds / 4, by have := d.lt_limit; omega⟩

/-- A duration below a bound, taken from a random number. There is none below zero, and to draw it
would be a crash. -/
def below? (bound : Duration) (draw : Nat) : Option Duration :=
  if h : 0 < bound.nanoseconds then
    some ⟨draw % bound.nanoseconds, Nat.lt_trans (Nat.mod_lt _ h) bound.lt_limit⟩
  else none

/-! ## Binary seconds -/

/-- The length in seconds: the whole seconds and the rest are rounded apart and added. -/
def toSeconds (d : Duration) : Binary64 :=
  Binary64.ofNat d.seconds
    + Binary64.ofNat (d.nanoseconds % perSecond) / Binary64.ofNat perSecond

/-- The duration nearest to a number of seconds, in nanoseconds and from the middle to the even one.
Negative numbers, not-a-number and numbers from `2 ^ 64` on give none. -/
def ofSeconds? : Binary64 → Option Duration
  | .nan => none
  | .infinite _ => none
  | .finite negative m =>
    if negative ∧ m.units ≠ 0 then none
    else ofNanoseconds? (Binary64.roundHalfEven (m.units * perSecond) Binary64.one)

/-- The duration times a factor, by way of binary seconds. -/
def scale? (d : Duration) (factor : Binary64) : Option Duration :=
  ofSeconds? (factor * d.toSeconds)

/-! ## Text -/

/-- A number with a decimal fraction of up to `places` digits, without trailing zeros. -/
def fractional (n : Nat) (places : Nat) : List Char :=
  let whole := Decimal.digitChars (n / 10 ^ places)
  let rest := n % 10 ^ places
  if rest = 0 then whole
  else
    let ds := Decimal.digitChars rest
    let padded := List.replicate (places - ds.length) '0' ++ ds
    whole ++ '.' :: (padded.reverse.dropWhile (· == '0')).reverse

/-- The duration in the greatest unit of seconds, milliseconds, microseconds and nanoseconds that
it contains, with an exact fraction. -/
def toText (d : Duration) : String :=
  let n := d.nanoseconds
  if 10 ^ 9 ≤ n then String.ofList (fractional n 9) ++ "s"
  else if 10 ^ 6 ≤ n then String.ofList (fractional n 6) ++ "ms"
  else if 10 ^ 3 ≤ n then String.ofList (fractional n 3) ++ "µs"
  else String.ofList (fractional n 0) ++ "ns"

instance : ToString Duration := ⟨toText⟩

instance : Repr Duration := ⟨fun d _ => d.toText⟩

end Duration

end StoreClient
