import StoreClient.Duration

/-!
# Instants

An instant is a number of nanoseconds from the origin of a clock, before it or after it. The clock
holds signed 64-bit seconds, so moving an instant can fail.
-/

namespace StoreClient

/-- A point in time. -/
structure Instant where
  /-- Nanoseconds from the origin of the clock. -/
  nanoseconds : Int
  /-- The clock's seconds do not go below `-2 ^ 63`. -/
  le_nanoseconds : -(2 ^ 63 * 10 ^ 9) ≤ nanoseconds := by omega
  /-- The clock's seconds stay below `2 ^ 63`. -/
  nanoseconds_lt : nanoseconds < 2 ^ 63 * 10 ^ 9 := by omega
deriving DecidableEq

namespace Instant

/-- The origin of the clock. -/
def origin : Instant := ⟨0, by omega, by omega⟩

instance : Inhabited Instant := ⟨origin⟩

/-- The instant at that many nanoseconds, if the clock can hold it. -/
def ofNanoseconds? (n : Int) : Option Instant :=
  if h : -(2 ^ 63 * 10 ^ 9) ≤ n ∧ n < 2 ^ 63 * 10 ^ 9 then some ⟨n, h.1, h.2⟩ else none

/-- The instant a duration later. -/
def add? (t : Instant) (d : Duration) : Option Instant :=
  ofNanoseconds? (t.nanoseconds + d.nanoseconds)

/-- The instant a duration earlier. -/
def sub? (t : Instant) (d : Duration) : Option Instant :=
  ofNanoseconds? (t.nanoseconds - d.nanoseconds)

/-- The time from an earlier instant to this one; zero if that one is not earlier. -/
def since (t earlier : Instant) : Duration :=
  ⟨(t.nanoseconds - earlier.nanoseconds).toNat, by
    have := t.nanoseconds_lt
    have := earlier.le_nanoseconds
    omega⟩

instance : LE Instant := ⟨fun a b => a.nanoseconds ≤ b.nanoseconds⟩

instance : LT Instant := ⟨fun a b => a.nanoseconds < b.nanoseconds⟩

instance (a b : Instant) : Decidable (a ≤ b) :=
  inferInstanceAs (Decidable (a.nanoseconds ≤ b.nanoseconds))

instance (a b : Instant) : Decidable (a < b) :=
  inferInstanceAs (Decidable (a.nanoseconds < b.nanoseconds))

theorem nanoseconds_of_add?_eq_some {t u : Instant} {d : Duration} (h : t.add? d = some u) :
    u.nanoseconds = t.nanoseconds + d.nanoseconds := by
  simp only [add?, ofNanoseconds?] at h
  split at h
  · cases h; rfl
  · contradiction

theorem nanoseconds_of_sub?_eq_some {t u : Instant} {d : Duration} (h : t.sub? d = some u) :
    u.nanoseconds = t.nanoseconds - d.nanoseconds := by
  simp only [sub?, ofNanoseconds?] at h
  split at h
  · cases h; rfl
  · contradiction

end Instant

end StoreClient
