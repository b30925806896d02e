import StoreClient.Duration

/-!
# Virtual time

A virtual clock moves only when everything waits, and then straight to the next timer. Timers fire
at whole milliseconds: a deadline within a millisecond counts as the end of it. The clock moves by
whole milliseconds too, so a fraction that it starts with stays.
-/

namespace StoreClient.Rehearsal

/-- A clock under the control of a rehearsal. -/
structure Clock where
  /-- Nanoseconds since the start. -/
  nanoseconds : Nat := 0
deriving DecidableEq, Repr, Inhabited

namespace Clock

/-- The whole milliseconds that have passed. -/
def milliseconds (c : Clock) : Nat := c.nanoseconds / 10 ^ 6

/-- The millisecond at which a timer of the given length fires. -/
def deadline (c : Clock) (d : Nat) : Nat := (c.nanoseconds + d + (10 ^ 6 - 1)) / 10 ^ 6

/-- The millisecond at which a timer of that many milliseconds fires; none at all is no timer. -/
def deadlineIn (c : Clock) (ms : Nat) : Nat :=
  if ms = 0 then c.milliseconds else c.deadline (ms * 10 ^ 6)

/-- The longest sleep in milliseconds: thirty years of 365 days. -/
def longestSleep : Nat := 30 * 365 * 24 * 60 * 60 * 1000

/-- The millisecond at which a sleep of that many milliseconds ends. A sleep that would last longer
than the longest one ends with that. -/
def wakeIn (c : Clock) (ms : Nat) : Nat := c.deadlineIn (min ms longestSleep)

/-- How long a sleep of the given length lasts. -/
def sleepLength (d : Duration) : Duration := min d (.saturate (longestSleep * 10 ^ 6))

/-- The clock once a millisecond is reached; a clock that is past it stays. -/
def reach (c : Clock) (ms : Nat) : Clock :=
  ⟨c.nanoseconds + (ms - c.milliseconds) * 10 ^ 6⟩

/-- The clock moved by hand. -/
def advance (c : Clock) (d : Duration) : Clock := ⟨c.nanoseconds + d.nanoseconds⟩

end Clock

/-- A caller who may give up: at once, or when the clock reaches a millisecond. -/
structure Caller where
  /-- Whether the caller has been told to give up. -/
  cancelled : Bool := false
  /-- The millisecond at which the caller gives up. -/
  cancelAt : Option Nat := none
deriving DecidableEq, Repr, Inhabited

namespace Caller

/-- Whether the caller has given up by the time of the clock. -/
def hasGivenUp (caller : Caller) (c : Clock) : Bool :=
  caller.cancelled || caller.cancelAt.any (· ≤ c.milliseconds)

/-- Waits until a millisecond or until the caller gives up, whichever is first; giving up goes
first when both fall together. The clock afterwards, and whether the wait was cut short. -/
def wait (caller : Caller) (c : Clock) (deadline : Nat) : Clock × Bool :=
  if caller.hasGivenUp c then (c, true)
  else match caller.cancelAt with
    | some t => if t ≤ deadline then (c.reach t, true) else (c.reach deadline, false)
    | none => (c.reach deadline, false)

end Caller

end StoreClient.Rehearsal
