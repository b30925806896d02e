import StoreClient.Duration

/-!
# Retry policies

A policy bounds how often a call is attempted again and how long it waits between attempts. A usable
policy starts with a positive wait, lets it grow, and does not start beyond its greatest wait.
-/

namespace StoreClient.Retry

/-- How often and how patiently a call is retried. -/
structure Policy where
  /-- The number of attempts after the first. -/
  maxRetries : UInt32 := 3
  /-- The wait after the first attempt, without jitter. -/
  initialWait : Duration := .ofMilliseconds 100
  /-- The greatest wait, without jitter. -/
  maxWait : Duration := .ofSeconds 5
  /-- The factor from one wait to the next. -/
  multiplier : Binary64 := .ofNat 2
deriving DecidableEq, Repr

/-- Why a policy is unusable. -/
inductive PolicyFault where
  /-- The first wait is no wait. -/
  | zeroInitialWait
  /-- The greatest wait is below the first. -/
  | maxBelowInitial (maxWait initialWait : Duration)
  /-- The waits would not grow. -/
  | multiplierNotAboveOne (multiplier : Binary64)
deriving DecidableEq, Repr

/-- The text of a fault. -/
def PolicyFault.message : PolicyFault → String
  | .zeroInitialWait => "initial_wait must be greater than zero"
  | .maxBelowInitial maxWait initialWait =>
    s!"max_wait ({maxWait}) must be at least initial_wait ({initialWait})"
  | .multiplierNotAboveOne multiplier =>
    s!"multiplier must be a finite value greater than 1, got {multiplier}"

namespace Policy

instance : Inhabited Policy := ⟨{}⟩

/-- The default policy with another number of retries. -/
def withMaxRetries (n : UInt32) : Policy := { maxRetries := n }

/-- The greatest number that the attempt counter holds. -/
def counterLimit : Nat := 2 ^ 32 - 1

/-- The number of attempts, the first included, as far as the counter can hold it. -/
def maxAttempts (p : Policy) : Nat := min (p.maxRetries.toNat + 1) counterLimit

/-- The first fault of a policy, if it has one. -/
def fault? (p : Policy) : Option PolicyFault :=
  if p.initialWait.isZero then some .zeroInitialWait
  else if p.maxWait < p.initialWait then some (.maxBelowInitial p.maxWait p.initialWait)
  else if !p.multiplier.isFinite || p.multiplier.le (.ofNat 1) then
    some (.multiplierNotAboveOne p.multiplier)
  else none

/-- Whether a policy equals the default one, its multiplier as a number. -/
def isDefault (p : Policy) : Bool :=
  let default : Policy := {}
  p.maxRetries == default.maxRetries && p.initialWait == default.initialWait
    && p.maxWait == default.maxWait && p.multiplier.equals default.multiplier

/-- The policy as one line of text for diagnostics. -/
def describe (p : Policy) : String :=
  let multiplier := Binary64.Layout.diagnostic.write p.multiplier
  s!"RetryPolicy \x7b max_retries: {p.maxRetries.toNat}, initial_wait: {p.initialWait}, " ++
    s!"max_wait: {p.maxWait}, multiplier: {multiplier} \x7d"

end Policy

end StoreClient.Retry
