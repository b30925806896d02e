import StoreClient.Retry.Policy

/-!
# Backoff

The waits of one call grow from the policy's first wait by its multiplier up to its greatest wait.
Each is lengthened by a random part of less than a quarter; the growth does not see that part.
-/

namespace StoreClient.Retry

/-- A wait between two attempts. -/
structure Pause where
  /-- The wait before jitter. -/
  base : Duration
  /-- What chance adds to it. -/
  jitter : Duration
deriving DecidableEq, Repr

namespace Pause

/-- The whole wait. -/
def delay (p : Pause) : Duration := p.base.saturatingAdd p.jitter

/-- The jitter of a wait stays below this. -/
def range (base : Duration) : Duration := base.quarter

/-- The jitter of a wait, unless its draw crashes. Where there is no room for jitter nothing is
drawn. -/
def jitter? (base : Duration) (draw : Nat) : Option Duration :=
  if (range base).isZero then some .zero else (range base).below? draw

/-- Whether a delay is one that its base allows. Where base and range together pass the longest
duration, only the lower end is checked. -/
def allows (base delay : Duration) : Bool :=
  if (range base).isZero then delay == base
  else base ≤ delay &&
    match Duration.ofNanoseconds? (base.nanoseconds + (range base).nanoseconds) with
    | some bound => delay < bound
    | none => true

end Pause

/-- The state of a growing wait. -/
structure Backoff where
  /-- The next wait before jitter. -/
  current : Duration
  /-- The bound on every later wait before jitter. -/
  maxWait : Duration
  /-- The factor from one wait to the next. -/
  multiplier : Binary64
deriving DecidableEq, Repr

namespace Backoff

/-- The backoff of a fresh call. -/
def ofPolicy (p : Policy) : Backoff := ⟨p.initialWait, p.maxWait, p.multiplier⟩

/-- The next wait, its jitter taken from a random number. Without room for jitter there is none. -/
def pause (b : Backoff) (draw : Nat) : Pause :=
  let range := (Pause.range b.current).nanoseconds
  ⟨b.current, .saturate (if range = 0 then 0 else draw % range)⟩

/-- The backoff after a wait: the base times the multiplier, at most the greatest wait. A product
that is no duration counts as the greatest wait. -/
def advance (b : Backoff) : Backoff :=
  let grown := Duration.ofSeconds? (b.current.toSeconds * b.multiplier)
  { b with current := grown.elim b.maxWait (min · b.maxWait) }

/-- The next wait and the backoff after it, unless the draw of the jitter crashes. -/
def next? (b : Backoff) (draw : Nat) : Option (Pause × Backoff) := do
  let jitter ← Pause.jitter? b.current draw
  return (⟨b.current, jitter⟩, b.advance)

/-- The next waits, one for each number drawn, unless one of the draws crashes. -/
def pauses? (b : Backoff) : List Nat → Option (List Pause)
  | [] => some []
  | draw :: draws => do
    let (pause, next) ← b.next? draw
    let pauses ← next.pauses? draws
    return pause :: pauses

/-- The backoff after `n` waits. -/
def after (b : Backoff) : Nat → Backoff
  | 0 => b
  | n + 1 => b.advance.after n

@[simp] theorem base_pause (b : Backoff) (draw : Nat) : (b.pause draw).base = b.current := rfl

@[simp] theorem maxWait_advance (b : Backoff) : b.advance.maxWait = b.maxWait := by
  cases b; rfl

@[simp] theorem multiplier_advance (b : Backoff) : b.advance.multiplier = b.multiplier := by
  cases b; rfl

end Backoff

end StoreClient.Retry
