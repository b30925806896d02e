import StoreClient.Rehearsal.Clock
import StoreClient.Retry.Report

/-!
# Rehearsed retries

A rehearsal answers a retried call from scripts, one for each kind of call, on a virtual clock. Each
call takes the next step of its script; when the script is used up, calls succeed at once.
-/

namespace StoreClient.Rehearsal

open Retry

/-- What one call of the store or the work does. -/
structure Step (ε : Type) where
  /-- The error it gives, if any. -/
  failure : Option ε := none
  /-- The message it crashes with, if it does. -/
  crash : Option String := none
  /-- How long it takes, in milliseconds. -/
  delay : Nat := 0
  /-- Whether the caller is told to give up before it ends. -/
  cancels : Bool := false
deriving Repr

/-- How a step ends; a crash goes before an error. -/
def Step.ending {ε α : Type} (s : Step ε) (value : α) : Ending ε α :=
  match s.crash, s.failure with
  | some message, _ => .crash (.foreign message)
  | none, some e => .error e
  | none, none => .ok value

/-- The surroundings of a rehearsed call. -/
structure Stage (ρ ε : Type) where
  /-- The time. -/
  clock : Clock := {}
  /-- The caller. -/
  caller : Caller := {}
  /-- How many transactions were asked for. -/
  begins : Nat := 0
  /-- The steps of `begin` to come. -/
  begin : List (Step ρ) := []
  /-- The steps of the work to come. -/
  work : List (Step ε) := []
  /-- The steps of `commit` to come. -/
  commit : List (Step ρ) := []
  /-- The steps of `rollback` to come. -/
  rollback : List (Step ρ) := []
  /-- The steps of statements to come. -/
  exec : List (Step ρ) := []

namespace Stage

variable {ρ ε κ α : Type}

/-- The next step of a script and the script after it. -/
def next (script : List (Step κ)) : Step κ × List (Step κ) := (script.headD {}, script.tail)

/-- Lets a step take its time and do its part to the caller. -/
def pass (s : Stage ρ ε) (step : Step κ) : Stage ρ ε :=
  { s with
    clock := s.clock.reach (s.clock.wakeIn step.delay)
    caller := { s.caller with cancelled := s.caller.cancelled || step.cancels } }

/-- Plays a step: the reply with this value in case of success, and the stage afterwards. -/
def play (s : Stage ρ ε) (step : Step κ) (value : α) : Reply κ α × Stage ρ ε :=
  let s := s.pass step
  (⟨step.ending value, s.caller.hasGivenUp s.clock⟩, s)

/-- A stage as surroundings. A transaction is known by its number, from which the work's value
comes, and every random number is zero. -/
def surroundings (value : Nat → α) : Surroundings (Stage ρ ε) Nat ρ ε α where
  begin s :=
    let (step, rest) := next s.begin
    let begins := s.begins + 1
    { s with begin := rest, begins }.play step begins
  call target s :=
    match target with
    | .commit _ => let (step, rest) := next s.commit; { s with commit := rest }.play step ()
    | .rollback _ => let (step, rest) := next s.rollback; { s with rollback := rest }.play step ()
    | .exec _ => let (step, rest) := next s.exec; { s with exec := rest }.play step ()
  work tx s := let (step, rest) := next s.work; { s with work := rest }.play step (value tx)
  draw _ s := (0, s)
  wait pause s :=
    let length := Clock.sleepLength pause.delay
    let (clock, cut) := s.caller.wait s.clock (s.clock.deadline length.nanoseconds)
    (cut, { s with clock })

/-- Whether the caller has given up by now. -/
def hasGivenUp (s : Stage ρ ε) : Bool := s.caller.hasGivenUp s.clock

end Stage

end StoreClient.Rehearsal
