import StoreClient.Crash
import StoreClient.Retry.Backoff
import StoreClient.Retry.Error

/-!
# Procedures

A retried call is described as a procedure: a tree that asks its surroundings for one thing at a
time, namely a call of the store, the caller's work, a random number or a wait, and goes on with the
reply. The surroundings also say with each reply whether the caller has given up by then. A
transaction is known by the handle that the store gave when it was opened.

`Procedure.run` answers a procedure from any surroundings and keeps a transcript. What holds of
every transcript holds of every behaviour of store, work, clock and chance.
-/

namespace StoreClient.Retry

/-- An answer from the surroundings. -/
structure Reply (ε α : Type) where
  /-- How the call ended. -/
  ending : Ending ε α
  /-- Whether the caller has given up by then. -/
  cancelled : Bool
deriving DecidableEq, Repr

/-- A call of the store that gives nothing but success. -/
inductive Target (τ : Type) where
  /-- Makes the changes of a transaction lasting and closes it. -/
  | commit (tx : τ)
  /-- Drops the changes of a transaction and closes it. -/
  | rollback (tx : τ)
  /-- Runs a single statement in a transaction of its own. -/
  | exec (statement : String)
deriving DecidableEq, Repr

/-- What a retried call reports while it runs. Errors appear by their messages. -/
inductive Event where
  /-- An attempt starts. -/
  | attempted
  /-- An attempt ended in a conflict. -/
  | conflicted
  /-- The attempts have run out. -/
  | exhausted (attempts : Nat) (error : String)
  /-- The call ends with an error that is no conflict. -/
  | failed
  /-- A wait precedes the next attempt. -/
  | retrying (attempt maxAttempts : Nat) (pause : Pause) (error : String)
  /-- An attempt after the first succeeded. -/
  | recovered (attempts : Nat)
  /-- A transaction could not be rolled back. -/
  | rollbackFailed (error : String)
deriving DecidableEq, Repr

/-- A retried call: transactions are of type `τ`, the store's errors of type `ρ`, the work's of type
`ε` and its values of type `α`. -/
inductive Procedure (τ ρ ε α : Type) where
  /-- The call is over. -/
  | finish (ending : Ending (RetryError ε) α)
  /-- Reports an event and goes on. -/
  | report (event : Event) (rest : Procedure τ ρ ε α)
  /-- Has the store open a transaction. -/
  | begin (resume : Reply ρ τ → Procedure τ ρ ε α)
  /-- Calls the store. -/
  | call (target : Target τ) (resume : Reply ρ Unit → Procedure τ ρ ε α)
  /-- Runs the caller's work in a transaction. -/
  | work (tx : τ) (resume : Reply ε α → Procedure τ ρ ε α)
  /-- Draws a random number below the bound. -/
  | draw (bound : Nat) (resume : Nat → Procedure τ ρ ε α)
  /-- Waits, unless the caller gives up first; the reply says whether that happened by the end. -/
  | wait (pause : Pause) (resume : Bool → Procedure τ ρ ε α)

/-- One entry of a transcript. -/
inductive Entry (τ ρ ε α : Type) where
  /-- An event was reported. -/
  | reported (event : Event)
  /-- The store was asked for a transaction and replied. -/
  | began (reply : Reply ρ τ)
  /-- The store was called and replied. -/
  | called (target : Target τ) (reply : Reply ρ Unit)
  /-- The work ran in a transaction and replied. -/
  | worked (tx : τ) (reply : Reply ε α)
  /-- A random number was drawn. -/
  | drew (bound value : Nat)
  /-- A wait ended, early if it was cancelled. -/
  | waited (pause : Pause) (cancelled : Bool)
deriving DecidableEq, Repr

/-- Surroundings with a state: how they reply, and what becomes of them. -/
structure Surroundings (σ τ ρ ε α : Type) where
  /-- The reply of the store that is asked for a transaction. -/
  begin : σ → Reply ρ τ × σ
  /-- The reply of the store to any other call. -/
  call : Target τ → σ → Reply ρ Unit × σ
  /-- The reply of the work. -/
  work : τ → σ → Reply ε α × σ
  /-- A random number. -/
  draw : Nat → σ → Nat × σ
  /-- Whether the caller has given up by the end of a wait. -/
  wait : Pause → σ → Bool × σ

/-- A finished call. -/
structure Run (σ τ ρ ε α : Type) where
  /-- How the call ended. -/
  ending : Ending (RetryError ε) α
  /-- All that happened, in order. -/
  transcript : List (Entry τ ρ ε α)
  /-- The surroundings afterwards. -/
  final : σ

variable {σ τ ρ ε α : Type}

/-- The same run with an entry in front. -/
def Run.after (e : Entry τ ρ ε α) (r : Run σ τ ρ ε α) : Run σ τ ρ ε α :=
  { r with transcript := e :: r.transcript }

@[simp] theorem Run.ending_after (e : Entry τ ρ ε α) (r : Run σ τ ρ ε α) :
    (r.after e).ending = r.ending := rfl

@[simp] theorem Run.transcript_after (e : Entry τ ρ ε α) (r : Run σ τ ρ ε α) :
    (r.after e).transcript = e :: r.transcript := rfl

@[simp] theorem Run.final_after (e : Entry τ ρ ε α) (r : Run σ τ ρ ε α) :
    (r.after e).final = r.final := rfl

namespace Procedure

/-- Answers a procedure from the surroundings until it finishes. -/
def run (s : Surroundings σ τ ρ ε α) : Procedure τ ρ ε α → σ → Run σ τ ρ ε α
  | .finish ending, x => ⟨ending, [], x⟩
  | .report event rest, x => (rest.run s x).after (.reported event)
  | .begin resume, x =>
    let (reply, x) := s.begin x
    ((resume reply).run s x).after (.began reply)
  | .call target resume, x =>
    let (reply, x) := s.call target x
    ((resume reply).run s x).after (.called target reply)
  | .work tx resume, x =>
    let (reply, x) := s.work tx x
    ((resume reply).run s x).after (.worked tx reply)
  | .draw bound resume, x =>
    let (n, x) := s.draw bound x
    ((resume n).run s x).after (.drew bound n)
  | .wait pause resume, x =>
    let (cancelled, x) := s.wait pause x
    ((resume cancelled).run s x).after (.waited pause cancelled)

end Procedure

end StoreClient.Retry
