import StoreClient.Observability.Log
import StoreClient.Observability.Metrics
import StoreClient.Retry.Loop

/-!
# Log lines and metrics of retried calls

Both are views of the events of a transcript; nothing else is logged or measured.
-/

namespace StoreClient.Retry

open Observability

/-- The kinds of retried call, as log lines and metrics tell them apart. -/
inductive Operation where
  /-- Work in a transaction. -/
  | transaction
  /-- A single statement. -/
  | exec
deriving DecidableEq, Repr

/-- The label of an operation. -/
def Operation.label : Operation → String
  | .transaction => "transaction"
  | .exec => "exec"

/-- The target of the log lines of retried calls. -/
def logTarget : String := s!"{libraryTarget}::resilience::retries"

/-- The span of a retried call. -/
def Operation.span : Operation → Span
  | .transaction =>
    { name := "with_retry", target := logTarget, fields := [("max_retries", none)] }
  | .exec => { name := "exec_with_policy", target := logTarget, fields := [("max_retries", none)] }

namespace Event

/-- The log line of an event, if it has one. -/
def logLine? (op : Operation) : Event → Option LogLine
  | .exhausted attempts error => some {
      level := .warn
      message := "OCC retries exhausted"
      fields := [("operation", op.label), ("attempts", toString attempts), ("error", error)]
      span := some op.span }
  | .retrying attempt maxAttempts pause error => some {
      level := .debug
      message := "OCC conflict, retrying after backoff"
      fields := [("operation", op.label), ("attempt", toString attempt),
        ("max_attempts", toString maxAttempts),
        ("delay_ms", toString (pause.delay.nanoseconds / 10 ^ 6 % 2 ^ 64)), ("error", error)]
      span := some op.span }
  | .recovered attempts => some {
      level := .debug
      message := "succeeded after retry"
      fields := [("operation", op.label), ("attempts", toString attempts)]
      span := some op.span }
  | .rollbackFailed error => some {
      level := .warn
      message := "rollback failed"
      fields := [("error", error)]
      span := some op.span }
  | _ => none

/-- The measurement of an event, if it has one. -/
def measurement? (op : Operation) : Event → Option Measurement
  | .attempted => some (.attempt op.label)
  | .conflicted => some (.conflict op.label)
  | .exhausted _ _ => some (.retriesExhausted op.label)
  | .failed => some (.fatal op.label)
  | _ => none

end Event

variable {σ τ ρ ε α : Type}

/-- The event of a transcript entry, if it reports one. -/
def Entry.event? : Entry τ ρ ε α → Option Event
  | .reported event => some event
  | _ => none

namespace Run

/-- The events of a run, in order. -/
def events (r : Run σ τ ρ ε α) : List Event := r.transcript.filterMap Entry.event?

/-- The log lines of a run, in order. -/
def log (op : Operation) (r : Run σ τ ρ ε α) : List LogLine :=
  r.events.filterMap (Event.logLine? op)

/-- The measurements of a run, in order. -/
def measurements (op : Operation) (r : Run σ τ ρ ε α) : List Measurement :=
  r.events.filterMap (Event.measurement? op)

/-- The pauses of a run that were waited out, in order. -/
def pauses (r : Run σ τ ρ ε α) : List Pause :=
  r.transcript.filterMap fun
    | .waited pause false => some pause
    | _ => none

end Run

end StoreClient.Retry
