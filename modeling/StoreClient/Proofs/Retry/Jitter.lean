import StoreClient.Proofs.Retry.Budget
import StoreClient.Proofs.Retry.InStep

/-!
# Jitter

The numbers that a call draws lengthen its waits and do nothing else: the next wait grows from the
base of the last, not from its length. Where store, work and caller do not look at the time, calls
that draw different numbers are in step once jitter is left out.

## Main definitions

* `Pause.steady`, `Event.steady`, `Entry.steady` — the same without jitter.
* `blankDelay` — a log line with no value for the delay.
* `Surroundings.AlikeButDraws` — surroundings differ in the numbers that are drawn.
* `AlikeButJitter` — two runs differ in the length of their waits only.
-/

namespace StoreClient.Retry

open Observability

variable {σ σ' τ ρ ε α : Type}

/-! ## Views -/

/-- The wait without jitter. -/
def Pause.steady (pause : Pause) : Pause := { pause with jitter := .zero }

/-- The event without jitter. -/
def Event.steady : Event → Event
  | .retrying attempt maxAttempts pause error => .retrying attempt maxAttempts pause.steady error
  | event => event

namespace Entry

/-- The entry without jitter and without the number that it came from. -/
def steady : Entry τ ρ ε α → Entry τ ρ ε α
  | .reported event => .reported event.steady
  | .drew bound _ => .drew bound 0
  | .waited pause cancelled => .waited pause.steady cancelled
  | e => e

/-- The length of a wait before jitter. -/
def base? : Entry τ ρ ε α → Option Duration
  | .waited pause _ => some pause.base
  | _ => none

end Entry

/-- The log line with no value for the delay. -/
def blankDelay (line : LogLine) : LogLine :=
  { line with fields := line.fields.map fun field =>
      if field.1 == "delay_ms" then (field.1, "") else field }

/-! ## Runs -/

/-- Two runs differ in the length of their waits only. -/
structure AlikeButJitter (r : Run σ τ ρ ε α) (q : Run σ' τ ρ ε α) : Prop where
  /-- They end alike. -/
  ending : r.ending = q.ending
  /-- Entry for entry they are the same without jitter. -/
  transcript : r.transcript.map Entry.steady = q.transcript.map Entry.steady
  /-- They make the same calls and get the same replies. -/
  calls : r.calls = q.calls
  /-- Before jitter they wait alike. -/
  bases : r.transcript.filterMap Entry.base? = q.transcript.filterMap Entry.base?
  /-- They count the same. -/
  measurements : ∀ op, r.measurements op = q.measurements op
  /-- They log the same, delays apart. -/
  log : ∀ op, (r.log op).map blankDelay = (q.log op).map blankDelay

/-- Runs that look the same without jitter differ in the length of waits only. -/
theorem InStep.alikeButJitter {r : Run σ τ ρ ε α} {q : Run σ' τ ρ ε α}
    (h : InStep (fun e => some e.steady) r q) : AlikeButJitter r q where
  ending := h.ending
  transcript := by
    simp only [← List.filterMap_eq_map]
    exact h.seen
  calls := by
    simp only [Run.calls, ← List.filterMap_eq_filter]
    refine h.filterMap_eq (Option.guard Entry.isCall) fun e => ?_
    cases e <;> rfl
  bases := h.filterMap_eq Entry.base? fun e => by cases e <;> rfl
  measurements op := by
    refine h.measurements_eq (fun e => e.event?.bind (Event.measurement? op)) fun e => ?_
    rcases e with ⟨⟨⟩⟩ | _ | _ | _ | _ | _ <;> rfl
  log op := by
    simp only [← List.filterMap_eq_map]
    refine h.log_eq (fun e => (e.event?.bind (Event.logLine? op)).map blankDelay) fun e => ?_
    rcases e with ⟨⟨⟩⟩ | _ | _ | _ | _ | _ <;> rfl

/-! ## Calls in step -/

/-- Surroundings that differ in the numbers that are drawn: store and work do not see these, nor how
long a wait was. Whether the caller gives up during a wait does not depend on its jitter, as where
the caller never does. -/
structure Surroundings.AlikeButDraws (Related : σ → σ' → Prop) (s : Surroundings σ τ ρ ε α)
    (s' : Surroundings σ' τ ρ ε α) : Prop where
  /-- Transactions are opened alike. -/
  begin : Matches Related Eq s.begin s'.begin
  /-- The work ends alike. -/
  work : ∀ tx, Matches Related Eq (s.work tx) (s'.work tx)
  /-- The other calls of the store end alike. -/
  call : ∀ target, Matches Related Eq (s.call target) (s'.call target)
  /-- Any numbers may be drawn. -/
  draw : ∀ bound, Matches Related (fun _ _ => True) (s.draw bound) (s'.draw bound)
  /-- The caller gives up during the same waits. -/
  wait : ∀ pause pause', pause.base = pause'.base →
    Matches Related Eq (s.wait pause) (s'.wait pause')

namespace Surroundings.AlikeButDraws

variable {Related : σ → σ' → Prop}

/-- Waits of the same base keep step, and so do the next, since the base grows by itself. -/
theorem keepStep_backOff [Reported ε] {s : Surroundings σ τ ρ ε α} {s' : Surroundings σ' τ ρ ε α}
    (h : s.AlikeButDraws Related s') (policy : Policy) (made : Nat) (backoff : Backoff) (e : ε)
    (p q : Procedure τ ρ ε α)
    (hpq : KeepStep (fun e => some e.steady) Related s s' p q) :
    KeepStep (fun e => some e.steady) Related s s' (backOff policy made backoff e p)
      (backOff policy made backoff e q) := by
  refine keepStep_draw (h.draw _) (fun n n' _ => rfl) fun n n' _ => ?_
  have hwait := h.wait (backoff.pause n) (backoff.pause n') rfl
  refine keepStep_report rfl (keepStep_wait hwait (fun _ => rfl) fun cancelled => ?_)
  split
  · exact keepStep_finish _
  · exact hpq

variable [Reported ρ]

theorem keepStep_transaction [Reported ε] {s : Surroundings σ τ ρ ε α}
    {s' : Surroundings σ' τ ρ ε α} (h : s.AlikeButDraws Related s') (policy : Policy)
    (convert : ρ → ε) (cancelled : Bool) :
    KeepStep (fun e => some e.steady) Related s s' (transaction policy convert cancelled)
      (transaction policy convert cancelled) := by
  refine keepStep_retry ?_ (h.keepStep_backOff policy) cancelled
  refine keepsStep_transactionAttempt convert h.begin h.work (fun tx => h.call _) ?_
  intro tx cancelled next next' hnext
  exact keepStep_release (h.call _) cancelled hnext

theorem keepStep_statement {s : Surroundings σ τ ρ ρ Unit} {s' : Surroundings σ' τ ρ ρ Unit}
    (h : s.AlikeButDraws Related s') (policy : Policy) (cancelled : Bool) (text : String) :
    KeepStep (fun e => some e.steady) Related s s' (statement policy cancelled text)
      (statement policy cancelled text) :=
  keepStep_retry (keepsStep_statementAttempt (h.call _)) (h.keepStep_backOff policy) cancelled

end Surroundings.AlikeButDraws

/-- **Jitter.** The numbers that are drawn are seen in the length of the waits and nowhere else. Two
calls that differ in them alone end alike, make the same calls, wait alike before jitter, and count
and log the same but for the delays, whether they retry work in transactions or a statement. -/
theorem alike_but_jitter [Reported ρ] (policy : Policy) (cancelled : Bool) :
    (∀ [Reported ε] (convert : ρ → ε) (Related : σ → σ' → Prop) (s : Surroundings σ τ ρ ε α)
      (s' : Surroundings σ' τ ρ ε α), s.AlikeButDraws Related s' → ∀ x y, Related x y →
      AlikeButJitter ((transaction policy convert cancelled).run s x)
        ((transaction policy convert cancelled).run s' y)) ∧
    ∀ (text : String) (Related : σ → σ' → Prop) (s : Surroundings σ τ ρ ρ Unit)
      (s' : Surroundings σ' τ ρ ρ Unit), s.AlikeButDraws Related s' → ∀ x y, Related x y →
      AlikeButJitter ((statement policy cancelled text).run s x)
        ((statement policy cancelled text).run s' y) := by
  refine ⟨fun convert Related s s' hs x y hxy => ?_, fun text Related s s' hs x y hxy => ?_⟩
  · exact (hs.keepStep_transaction policy convert cancelled x y hxy).alikeButJitter
  · exact (hs.keepStep_statement policy cancelled text x y hxy).alikeButJitter

/-- A store that refuses the first call of all but `begin` with a conflict and does as it is told
from then on. Its state counts these calls, and it is always this number that is drawn. -/
def busyAtFirst (draw : Nat) : Surroundings Nat Unit Failure Failure Unit where
  begin calls := (⟨.ok (), false⟩, calls)
  call _ calls := (⟨if calls = 0 then .error someConflict else .ok (), false⟩, calls + 1)
  work _ calls := (⟨.ok (), false⟩, calls)
  draw _ calls := (draw, calls)
  wait _ calls := (false, calls)

theorem busyAtFirst_alikeButDraws (draw draw' : Nat) :
    (busyAtFirst draw).AlikeButDraws Eq (busyAtFirst draw') := by
  constructor <;> simp [busyAtFirst, Matches]

/-- Without jitter and with it, work in a transaction and a statement are done with their second
attempts, and their waits differ. -/
theorem alike_though_draws_differ :
    let s := busyAtFirst 0
    let s' := busyAtFirst 1000000
    let r := (transaction {} id false).run s 0
    let q := (transaction {} id false).run s' 0
    let u := (statement {} false "VACUUM").run s 0
    let v := (statement {} false "VACUUM").run s' 0
    s.AlikeButDraws Eq s' ∧
      (AlikeButJitter r q ∧ r.ending = .ok () ∧ r.pauses ≠ q.pauses) ∧
      AlikeButJitter u v ∧ u.ending = .ok () ∧ u.pauses ≠ v.pauses := by
  intro s s' r q u v
  have hs : s.AlikeButDraws Eq s' := busyAtFirst_alikeButDraws 0 1000000
  refine ⟨hs, ⟨?_, by decide +kernel, by decide +kernel⟩, ?_, by decide +kernel, by decide +kernel⟩
  · exact (alike_but_jitter {} false).1 id Eq s s' hs 0 0 rfl
  · exact (@alike_but_jitter Nat Nat Unit Failure Failure Unit _ {} false).2 "VACUUM" Eq s s' hs
      0 0 rfl

end StoreClient.Retry
