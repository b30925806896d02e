import StoreClient.Proofs.Retry.Budget
import StoreClient.Proofs.Retry.Congruence
import StoreClient.Retry.Report

/-!
# Statements and transactions

A single statement is retried as work in transactions is: where a store opens, commits and rolls
back transactions without fail, and the work in them ends as the statement would, the two calls
agree. They end alike, make as many attempts, wait alike and report the same events, so that they
also count the same.

## Main definitions

* `Surroundings.inTransactions` — a store without fail, in which the work is the statement.
* `Agree` — two runs agree in all but their calls.
* `Surroundings.Alike` — two procedures have runs that agree.
-/

namespace StoreClient.Retry

open Observability

variable {σ τ ρ : Type}

/-- Surroundings in which the work does what the statement does in the given ones. Transactions are
opened, committed and rolled back without fail. The state also says whether the caller has given up,
as every reply then tells. -/
def Surroundings.inTransactions (s : Surroundings σ τ ρ ρ Unit) (handle : σ → τ) (text : String) :
    Surroundings (σ × Bool) τ ρ ρ Unit where
  begin x := (⟨.ok (handle x.1), x.2⟩, x)
  call _ x := (⟨.ok (), x.2⟩, x)
  work _ x :=
    let (reply, y) := s.call (.exec text) x.1
    (reply, (y, x.2 || reply.cancelled))
  draw bound x :=
    let (n, y) := s.draw bound x.1
    (n, (y, x.2))
  wait pause x :=
    let (cancelled, y) := s.wait pause x.1
    (cancelled, (y, x.2 || cancelled))

/-! ## Runs -/

variable {σ' : Type}

/-- Two runs agree in all but their calls. -/
structure Agree (r : Run σ τ ρ ρ Unit) (q : Run σ' τ ρ ρ Unit) : Prop where
  /-- They end alike. -/
  ending : r.ending = q.ending
  /-- They make as many attempts. -/
  started : started r.transcript = started q.transcript
  /-- They wait alike. -/
  waits : r.transcript.filter Entry.isWait = q.transcript.filter Entry.isWait
  /-- They report the same. -/
  events : r.events = q.events

namespace Agree

variable {r : Run σ τ ρ ρ Unit} {q : Run σ' τ ρ ρ Unit}

theorem events_after (e : Entry τ ρ ρ Unit) (r : Run σ τ ρ ρ Unit) :
    (r.after e).events = e.event?.toList ++ r.events := by
  simp only [Run.events, Run.transcript_after, List.filterMap_cons]
  cases e.event? <;> rfl

/-- An entry that is in both runs makes no difference. -/
theorem after (h : Agree r q) (e : Entry τ ρ ρ Unit) : Agree (r.after e) (q.after e) where
  ending := h.ending
  started := by simp [h.started]
  waits := by simp [List.filter_cons, h.waits]
  events := by rw [events_after, events_after, h.events]

/-- An entry that starts no attempt, is no wait and reports nothing makes no difference. -/
theorem after_left (h : Agree r q) {e : Entry τ ρ ρ Unit} (hstarts : e.starts = false)
    (hwait : e.isWait = false) (hevent : e.event? = none) : Agree (r.after e) q where
  ending := h.ending
  started := by simp [h.started, hstarts]
  waits := by simp [h.waits, hwait]
  events := by simp [events_after, h.events, hevent]

/-- An attempt may start with a transaction in the one run and with a statement in the other. -/
theorem after_start (h : Agree r q) (begun : Reply ρ τ) (text : String) (reply : Reply ρ Unit) :
    Agree (r.after (.began begun)) (q.after (.called (.exec text) reply)) where
  ending := h.ending
  started := by simp [h.started, Entry.starts]
  waits := by simp [h.waits]
  events := by simp [events_after, h.events, Entry.event?]

end Agree

/-! ## Procedures -/

section

variable (s : Surroundings σ τ ρ ρ Unit) (handle : σ → τ) (text : String)

/-- Two procedures have runs that agree, the first of them where the work does what the statement
does in the second. The caller has given up by now or not. -/
def Surroundings.Alike (cancelled : Bool) (p q : Procedure τ ρ ρ Unit) : Prop :=
  ∀ x, Agree (p.run (s.inTransactions handle text) (x, cancelled)) (q.run s x)

variable {s handle text} {cancelled : Bool} {p q : Procedure τ ρ ρ Unit}

theorem alike_finish (ending : Ending (RetryError ρ) Unit) :
    s.Alike handle text cancelled (.finish ending) (.finish ending) :=
  fun _ => ⟨rfl, rfl, rfl, rfl⟩

theorem alike_report (event : Event) (h : s.Alike handle text cancelled p q) :
    s.Alike handle text cancelled (.report event p) (.report event q) :=
  fun x => (h x).after (.reported event)

theorem alike_draw (bound : Nat) {p q : Nat → Procedure τ ρ ρ Unit}
    (h : ∀ n, s.Alike handle text cancelled (p n) (q n)) :
    s.Alike handle text cancelled (.draw bound p) (.draw bound q) :=
  fun x => (h _ _).after (.drew bound (s.draw bound x).1)

theorem alike_wait (pause : Pause) {p q : Bool → Procedure τ ρ ρ Unit}
    (h : ∀ gaveUp, s.Alike handle text (cancelled || gaveUp) (p gaveUp) (q gaveUp)) :
    s.Alike handle text cancelled (.wait pause p) (.wait pause q) :=
  fun x => (h _ _).after (.waited pause (s.wait pause x).1)

/-- Work in a transaction may start where a statement does. -/
theorem alike_start {resume : Reply ρ τ → Procedure τ ρ ρ Unit}
    {next : τ → Reply ρ Unit → Procedure τ ρ ρ Unit} {next' : Reply ρ Unit → Procedure τ ρ ρ Unit}
    (hresume : ∀ tx, resume ⟨.ok tx, false⟩ = .work tx (next tx))
    (h : ∀ tx reply, s.Alike handle text reply.cancelled (next tx reply) (next' reply)) :
    s.Alike handle text false (.begin resume) (.call (.exec text) next') := by
  intro x
  have hrest := h (handle x) (s.call (.exec text) x).1 (s.call (.exec text) x).2
  have hstart := (hrest.after_left (e := .worked (handle x) (s.call (.exec text) x).1)
    rfl rfl rfl).after_start ⟨.ok (handle x), false⟩ text (s.call (.exec text) x).1
  simpa only [Procedure.run, Surroundings.inTransactions, hresume, Bool.false_or] using hstart

/-- A commit that does not fail makes no difference. -/
theorem alike_commit (tx : τ) {next : Reply ρ Unit → Procedure τ ρ ρ Unit}
    (h : s.Alike handle text cancelled (next ⟨.ok (), cancelled⟩) q) :
    s.Alike handle text cancelled (.call (.commit tx) next) q := by
  intro x
  have hcommit := (h x).after_left (e := .called (.commit tx) ⟨.ok (), cancelled⟩) rfl rfl rfl
  exact hcommit

/-- Equal ends and equal events are alike. -/
theorem congruence_alike : Congruence (s.Alike handle text) where
  finish _ := alike_finish
  report _ event _ _ := alike_report event

variable [Reported ρ]

/-- A rollback that does not fail makes no difference. -/
theorem alike_release (tx : τ) {next : Bool → Procedure τ ρ ρ Unit}
    (h : s.Alike handle text cancelled (next cancelled) q) :
    s.Alike handle text cancelled (release tx cancelled next) q := by
  intro x
  have hnext : s.Alike handle text cancelled (next (cancelled || cancelled)) q := by
    rw [Bool.or_self]
    exact h
  exact (hnext x).after_left (e := .called (.rollback tx) ⟨.ok (), cancelled⟩) rfl rfl rfl

/-- Attempts go alike if the calls go on alike. -/
theorem alike_attempt (convert : ρ → ρ)
    {next next' : Bool → Judgement ρ Unit → Procedure τ ρ ρ Unit}
    (h : ∀ cancelled judgement,
      s.Alike handle text cancelled (next cancelled judgement) (next' cancelled judgement)) :
    s.Alike handle text false (transactionAttempt convert next) (statementAttempt text next') := by
  refine alike_start (fun tx => rfl) ?_
  rintro tx ⟨ending, c⟩
  cases ending with
  | ok =>
      refine alike_commit tx ?_
      simp only [Bool.false_or, Bool.or_self]
      exact h c _
  | error e => exact alike_release tx (h c _)
  | crash cause => exact alike_release tx (alike_finish _)

theorem alike_transaction (policy : Policy) (convert : ρ → ρ) :
    s.Alike handle text cancelled (transaction policy convert cancelled)
      (statement policy cancelled text) := by
  refine congruence_alike.rel_retry (fun next next' h => alike_attempt convert h) ?_ cancelled
  refine congruence_alike.rel_backOff (fun bound p q h => alike_draw bound h) ?_
  intro pause p q h
  refine alike_wait pause fun gaveUp => ?_
  rw [Bool.false_or]
  exact h gaveUp

end

/-! ## Counters -/

/-- The counters of retried calls. -/
def counters : List (String → Measurement) :=
  [.attempt, .conflict, .fatal, .retriesExhausted]

/-- What a counter of an operation has gone up by in a run. -/
def Run.counted {ε α : Type} (op : Operation) (counter : String → Measurement)
    (r : Run σ τ ρ ε α) : Nat :=
  (r.measurements op).count (counter op.label)

/-- Events count the same for every operation. -/
theorem count_measurement (events : List Event) {counter : String → Measurement}
    (h : counter ∈ counters) (op op' : Operation) :
    (events.filterMap (Event.measurement? op)).count (counter op.label) =
      (events.filterMap (Event.measurement? op')).count (counter op'.label) := by
  rw [List.count_filterMap, List.count_filterMap]
  refine List.countP_congr fun event _ => ?_
  simp only [counters, List.mem_cons, List.not_mem_nil, or_false] at h
  rcases h with rfl | rfl | rfl | rfl <;> cases event <;> simp [Event.measurement?]

/-- **Statements and transactions.** A single statement and work in transactions that are opened,
committed and rolled back without fail agree where the work does what the statement does: they end
alike, make as many attempts, wait alike, report the same events and count the same. -/
theorem statement_agrees_with_transaction [Reported ρ] (policy : Policy) (convert : ρ → ρ)
    (cancelled : Bool) (text : String) (handle : σ → τ) (s : Surroundings σ τ ρ ρ Unit) (x : σ) :
    let r := (transaction policy convert cancelled).run (s.inTransactions handle text)
      (x, cancelled)
    let q := (statement policy cancelled text).run s x
    r.ending = q.ending ∧ started r.transcript = started q.transcript ∧
      r.transcript.filter Entry.isWait = q.transcript.filter Entry.isWait ∧
      r.events = q.events ∧
      ∀ counter ∈ counters, r.counted .transaction counter = q.counted .exec counter := by
  intro r q
  have hagree : Agree r q := alike_transaction policy convert x
  refine ⟨hagree.ending, hagree.started, hagree.waits, hagree.events, fun counter hcounter => ?_⟩
  simp only [Run.counted, Run.measurements, hagree.events]
  exact count_measurement q.events hcounter .transaction .exec

end StoreClient.Retry
