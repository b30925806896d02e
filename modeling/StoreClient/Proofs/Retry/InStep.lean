import StoreClient.Proofs.Retry.Congruence
import StoreClient.Proofs.Retry.Transcript
import StoreClient.Retry.Report

/-!
# Calls in step

Two runs are in step where they end alike and a view of their entries shows the same of both. The
surroundings may differ as long as related states give matching replies: then every request keeps
step, and a retried call keeps step if its attempts and its waits do. View and relation are left
open here; each law about two runs chooses its own.

## Main definitions

* `InStep` — two runs are in step.
* `Matches` — related states give matching replies and stay related.
* `KeepStep` — two procedures have runs in step wherever they start from related states.
* `Attempt.KeepsStep` — an attempt keeps step where that which follows does.
-/

namespace StoreClient.Retry

open Observability

variable {σ σ' τ ρ ε α β γ : Type}

/-! ## Runs -/

/-- Two runs end alike, and a view of their entries shows the same of both. -/
structure InStep (view : Entry τ ρ ε α → Option β) (r : Run σ τ ρ ε α) (q : Run σ' τ ρ ε α) :
    Prop where
  /-- They end alike. -/
  ending : r.ending = q.ending
  /-- What the view shows of them is the same. -/
  seen : r.transcript.filterMap view = q.transcript.filterMap view

namespace InStep

variable {view : Entry τ ρ ε α → Option β} {r : Run σ τ ρ ε α} {q : Run σ' τ ρ ε α}
  {e e' : Entry τ ρ ε α}

/-- Entries that look the same make no difference. -/
theorem after (h : InStep view r q) (hview : view e = view e') :
    InStep view (r.after e) (q.after e') where
  ending := h.ending
  seen := by simp [List.filterMap_cons, hview, h.seen]

/-- An entry that is not seen may be in the first run alone. -/
theorem after_left (h : InStep view r q) (hview : view e = none) : InStep view (r.after e) q where
  ending := h.ending
  seen := by simp [hview, h.seen]

/-- An entry that is not seen may be in the second run alone. -/
theorem after_right (h : InStep view r q) (hview : view e = none) : InStep view r (q.after e) where
  ending := h.ending
  seen := by simp [hview, h.seen]

/-- What the view tells of entries is the same of both runs. -/
theorem filterMap_eq (h : InStep view r q) {f : Entry τ ρ ε α → Option γ} (g : β → Option γ)
    (hf : ∀ e, f e = (view e).bind g) :
    r.transcript.filterMap f = q.transcript.filterMap f := by
  have hview (t : List (Entry τ ρ ε α)) : t.filterMap f = (t.filterMap view).filterMap g := by
    rw [List.filterMap_filterMap]
    exact congrArg (t.filterMap ·) (funext hf)
  rw [hview, hview, h.seen]

/-- Where the view tells what an entry logs, both runs log the same. -/
theorem log_eq (h : InStep view r q) {op : Operation} {f : LogLine → Option γ}
    (g : β → Option γ) (hf : ∀ e, (e.event?.bind (Event.logLine? op)).bind f = (view e).bind g) :
    (r.log op).filterMap f = (q.log op).filterMap f := by
  simp only [Run.log, Run.events, List.filterMap_filterMap, Option.bind_assoc]
  exact h.filterMap_eq g fun e => by rw [← hf, Option.bind_assoc]

/-- Where the view tells what an entry counts, both runs count the same. -/
theorem measurements_eq (h : InStep view r q) {op : Operation} (g : β → Option Measurement)
    (hf : ∀ e, e.event?.bind (Event.measurement? op) = (view e).bind g) :
    r.measurements op = q.measurements op := by
  simp only [Run.measurements, Run.events, List.filterMap_filterMap]
  exact h.filterMap_eq g hf

end InStep

/-! ## Replies -/

/-- Related states give matching replies and stay related. -/
def Matches (Related : σ → σ' → Prop) (Same : β → β → Prop) (f : σ → β × σ) (g : σ' → β × σ') :
    Prop :=
  ∀ x y, Related x y → Same (f x).1 (g y).1 ∧ Related (f x).2 (g y).2

/-! ## Procedures -/

section

variable (view : Entry τ ρ ε α → Option β) (Related : σ → σ' → Prop)
  (s : Surroundings σ τ ρ ε α) (s' : Surroundings σ' τ ρ ε α)

/-- Two procedures have runs in step wherever they start from related states. -/
def KeepStep (p q : Procedure τ ρ ε α) : Prop :=
  ∀ x y, Related x y → InStep view (p.run s x) (q.run s' y)

/-- An attempt keeps step where that which follows does. -/
def Attempt.KeepsStep (attempt : Attempt τ ρ ε α) : Prop :=
  ∀ next next', (∀ cancelled judgement,
      KeepStep view Related s s' (next cancelled judgement) (next' cancelled judgement)) →
    KeepStep view Related s s' (attempt next) (attempt next')

end

section

variable {view : Entry τ ρ ε α → Option β} {Related : σ → σ' → Prop}
  {s : Surroundings σ τ ρ ε α} {s' : Surroundings σ' τ ρ ε α}

theorem keepStep_finish (ending : Ending (RetryError ε) α) :
    KeepStep view Related s s' (.finish ending) (.finish ending) :=
  fun _ _ _ => ⟨rfl, rfl⟩

section

variable {p q : Procedure τ ρ ε α} {event event' : Event}

theorem keepStep_report (hview : view (.reported event) = view (.reported event'))
    (h : KeepStep view Related s s' p q) :
    KeepStep view Related s s' (.report event p) (.report event' q) :=
  fun x y hxy => (h x y hxy).after hview

theorem keepStep_report_left (hview : view (.reported event) = none)
    (h : KeepStep view Related s s' p q) : KeepStep view Related s s' (.report event p) q :=
  fun x y hxy => (h x y hxy).after_left hview

theorem keepStep_report_right (hview : view (.reported event) = none)
    (h : KeepStep view Related s s' p q) : KeepStep view Related s s' p (.report event q) :=
  fun x y hxy => (h x y hxy).after_right hview

end

theorem keepStep_begin (hbegin : Matches Related Eq s.begin s'.begin)
    {p q : Reply ρ τ → Procedure τ ρ ε α}
    (h : ∀ reply, KeepStep view Related s s' (p reply) (q reply)) :
    KeepStep view Related s s' (.begin p) (.begin q) := by
  intro x y hxy
  obtain ⟨hreply, hafter⟩ := hbegin x y hxy
  have hrest := (h (s.begin x).1 _ _ hafter).after (e := .began (s.begin x).1) rfl
  simpa only [Procedure.run, ← hreply] using hrest

theorem keepStep_work {tx : τ} (hwork : Matches Related Eq (s.work tx) (s'.work tx))
    {p q : Reply ε α → Procedure τ ρ ε α}
    (h : ∀ reply, KeepStep view Related s s' (p reply) (q reply)) :
    KeepStep view Related s s' (.work tx p) (.work tx q) := by
  intro x y hxy
  obtain ⟨hreply, hafter⟩ := hwork x y hxy
  have hrest := (h (s.work tx x).1 _ _ hafter).after (e := .worked tx (s.work tx x).1) rfl
  simpa only [Procedure.run, ← hreply] using hrest

/-- A call keeps step if replies that match look the same and are followed by procedures that keep
step. -/
theorem keepStep_call {Same : Reply ρ Unit → Reply ρ Unit → Prop} {target : Target τ}
    (hcall : Matches Related Same (s.call target) (s'.call target))
    {p q : Reply ρ Unit → Procedure τ ρ ε α}
    (hview : ∀ reply reply', Same reply reply' →
      view (.called target reply) = view (.called target reply'))
    (h : ∀ reply reply', Same reply reply' →
      KeepStep view Related s s' (p reply) (q reply')) :
    KeepStep view Related s s' (.call target p) (.call target q) := by
  intro x y hxy
  obtain ⟨hsame, hafter⟩ := hcall x y hxy
  exact (h _ _ hsame _ _ hafter).after (hview _ _ hsame)

theorem keepStep_call_of_eq {target : Target τ}
    (hcall : Matches Related Eq (s.call target) (s'.call target))
    {p q : Reply ρ Unit → Procedure τ ρ ε α}
    (h : ∀ reply, KeepStep view Related s s' (p reply) (q reply)) :
    KeepStep view Related s s' (.call target p) (.call target q) := by
  refine keepStep_call hcall ?_ ?_
  · rintro reply _ rfl
    rfl
  · rintro reply _ rfl
    exact h reply

theorem keepStep_draw {Same : Nat → Nat → Prop} {bound : Nat}
    (hdraw : Matches Related Same (s.draw bound) (s'.draw bound))
    {p q : Nat → Procedure τ ρ ε α}
    (hview : ∀ n n', Same n n' → view (.drew bound n) = view (.drew bound n'))
    (h : ∀ n n', Same n n' → KeepStep view Related s s' (p n) (q n')) :
    KeepStep view Related s s' (.draw bound p) (.draw bound q) := by
  intro x y hxy
  obtain ⟨hsame, hafter⟩ := hdraw x y hxy
  exact (h _ _ hsame _ _ hafter).after (hview _ _ hsame)

/-- Waits of different length keep step if the caller gives up during both or neither. -/
theorem keepStep_wait {pause pause' : Pause}
    (hwait : Matches Related Eq (s.wait pause) (s'.wait pause'))
    {p q : Bool → Procedure τ ρ ε α}
    (hview : ∀ cancelled, view (.waited pause cancelled) = view (.waited pause' cancelled))
    (h : ∀ cancelled, KeepStep view Related s s' (p cancelled) (q cancelled)) :
    KeepStep view Related s s' (.wait pause p) (.wait pause' q) := by
  intro x y hxy
  obtain ⟨hreply, hafter⟩ := hwait x y hxy
  have hrest := (h (s.wait pause x).1 _ _ hafter).after (hview (s.wait pause x).1)
  simpa only [Procedure.run, ← hreply] using hrest

/-! ## Attempts -/

section

variable [Reported ρ]

/-- A rollback that ends in the same way keeps step. -/
theorem keepStep_release {tx : τ}
    (hrollback : Matches Related Eq (s.call (.rollback tx)) (s'.call (.rollback tx)))
    (cancelled : Bool) {next next' : Bool → Procedure τ ρ ε α}
    (h : ∀ cancelled, KeepStep view Related s s' (next cancelled) (next' cancelled)) :
    KeepStep view Related s s' (release tx cancelled next) (release tx cancelled next') := by
  refine keepStep_call_of_eq hrollback ?_
  rintro ⟨ending, c⟩
  cases ending with
  | ok => exact h _
  | error e => exact keepStep_report rfl (h _)
  | crash cause => exact keepStep_finish _

theorem keepsStep_statementAttempt {s : Surroundings σ τ ρ ρ Unit} {s' : Surroundings σ' τ ρ ρ Unit}
    {view : Entry τ ρ ρ Unit → Option β} {text : String}
    (hexec : Matches Related Eq (s.call (.exec text)) (s'.call (.exec text))) :
    (statementAttempt text).KeepsStep view Related s s' := by
  intro next next' h
  refine keepStep_call_of_eq hexec ?_
  rintro ⟨ending, c⟩
  cases ending with
  | ok | error => exact h _ _
  | crash cause => exact keepStep_finish _

variable [Reported ε]

/-- An attempt in a transaction keeps step if its calls match and the release keeps step. -/
theorem keepsStep_transactionAttempt (convert : ρ → ε)
    (hbegin : Matches Related Eq s.begin s'.begin)
    (hwork : ∀ tx, Matches Related Eq (s.work tx) (s'.work tx))
    (hcommit : ∀ tx, Matches Related Eq (s.call (.commit tx)) (s'.call (.commit tx)))
    (hrelease : ∀ tx cancelled next next',
      (∀ cancelled, KeepStep view Related s s' (next cancelled) (next' cancelled)) →
      KeepStep view Related s s' (release tx cancelled next) (release tx cancelled next')) :
    (transactionAttempt convert).KeepsStep view Related s s' := by
  intro next next' h
  refine keepStep_begin hbegin ?_
  rintro ⟨begun, c₁⟩
  cases begun with
  | crash cause => exact keepStep_finish _
  | error e => exact h _ _
  | ok tx =>
      refine keepStep_work (hwork tx) ?_
      rintro ⟨worked, c₂⟩
      cases worked with
      | crash cause => exact hrelease tx _ _ _ fun _ => keepStep_finish _
      | error e => exact hrelease tx _ _ _ fun _ => h _ _
      | ok value =>
          refine keepStep_call_of_eq (hcommit tx) ?_
          rintro ⟨committed, c₃⟩
          cases committed with
          | ok => exact h _ _
          | error e => exact hrelease tx _ _ _ fun _ => h _ _
          | crash cause => exact hrelease tx _ _ _ fun _ => keepStep_finish _

end

/-! ## Retried calls -/

theorem congruence_keepStep : Congruence fun _ => KeepStep view Related s s' where
  finish _ := keepStep_finish
  report _ _ _ _ := keepStep_report rfl

variable [Reported ε] {policy : Policy} {attempt : Attempt τ ρ ε α}

/-- A wait before the next attempt that is of the same length keeps step. -/
theorem keepStep_backOff (hdraw : ∀ bound, Matches Related Eq (s.draw bound) (s'.draw bound))
    (hwait : ∀ pause, Matches Related Eq (s.wait pause) (s'.wait pause)) (made : Nat)
    (backoff : Backoff) (e : ε) (p q : Procedure τ ρ ε α) (h : KeepStep view Related s s' p q) :
    KeepStep view Related s s' (backOff policy made backoff e p)
      (backOff policy made backoff e q) := by
  refine congruence_keepStep.rel_backOff ?_ ?_ made backoff e p q h
  · intro bound p q hpq
    refine keepStep_draw (hdraw bound) ?_ ?_
    · rintro n _ rfl
      rfl
    · rintro n _ rfl
      exact hpq n
  · intro pause p q hpq
    exact keepStep_wait (hwait pause) (fun _ => rfl) hpq

/-- A retried call keeps step if its attempts and its waits do. -/
theorem keepStep_retry (hattempt : attempt.KeepsStep view Related s s')
    (hbackOff : ∀ made backoff e p q, KeepStep view Related s s' p q →
      KeepStep view Related s s' (backOff policy made backoff e p)
        (backOff policy made backoff e q)) (cancelled : Bool) :
    KeepStep view Related s s' (retry policy cancelled attempt)
      (retry policy cancelled attempt) :=
  congruence_keepStep.rel_retry hattempt hbackOff cancelled

end

end StoreClient.Retry
