import StoreClient.Proofs.Retry.Budget
import StoreClient.Proofs.Retry.Handles
import StoreClient.Retry.Report

/-!
# Callers who give up

A caller may give up beforehand, during an attempt or during a wait. In each case the call starts
nothing more: a wait is over at once, and an attempt is run to its end, its transaction released.
Such a call ends as cancelled, whatever the attempt comes to, unless this is a success or a crash,
and it counts neither a failure nor a spent budget.

## Main definitions

* `Upshot.inVain` — how a call ends by an attempt in which the caller gives up.
* `Contained` — an attempt starts with its first entry and reports failed rollbacks only.
* `Stopped` — a call stops where the caller gives up.
* `Heeds` — a call heeds a caller who gives up.
-/

namespace StoreClient.Retry

variable {σ τ ρ ε α : Type}

/-! ## Attempts -/

/-- How a call ends by an attempt in which the caller gives up: a success and a crash stay what they
are, and an error is not told. -/
def Upshot.inVain : Upshot ε α → Ending (RetryError ε) α
  | .judged _ (.success value) => .ok value
  | .judged _ _ => .error .cancelled
  | .crashed cause => .crash cause

/-- An attempt starts with its first entry and not again, and it reports nothing but failed
rollbacks. -/
structure Contained (t : List (Entry τ ρ ε α)) : Prop where
  /-- Behind the first entry no attempt is started. -/
  started_tail : started t.tail = 0
  /-- Only failed rollbacks are reported. -/
  reports : ∀ event, .reported event ∈ t → ∃ message, event = .rollbackFailed message

section

variable [Reported ρ] {t : List (Entry τ ρ ε α)} {upshot : Upshot ε α}

theorem reports_rollback {tx : τ} {reply : Reply ρ Unit} {event : Event}
    (h : .reported event ∈ (rollback tx reply : List (Entry τ ρ ε α))) :
    ∃ message, event = .rollbackFailed message := by
  simp only [rollback, List.mem_cons, reduceCtorEq, false_or] at h
  split at h
  · simp only [List.mem_singleton, Entry.reported.injEq] at h
    exact ⟨_, h⟩
  · simp at h

theorem TransactionPass.contained [Reported ε] {convert : ρ → ε}
    (h : TransactionPass convert t upshot) : Contained t := by
  cases h with
  | refused | beginCrashed | committed => exact ⟨by simp [Entry.starts], by simp⟩
  | workFailed reply | workCrashed reply | commitFailed reply | commitCrashed reply =>
      refine ⟨by simp [Entry.starts], fun event hmem => ?_⟩
      simp only [List.mem_cons, reduceCtorEq, false_or] at hmem
      exact reports_rollback hmem

theorem StatementPass.contained {statement : String} {t : List (Entry τ ρ ρ Unit)}
    {upshot : Upshot ρ Unit} (h : StatementPass statement t upshot) : Contained t := by
  cases h with
  | done | failed | crashed => exact ⟨by simp, by simp⟩

end

/-! ## Calls -/

/-- A call stops where the caller gives up, which is for the first time in its last wait or in its
last attempt. -/
inductive Stopped (Pass : List (Entry τ ρ ε α) → Upshot ε α → Prop) :
    List (Entry τ ρ ε α) → Ending (RetryError ε) α → Prop
  /-- The caller gives up during a wait, which is the last thing the call does. -/
  | waiting {front : List (Entry τ ρ ε α)} {pause : Pause} (wanted : gaveUp front = false) :
      Stopped Pass (front ++ [.waited pause true]) (.error .cancelled)
  /-- The caller gives up during an attempt. It is run to its end, and only reports follow. -/
  | attempting {front attempt : List (Entry τ ρ ε α)} {upshot : Upshot ε α} {events : List Event}
      (wanted : gaveUp front = false) (pass : Pass attempt upshot)
      (given : gaveUp attempt = true) :
      Stopped Pass (front ++ (attempt ++ events.map .reported)) upshot.inVain

/-- A call heeds a caller who gives up. The caller may have given up beforehand. -/
structure Heeds (op : Operation) (cancelled : Bool)
    (Pass : List (Entry τ ρ ε α) → Upshot ε α → Prop) (r : Run σ τ ρ ε α) : Prop where
  /-- A caller who has given up beforehand gets no attempt. -/
  beforehand : cancelled = true → r.transcript = [] ∧ r.ending = .error .cancelled
  /-- From the moment on at which the caller gives up, no attempt is started. -/
  quiet : ∀ front e back, r.transcript = front ++ e :: back → e.cancelled = true →
    started back = 0
  /-- The wait in which the caller gives up is over, and an attempt is run to its end. -/
  stopped : gaveUp r.transcript = true → Stopped Pass r.transcript r.ending
  /-- Neither a failure nor a spent budget is counted. -/
  uncounted : cancelled || gaveUp r.transcript → .fatal op.label ∉ r.measurements op ∧
    .retriesExhausted op.label ∉ r.measurements op

section

variable {Pass : List (Entry τ ρ ε α) → Upshot ε α → Prop} {e : Entry τ ρ ε α}
  {t front back more : List (Entry τ ρ ε α)} {ending : Ending (RetryError ε) α}

theorem Stopped.after (h : Stopped Pass t ending) (wanted : gaveUp more = false) :
    Stopped Pass (more ++ t) ending := by
  cases h with
  | @waiting front pause hfront =>
      rw [← List.append_assoc]
      exact .waiting (by simp [wanted, hfront])
  | @attempting front attempt upshot events hfront pass given =>
      rw [← List.append_assoc]
      exact .attempting (by simp [wanted, hfront]) pass given

/-- What follows the moment at which the caller gives up follows an entry that is not before it. -/
theorem suffix_tail_of_gaveUp (hsplit : more ++ t = front ++ e :: back)
    (wanted : gaveUp more = false) (given : e.cancelled = true) : back <:+ t.tail := by
  rcases List.append_eq_append_iff.1 hsplit with ⟨middle, -, rfl⟩ | ⟨middle, rfl, hrest⟩
  · cases middle with
    | nil => exact List.suffix_refl _
    | cons first middle => exact ⟨middle ++ [e], by simp⟩
  · cases middle with
    | nil =>
        obtain rfl : e :: back = t := hrest
        exact List.suffix_refl _
    | cons first middle =>
        obtain ⟨rfl, -⟩ := List.cons_eq_cons.1 hrest
        simp [given] at wanted

/-- Where a call stops, no attempt is started any more. -/
theorem Stopped.quiet (hpass : ∀ front upshot, Pass front upshot → Contained front)
    (h : Stopped Pass t ending) (hsplit : t = front ++ e :: back) (given : e.cancelled = true) :
    started back = 0 := by
  cases h with
  | waiting wanted =>
      have hsuffix := suffix_tail_of_gaveUp hsplit wanted given
      obtain rfl : back = [] := List.suffix_nil.1 hsuffix
      rfl
  | @attempting _ attempt _ events wanted pass during =>
      have hsuffix := suffix_tail_of_gaveUp hsplit wanted given
      have htail : started (attempt ++ events.map Entry.reported).tail = 0 := by
        cases attempt with
        | nil => simp at during
        | cons first attempt =>
            have hevents : started (events.map .reported : List (Entry τ ρ ε α)) = 0 := by
              simp [started, List.countP_eq_zero, Entry.starts]
            have hattempt : started attempt = 0 := (hpass _ _ pass).started_tail
            simp [hattempt, hevents]
      exact Nat.le_zero.1 (htail ▸ hsuffix.sublist.countP_le)

end

/-- Whether an event is counted as a failure or as a spent budget. -/
def Event.isDefeat : Event → Bool
  | .failed | .exhausted _ _ => true
  | _ => false

/-- Whether no failure and no spent budget is reported. -/
def Undefeated (t : List (Entry τ ρ ε α)) : Prop :=
  ∀ event, .reported event ∈ t → event.isDefeat = false

theorem Contained.undefeated {t : List (Entry τ ρ ε α)} (h : Contained t) : Undefeated t := by
  intro event hmem
  obtain ⟨message, rfl⟩ := h.reports event hmem
  rfl

theorem Undefeated.append {t u : List (Entry τ ρ ε α)} (ht : Undefeated t) (hu : Undefeated u) :
    Undefeated (t ++ u) := by
  intro event hmem
  rcases List.mem_append.1 hmem with hmem | hmem
  · exact ht event hmem
  · exact hu event hmem

section

variable [Reported ε] {policy : Policy} {convert : ρ → ε} {made : Nat} {backoff : Backoff}
  {Pass : List (Entry τ ρ ε α) → Upshot ε α → Prop} {upshot : Upshot ε α}
  {front t : List (Entry τ ρ ε α)} {ending : Ending (RetryError ε) α}

theorem undefeated_backingOff (e : ε) (n : Nat) (c : Bool) :
    Undefeated (backingOff policy made backoff e n c : List (Entry τ ρ ε α)) := by
  simp [Undefeated, backingOff, Event.isDefeat]

/-- Behind an attempt in which the caller gives up, a call only reports, and it tells of a success
or a crash only. -/
theorem Closes.of_given (h : Closes policy made backoff upshot t ending)
    (told : upshot.Told convert front) (given : gaveUp front = true) :
    ∃ events : List Event, t = events.map .reported ∧ ending = upshot.inVain ∧ Undefeated t := by
  cases h with
  | crashed | failedInVain => exact ⟨[], rfl, rfl, by simp [Undefeated]⟩
  | conflictInVain => exact ⟨[.conflicted], rfl, rfl, by simp [Undefeated, Event.isDefeat]⟩
  | succeeded =>
      simp only [recovery]
      split
      · exact ⟨[.recovered made], rfl, rfl, by simp [Undefeated, Event.isDefeat]⟩
      · exact ⟨[], rfl, rfl, by simp [Undefeated]⟩
  | failed | exhausted | cutShort =>
      have hwanted := told.1
      simp [given] at hwanted

/-- Behind the last attempt the caller can give up only during a wait. -/
theorem Closes.of_cutShort (h : Closes policy made backoff upshot t ending)
    (given : gaveUp t = true) : ∃ front pause, t = front ++ [.waited pause true] ∧
      gaveUp front = false ∧ ending = .error .cancelled ∧ Undefeated t := by
  cases h with
  | crashed | failed | failedInVain | conflictInVain | exhausted => simp [Entry.cancelled] at given
  | succeeded =>
      simp only [recovery] at given
      split at given <;> simp [Entry.cancelled] at given
  | @cutShort e n =>
      exact ⟨(backingOff policy made backoff e n true).dropLast, backoff.pause n, rfl, rfl, rfl,
        undefeated_backingOff e n true⟩

section

variable (htold : ∀ front upshot, Pass front upshot → upshot.Told convert front)

include htold

/-- A call stops where the caller gives up. -/
theorem Course.stopped (h : Course policy Pass made backoff t ending) (given : gaveUp t = true) :
    Stopped Pass t ending := by
  induction h with
  | full => simp at given
  | @last made backoff front back upshot ending room pass closes =>
      by_cases hfront : gaveUp front = true
      · obtain ⟨events, rfl, rfl, -⟩ := closes.of_given (htold _ _ pass) hfront
        have hwanted : gaveUp [(.reported .attempted : Entry τ ρ ε α)] = false := rfl
        exact .attempting hwanted pass hfront
      · have hfront : gaveUp front = false := by simpa using hfront
        have hback : gaveUp back = true := by simpa [Entry.cancelled, hfront] using given
        obtain ⟨middle, pause, rfl, hmiddle, rfl, -⟩ := closes.of_cutShort hback
        have hwanted : gaveUp (.reported .attempted :: (front ++ middle)) = false := by
          simp [Entry.cancelled, hfront, hmiddle]
        rw [← List.append_assoc]
        exact .waiting hwanted
  | @again made backoff front rest e n ending room pass spare _ ih =>
      have hfront : gaveUp front = false := (htold _ _ pass).1.symm
      have hrest : gaveUp rest = true := by simpa [Entry.cancelled, hfront] using given
      have hwanted : gaveUp (.reported .attempted ::
          (front ++ backingOff policy (made + 1) backoff e n false)) = false := by
        simp [Entry.cancelled, hfront]
      have hafter := (ih hrest).after hwanted
      simpa using hafter

/-- A call whose caller gives up counts neither a failure nor a spent budget. -/
theorem Course.undefeated (hpass : ∀ front upshot, Pass front upshot → Contained front)
    (h : Course policy Pass made backoff t ending) (given : gaveUp t = true) : Undefeated t := by
  have hstart : Undefeated [(.reported .attempted : Entry τ ρ ε α)] := by
    simp [Undefeated, Event.isDefeat]
  induction h with
  | full => simp at given
  | @last made backoff front back upshot ending room pass closes =>
      refine hstart.append ((hpass _ _ pass).undefeated.append ?_)
      by_cases hfront : gaveUp front = true
      · obtain ⟨-, -, -, hback⟩ := closes.of_given (htold _ _ pass) hfront
        exact hback
      · have hback : gaveUp back = true := by simpa [Entry.cancelled, hfront] using given
        obtain ⟨-, -, -, -, -, hback⟩ := closes.of_cutShort hback
        exact hback
  | @again made backoff front rest e n ending room pass spare _ ih =>
      have hfront : gaveUp front = false := (htold _ _ pass).1.symm
      have hrest : gaveUp rest = true := by simpa [Entry.cancelled, hfront] using given
      exact hstart.append ((hpass _ _ pass).undefeated.append
        ((undefeated_backingOff e n false).append (ih hrest)))

end

end

/-- Every measurement of a run is that of an event which it reports. -/
theorem Run.mem_measurements {op : Operation} {r : Run σ τ ρ ε α} {m : Observability.Measurement} :
    m ∈ r.measurements op ↔
      ∃ event, .reported event ∈ r.transcript ∧ event.measurement? op = some m := by
  simp only [Run.measurements, Run.events, List.mem_filterMap]
  constructor
  · rintro ⟨event, ⟨e, hmem, he⟩, hm⟩
    cases e with
    | reported other =>
        obtain rfl := Option.some.inj he
        exact ⟨_, hmem, hm⟩
    | began | called | worked | drew | waited => contradiction
  · rintro ⟨event, hmem, hm⟩
    exact ⟨event, ⟨_, hmem, rfl⟩, hm⟩

/-- Where no defeat is reported, none is counted. -/
theorem Undefeated.uncounted {op : Operation} {r : Run σ τ ρ ε α} (h : Undefeated r.transcript) :
    .fatal op.label ∉ r.measurements op ∧ .retriesExhausted op.label ∉ r.measurements op := by
  constructor
  all_goals
    intro hmem
    obtain ⟨event, hreported, hevent⟩ := Run.mem_measurements.1 hmem
    have hnone := h event hreported
    cases event <;> simp [Event.measurement?, Event.isDefeat] at hevent hnone

section

variable [Reported ε]

theorem Conduct.heeds {policy : Policy} {convert : ρ → ε}
    {Pass : List (Entry τ ρ ε α) → Upshot ε α → Prop} {op : Operation} {cancelled : Bool}
    {r : Run σ τ ρ ε α} (valid : policy.fault? = none)
    (hpass : ∀ front upshot, Pass front upshot →
      Accounted convert front upshot ∧ Contained front)
    (h : Conduct policy cancelled Pass r.transcript r.ending) : Heeds op cancelled Pass r := by
  have htold : ∀ front upshot, Pass front upshot → upshot.Told convert front :=
    fun front upshot pass => (hpass front upshot pass).1.told
  have hcontained : ∀ front upshot, Pass front upshot → Contained front :=
    fun front upshot pass => (hpass front upshot pass).2
  obtain ⟨ending, t, final⟩ := r
  simp only at h
  cases h with
  | refused invalid => simp [valid] at invalid
  | unwanted _ given =>
      have hundefeated : Undefeated ([] : List (Entry τ ρ ε α)) := by simp [Undefeated]
      exact ⟨fun _ => ⟨rfl, rfl⟩, by simp, by simp, fun _ => hundefeated.uncounted⟩
  | attempted _ wanted course =>
      have hstopped : gaveUp t = true → Stopped Pass t ending := course.stopped htold
      refine ⟨by simp [wanted], ?_, hstopped, ?_⟩
      · intro front e back hsplit given
        have hgaveUp : gaveUp t = true := by
          have hsplit : t = front ++ e :: back := hsplit
          simp [hsplit, given]
        exact (hstopped hgaveUp).quiet hcontained hsplit given
      · intro given
        have hgaveUp : gaveUp t = true := by simpa [wanted] using given
        have hundefeated : Undefeated t := course.undefeated htold hcontained hgaveUp
        exact hundefeated.uncounted

/-- **Callers who give up.** From the moment on at which its caller gives up, a call starts nothing
more. It carries the attempt under way to its end and ends as cancelled unless the attempt succeeds
or crashes; a wait is over at once. It counts neither a failure nor a spent budget. Work in
transactions leaves none open. -/
theorem givingUp_heeded [Reported ρ] (policy : Policy) (valid : policy.fault? = none)
    (convert : ρ → ε) :
    (∀ cancelled (s : Surroundings σ τ ρ ε α) x,
      let r := (transaction policy convert cancelled).run s x
      Heeds .transaction cancelled (TransactionPass convert) r ∧
        opened r.steps = closed r.steps) ∧
    ∀ text cancelled (s : Surroundings σ τ ρ ρ Unit) x,
      Heeds .exec cancelled (StatementPass text) ((statement policy cancelled text).run s x) := by
  refine ⟨fun cancelled s x => ?_, fun text cancelled s x => ?_⟩
  · have hconduct := conduct_transaction policy convert cancelled s x
    refine ⟨hconduct.heeds valid fun _ _ pass => ⟨pass.accounted, pass.contained⟩, ?_⟩
    exact (hconduct.orderly.counts (List.append_nil _).symm).2.2 rfl
  · exact (conduct_statement policy cancelled text s x).heeds valid
      fun _ _ pass => ⟨pass.accounted, pass.contained⟩

end

/-- A caller who gives up while the work fails is told nothing of the failure, and the transaction
is released. -/
theorem givingUp_heeded_during_work :
    let policy : Policy := { maxRetries := 3 }
    let fault : Failure := { code := some "23505", message := "canceling statement" }
    let r := (transaction policy id false).run (failing fault true) ()
    policy.fault? = none ∧ gaveUp r.transcript = true ∧ r.ending = .error .cancelled ∧
      opened r.steps = 1 ∧ closed r.steps = 1 ∧ Heeds .transaction false (TransactionPass id) r := by
  intro policy fault r
  have valid : policy.fault? = none := by decide +kernel
  obtain ⟨hheeds, hreleased⟩ := (givingUp_heeded policy valid id).1 false (failing fault true) ()
  have hopened : opened r.steps = 1 := by decide +kernel
  refine ⟨valid, by decide +kernel, by decide +kernel, hopened, ?_, hheeds⟩
  exact hreleased ▸ hopened

end StoreClient.Retry
