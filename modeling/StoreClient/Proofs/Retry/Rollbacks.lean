import StoreClient.Proofs.Retry.Budget
import StoreClient.Proofs.Retry.InStep
import StoreClient.Proofs.Retry.Outcome

/-!
# Failed rollbacks

Whether a rollback succeeds or fails is seen in the log and nowhere else. Two calls whose rollbacks
end differently, but without a crash, are in step once their warnings are left out and the endings
of rollbacks are not looked at; and the warnings of a call are one for each rollback that fails,
right behind it.

## Main definitions

* `Entry.forgive`, `Entry.isWarning` — what a rollback came to is not looked at; a failed rollback
  is reported.
* `Surroundings.AlikeButRollbacks` — surroundings differ in how rollbacks end.
* `Warned` — every failed rollback has its warning, and nothing else has one.
* `AlikeButWarnings` — two runs differ in how rollbacks end and in the warnings of that.
-/

namespace StoreClient.Retry

open Observability

variable {σ σ' τ ρ ε α : Type}

/-! ## Views -/

namespace Entry

/-- The entry with any rollback a success. -/
def forgive : Entry τ ρ ε α → Entry τ ρ ε α
  | .called (.rollback tx) reply => .called (.rollback tx) { reply with ending := .ok () }
  | e => e

/-- Whether an entry reports a failed rollback. -/
def isWarning : Entry τ ρ ε α → Bool
  | .reported (.rollbackFailed _) => true
  | _ => false

/-- The report of a rollback that fails. -/
def warning [Reported ρ] : Entry τ ρ ε α → List (Entry τ ρ ε α)
  | .called (.rollback _) ⟨.error e, _⟩ => [.reported (.rollbackFailed (failure e).message)]
  | _ => []

/-- The entry as it looks where rollbacks do not fail; a warning is not seen. -/
def forgiven? (e : Entry τ ρ ε α) : Option (Entry τ ρ ε α) :=
  if e.isWarning then none else some e.forgive

end Entry

/-- Whether a log line tells of a failed rollback. -/
def isRollbackWarning (line : LogLine) : Bool := line.message == "rollback failed"

/-! ## Runs -/

/-- A transcript in which each failed rollback is followed by its warning, from one without any. -/
def warned [Reported ρ] (t : List (Entry τ ρ ε α)) : List (Entry τ ρ ε α) :=
  (t.filter fun e => !e.isWarning).flatMap fun e => e :: e.warning

/-- Every failed rollback is followed by its warning, and there are no other warnings. -/
def Warned [Reported ρ] (t : List (Entry τ ρ ε α)) : Prop := t = warned t

instance [Reported ρ] [DecidableEq τ] [DecidableEq ρ] [DecidableEq ε] [DecidableEq α]
    (t : List (Entry τ ρ ε α)) : Decidable (Warned t) :=
  inferInstanceAs (Decidable (t = warned t))

/-- Two runs differ in how rollbacks end and in the warnings of that, and in nothing else. -/
structure AlikeButWarnings [Reported ρ] (r : Run σ τ ρ ε α) (q : Run σ' τ ρ ε α) : Prop where
  /-- They end alike. -/
  ending : r.ending = q.ending
  /-- Entry for entry they are the same, warnings and the endings of rollbacks apart. -/
  transcript : r.transcript.filterMap Entry.forgiven? = q.transcript.filterMap Entry.forgiven?
  /-- They make the same calls, and all but rollbacks get the same replies. -/
  calls : r.calls.map Entry.forgive = q.calls.map Entry.forgive
  /-- They wait alike. -/
  waits : r.transcript.filter Entry.isWait = q.transcript.filter Entry.isWait
  /-- They count the same. -/
  measurements : ∀ op, r.measurements op = q.measurements op
  /-- They log the same, warnings of failed rollbacks apart. -/
  log : ∀ op, (r.log op).filter (!isRollbackWarning ·) = (q.log op).filter (!isRollbackWarning ·)
  /-- In both, every failed rollback is followed by its warning, and there are no others. -/
  warned : Warned r.transcript ∧ Warned q.transcript

/-! ## Calls in step -/

/-- Runs that look the same where rollbacks do not fail differ in warnings only. -/
theorem InStep.alikeButWarnings [Reported ρ] {r : Run σ τ ρ ε α} {q : Run σ' τ ρ ε α}
    (h : InStep Entry.forgiven? r q) (hr : Warned r.transcript) (hq : Warned q.transcript) :
    AlikeButWarnings r q where
  ending := h.ending
  transcript := h.seen
  calls := by
    simp only [Run.calls, ← List.filterMap_eq_map, List.filterMap_filter]
    refine h.filterMap_eq (fun e => if e.isCall then some e else none) fun e => ?_
    rcases e with ⟨⟨⟩⟩ | _ | ⟨⟨⟩, _⟩ | _ | _ | _ <;> rfl
  waits := by
    simp only [← List.filterMap_eq_filter]
    refine h.filterMap_eq (Option.guard Entry.isWait) fun e => ?_
    rcases e with ⟨⟨⟩⟩ | _ | ⟨⟨⟩, _⟩ | _ | _ | _ <;> rfl
  measurements op := by
    refine h.measurements_eq (fun e => e.event?.bind (Event.measurement? op)) fun e => ?_
    rcases e with ⟨⟨⟩⟩ | _ | ⟨⟨⟩, _⟩ | _ | _ | _ <;> rfl
  log op := by
    simp only [← List.filterMap_eq_filter]
    refine h.log_eq (fun e => (e.event?.bind (Event.logLine? op)).bind
      (Option.guard (!isRollbackWarning ·))) fun e => ?_
    rcases e with ⟨⟨⟩⟩ | _ | ⟨⟨⟩, _⟩ | _ | _ | _ <;> rfl
  warned := ⟨hr, hq⟩

/-- Surroundings that differ in how rollbacks end: begin, work, commit, chance and waits are the
same in both, and rollbacks end in success or in an error, each as it may. -/
structure Surroundings.AlikeButRollbacks (Related : σ → σ' → Prop) (s : Surroundings σ τ ρ ε α)
    (s' : Surroundings σ' τ ρ ε α) : Prop where
  /-- Transactions are opened alike. -/
  begin : Matches Related Eq s.begin s'.begin
  /-- The work ends alike. -/
  work : ∀ tx, Matches Related Eq (s.work tx) (s'.work tx)
  /-- Commits end alike. -/
  commit : ∀ tx, Matches Related Eq (s.call (.commit tx)) (s'.call (.commit tx))
  /-- Rollbacks do not crash, and the caller gives up during both or neither. -/
  rollback : ∀ tx, Matches Related (fun reply reply' => reply.cancelled = reply'.cancelled ∧
      (∀ cause, reply.ending ≠ .crash cause) ∧ ∀ cause, reply'.ending ≠ .crash cause)
    (s.call (.rollback tx)) (s'.call (.rollback tx))
  /-- The same numbers are drawn. -/
  draw : ∀ bound, Matches Related Eq (s.draw bound) (s'.draw bound)
  /-- The caller gives up during the same waits. -/
  wait : ∀ pause, Matches Related Eq (s.wait pause) (s'.wait pause)

section

variable [Reported ρ] {Related : σ → σ' → Prop} {s : Surroundings σ τ ρ ε α}
  {s' : Surroundings σ' τ ρ ε α}

/-- What follows a rollback does not depend on how it ended. -/
theorem Surroundings.AlikeButRollbacks.keepStep_release (h : s.AlikeButRollbacks Related s')
    (tx : τ) (cancelled : Bool) (next next' : Bool → Procedure τ ρ ε α)
    (hnext : ∀ cancelled,
      KeepStep Entry.forgiven? Related s s' (next cancelled) (next' cancelled)) :
    KeepStep Entry.forgiven? Related s s' (release tx cancelled next)
      (release tx cancelled next') := by
  refine keepStep_call (h.rollback tx) ?_ ?_
  · rintro ⟨ending, c⟩ ⟨ending', c'⟩ ⟨rfl, -, -⟩
    rfl
  · rintro ⟨ending, c⟩ ⟨ending', c'⟩ ⟨rfl, hreturns, hreturns'⟩
    have hsilent (e : ρ) : (Entry.reported (.rollbackFailed (failure e).message) :
        Entry τ ρ ε α).forgiven? = none := rfl
    cases ending with
    | crash cause => exact absurd rfl (hreturns cause)
    | ok =>
        cases ending' with
        | crash cause => exact absurd rfl (hreturns' cause)
        | ok => exact hnext _
        | error e => exact keepStep_report_right (hsilent e) (hnext _)
    | error e =>
        cases ending' with
        | crash cause => exact absurd rfl (hreturns' cause)
        | ok => exact keepStep_report_left (hsilent e) (hnext _)
        | error e' =>
            exact keepStep_report_left (hsilent e) (keepStep_report_right (hsilent e') (hnext _))

theorem Surroundings.AlikeButRollbacks.keepStep_transaction [Reported ε]
    (h : s.AlikeButRollbacks Related s') (policy : Policy) (convert : ρ → ε) (cancelled : Bool) :
    KeepStep Entry.forgiven? Related s s' (transaction policy convert cancelled)
      (transaction policy convert cancelled) := by
  refine keepStep_retry ?_ ?_ cancelled
  · exact keepsStep_transactionAttempt convert h.begin h.work h.commit h.keepStep_release
  · exact keepStep_backOff h.draw h.wait

end

/-! ## Warnings -/

section

variable [Reported ρ] {t u : List (Entry τ ρ ε α)}

theorem Warned.append (ht : Warned t) (hu : Warned u) : Warned (t ++ u) := by
  have hwarned : warned (t ++ u) = warned t ++ warned u := by simp [warned]
  rw [Warned, hwarned, ← ht, ← hu]

/-- Where there is neither a failed rollback nor a warning, no warning is due. -/
theorem warned_of_forall (h : ∀ e ∈ t, e.isWarning = false ∧ e.warning = []) : Warned t := by
  induction t with
  | nil => rfl
  | cons e t ih =>
      obtain ⟨hquiet, hnone⟩ := h e (by simp)
      have htail : Warned t := ih fun e he => h e (by simp [he])
      have hhead : warned (e :: t) = e :: warned t := by simp [warned, hquiet, hnone]
      rw [Warned, hhead, ← htail]

theorem warned_rollback (tx : τ) (reply : Reply ρ Unit) :
    Warned (rollback tx reply : List (Entry τ ρ ε α)) := by
  obtain ⟨ending, c⟩ := reply
  cases ending <;> rfl

variable [Reported ε] {policy : Policy} {convert : ρ → ε} {made : Nat} {backoff : Backoff}
  {upshot : Upshot ε α} {ending : Ending (RetryError ε) α}

theorem TransactionPass.warned (h : TransactionPass convert t upshot) : Warned t := by
  cases h with
  | refused | beginCrashed | committed =>
      exact warned_of_forall (by simp [Entry.isWarning, Entry.warning])
  | workFailed reply | workCrashed reply =>
      refine Warned.append (t := [_, _]) (warned_of_forall ?_) (warned_rollback _ reply)
      simp [Entry.isWarning, Entry.warning]
  | commitFailed reply | commitCrashed reply =>
      refine Warned.append (t := [_, _, _]) (warned_of_forall ?_) (warned_rollback _ reply)
      simp [Entry.isWarning, Entry.warning]

theorem warned_backingOff (e : ε) (n : Nat) (c : Bool) :
    Warned (backingOff policy made backoff e n c : List (Entry τ ρ ε α)) := rfl

theorem Closes.warned (h : Closes policy made backoff upshot t ending) : Warned t := by
  cases h with
  | crashed | failed | failedInVain | conflictInVain | exhausted | cutShort => rfl
  | succeeded =>
      simp only [recovery]
      split <;> rfl

theorem Course.warned (h : Course policy (TransactionPass convert) made backoff t ending) :
    Warned t := by
  have hstart : Warned [(.reported .attempted : Entry τ ρ ε α)] := rfl
  induction h with
  | full => rfl
  | last _ pass closes => exact hstart.append (pass.warned.append closes.warned)
  | again _ pass _ _ ih =>
      exact hstart.append (pass.warned.append ((warned_backingOff _ _ _).append ih))

theorem Conduct.warned {cancelled : Bool}
    (h : Conduct policy cancelled (TransactionPass convert) t ending) : Warned t := by
  cases h with
  | refused | unwanted => rfl
  | attempted _ _ course => exact course.warned

/-- **Failed rollbacks.** How rollbacks end, without a crash, changes nothing but the log. Two calls
that differ in it alone end alike, make the same calls, wait alike and count the same, and their
logs differ in one warning for each failed rollback, right behind it. -/
theorem alike_but_warnings {Related : σ → σ' → Prop} {s : Surroundings σ τ ρ ε α}
    {s' : Surroundings σ' τ ρ ε α} (hs : s.AlikeButRollbacks Related s') (policy : Policy)
    (convert : ρ → ε) (cancelled : Bool) {x : σ} {y : σ'} (hxy : Related x y) :
    AlikeButWarnings ((transaction policy convert cancelled).run s x)
      ((transaction policy convert cancelled).run s' y) := by
  have hstep := hs.keepStep_transaction policy convert cancelled x y hxy
  exact hstep.alikeButWarnings (conduct_transaction policy convert cancelled s x).warned
    (conduct_transaction policy convert cancelled s' y).warned

end

/-- Turns that differ in rollbacks only make surroundings that differ in them only. -/
theorem scripted_alikeButRollbacks {turns turns' : Nat → Turn τ ρ ε α}
    (hbegin : ∀ n, (turns n).begin = (turns' n).begin)
    (hwork : ∀ n, (turns n).work = (turns' n).work)
    (hcommit : ∀ n, (turns n).commit = (turns' n).commit) (draws : Nat → Nat) :
    (scripted turns draws).AlikeButRollbacks Eq (scripted turns' draws) where
  begin := by
    rintro n _ rfl
    simp [hbegin]
  work tx := by
    rintro n _ rfl
    simp [hwork]
  commit tx := by
    rintro n _ rfl
    simp [hcommit]
  rollback tx := by
    rintro n _ rfl
    cases hr : (turns n).rollback <;> cases hr' : (turns' n).rollback <;>
      simp [hr, hr', Reply.ofExcept]
  draw bound := by
    rintro n _ rfl
    simp
  wait pause := by
    rintro n _ rfl
    simp

/-- A conflict of the work whose rollback ends so, and then a success. -/
def conflictFirst (rollback : Except Failure Unit) : Nat → Turn Nat Failure Failure Nat
  | 1 => { begin := .ok 0, work := .error someConflict, commit := .ok (), rollback }
  | _ => .plain (.ok 7) (.ok ())

/-- A rollback fails in one call and not in the other, and both give the same value. -/
theorem alike_though_rollback_fails :
    let lost : Failure := { code := none, message := "connection closed" }
    let s := scripted (conflictFirst (.ok ())) fun _ => 0
    let s' := scripted (conflictFirst (.error lost)) fun _ => 0
    let r := (transaction {} id false).run s 0
    let q := (transaction {} id false).run s' 0
    s.AlikeButRollbacks Eq s' ∧ AlikeButWarnings r q ∧ r.ending = .ok 7 ∧
      r.log .transaction ≠ q.log .transaction := by
  intro lost s s' r q
  have hs : s.AlikeButRollbacks Eq s' := by
    refine scripted_alikeButRollbacks ?_ ?_ ?_ _ <;> intro n <;> simp only [conflictFirst] <;>
      split <;> rfl
  exact ⟨hs, alike_but_warnings hs {} id false rfl, by decide +kernel, by decide +kernel⟩

end StoreClient.Retry
