import StoreClient.Proofs.Retry.Attempt

/-!
# The course of a retried call

A retried call is one attempt after the other, with a wait after each but the last. `Course` says so
for any kind of attempt: the last attempt closes the call in one of the ways that `Closes` lists,
and each attempt before it was a conflict within the budget. `Conduct` adds the ways in which a call
ends without an attempt. What holds of all calls is proved by induction along a course.

## Main definitions

* `Closes` — how the last attempt ends the call.
* `Course` — the attempts of a call, from the first or from a later one on.
* `Conduct` — all that a retried call can do.
-/

namespace StoreClient.Retry

variable {σ τ ρ ε α : Type}

/-- The report of a success, if it is not that of the first attempt. -/
def recovery (made : Nat) : List (Entry τ ρ ε α) :=
  if 1 < made then [.reported (.recovered made)] else []

section

variable [Reported ε]

/-- The entries between two attempts, or after the last one if the caller gives up. -/
def backingOff (policy : Policy) (made : Nat) (backoff : Backoff) (error : ε) (n : Nat)
    (cancelled : Bool) : List (Entry τ ρ ε α) :=
  [.reported .conflicted, .drew (Pause.range backoff.current).nanoseconds n,
    .reported (.retrying made policy.maxAttempts (backoff.pause n) (failure error).message),
    .waited (backoff.pause n) cancelled]

/-- How an attempt ends the call: by its upshot, with these last entries and this ending. That many
attempts have been made, this one included. -/
inductive Closes (policy : Policy) (made : Nat) (backoff : Backoff) :
    Upshot ε α → List (Entry τ ρ ε α) → Ending (RetryError ε) α → Prop
  /-- A crash passes through. -/
  | crashed {cause : Crash} : Closes policy made backoff (.crashed cause) [] (.crash cause)
  /-- A success is one, also for a caller who has given up. -/
  | succeeded {c : Bool} {value : α} :
      Closes policy made backoff (.judged c (.success value)) (recovery made) (.ok value)
  /-- An error that is no conflict ends the call. -/
  | failed {error : RetryError ε} :
      Closes policy made backoff (.judged false (.fatal error)) [.reported .failed] (.error error)
  /-- An error is not told to a caller who has given up. -/
  | failedInVain {error : RetryError ε} :
      Closes policy made backoff (.judged true (.fatal error)) [] (.error .cancelled)
  /-- A caller who has given up gets no further attempt. -/
  | conflictInVain {e : ε} : Closes policy made backoff (.judged true (.conflict e))
      [.reported .conflicted] (.error .cancelled)
  /-- The attempts have run out. -/
  | exhausted {e : ε} (spent : policy.maxRetries.toNat < made) :
      Closes policy made backoff (.judged false (.conflict e))
        [.reported .conflicted, .reported (.exhausted made (failure e).message)]
        (.error (.exhausted made policy.maxRetries.toNat e))
  /-- The caller gives up before the next attempt. -/
  | cutShort {e : ε} {n : Nat} (spare : made ≤ policy.maxRetries.toNat) :
      Closes policy made backoff (.judged false (.conflict e))
        (backingOff policy made backoff e n true) (.error .cancelled)

/-- What remains of a call when that many attempts have been made. -/
inductive Course (policy : Policy) (Pass : List (Entry τ ρ ε α) → Upshot ε α → Prop) :
    Nat → Backoff → List (Entry τ ρ ε α) → Ending (RetryError ε) α → Prop
  /-- The counter cannot hold another attempt. -/
  | full {backoff : Backoff} :
      Course policy Pass Policy.counterLimit backoff [] (.crash .counterFull)
  /-- The attempt is the last. -/
  | last {made : Nat} {backoff : Backoff} {front back : List (Entry τ ρ ε α)} {upshot : Upshot ε α}
      {ending : Ending (RetryError ε) α} (room : made < Policy.counterLimit)
      (pass : Pass front upshot) (closes : Closes policy (made + 1) backoff upshot back ending) :
      Course policy Pass made backoff (.reported .attempted :: (front ++ back)) ending
  /-- The attempt is a conflict, and there is another after a wait. -/
  | again {made : Nat} {backoff : Backoff} {front rest : List (Entry τ ρ ε α)} {e : ε} {n : Nat}
      {ending : Ending (RetryError ε) α} (room : made < Policy.counterLimit)
      (pass : Pass front (.judged false (.conflict e)))
      (spare : made + 1 ≤ policy.maxRetries.toNat)
      (course : Course policy Pass (made + 1) backoff.advance rest ending) :
      Course policy Pass made backoff (.reported .attempted ::
        (front ++ (backingOff policy (made + 1) backoff e n false ++ rest))) ending

/-- All that a retried call can do. -/
inductive Conduct (policy : Policy) (cancelled : Bool)
    (Pass : List (Entry τ ρ ε α) → Upshot ε α → Prop) :
    List (Entry τ ρ ε α) → Ending (RetryError ε) α → Prop
  /-- The policy is unusable. -/
  | refused {fault : PolicyFault} (invalid : policy.fault? = some fault) :
      Conduct policy cancelled Pass [] (.error (.invalidPolicy fault.message))
  /-- The caller has given up beforehand. -/
  | unwanted (valid : policy.fault? = none) (given : cancelled = true) :
      Conduct policy cancelled Pass [] (.error .cancelled)
  /-- The call is attempted. -/
  | attempted {t : List (Entry τ ρ ε α)} {ending : Ending (RetryError ε) α}
      (valid : policy.fault? = none) (wanted : cancelled = false)
      (course : Course policy Pass 0 (.ofPolicy policy) t ending) :
      Conduct policy cancelled Pass t ending

section

variable {policy : Policy} {attempt : Attempt τ ρ ε α}
  {Pass : List (Entry τ ρ ε α) → Upshot ε α → Prop} {t : List (Entry τ ρ ε α)}
  {ending : Ending (RetryError ε) α}

theorem closes_of_succeed {made : Nat} {backoff : Backoff} {cancelled : Bool} {value : α}
    (h : (succeed made value).Leaves t ending) :
    Closes policy made backoff (.judged cancelled (.success value)) t ending := by
  have hclosed : t = recovery made ∧ ending = .ok value := by
    simp only [succeed] at h
    split at h
    next hmade =>
      simp only [Procedure.leaves_report, Procedure.leaves_finish] at h
      obtain ⟨_, rfl, rfl, rfl⟩ := h
      exact ⟨by simp [recovery, hmade], rfl⟩
    next hmade =>
      obtain ⟨rfl, rfl⟩ := Procedure.leaves_finish.1 h
      exact ⟨by simp [recovery, hmade], rfl⟩
  obtain ⟨rfl, rfl⟩ := hclosed
  exact .succeeded

theorem closes_of_fail {made : Nat} {backoff : Backoff} {cancelled : Bool} {error : RetryError ε}
    (h : (fail cancelled error).Leaves t ending) :
    Closes policy made backoff (.judged cancelled (.fatal error)) t ending := by
  cases cancelled with
  | true =>
      obtain ⟨rfl, rfl⟩ := Procedure.leaves_finish.1 h
      exact .failedInVain
  | false =>
      simp only [fail, Bool.false_eq_true, if_false, Procedure.leaves_report,
        Procedure.leaves_finish] at h
      obtain ⟨_, rfl, rfl, rfl⟩ := h
      exact .failed

theorem closes_of_exhaust {made : Nat} {backoff : Backoff} {e : ε}
    (spent : policy.maxRetries.toNat < made)
    (h : (Procedure.report .conflicted (exhaust policy made e)).Leaves t ending) :
    Closes policy made backoff (.judged false (.conflict e)) t ending := by
  simp only [exhaust, Procedure.leaves_report, Procedure.leaves_finish] at h
  obtain ⟨_, rfl, _, rfl, rfl, rfl⟩ := h
  exact .exhausted spent

/-- After a conflict within the budget the caller gives up or there is another attempt. -/
theorem leaves_backOff {made : Nat} {backoff : Backoff} {e : ε} {next : Procedure τ ρ ε α}
    (spare : made ≤ policy.maxRetries.toNat)
    (h : (Procedure.report .conflicted (backOff policy made backoff e next)).Leaves t ending) :
    Closes policy made backoff (.judged false (.conflict e)) t ending ∨
      ∃ n rest, t = backingOff policy made backoff e n false ++ rest ∧ next.Leaves rest ending := by
  simp only [backOff, Procedure.leaves_report, Procedure.leaves_draw, Procedure.leaves_wait] at h
  obtain ⟨_, rfl, n, _, rfl, _, rfl, cancelled, rest, rfl, h⟩ := h
  cases cancelled with
  | true =>
      obtain ⟨rfl, rfl⟩ := Procedure.leaves_finish.1 h
      exact .inl (.cutShort spare)
  | false => exact .inr ⟨n, rest, rfl, h⟩

/-- Attempts that go in listed ways make a course. The counter has room for the attempts that the
procedure has left. -/
theorem course_of_leaves (hp : attempt.Passes Pass) {room made : Nat} {backoff : Backoff}
    (hroom : room + made = Policy.counterLimit)
    (h : (attempts policy attempt room backoff).Leaves t ending) :
    Course policy Pass made backoff t ending := by
  induction room generalizing made backoff t with
  | zero =>
      obtain rfl : made = Policy.counterLimit := by omega
      obtain ⟨rfl, rfl⟩ := Procedure.leaves_finish.1 h
      exact .full
  | succ room ih =>
      have hmade : Policy.counterLimit - room = made + 1 := by omega
      have hlt : made < Policy.counterLimit := by omega
      simp only [attempts, Procedure.leaves_report, hmade] at h
      obtain ⟨t, rfl, h⟩ := h
      obtain ⟨front, back, upshot, rfl, pass, h⟩ := hp _ _ _ h
      cases upshot with
      | crashed cause =>
          obtain ⟨rfl, rfl⟩ := Procedure.leaves_finish.1 h
          exact .last hlt pass .crashed
      | judged cancelled judgement =>
          cases judgement with
          | success value => exact .last hlt pass (closes_of_succeed h)
          | fatal error => exact .last hlt pass (closes_of_fail h)
          | conflict e =>
              simp only [Upshot.resume] at h
              cases cancelled with
              | true =>
                  obtain ⟨_, rfl, hrest⟩ := Procedure.leaves_report.1 h
                  obtain ⟨rfl, rfl⟩ := Procedure.leaves_finish.1 hrest
                  exact .last hlt pass .conflictInVain
              | false =>
                  simp only [Bool.false_eq_true, if_false] at h
                  split at h
                  next spent => exact .last hlt pass (closes_of_exhaust spent h)
                  next hspare =>
                    have spare : made + 1 ≤ policy.maxRetries.toNat := Nat.le_of_not_lt hspare
                    rcases leaves_backOff spare h with closes | ⟨n, rest, rfl, hrest⟩
                    · exact .last hlt pass closes
                    · exact .again hlt pass spare (ih (by omega) hrest)

theorem conduct_of_leaves (hp : attempt.Passes Pass) {cancelled : Bool}
    (h : (retry policy cancelled attempt).Leaves t ending) :
    Conduct policy cancelled Pass t ending := by
  simp only [retry] at h
  split at h
  next fault invalid =>
    obtain ⟨rfl, rfl⟩ := Procedure.leaves_finish.1 h
    exact .refused invalid
  next valid =>
    cases cancelled with
    | true =>
        obtain ⟨rfl, rfl⟩ := Procedure.leaves_finish.1 h
        exact .unwanted valid rfl
    | false =>
        simp only [Bool.false_eq_true, if_false] at h
        exact .attempted valid rfl (course_of_leaves hp rfl h)

end

variable [Reported ρ]

/-- Every run of work in transactions is one of the listed. -/
theorem conduct_transaction (policy : Policy) (convert : ρ → ε) (cancelled : Bool)
    (s : Surroundings σ τ ρ ε α) (x : σ) :
    Conduct policy cancelled (TransactionPass convert)
      ((transaction policy convert cancelled).run s x).transcript
      ((transaction policy convert cancelled).run s x).ending :=
  conduct_of_leaves (passes_transactionAttempt convert) (Procedure.leaves_run s _ x)

omit [Reported ε] in
/-- Every run of a single statement is one of the listed. -/
theorem conduct_statement (policy : Policy) (cancelled : Bool) (text : String)
    (s : Surroundings σ τ ρ ρ Unit) (x : σ) :
    Conduct policy cancelled (StatementPass text)
      ((statement policy cancelled text).run s x).transcript
      ((statement policy cancelled text).run s x).ending :=
  conduct_of_leaves (passes_statementAttempt text) (Procedure.leaves_run s _ x)

end

end StoreClient.Retry
