import StoreClient.Proofs.Retry.Course

/-!
# The budget of attempts

A policy that allows fewer retries than the counter holds keeps the counter from running full. Such
a call never starts more attempts than its policy allows, and every number of attempts that it tells
is that of the attempts started by then. It crashes only where store or work crash, and if all its
attempts are conflicts it ends when the budget is spent, or earlier because the caller gives up.

A policy that allows as many retries as the counter holds attempts has a budget that no call comes
to the end of: the counter is full before it passes the number of retries.

## Main definitions

* `Entry.starts`, `Entry.isConflict`, `Entry.crash?`, `Entry.cancelled` — what an entry means for
  the budget.
* `Counted` — the numbers of attempts that a transcript tells are right.
* `Upshot.Told` — an upshot is what the entries of its attempt amount to.
* `WithinBudget` — a run keeps to the budget of its policy.
-/

namespace StoreClient.Retry

variable {σ τ ρ ε α : Type}

/-! ## Views -/

namespace Entry

/-- Whether an entry starts an attempt. -/
def starts : Entry τ ρ ε α → Bool
  | .began _ | .called (.exec _) _ => true
  | _ => false

/-- Whether an entry is a conflict: of the work, or of a commit or a single statement. -/
def isConflict [Reported ε] (convert : ρ → ε) : Entry τ ρ ε α → Bool
  | .worked _ ⟨.error e, _⟩ => (failure e).isConflict
  | .called (.commit _) ⟨.error e, _⟩ | .called (.exec _) ⟨.error e, _⟩ =>
    (failure (convert e)).isConflict
  | _ => false

/-- The cause of the crash that is replied, if one is. -/
def crash? : Entry τ ρ ε α → Option Crash
  | .began ⟨.crash cause, _⟩ | .called _ ⟨.crash cause, _⟩ | .worked _ ⟨.crash cause, _⟩ =>
    some cause
  | _ => none

/-- Whether the caller is seen to have given up. -/
def cancelled : Entry τ ρ ε α → Bool
  | .began reply => reply.cancelled
  | .called _ reply => reply.cancelled
  | .worked _ reply => reply.cancelled
  | .waited _ cancelled => cancelled
  | _ => false

/-- The number of attempts that is told, if one is. -/
def tells? : Entry τ ρ ε α → Option Nat
  | .reported (.exhausted n _) | .reported (.retrying n _ _ _) | .reported (.recovered n) => some n
  | _ => none

end Entry

/-- How many attempts have been started. -/
def started (t : List (Entry τ ρ ε α)) : Nat := t.countP Entry.starts

/-- How many attempts have ended in a conflict. -/
def conflicts [Reported ε] (convert : ρ → ε) (t : List (Entry τ ρ ε α)) : Nat :=
  t.countP (Entry.isConflict convert)

/-- Whether the caller is seen to have given up anywhere. -/
def gaveUp (t : List (Entry τ ρ ε α)) : Bool := t.any Entry.cancelled

/-- Whether neither store nor work crashes anywhere. -/
def Crashless (t : List (Entry τ ρ ε α)) : Prop := ∀ e ∈ t, e.crash? = none

instance (t : List (Entry τ ρ ε α)) : Decidable (Crashless t) :=
  inferInstanceAs (Decidable (∀ e ∈ t, e.crash? = none))

/-- Every number of attempts that is told is that of the attempts made by then. -/
def Counted : Nat → List (Entry τ ρ ε α) → Prop
  | _, [] => True
  | made, e :: t => (∀ n, e.tells? = some n → n = made) ∧ Counted (made + e.starts.toNat) t

section

variable (e : Entry τ ρ ε α) (t u : List (Entry τ ρ ε α)) (made : Nat)

@[simp] theorem started_nil : started ([] : List (Entry τ ρ ε α)) = 0 := rfl

@[simp] theorem started_cons : started (e :: t) = e.starts.toNat + started t := by
  simp only [started, List.countP_cons]
  cases e.starts <;> simp [Nat.add_comm]

@[simp] theorem started_append : started (t ++ u) = started t + started u := List.countP_append

@[simp] theorem gaveUp_nil : gaveUp ([] : List (Entry τ ρ ε α)) = false := rfl

@[simp] theorem gaveUp_cons : gaveUp (e :: t) = (e.cancelled || gaveUp t) := rfl

@[simp] theorem gaveUp_append : gaveUp (t ++ u) = (gaveUp t || gaveUp u) := List.any_append

@[simp] theorem crashless_nil : Crashless ([] : List (Entry τ ρ ε α)) := by simp [Crashless]

@[simp] theorem crashless_cons : Crashless (e :: t) ↔ e.crash? = none ∧ Crashless t := by
  simp [Crashless]

@[simp] theorem crashless_append : Crashless (t ++ u) ↔ Crashless t ∧ Crashless u := by
  simp [Crashless, or_imp, forall_and]

@[simp] theorem counted_nil : Counted made ([] : List (Entry τ ρ ε α)) := trivial

@[simp] theorem counted_cons : Counted made (e :: t) ↔
    (∀ n, e.tells? = some n → n = made) ∧ Counted (made + e.starts.toNat) t := Iff.rfl

variable {made t u}

theorem Counted.append (ht : Counted made t) (hu : Counted (made + started t) u) :
    Counted made (t ++ u) := by
  induction t generalizing made with
  | nil => simpa using hu
  | cons e t ih =>
      obtain ⟨htold, ht⟩ := ht
      rw [started_cons, ← Nat.add_assoc] at hu
      exact ⟨htold, ih ht hu⟩

/-- Where no number is told, none is wrong. -/
theorem counted_of_silent (h : ∀ e ∈ t, e.tells? = none) : Counted made t := by
  induction t generalizing made with
  | nil => trivial
  | cons e t ih =>
      have hquiet : e.tells? = none := h e (by simp)
      exact ⟨by simp [hquiet], ih fun e he => h e (by simp [he])⟩

variable [Reported ε] (convert : ρ → ε)

@[simp] theorem conflicts_nil : conflicts convert ([] : List (Entry τ ρ ε α)) = 0 := rfl

variable (t u)

@[simp] theorem conflicts_cons :
    conflicts convert (e :: t) = (e.isConflict convert).toNat + conflicts convert t := by
  simp only [conflicts, List.countP_cons]
  cases e.isConflict convert <;> simp [Nat.add_comm]

@[simp] theorem conflicts_append :
    conflicts convert (t ++ u) = conflicts convert t + conflicts convert u := List.countP_append

end

/-! ## Attempts -/

section Rollback

variable [Reported ρ] (tx : τ) (reply : Reply ρ Unit)

@[simp] theorem started_rollback :
    started (rollback tx reply : List (Entry τ ρ ε α)) = 0 := by
  simp only [rollback]
  split <;> simp [Entry.starts]

@[simp] theorem gaveUp_rollback :
    gaveUp (rollback tx reply : List (Entry τ ρ ε α)) = reply.cancelled := by
  simp only [rollback]
  split <;> simp [Entry.cancelled]

theorem silent_rollback : ∀ e ∈ (rollback tx reply : List (Entry τ ρ ε α)), e.tells? = none := by
  simp only [rollback]
  split <;> simp [Entry.tells?]

@[simp] theorem conflicts_rollback [Reported ε] (convert : ρ → ε) :
    conflicts convert (rollback tx reply : List (Entry τ ρ ε α)) = 0 := by
  simp only [rollback]
  split <;> simp [Entry.isConflict]

/-- A rollback that does not crash shows no crash. -/
theorem crashless_rollback (h : ∀ cause, reply.ending ≠ .crash cause) :
    Crashless (rollback tx reply : List (Entry τ ρ ε α)) := by
  obtain ⟨ending, c⟩ := reply
  cases ending with
  | crash cause => exact absurd rfl (h cause)
  | ok | error => simp [rollback, Entry.crash?]

theorem mem_rollback :
    .called (.rollback tx) reply ∈ (rollback tx reply : List (Entry τ ρ ε α)) := by
  simp [rollback]

end Rollback

section

variable [Reported ε] {convert : ρ → ε}

/-- An upshot is what the entries of its attempt amount to. -/
def Upshot.Told (convert : ρ → ε) (t : List (Entry τ ρ ε α)) : Upshot ε α → Prop
  | .judged cancelled judgement => cancelled = gaveUp t ∧ Crashless t ∧
      conflicts convert t = judgement.isConflict.toNat
  | .crashed cause => ∃ e ∈ t, e.crash? = some cause

/-- What every kind of attempt has in common. -/
structure Accounted (convert : ρ → ε) (t : List (Entry τ ρ ε α)) (upshot : Upshot ε α) : Prop where
  /-- One attempt is started. -/
  started : started t = 1
  /-- No number of attempts is told. -/
  silent : ∀ e ∈ t, e.tells? = none
  /-- The upshot is what the entries amount to. -/
  told : upshot.Told convert t

/-- An attempt that has to be rolled back amounts to what it did before, or to a crash of that. -/
theorem Accounted.released [Reported ρ] {t : List (Entry τ ρ ε α)} {upshot : Upshot ε α}
    (h : Accounted convert t upshot) (tx : τ) (reply : Reply ρ Unit) :
    Accounted convert (t ++ rollback tx reply) (upshot.released reply) := by
  refine ⟨by simp [h.started], ?_, ?_⟩
  · intro e he
    rcases List.mem_append.1 he with he | he
    · exact h.silent e he
    · exact silent_rollback tx reply e he
  · have htold := h.told
    obtain ⟨ending, c⟩ := reply
    cases ending with
    | crash cause => exact ⟨_, List.mem_append_right _ (mem_rollback tx _), rfl⟩
    | ok | error =>
        cases upshot with
        | crashed cause =>
            obtain ⟨e, he, hcrash⟩ := htold
            exact ⟨e, List.mem_append_left _ he, hcrash⟩
        | judged cancelled judgement =>
            obtain ⟨hcancelled, hcrashless, hcount⟩ := htold
            refine ⟨by simp [hcancelled], ?_, by simp [hcount]⟩
            exact (crashless_append _ _).2 ⟨hcrashless, crashless_rollback _ _ (by simp)⟩

theorem TransactionPass.accounted [Reported ρ] {t : List (Entry τ ρ ε α)} {upshot : Upshot ε α}
    (h : TransactionPass convert t upshot) : Accounted convert t upshot := by
  cases h with
  | refused | committed =>
      exact ⟨rfl, by simp [Entry.tells?],
        by simp [Upshot.Told, Entry.cancelled, Entry.crash?, Entry.isConflict, Bool.or_assoc]⟩
  | beginCrashed => exact ⟨rfl, by simp [Entry.tells?], by simp [Upshot.Told, Entry.crash?]⟩
  | @workFailed tx e c₁ c₂ reply =>
      have hwork : Accounted convert [.began ⟨.ok tx, c₁⟩, .worked tx ⟨.error e, c₂⟩]
          (.judged (c₁ || c₂) (judge .fatal (.error e)) : Upshot ε α) :=
        ⟨rfl, by simp [Entry.tells?],
          by simp [Upshot.Told, Entry.cancelled, Entry.crash?, Entry.isConflict]⟩
      exact hwork.released tx reply
  | @workCrashed tx cause c₁ c₂ reply =>
      have hwork : Accounted convert [.began ⟨.ok tx, c₁⟩, .worked tx ⟨.crash cause, c₂⟩]
          (.crashed cause : Upshot ε α) :=
        ⟨rfl, by simp [Entry.tells?], by simp [Upshot.Told, Entry.crash?]⟩
      exact hwork.released tx reply
  | @commitFailed tx value e c₁ c₂ c₃ reply =>
      have hcommit : Accounted convert [.began ⟨.ok tx, c₁⟩, .worked tx ⟨.ok value, c₂⟩,
          .called (.commit tx) ⟨.error e, c₃⟩]
          (.judged (c₁ || c₂ || c₃) (judge .commit (.error (convert e))) : Upshot ε α) :=
        ⟨rfl, by simp [Entry.tells?],
          by simp [Upshot.Told, Entry.cancelled, Entry.crash?, Entry.isConflict, Bool.or_assoc]⟩
      exact hcommit.released tx reply
  | @commitCrashed tx value cause c₁ c₂ c₃ reply =>
      have hcommit : Accounted convert [.began ⟨.ok tx, c₁⟩, .worked tx ⟨.ok value, c₂⟩,
          .called (.commit tx) ⟨.crash cause, c₃⟩] (.crashed cause : Upshot ε α) :=
        ⟨rfl, by simp [Entry.tells?], by simp [Upshot.Told, Entry.crash?]⟩
      exact hcommit.released tx reply

omit [Reported ε] in
theorem StatementPass.accounted [Reported ρ] {statement : String} {t : List (Entry τ ρ ρ Unit)}
    {upshot : Upshot ρ Unit} (h : StatementPass statement t upshot) : Accounted id t upshot := by
  cases h with
  | done | failed =>
      exact ⟨rfl, by simp [Entry.tells?],
        by simp [Upshot.Told, Entry.cancelled, Entry.crash?, Entry.isConflict]⟩
  | crashed => exact ⟨rfl, by simp [Entry.tells?], by simp [Upshot.Told, Entry.crash?]⟩

end

/-! ## Retried calls -/

section

variable [Reported ε] {policy : Policy} {convert : ρ → ε} {made : Nat} {backoff : Backoff}
  {Pass : List (Entry τ ρ ε α) → Upshot ε α → Prop} {upshot : Upshot ε α}
  {t : List (Entry τ ρ ε α)} {ending : Ending (RetryError ε) α}

@[simp] theorem started_backingOff (e : ε) (n : Nat) (c : Bool) :
    started (backingOff policy made backoff e n c : List (Entry τ ρ ε α)) = 0 := rfl

@[simp] theorem conflicts_backingOff (e : ε) (n : Nat) (c : Bool) :
    conflicts convert (backingOff policy made backoff e n c : List (Entry τ ρ ε α)) = 0 := rfl

@[simp] theorem gaveUp_backingOff (e : ε) (n : Nat) (c : Bool) :
    gaveUp (backingOff policy made backoff e n c : List (Entry τ ρ ε α)) = c := by
  simp [backingOff, Entry.cancelled]

theorem counted_backingOff (e : ε) (n : Nat) (c : Bool) :
    Counted made (backingOff policy made backoff e n c : List (Entry τ ρ ε α)) := by
  simp [backingOff, Entry.tells?, Entry.starts]

/-- Behind the last attempt nothing is started, and the number told is that of all attempts. -/
theorem Closes.counted (convert : ρ → ε) (h : Closes policy made backoff upshot t ending) :
    started t = 0 ∧ conflicts convert t = 0 ∧ Counted made t := by
  cases h with
  | crashed | failed | failedInVain | conflictInVain | exhausted =>
      simp [Entry.starts, Entry.isConflict, Entry.tells?]
  | succeeded =>
      simp only [recovery]
      split <;> simp [Entry.starts, Entry.isConflict, Entry.tells?]
  | cutShort =>
      exact ⟨started_backingOff _ _ _, conflicts_backingOff _ _ _, counted_backingOff _ _ _⟩

/-- A last attempt that is a conflict ends the call because the caller gives up, or because the
budget is spent. -/
theorem Closes.conflicted {front : List (Entry τ ρ ε α)}
    (h : Closes policy made backoff upshot t ending) (told : upshot.Told convert front)
    (hcrashless : Crashless front) (hconflict : conflicts convert front = 1) :
    if gaveUp (front ++ t) then ending = .error .cancelled
    else policy.maxRetries.toNat < made ∧
      ∃ last, ending = .error (.exhausted made policy.maxRetries.toNat last) := by
  cases h with
  | crashed =>
      obtain ⟨e, he, hcrash⟩ := told
      simp [hcrashless e he] at hcrash
  | succeeded | failed | failedInVain =>
      have hnone := told.2.2
      simp [hconflict] at hnone
  | conflictInVain => simp [← told.1]
  | @exhausted e spent => simp [← told.1, Entry.cancelled, spent]
  | cutShort => simp

section

variable (hpass : ∀ front upshot, Pass front upshot → Accounted convert front upshot)

include hpass

/-- A call in which that many attempts have been made starts no more than its policy allows. -/
theorem Course.started_le (hroom : policy.maxRetries.toNat < Policy.counterLimit)
    (h : Course policy Pass made backoff t ending) (hmade : made ≤ policy.maxRetries.toNat) :
    made + started t ≤ policy.maxAttempts := by
  -- Before every attempt no more have been made than there are retries, so one is left to make.
  induction h with
  | full => omega
  | last room pass closes =>
      have hback := (closes.counted convert).1
      simp only [started_cons, started_append, (hpass _ _ pass).started, hback, Entry.starts,
        Policy.maxAttempts, Bool.toNat_false]
      omega
  | again room pass spare _ ih =>
      have hrest := ih spare
      simp only [started_cons, started_append, (hpass _ _ pass).started, started_backingOff,
        Entry.starts, Bool.toNat_false]
      omega

/-- The numbers that a call tells are those of the attempts that it has made, at least until the
counter is full. -/
theorem Course.counted (h : Course policy Pass made backoff t ending) : Counted made t := by
  induction h with
  | full => trivial
  | last _ pass closes =>
      have haccounted := hpass _ _ pass
      refine ⟨by simp [Entry.tells?], (counted_of_silent haccounted.silent).append ?_⟩
      rw [haccounted.started]
      exact (closes.counted convert).2.2
  | again _ pass _ _ ih =>
      have haccounted := hpass _ _ pass
      refine ⟨by simp [Entry.tells?], (counted_of_silent haccounted.silent).append ?_⟩
      rw [haccounted.started]
      exact (counted_backingOff _ _ _).append ih

/-- A call crashes only where store or work do, for the counter has room for the whole budget. -/
theorem Course.crash_told (hroom : policy.maxRetries.toNat < Policy.counterLimit)
    (h : Course policy Pass made backoff t ending) (hmade : made ≤ policy.maxRetries.toNat)
    {cause : Crash} (hcrash : ending = .crash cause) : ∃ e ∈ t, e.crash? = some cause := by
  induction h with
  | full => omega
  | last _ pass closes =>
      subst hcrash
      cases closes with
      | crashed =>
          obtain ⟨e, he, htold⟩ := (hpass _ _ pass).told
          exact ⟨e, by simp [he], htold⟩
  | again _ _ spare _ ih =>
      obtain ⟨e, he, htold⟩ := ih spare hcrash
      exact ⟨e, by simp [he], htold⟩

/-- A call whose attempts are all conflicts ends because the caller gives up, because the budget is
spent, or because the counter is full before that. -/
theorem Course.conflicted (h : Course policy Pass made backoff t ending)
    (hmade : made ≤ policy.maxRetries.toNat) (hcrashless : Crashless t)
    (hconflicts : conflicts convert t = started t) :
    if gaveUp t then ending = .error .cancelled
    else if policy.maxRetries.toNat < Policy.counterLimit then
      ∃ last, ending = .error (.exhausted policy.maxAttempts policy.maxRetries.toNat last)
    else ending = .crash .counterFull := by
  induction h with
  | full => simp [Nat.not_lt.2 hmade]
  | @last made backoff front back upshot ending room pass closes =>
      obtain ⟨hstarted, hquiet, -⟩ := closes.counted convert
      simp only [crashless_cons, crashless_append, conflicts_cons, conflicts_append, started_cons,
        started_append, (hpass _ _ pass).started, hstarted, hquiet, Entry.starts, Entry.isConflict,
        Bool.toNat_false] at hcrashless hconflicts
      have hends := closes.conflicted (hpass _ _ pass).told hcrashless.2.1 (by omega)
      simp only [gaveUp_cons, Entry.cancelled, Bool.false_or]
      split at hends
      next hgaveUp => simp [hgaveUp, hends]
      next hgaveUp =>
        obtain ⟨spent, last, hending⟩ := hends
        have hlimit : policy.maxRetries.toNat < Policy.counterLimit := by omega
        have hall : made + 1 = policy.maxAttempts := by
          simp only [Policy.maxAttempts]
          omega
        rw [if_neg hgaveUp, if_pos hlimit, ← hall]
        exact ⟨last, hending⟩
  | again room pass spare _ ih =>
      -- This attempt is a conflict itself, so the rest has as many conflicts as attempts, too.
      have htold := (hpass _ _ pass).told
      simp only [crashless_cons, crashless_append, conflicts_cons, conflicts_append, started_cons,
        started_append, (hpass _ _ pass).started, htold.2.2, started_backingOff,
        conflicts_backingOff, Entry.starts, Entry.isConflict, Judgement.isConflict_conflict,
        Bool.toNat_false, Bool.toNat_true] at hcrashless hconflicts
      have hrest := ih spare hcrashless.2.2.2 (by omega)
      simpa [Entry.cancelled, ← htold.1] using hrest

end

/-- A run keeps to the budget of its policy. The caller may have given up beforehand. -/
structure WithinBudget (policy : Policy) (convert : ρ → ε) (cancelled : Bool)
    (r : Run σ τ ρ ε α) : Prop where
  /-- No more attempts are started than the policy allows. -/
  started_le : started r.transcript ≤ policy.maxAttempts
  /-- Every number of attempts that is told is the true one. -/
  counted : Counted 0 r.transcript
  /-- The counter does not overflow: a call crashes only where store or work do. -/
  crash_told : ∀ cause, r.ending = .crash cause → ∃ e ∈ r.transcript, e.crash? = some cause
  /-- A call whose attempts are all conflicts ends with the budget spent, unless the caller gives
  up. -/
  conflicted : Crashless r.transcript → conflicts convert r.transcript = started r.transcript →
    if cancelled || gaveUp r.transcript then r.ending = .error .cancelled
    else ∃ last, r.ending = .error (.exhausted policy.maxAttempts policy.maxRetries.toNat last)

theorem Conduct.withinBudget {cancelled : Bool} {r : Run σ τ ρ ε α} (valid : policy.fault? = none)
    (room : policy.maxRetries.toNat < Policy.counterLimit)
    (hpass : ∀ front upshot, Pass front upshot → Accounted convert front upshot)
    (h : Conduct policy cancelled Pass r.transcript r.ending) :
    WithinBudget policy convert cancelled r := by
  obtain ⟨ending, t, final⟩ := r
  simp only at h
  cases h with
  | refused invalid => simp [valid] at invalid
  | unwanted _ given => exact ⟨by simp, trivial, by simp, by simp [given]⟩
  | attempted _ wanted course =>
      refine ⟨?_, course.counted hpass, ?_, ?_⟩
      · simpa using course.started_le hpass room (Nat.zero_le _)
      · intro cause hcrash
        exact course.crash_told hpass room (Nat.zero_le _) hcrash
      · intro hcrashless hconflicts
        have hends := course.conflicted hpass (Nat.zero_le _) hcrashless hconflicts
        simpa [wanted, room] using hends

/-- **The budget of attempts.** Where the counter can hold the whole budget, every run of a retried
call, of work in transactions or of a single statement, keeps to it. -/
theorem within_budget [Reported ρ] (policy : Policy) (valid : policy.fault? = none)
    (room : policy.maxRetries.toNat < Policy.counterLimit) (convert : ρ → ε) :
    (∀ cancelled (s : Surroundings σ τ ρ ε α) x,
      WithinBudget policy convert cancelled ((transaction policy convert cancelled).run s x)) ∧
    ∀ text cancelled (s : Surroundings σ τ ρ ρ Unit) x,
      WithinBudget policy id cancelled ((statement policy cancelled text).run s x) := by
  refine ⟨fun cancelled s x => ?_, fun text cancelled s x => ?_⟩
  · exact (conduct_transaction policy convert cancelled s x).withinBudget valid room
      fun _ _ pass => pass.accounted
  · exact (conduct_statement policy cancelled text s x).withinBudget valid room
      fun _ _ pass => pass.accounted

end

/-- A store that does as it is told, and work that always ends in this error and with the caller
given up or not. -/
def failing (e : Failure) (cancelled : Bool) : Surroundings Unit Unit Failure Failure Unit where
  begin x := (⟨.ok (), false⟩, x)
  call _ x := (⟨.ok (), false⟩, x)
  work _ x := (⟨.error e, cancelled⟩, x)
  draw _ x := (0, x)
  wait _ x := (false, x)

/-- A conflict as the store reports it. -/
def someConflict : Failure := { code := some mutationConflict, message := "conflict" }

/-- Two attempts that are conflicts exhaust a policy that allows two. -/
theorem exhausted_after_two_conflicts :
    let policy : Policy := { maxRetries := 1 }
    let r := (transaction policy id false).run (failing someConflict false) ()
    policy.fault? = none ∧ policy.maxRetries.toNat < Policy.counterLimit ∧
      WithinBudget policy id false r ∧
      r.ending = .error (.exhausted policy.maxAttempts 1 someConflict) := by
  refine ⟨by decide +kernel, by decide +kernel, ?_, by decide +kernel⟩
  exact (within_budget _ (by decide +kernel) (by decide +kernel) id).1 _ _ _

/-- Attempts that are all conflicts go on until the counter is full, if the policy allows as many
retries as the counter holds attempts. -/
theorem ending_attempts_failing {policy : Policy} {e : Failure} (hconflict : e.isConflict = true)
    (hlimit : Policy.counterLimit ≤ policy.maxRetries.toNat) (room : Nat) (backoff : Backoff) :
    ((attempts policy (transactionAttempt id) room backoff).run (failing e false) ()).ending =
      .crash .counterFull := by
  induction room generalizing backoff with
  | zero => rfl
  | succ room ih =>
      have hspare : ¬ policy.maxRetries.toNat < Policy.counterLimit - room := by omega
      have hjudge : judge .fatal (.error e : Except Failure Unit) = .conflict e := by
        simp [judge, classify, failure, hconflict]
      simp only [attempts, transactionAttempt, release, backOff, Procedure.run, Run.ending_after,
        failing, Bool.or_self, hjudge, hspare, Bool.false_eq_true, if_false]
      exact ih backoff.advance

theorem ending_transaction_failing {policy : Policy} (valid : policy.fault? = none) {e : Failure}
    (hconflict : e.isConflict = true) (hlimit : Policy.counterLimit ≤ policy.maxRetries.toNat) :
    ((transaction policy id false).run (failing e false) ()).ending = .crash .counterFull := by
  simp only [transaction, retry, valid, Bool.false_eq_true, if_false]
  exact ending_attempts_failing hconflict hlimit _ _

/-- Attempts that are all conflicts do not always end with the budget spent. A caller who gives up
during the last of them is told of that instead, and under a policy that allows as many retries as
the counter holds attempts the counter is full before. -/
theorem conflicts_without_exhaustion :
    (let policy : Policy := { maxRetries := 0 }
      let r := (transaction policy id false).run (failing someConflict true) ()
      policy.fault? = none ∧ Crashless r.transcript ∧ started r.transcript = 1 ∧
        conflicts id r.transcript = 1 ∧ r.ending = .error .cancelled ∧
        ∀ last, r.ending ≠ .error (.exhausted policy.maxAttempts policy.maxRetries.toNat last)) ∧
    (let policy : Policy := { maxRetries := 0xffffffff }
      let r := (transaction policy id false).run (failing someConflict false) ()
      policy.fault? = none ∧ r.ending = .crash .counterFull ∧
        ∀ last, r.ending ≠ .error (.exhausted policy.maxAttempts policy.maxRetries.toNat last)) := by
  constructor
  · intro policy r
    have valid : policy.fault? = none := by decide +kernel
    have hending : r.ending = .error .cancelled := by decide +kernel
    refine ⟨valid, by decide +kernel, by decide +kernel, by decide +kernel, hending, ?_⟩
    intro last
    simp [hending]
  · intro policy r
    have valid : policy.fault? = none := by decide +kernel
    have hending : r.ending = .crash .counterFull :=
      ending_transaction_failing valid (by decide) (by decide)
    refine ⟨valid, hending, ?_⟩
    intro last
    simp [hending]

end StoreClient.Retry
