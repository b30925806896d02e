import StoreClient.Proofs.Retry.Tally

/-!
# The counters of retried calls

By how much the counters of an operation go up in one call follows from how the call ends. So over
any calls, run side by side or one after the other, the attempts that are counted are the conflicts
and failures that are counted, the successes, the crashes, and the failures that are kept from
callers who have given up.

## Main definitions

* `failures` — how many attempts have failed, but not in a conflict.
* `Settled` — what the last attempts of a call add to the counters.
* `Balanced` — by how much the counters go up in a call.
* `RetriedCall` — a call of either kind, with its types hidden.
-/

namespace StoreClient.Retry

open Observability

variable {σ τ ρ ε α : Type} {op : Operation}

/-! ## Failures -/

/-- Whether an entry is a failure of an attempt that is no conflict. That a transaction cannot be
opened is one, whatever the error. -/
def Entry.isFailure [Reported ε] (convert : ρ → ε) : Entry τ ρ ε α → Bool
  | .began ⟨.error _, _⟩ => true
  | .worked _ ⟨.error e, _⟩ => !(failure e).isConflict
  | .called (.commit _) ⟨.error e, _⟩ | .called (.exec _) ⟨.error e, _⟩ =>
    !(failure (convert e)).isConflict
  | _ => false

/-- How many attempts have failed, but not in a conflict. -/
def failures [Reported ε] (convert : ρ → ε) (t : List (Entry τ ρ ε α)) : Nat :=
  t.countP (Entry.isFailure convert)

section

variable [Reported ε] (convert : ρ → ε) (e : Entry τ ρ ε α) (t u : List (Entry τ ρ ε α))

@[simp] theorem failures_nil : failures convert ([] : List (Entry τ ρ ε α)) = 0 := rfl

@[simp] theorem failures_cons :
    failures convert (e :: t) = (e.isFailure convert).toNat + failures convert t := by
  simp only [failures, List.countP_cons]
  cases e.isFailure convert <;> simp [Nat.add_comm]

@[simp] theorem failures_append :
    failures convert (t ++ u) = failures convert t + failures convert u := List.countP_append

@[simp] theorem failures_rollback [Reported ρ] (tx : τ) (reply : Reply ρ Unit) :
    failures convert (rollback tx reply : List (Entry τ ρ ε α)) = 0 := by
  simp only [rollback]
  split <;> simp [Entry.isFailure]

end

/-! ## Attempts -/

/-- Whether an error is that of an attempt which has failed. -/
def RetryError.isFailure : RetryError ε → Bool
  | .begin _ | .commit _ | .fatal _ => true
  | _ => false

section

variable [Reported ε] {convert : ρ → ε}

/-- An upshot is a failure if the entries of its attempt show one. -/
def Upshot.Blamed (convert : ρ → ε) (t : List (Entry τ ρ ε α)) : Upshot ε α → Prop
  | .judged _ (.fatal error) => failures convert t = 1 ∧ error.isFailure
  | .judged _ _ => failures convert t = 0
  | .crashed _ => True

/-- An error of the work, the commit or the statement is a failure unless it is a conflict. -/
theorem blamed_judge_error {stage : ε → RetryError ε} {e : ε} {c : Bool}
    {t : List (Entry τ ρ ε α)} (hstage : (stage e).isFailure)
    (hfailures : failures convert t = (!(failure e).isConflict).toNat) :
    Upshot.Blamed convert t (.judged c (judge stage (.error e))) := by
  rw [judge_error]
  split
  next hconflict =>
    have hnone : failures convert t = 0 := by simpa [hconflict] using hfailures
    exact hnone
  next hconflict => exact ⟨by simpa [hconflict] using hfailures, hstage⟩

/-- To roll back makes no failure. -/
theorem Upshot.Blamed.released [Reported ρ] {t : List (Entry τ ρ ε α)} {upshot : Upshot ε α}
    (h : upshot.Blamed convert t) (tx : τ) (reply : Reply ρ Unit) :
    (upshot.released reply).Blamed convert (t ++ rollback tx reply) := by
  have hsince (c : Bool) : (upshot.since c).Blamed convert (t ++ rollback tx reply) := by
    cases upshot with
    | crashed => trivial
    | judged _ judgement => cases judgement <;> simpa [Blamed, since] using h
  obtain ⟨ending, c⟩ := reply
  cases ending with
  | crash => trivial
  | ok | error => exact hsince c

theorem TransactionPass.blamed [Reported ρ] {t : List (Entry τ ρ ε α)} {upshot : Upshot ε α}
    (h : TransactionPass convert t upshot) : upshot.Blamed convert t := by
  cases h with
  | refused => exact ⟨rfl, rfl⟩
  | beginCrashed => trivial
  | committed => rfl
  | @workFailed tx e c₁ c₂ reply =>
      have hwork : Upshot.Blamed convert [.began ⟨.ok tx, c₁⟩, .worked tx ⟨.error e, c₂⟩]
          (.judged (c₁ || c₂) (judge .fatal (.error e)) : Upshot ε α) :=
        blamed_judge_error rfl (by simp [Entry.isFailure])
      exact hwork.released tx reply
  | @workCrashed tx cause c₁ c₂ reply =>
      have hwork : Upshot.Blamed convert [.began ⟨.ok tx, c₁⟩, .worked tx ⟨.crash cause, c₂⟩]
          (.crashed cause : Upshot ε α) := trivial
      exact hwork.released tx reply
  | @commitFailed tx value e c₁ c₂ c₃ reply =>
      have hcommit : Upshot.Blamed convert [.began ⟨.ok tx, c₁⟩, .worked tx ⟨.ok value, c₂⟩,
          .called (.commit tx) ⟨.error e, c₃⟩]
          (.judged (c₁ || c₂ || c₃) (judge .commit (.error (convert e))) : Upshot ε α) :=
        blamed_judge_error rfl (by simp [Entry.isFailure])
      exact hcommit.released tx reply
  | @commitCrashed tx value cause c₁ c₂ c₃ reply =>
      have hcommit : Upshot.Blamed convert [.began ⟨.ok tx, c₁⟩, .worked tx ⟨.ok value, c₂⟩,
          .called (.commit tx) ⟨.crash cause, c₃⟩] (.crashed cause : Upshot ε α) := trivial
      exact hcommit.released tx reply

omit [Reported ε] in
theorem StatementPass.blamed [Reported ρ] {statement : String} {t : List (Entry τ ρ ρ Unit)}
    {upshot : Upshot ρ Unit} (h : StatementPass statement t upshot) : upshot.Blamed id t := by
  cases h with
  | done => rfl
  | failed => exact blamed_judge_error rfl (by simp [Entry.isFailure])
  | crashed => trivial

/-- What the counters of a call depend on in an attempt. -/
structure Metered (convert : ρ → ε) (t : List (Entry τ ρ ε α)) (upshot : Upshot ε α) : Prop where
  /-- One attempt is started. -/
  started : started t = 1
  /-- Nothing is counted within the attempt. -/
  quiet : ∀ op, recorded op t = {}
  /-- A failure is one for the call, too. -/
  blamed : upshot.Blamed convert t

theorem TransactionPass.metered [Reported ρ] {t : List (Entry τ ρ ε α)} {upshot : Upshot ε α}
    (h : TransactionPass convert t upshot) : Metered convert t upshot :=
  ⟨h.accounted.started, fun _ => h.contained.recorded, h.blamed⟩

omit [Reported ε] in
theorem StatementPass.metered [Reported ρ] {statement : String} {t : List (Entry τ ρ ρ Unit)}
    {upshot : Upshot ρ Unit} (h : StatementPass statement t upshot) : Metered id t upshot :=
  ⟨h.accounted.started, fun _ => h.contained.recorded, h.blamed⟩

end

/-! ## Calls -/

section

variable [Reported ε] {policy : Policy} {convert : ρ → ε} {made : Nat} {backoff : Backoff}
  {Pass : List (Entry τ ρ ε α) → Upshot ε α → Prop} {upshot : Upshot ε α}
  {front t : List (Entry τ ρ ε α)} {ending : Ending (RetryError ε) α}

/-- What the counters go up by in attempts that end the call so, when so many attempts have been
made before them and so many of them are failures. -/
def Settled (made failures : Nat) (gain : Tally) : Ending (RetryError ε) α → Prop
  | .ok _ | .crash _ => gain.attempts = gain.conflicts + 1 ∧ gain.fatal = 0 ∧ gain.exhausted = 0
  | .error (.begin _) | .error (.commit _) | .error (.fatal _) =>
    gain.attempts = gain.conflicts + 1 ∧ gain.fatal = 1 ∧ gain.exhausted = 0
  | .error (.exhausted attempts _ _) => attempts = made + gain.attempts ∧
    gain.attempts = gain.conflicts ∧ gain.fatal = 0 ∧ gain.exhausted = 1
  | .error .cancelled => failures ≤ 1 ∧ gain.attempts = gain.conflicts + failures ∧
    gain.fatal = 0 ∧ gain.exhausted = 0
  | .error (.invalidPolicy _) => False

omit [Reported ε] in
/-- A conflict before them is one attempt and one conflict more. -/
theorem Settled.again {failures : Nat} {gain : Tally}
    (h : Settled (made + 1) failures gain ending) :
    Settled made failures ({ attempts := 1, conflicts := 1 } + gain) ending := by
  cases ending with
  | ok | crash =>
      simp only [Settled, Tally.attempts_add, Tally.conflicts_add, Tally.fatal_add,
        Tally.exhausted_add] at h ⊢
      omega
  | error error =>
      cases error <;>
        simp only [Settled, Tally.attempts_add, Tally.conflicts_add, Tally.fatal_add,
          Tally.exhausted_add] at h ⊢ <;> omega

@[simp] theorem recorded_backingOff (e : ε) (n : Nat) (c : Bool) :
    recorded op (backingOff policy made backoff e n c : List (Entry τ ρ ε α)) =
      { conflicts := 1 } := by
  rw [backingOff, recorded_cons, Entry.gain_conflicted]
  rfl

@[simp] theorem failures_backingOff (e : ε) (n : Nat) (c : Bool) :
    failures convert (backingOff policy made backoff e n c : List (Entry τ ρ ε α)) = 0 := rfl

omit [Reported ε] in
@[simp] theorem recorded_recovery (made : Nat) :
    recorded op (recovery made : List (Entry τ ρ ε α)) = {} := by
  simp only [recovery]
  split <;> rfl

/-- The last attempt settles the counters. -/
theorem Closes.settled (h : Closes policy (made + 1) backoff upshot t ending)
    (blamed : upshot.Blamed convert front) :
    Settled made (failures convert front) ({ attempts := 1 } + recorded op t) ending := by
  cases h with
  | crashed | succeeded => simp [Settled]
  | @failed error =>
      obtain ⟨-, hfailure⟩ := blamed
      cases error <;> simp [RetryError.isFailure] at hfailure <;> simp [Settled]
  | failedInVain =>
      obtain ⟨hone, -⟩ := blamed
      simp [Settled, hone]
  | conflictInVain | cutShort =>
      have hnone : failures convert front = 0 := blamed
      simp [Settled, hnone]
  | exhausted => simp [Settled]

/-- Behind the last attempt no failure is seen. -/
theorem Closes.failures_eq (convert : ρ → ε) (h : Closes policy made backoff upshot t ending) :
    failures convert t = 0 := by
  cases h with
  | crashed | failed | failedInVain | conflictInVain | exhausted => simp [Entry.isFailure]
  | succeeded =>
      simp only [recovery]
      split <;> simp [Entry.isFailure]
  | cutShort => simp

/-- Behind the last attempt none is started. -/
theorem Closes.recorded_attempts (h : Closes policy made backoff upshot t ending) :
    (recorded op t).attempts = 0 := by
  cases h with
  | crashed | succeeded | failed | failedInVain | conflictInVain | exhausted | cutShort => simp

section

variable (hpass : ∀ front upshot, Pass front upshot → Metered convert front upshot)

include hpass

/-- What the attempts of a call add to the counters fits the end of the call: each before the last
adds an attempt and a conflict. -/
theorem Course.settled (room : policy.maxRetries.toNat < Policy.counterLimit)
    (h : Course policy Pass made backoff t ending) (hmade : made ≤ policy.maxRetries.toNat) :
    Settled made (failures convert t) (recorded op t) ending := by
  induction h with
  | full => omega
  | @last made backoff front back upshot ending _ pass closes =>
      have hmetered := hpass _ _ pass
      have hclosed : Settled made (failures convert front) ({ attempts := 1 } + recorded op back)
          ending := closes.settled hmetered.blamed
      simpa [hmetered.quiet, closes.failures_eq convert, Entry.isFailure] using hclosed
  | again _ pass spare _ ih =>
      have hmetered := hpass _ _ pass
      have hnone : failures convert _ = 0 := hmetered.blamed
      simp only [recorded_cons, recorded_append, Entry.gain_attempted, hmetered.quiet,
        recorded_backingOff, failures_cons, failures_append, hnone, failures_backingOff,
        Entry.isFailure, Bool.toNat_false, Tally.empty_add, Nat.zero_add]
      rw [← Tally.add_assoc]
      exact (ih spare).again

/-- As many attempts are counted as are started. -/
theorem Course.recorded_attempts (h : Course policy Pass made backoff t ending) :
    (recorded op t).attempts = started t := by
  induction h with
  | full => rfl
  | last _ pass closes =>
      have hmetered := hpass _ _ pass
      simp [hmetered.quiet, hmetered.started, (closes.counted convert).1,
        closes.recorded_attempts, Entry.starts]
  | again _ pass _ _ ih =>
      have hmetered := hpass _ _ pass
      simp [hmetered.quiet, hmetered.started, Entry.starts, ih]

end

end

/-! ## The books of a call -/

/-- The counters of an operation go up by so much in a call of it, and this fits the way in which
the call ends. -/
structure Balanced (op : Operation) (convert : ρ → ε) [Reported ε] (gain : Tally)
    (r : Run σ τ ρ ε α) : Prop where
  /-- The counters go up by so much, whatever they stand at. -/
  counted : ∀ registry : Registry,
    standing op ((r.measurements op).foldl Registry.record registry) = standing op registry + gain
  /-- The counters of the other operation stay. -/
  others : ∀ (registry : Registry) (other : Operation), other ≠ op →
    standing other ((r.measurements op).foldl Registry.record registry) = standing other registry
  /-- An attempt is counted whenever the store is asked for a transaction, or for the statement. -/
  started : gain.attempts = started r.transcript
  /-- All attempts but the last of a success are conflicts. -/
  ok : ∀ value, r.ending = .ok value →
    gain.attempts = gain.conflicts + 1 ∧ gain.fatal = 0 ∧ gain.exhausted = 0
  /-- All attempts but the last of a failure are conflicts, and the failure is counted. -/
  failed : ∀ error, r.ending = .error error → error.isFailure →
    gain.attempts = gain.conflicts + 1 ∧ gain.fatal = 1 ∧ gain.exhausted = 0
  /-- All attempts are conflicts if they run out, and their number is told. -/
  exhausted : ∀ attempts limit last, r.ending = .error (.exhausted attempts limit last) →
    gain.attempts = attempts ∧ gain.conflicts = attempts ∧ gain.fatal = 0 ∧ gain.exhausted = 1
  /-- If the caller gives up, the last attempt may be a failure, which is not counted. -/
  cancelled : r.ending = .error .cancelled → failures convert r.transcript ≤ 1 ∧
    gain.attempts = gain.conflicts + failures convert r.transcript ∧
    gain.fatal = 0 ∧ gain.exhausted = 0
  /-- Nothing is counted under an unusable policy. -/
  refused : ∀ reason, r.ending = .error (.invalidPolicy reason) → gain = {}
  /-- All attempts but the last of a crash are conflicts. -/
  crashed : ∀ cause, r.ending = .crash cause →
    gain.attempts = gain.conflicts + 1 ∧ gain.fatal = 0 ∧ gain.exhausted = 0

section

variable [Reported ε] {policy : Policy} {convert : ρ → ε}
  {Pass : List (Entry τ ρ ε α) → Upshot ε α → Prop}

theorem Conduct.balanced {cancelled : Bool} {r : Run σ τ ρ ε α} (op : Operation)
    (room : policy.maxRetries.toNat < Policy.counterLimit)
    (hpass : ∀ front upshot, Pass front upshot → Metered convert front upshot)
    (h : Conduct policy cancelled Pass r.transcript r.ending) :
    Balanced op convert (gain op (r.measurements op)) r := by
  have hcounted (registry : Registry) : standing op
      ((r.measurements op).foldl Registry.record registry) =
        standing op registry + gain op (r.measurements op) :=
    standing_foldl_record _ registry
  have hothers (registry : Registry) (other : Operation) (hne : other ≠ op) : standing other
      ((r.measurements op).foldl Registry.record registry) = standing other registry := by
    rw [standing_foldl_record, gain_of_ne hne, Tally.add_empty]
  have hgain : gain op (r.measurements op) = recorded op r.transcript := rfl
  generalize ht : r.transcript = t at h hgain
  generalize he : r.ending = ending at h
  cases h with
  | refused | unwanted =>
      refine ⟨hcounted, hothers, ?_, ?_, ?_, ?_, ?_, ?_, ?_⟩ <;>
        simp [hgain, he, ht, RetryError.isFailure]
  | attempted _ _ course =>
      have hstarted : (recorded op t).attempts = started t := course.recorded_attempts hpass
      have hsettled : Settled 0 (failures convert t) (recorded op t) ending :=
        course.settled hpass room (Nat.zero_le _)
      rw [← hgain] at hstarted hsettled
      refine ⟨hcounted, hothers, by rw [hstarted, ht], ?_, ?_, ?_, ?_, ?_, ?_⟩
      · rintro value hok
        obtain rfl := he.symm.trans hok
        exact hsettled
      · rintro error herror hfailure
        obtain rfl := he.symm.trans herror
        cases error <;> simp [RetryError.isFailure] at hfailure <;> exact hsettled
      · rintro attempts limit last hexhausted
        obtain rfl := he.symm.trans hexhausted
        obtain ⟨hmade, hconflicts, hfatal, hexhausted⟩ := hsettled
        exact ⟨by omega, by omega, hfatal, hexhausted⟩
      · rintro hcancelled
        obtain rfl := he.symm.trans hcancelled
        rw [ht]
        exact hsettled
      · rintro reason hrefused
        obtain rfl := he.symm.trans hrefused
        exact hsettled.elim
      · rintro cause hcrash
        obtain rfl := he.symm.trans hcrash
        exact hsettled

theorem balanced_transaction [Reported ρ] (policy : Policy)
    (room : policy.maxRetries.toNat < Policy.counterLimit) (convert : ρ → ε) (cancelled : Bool)
    (s : Surroundings σ τ ρ ε α) (x : σ) :
    let r := (transaction policy convert cancelled).run s x
    Balanced .transaction convert (gain .transaction (r.measurements .transaction)) r :=
  (conduct_transaction policy convert cancelled s x).balanced .transaction room
    fun _ _ pass => pass.metered

omit [Reported ε] in
theorem balanced_statement [Reported ρ] (policy : Policy)
    (room : policy.maxRetries.toNat < Policy.counterLimit) (cancelled : Bool) (text : String)
    (s : Surroundings σ τ ρ ρ Unit) (x : σ) :
    let r := (statement policy cancelled text).run s x
    Balanced .exec id (gain .exec (r.measurements .exec)) r :=
  (conduct_statement policy cancelled text s x).balanced .exec room
    fun _ _ pass => pass.metered

end

/-! ## The books of all calls -/

/-- How a call ended, as far as its counters do not tell. -/
inductive Fate where
  /-- It succeeded. -/
  | success
  /-- It crashed. -/
  | crash
  /-- It failed and not in a conflict, but its caller had given up and is not told. -/
  | failureInVain
  /-- It ended otherwise. -/
  | other
deriving DecidableEq, Repr

/-- How a run ended, as far as its counters do not tell. -/
def Run.fate [Reported ε] (convert : ρ → ε) (r : Run σ τ ρ ε α) : Fate :=
  match r.ending with
  | .ok _ => .success
  | .crash _ => .crash
  | .error .cancelled => if failures convert r.transcript = 0 then .other else .failureInVain
  | .error _ => .other

/-- What is known of a call once it is over. -/
structure Account where
  /-- Its kind. -/
  operation : Operation
  /-- What it counted. -/
  measurements : List Measurement
  /-- How it ended. -/
  fate : Fate

/-- Whether a call is of this kind and ended so. -/
def Account.ended (op : Operation) (fate : Fate) (a : Account) : Bool :=
  a.operation = op && a.fate = fate

/-- The account of a run. -/
def Run.account [Reported ε] (op : Operation) (convert : ρ → ε) (r : Run σ τ ρ ε α) : Account where
  operation := op
  measurements := r.measurements op
  fate := r.fate convert

/-- A call of either kind, with any store, any work and any caller, under a policy that leaves room
for all its attempts in the counter. -/
inductive RetriedCall : Type 1 where
  /-- Work in transactions. -/
  | transaction {σ τ ρ ε α : Type} [Reported ρ] [Reported ε] (policy : Policy)
    (room : policy.maxRetries.toNat < Policy.counterLimit) (convert : ρ → ε) (cancelled : Bool)
    (s : Surroundings σ τ ρ ε α) (x : σ)
  /-- A single statement. -/
  | statement {σ τ ρ : Type} [Reported ρ] (policy : Policy)
    (room : policy.maxRetries.toNat < Policy.counterLimit) (cancelled : Bool) (text : String)
    (s : Surroundings σ τ ρ ρ Unit) (x : σ)

/-- The account of a call. -/
def RetriedCall.account : RetriedCall → Account
  | transaction policy _ convert cancelled s x =>
    ((Retry.transaction policy convert cancelled).run s x).account .transaction convert
  | statement policy _ cancelled text s x =>
    ((Retry.statement policy cancelled text).run s x).account .exec id

/-- How many calls of an operation ended so. -/
def ended (op : Operation) (fate : Fate) (calls : List RetriedCall) : Nat :=
  calls.countP (·.account.ended op fate)

theorem ended_cons (op : Operation) (fate : Fate) (call : RetriedCall) (calls : List RetriedCall) :
    ended op fate (call :: calls) = (call.account.ended op fate).toNat + ended op fate calls := by
  simp only [ended, List.countP_cons]
  cases call.account.ended op fate <;> simp [Nat.add_comm]

/-- The attempts that are counted are the conflicts and failures that are counted, and as many
successes, crashes and failures that are not told as there are. -/
def Tally.Explained (k : Tally) (ended : Fate → Nat) : Prop :=
  k.attempts = k.conflicts + k.fatal + ended .success + ended .crash + ended .failureInVain

section

variable [Reported ε] {convert : ρ → ε} {own : Operation} {r : Run σ τ ρ ε α}

/-- The attempts of a call are explained by its own end. -/
theorem Balanced.explained {gain : Tally} (h : Balanced own convert gain r) :
    gain.Explained fun fate => (decide (r.fate convert = fate)).toNat := by
  unfold Tally.Explained
  cases hending : r.ending with
  | ok value =>
      have hok := h.ok value hending
      simp only [Run.fate, hending, decide_true, reduceCtorEq, decide_false, Bool.toNat_true,
        Bool.toNat_false]
      omega
  | crash cause =>
      have hcrashed := h.crashed cause hending
      simp only [Run.fate, hending, decide_true, reduceCtorEq, decide_false, Bool.toNat_true,
        Bool.toNat_false]
      omega
  | error error =>
      cases error with
      | begin | commit | fatal =>
          have hfailed := h.failed _ hending rfl
          simp only [Run.fate, hending, reduceCtorEq, decide_false, Bool.toNat_false]
          omega
      | exhausted attempts limit last =>
          have hexhausted := h.exhausted attempts limit last hending
          simp only [Run.fate, hending, reduceCtorEq, decide_false, Bool.toNat_false]
          omega
      | invalidPolicy reason =>
          have hrefused := h.refused reason hending
          simp [Run.fate, hending, hrefused]
      | cancelled =>
          have hcancelled := h.cancelled hending
          simp only [Run.fate, hending]
          split <;> simp <;> omega

/-- The account of a call fits the counters of every operation: those of the other one it leaves
alone. -/
theorem Balanced.account (h : Balanced own convert (gain own (r.measurements own)) r)
    (op : Operation) : (gain op (r.account own convert).measurements).Explained
      fun fate => ((r.account own convert).ended op fate).toNat := by
  by_cases hop : op = own
  · subst hop
    simp only [Account.ended, Run.account, decide_true, Bool.true_and]
    exact h.explained
  · have hnone : gain op (r.measurements own) = {} := gain_of_ne hop r
    simp [Tally.Explained, Account.ended, Run.account, hnone, Ne.symm hop]

end

theorem RetriedCall.explained (call : RetriedCall) (op : Operation) :
    (gain op call.account.measurements).Explained
      fun fate => (call.account.ended op fate).toNat := by
  cases call with
  | transaction policy room convert cancelled s x =>
      exact (balanced_transaction policy room convert cancelled s x).account op
  | statement policy room cancelled text s x =>
      exact (balanced_statement policy room cancelled text s x).account op

/-- The attempts of calls are explained by their ends. -/
theorem explained_of_calls (calls : List RetriedCall) (op : Operation) :
    (gain op (calls.flatMap (·.account.measurements))).Explained (ended op · calls) := by
  induction calls with
  | nil => rfl
  | cons call calls ih =>
      have hcall := call.explained op
      simp only [Tally.Explained, List.flatMap_cons, gain_append, Tally.attempts_add,
        Tally.conflicts_add, Tally.fatal_add, ended_cons] at ih hcall ⊢
      omega

/-- **The books of retried calls.** By how much a call moves the counters of its operation fits the
way in which it ends. Over any calls, in whichever order their measurements arrive, the attempts of
an operation are its conflicts and failures, and beyond these its successes, its crashes and the
failures of callers who had given up. -/
theorem counters_balanced [Reported ρ] [Reported ε] (policy : Policy)
    (room : policy.maxRetries.toNat < Policy.counterLimit) (convert : ρ → ε) :
    (∀ cancelled (s : Surroundings σ τ ρ ε α) x, ∃ gain,
      Balanced .transaction convert gain ((transaction policy convert cancelled).run s x)) ∧
    (∀ text cancelled (s : Surroundings σ τ ρ ρ Unit) x, ∃ gain,
      Balanced .exec id gain ((statement policy cancelled text).run s x)) ∧
    ∀ (calls : List RetriedCall) (ms : List Measurement),
      ms.Perm (calls.flatMap (·.account.measurements)) → ∀ op,
      let total := standing op (.ofMeasurements ms)
      total.attempts = total.conflicts + total.fatal + ended op .success calls +
        ended op .crash calls + ended op .failureInVain calls := by
  refine ⟨fun cancelled s x => ⟨_, balanced_transaction policy room convert cancelled s x⟩,
    fun text cancelled s x => ⟨_, balanced_statement policy room cancelled text s x⟩, ?_⟩
  intro calls ms hperm op
  rw [standing_ofMeasurements, gain_perm hperm]
  exact explained_of_calls calls op

/-- One call runs out of its two attempts, and the caller of another gives up while its work fails.
Three attempts are counted, though only the conflicts of the first are. -/
theorem counters_balanced_failure_in_vain :
    let policy : Policy := { maxRetries := 1 }
    let fault : Failure := { code := some "23505", message := "duplicate key" }
    ∃ (room : policy.maxRetries.toNat < Policy.counterLimit),
      let calls : List RetriedCall := [
        .transaction policy room id false (failing someConflict false) (),
        .transaction policy room id false (failing fault true) ()]
      let total := standing .transaction
        (.ofMeasurements (calls.flatMap (·.account.measurements)).reverse)
      (∃ gain, Balanced .transaction id gain
        ((transaction policy id false).run (failing someConflict false) ())) ∧
      total = { attempts := 3, conflicts := 2, exhausted := 1 } ∧
      total.attempts = total.conflicts + total.fatal + ended .transaction .success calls +
        ended .transaction .crash calls + ended .transaction .failureInVain calls := by
  intro policy fault
  refine ⟨by decide +kernel, ?_⟩
  intro calls total
  obtain ⟨hcall, -, hcalls⟩ :=
    @counters_balanced Unit Unit Failure Failure Unit _ _ policy (by decide +kernel) id
  exact ⟨hcall false _ (), by decide +kernel, hcalls calls _ (List.reverse_perm _) .transaction⟩

end StoreClient.Retry
