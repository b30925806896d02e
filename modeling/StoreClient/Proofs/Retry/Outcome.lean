import StoreClient.Proofs.Retry.Course

/-!
# The outcome of a call

While nobody gives up and nothing crashes, a call is decided by what its attempts come to. It ends
as the first attempt ends that is no conflict, or with the budget spent if there is none within the
budget. Between two attempts it waits once, and it does nothing else.

## Main definitions

* `Turn`, `Turn.outcome`, `Turn.acts` — what store and work do in an attempt, what this comes to,
  and what is asked of them.
* `scripted` — surroundings that take one turn after the other.
* `Act`, `Run.acts` — what a call asks of its surroundings.
* `actsFrom` — attempts one after the other with a wait between.
-/

namespace StoreClient.Retry

variable {σ τ ρ ε α : Type}

/-! ## Turns -/

/-- What store and work do in an attempt, as far as it gets. -/
structure Turn (τ ρ ε α : Type) where
  /-- The transaction, or why none is opened. -/
  begin : Except ρ τ
  /-- How the work ends. -/
  work : Except ε α
  /-- How the commit ends. -/
  commit : Except ρ Unit
  /-- How the rollback ends. -/
  rollback : Except ρ Unit

/-- What a call asks of its surroundings. -/
inductive Act (τ : Type) where
  /-- To open a transaction. -/
  | begin
  /-- To do the work in a transaction. -/
  | work (tx : τ)
  /-- To commit a transaction. -/
  | commit (tx : τ)
  /-- To roll a transaction back. -/
  | rollback (tx : τ)
  /-- To run a single statement. -/
  | exec (statement : String)
  /-- To wait. -/
  | wait
deriving DecidableEq, Repr

/-- What is asked by an entry, if anything is. -/
def Entry.act? : Entry τ ρ ε α → Option (Act τ)
  | .began _ => some .begin
  | .worked tx _ => some (.work tx)
  | .called (.commit tx) _ => some (.commit tx)
  | .called (.rollback tx) _ => some (.rollback tx)
  | .called (.exec statement) _ => some (.exec statement)
  | .waited _ _ => some .wait
  | .reported _ | .drew _ _ => none

/-- Whether a transaction is asked for. -/
def Act.isBegin : Act τ → Bool
  | .begin => true
  | _ => false

/-- Whether a wait is asked for. -/
def Act.isWait : Act τ → Bool
  | .wait => true
  | _ => false

namespace Run

/-- What a run asks of its surroundings, in order. -/
def acts (r : Run σ τ ρ ε α) : List (Act τ) := r.transcript.filterMap Entry.act?

/-- How many transactions a run asks for. -/
def begins (r : Run σ τ ρ ε α) : Nat := r.acts.countP Act.isBegin

/-- How many times a run waits. -/
def waits (r : Run σ τ ρ ε α) : Nat := r.acts.countP Act.isWait

end Run

namespace Turn

/-- What an attempt comes to. Only work and commit can be in conflict. -/
def outcome [Reported ε] (convert : ρ → ε) (turn : Turn τ ρ ε α) : Judgement ε α :=
  match turn.begin with
  | .error e => .fatal (.begin (convert e))
  | .ok _ =>
    match turn.work with
    | .error e => if (failure e).isConflict then .conflict e else .fatal (.fatal e)
    | .ok value =>
      match turn.commit with
      | .error e =>
        if (failure (convert e)).isConflict then .conflict (convert e)
        else .fatal (.commit (convert e))
      | .ok () => .success value

/-- What an attempt asks for. -/
def acts (turn : Turn τ ρ ε α) : List (Act τ) :=
  match turn.begin, turn.work, turn.commit with
  | .error _, _, _ => [.begin]
  | .ok tx, .error _, _ => [.begin, .work tx, .rollback tx]
  | .ok tx, .ok _, .error _ => [.begin, .work tx, .commit tx, .rollback tx]
  | .ok tx, .ok _, .ok _ => [.begin, .work tx, .commit tx]

end Turn

/-- The ending that an attempt gives to its call, unless it is a conflict. -/
def Judgement.ending? : Judgement ε α → Option (Ending (RetryError ε) α)
  | .success value => some (.ok value)
  | .conflict _ => none
  | .fatal error => some (.error error)

/-- An attempt that ends its call is no conflict. -/
theorem Judgement.isConflict_of_ending? {judgement : Judgement ε α}
    {ending : Ending (RetryError ε) α} (h : judgement.ending? = some ending) :
    judgement.isConflict = false := by
  cases judgement with
  | success | fatal => rfl
  | conflict => simp [ending?] at h

/-- What the attempt with this number asks for, and so many after it, with a wait between two. -/
def actsFrom (turns : Nat → Turn τ ρ ε α) (number : Nat) : Nat → List (Act τ)
  | 0 => (turns number).acts
  | more + 1 => (turns number).acts ++ .wait :: actsFrom turns (number + 1) more

theorem Turn.countP_isBegin_acts (turn : Turn τ ρ ε α) : turn.acts.countP Act.isBegin = 1 := by
  simp only [acts]
  split <;> rfl

theorem Turn.countP_isWait_acts (turn : Turn τ ρ ε α) : turn.acts.countP Act.isWait = 0 := by
  simp only [acts]
  split <;> rfl

/-- Every attempt asks for one transaction. -/
theorem countP_isBegin_actsFrom (turns : Nat → Turn τ ρ ε α) (number more : Nat) :
    (actsFrom turns number more).countP Act.isBegin = more + 1 := by
  induction more generalizing number with
  | zero => exact (turns number).countP_isBegin_acts
  | succ more ih =>
      rw [actsFrom, List.countP_append, (turns number).countP_isBegin_acts,
        List.countP_cons_of_neg (by simp [Act.isBegin]), ih, Nat.add_comm]

/-- There is one wait less than attempts. -/
theorem countP_isWait_actsFrom (turns : Nat → Turn τ ρ ε α) (number more : Nat) :
    (actsFrom turns number more).countP Act.isWait = more := by
  induction more generalizing number with
  | zero => exact (turns number).countP_isWait_acts
  | succ more ih =>
      rw [actsFrom, List.countP_append, (turns number).countP_isWait_acts,
        List.countP_cons_of_pos rfl, ih, Nat.zero_add]

/-! ## Scripted surroundings -/

/-- A reply to a caller who has not given up. -/
def Reply.ofExcept (result : Except ε α) : Reply ε α :=
  match result with
  | .ok value => ⟨.ok value, false⟩
  | .error e => ⟨.error e, false⟩

namespace Reply

variable {result : Except ε α} {cancelled : Bool}

@[simp] theorem ofExcept_eq_ok {value : α} :
    ofExcept result = ⟨.ok value, cancelled⟩ ↔ result = .ok value ∧ cancelled = false := by
  cases result <;> simp [ofExcept, eq_comm]

@[simp] theorem ofExcept_eq_error {e : ε} :
    ofExcept result = ⟨.error e, cancelled⟩ ↔ result = .error e ∧ cancelled = false := by
  cases result <;> simp [ofExcept, eq_comm]

@[simp] theorem ofExcept_ne_crash {cause : Crash} :
    ofExcept result ≠ ⟨.crash cause, cancelled⟩ := by
  cases result <;> simp [ofExcept]

end Reply

@[simp] theorem Upshot.released_ofExcept (upshot : Upshot ε α) (result : Except ρ Unit) :
    upshot.released (.ofExcept result) = upshot.since false := by
  cases result <;> rfl

/-- Surroundings that take one turn after the other. Nothing crashes and nobody gives up. The state
is the number of the attempt. -/
def scripted (turns : Nat → Turn τ ρ ε α) (draws : Nat → Nat) : Surroundings Nat τ ρ ε α where
  begin number := (.ofExcept (turns (number + 1)).begin, number + 1)
  call
    | .commit _, number => (.ofExcept (turns number).commit, number)
    | .rollback _, number => (.ofExcept (turns number).rollback, number)
    | .exec _, number => (.ofExcept (.ok ()), number)
  work _ number := (.ofExcept (turns number).work, number)
  draw _ number := (draws number, number)
  wait _ number := (false, number)

section Scripted

variable (turns : Nat → Turn τ ρ ε α) (draws : Nat → Nat) (number : Nat) (tx : τ)

@[simp] theorem begin_scripted : (scripted turns draws).begin number =
    (.ofExcept (turns (number + 1)).begin, number + 1) := rfl

@[simp] theorem work_scripted : (scripted turns draws).work tx number =
    (.ofExcept (turns number).work, number) := rfl

@[simp] theorem commit_scripted : (scripted turns draws).call (.commit tx) number =
    (.ofExcept (turns number).commit, number) := rfl

@[simp] theorem rollback_scripted : (scripted turns draws).call (.rollback tx) number =
    (.ofExcept (turns number).rollback, number) := rfl

@[simp] theorem draw_scripted (bound : Nat) : (scripted turns draws).draw bound number =
    (draws number, number) := rfl

@[simp] theorem wait_scripted (pause : Pause) : (scripted turns draws).wait pause number =
    (false, number) := rfl

end Scripted

section Replied

variable {turns : Nat → Turn τ ρ ε α} {draws : Nat → Nat} {number after : Nat} {tx : τ}
  {reply : Reply ρ Unit} {t : List (Entry τ ρ ε α)}

theorem replied_began {reply : Reply ρ τ} :
    (scripted turns draws).Replied number (.began reply :: t) after ↔
      .ofExcept (turns (number + 1)).begin = reply ∧
        (scripted turns draws).Replied (number + 1) t after := by
  simp [and_assoc]

theorem replied_worked {reply : Reply ε α} :
    (scripted turns draws).Replied number (.worked tx reply :: t) after ↔
      .ofExcept (turns number).work = reply ∧ (scripted turns draws).Replied number t after := by
  simp [and_assoc]

theorem replied_commit :
    (scripted turns draws).Replied number (.called (.commit tx) reply :: t) after ↔
      .ofExcept (turns number).commit = reply ∧ (scripted turns draws).Replied number t after := by
  simp [and_assoc]

/-- The surroundings see the rollback only, not the report. -/
theorem replied_rollback [Reported ρ] :
    (scripted turns draws).Replied number (rollback tx reply) after ↔
      .ofExcept (turns number).rollback = reply ∧ after = number := by
  simp only [rollback]
  split <;> simp [eq_comm]

end Replied

@[simp] theorem filterMap_act?_rollback [Reported ρ] {tx : τ} {reply : Reply ρ Unit} :
    (rollback tx reply : List (Entry τ ρ ε α)).filterMap Entry.act? = [.rollback tx] := by
  simp only [rollback]
  split <;> simp [Entry.act?]

section

variable [Reported ρ] [Reported ε] {policy : Policy} {convert : ρ → ε}
  {turns : Nat → Turn τ ρ ε α} {draws : Nat → Nat} {made after : Nat} {backoff : Backoff}
  {t : List (Entry τ ρ ε α)} {upshot : Upshot ε α} {ending : Ending (RetryError ε) α}

/-- An attempt takes the next turn and comes to what this comes to. -/
theorem TransactionPass.played (h : TransactionPass convert t upshot)
    (hr : (scripted turns draws).Replied made t after) :
    after = made + 1 ∧ upshot = .judged false ((turns (made + 1)).outcome convert) ∧
      t.filterMap Entry.act? = (turns (made + 1)).acts := by
  cases h with
  | beginCrashed | workCrashed | commitCrashed => simp at hr
  | refused =>
      simp only [replied_began, Surroundings.replied_nil, Reply.ofExcept_eq_error] at hr
      obtain ⟨⟨hbegin, rfl⟩, hafter⟩ := hr
      exact ⟨hafter, by simp [Turn.outcome, hbegin], by simp [Turn.acts, hbegin, Entry.act?]⟩
  | committed =>
      simp only [replied_began, replied_worked, replied_commit, Surroundings.replied_nil,
        Reply.ofExcept_eq_ok] at hr
      obtain ⟨⟨hbegin, rfl⟩, ⟨hwork, rfl⟩, ⟨hcommit, rfl⟩, hafter⟩ := hr
      exact ⟨hafter, by simp [Turn.outcome, hbegin, hwork, hcommit],
        by simp [Turn.acts, hbegin, hwork, hcommit, Entry.act?]⟩
  | workFailed reply =>
      simp only [replied_began, replied_worked, replied_rollback, Reply.ofExcept_eq_ok,
        Reply.ofExcept_eq_error] at hr
      obtain ⟨⟨hbegin, rfl⟩, ⟨hwork, rfl⟩, rfl, hafter⟩ := hr
      exact ⟨hafter, by simp [Turn.outcome, hbegin, hwork, judge_error, Upshot.since],
        by simp [Turn.acts, hbegin, hwork, Entry.act?]⟩
  | commitFailed reply =>
      simp only [replied_began, replied_worked, replied_commit, replied_rollback,
        Reply.ofExcept_eq_ok, Reply.ofExcept_eq_error] at hr
      obtain ⟨⟨hbegin, rfl⟩, ⟨hwork, rfl⟩, ⟨hcommit, rfl⟩, rfl, hafter⟩ := hr
      exact ⟨hafter, by simp [Turn.outcome, hbegin, hwork, hcommit, judge_error, Upshot.since],
        by simp [Turn.acts, hbegin, hwork, hcommit, Entry.act?]⟩

omit [Reported ρ] in
/-- The last attempt ends the call by itself, or as a conflict for which no attempt is left. -/
theorem Closes.played {judgement : Judgement ε α}
    (h : Closes policy made backoff (.judged false judgement) t ending) {x : Nat}
    (hr : (scripted turns draws).Replied x t after) :
    t.filterMap Entry.act? = [] ∧
      (judgement.ending? = some ending ∨ ∃ e, judgement = .conflict e ∧
        policy.maxRetries.toNat < made ∧
        ending = .error (.exhausted made policy.maxRetries.toNat e)) := by
  cases h with
  | succeeded =>
      refine ⟨?_, .inl rfl⟩
      simp only [recovery]
      split <;> rfl
  | failed => exact ⟨rfl, .inl rfl⟩
  | exhausted spent => exact ⟨rfl, .inr ⟨_, rfl, spent, rfl⟩⟩
  | cutShort => simp [backingOff] at hr

omit [Reported ρ] in
/-- Between two attempts the turn stays the same. -/
theorem replied_backingOff {e : ε} {n x y : Nat}
    (hr : (scripted turns draws).Replied x (backingOff policy made backoff e n false) y) :
    y = x := by
  have hnext : draws x = n ∧ x = y := by simpa [backingOff] using hr
  exact hnext.2.symm

/-- That many more attempts follow the one that is next: all of them but the last are conflicts, and
the last one ends the call. -/
structure Played (policy : Policy) (convert : ρ → ε) (turns : Nat → Turn τ ρ ε α) (made more : Nat)
    (t : List (Entry τ ρ ε α)) (ending : Ending (RetryError ε) α) : Prop where
  /-- The attempts are within the budget. -/
  within : made + more ≤ policy.maxRetries.toNat
  /-- Nothing is asked for but the attempts, and the waits between them. -/
  acts : t.filterMap Entry.act? = actsFrom turns (made + 1) more
  /-- Before the last one there are conflicts only. -/
  conflicts : ∀ i, made < i → i ≤ made + more → ((turns i).outcome convert).isConflict = true
  /-- The last attempt ends the call by itself, or as a conflict for which no attempt is left. -/
  ends : ((turns (made + more + 1)).outcome convert).ending? = some ending ∨
    ∃ e, (turns (made + more + 1)).outcome convert = .conflict e ∧
      made + more = policy.maxRetries.toNat ∧
      ending = .error (.exhausted (made + more + 1) policy.maxRetries.toNat e)

theorem Course.played (below : policy.maxRetries.toNat < Policy.counterLimit)
    (h : Course policy (TransactionPass convert) made backoff t ending)
    (hmade : made ≤ policy.maxRetries.toNat)
    (hr : (scripted turns draws).Replied made t after) :
    ∃ more, Played policy convert turns made more t ending := by
  -- The state of the surroundings stays the number of attempts made.
  induction h with
  | full => omega
  | @last made backoff front back upshot ending room pass closes =>
      simp only [Surroundings.replied_cons, Surroundings.makes_reported,
        Surroundings.replied_append, exists_eq_left] at hr
      obtain ⟨_, hfront, hback⟩ := hr
      obtain ⟨rfl, rfl, hacts⟩ := pass.played hfront
      obtain ⟨hnone, hends⟩ := closes.played hback
      refine ⟨0, hmade, ?_, fun i hi hle => by omega, ?_⟩
      · rw [List.filterMap_cons_none rfl, List.filterMap_append, hacts, hnone, List.append_nil]
        rfl
      · rcases hends with hends | ⟨e, hconflict, spent, hending⟩
        · exact .inl hends
        · exact .inr ⟨e, hconflict, by omega, hending⟩
  | @again made backoff front rest e n ending room pass spare _ ih =>
      simp only [Surroundings.replied_cons, Surroundings.makes_reported,
        Surroundings.replied_append, exists_eq_left] at hr
      obtain ⟨_, hfront, _, hback, hrest⟩ := hr
      obtain ⟨rfl, hupshot, hacts⟩ := pass.played hfront
      obtain rfl := replied_backingOff hback
      obtain ⟨more, played⟩ := ih spare hrest
      have hconflict : (turns (made + 1)).outcome convert = .conflict e := by
        injection hupshot with _ hjudgement
        exact hjudgement.symm
      have hnumber : made + 1 + more = made + (more + 1) := by omega
      refine ⟨more + 1, ?_, ?_, fun i hi hle => ?_, ?_⟩
      · rw [← hnumber]
        exact played.within
      · rw [List.filterMap_cons_none rfl, List.filterMap_append, List.filterMap_append, hacts,
          played.acts]
        rfl
      · by_cases hfirst : i = made + 1
        · rw [hfirst, hconflict]
          rfl
        · exact played.conflicts i (by omega) (by omega)
      · rw [← hnumber]
        exact played.ends

theorem Conduct.played (valid : policy.fault? = none)
    (below : policy.maxRetries.toNat < Policy.counterLimit)
    (h : Conduct policy false (TransactionPass convert) t ending)
    (hr : (scripted turns draws).Replied 0 t after) :
    ∃ more, Played policy convert turns 0 more t ending := by
  cases h with
  | refused invalid => simp [valid] at invalid
  | unwanted _ given => simp at given
  | attempted _ _ course => exact course.played below (Nat.zero_le _) hr

omit [Reported ρ] in
/-- A first attempt that is no conflict is the last one, if the budget reaches so far. -/
theorem Played.of_first {more k : Nat} (h : Played policy convert turns 0 more t ending)
    (hk : 1 ≤ k) (hbudget : k ≤ policy.maxRetries.toNat + 1)
    (hbefore : ∀ i, 1 ≤ i → i < k → ((turns i).outcome convert).isConflict = true)
    (hfirst : ((turns k).outcome convert).isConflict = false) :
    more + 1 = k ∧ ((turns k).outcome convert).ending? = some ending := by
  obtain ⟨-, -, hconflicts, hends⟩ := h
  rw [Nat.zero_add] at hconflicts hends
  rcases Nat.lt_trichotomy k (more + 1) with hlt | rfl | hgt
  · have hconflict := hconflicts k hk (by omega)
    simp [hconflict] at hfirst
  · rcases hends with hends | ⟨e, hconflict, -⟩
    · exact ⟨rfl, hends⟩
    · simp [hconflict] at hfirst
  · rcases hends with hends | ⟨e, -, hspent, -⟩
    · have hconflict := hbefore (more + 1) (by omega) hgt
      simp [Judgement.isConflict_of_ending? hends] at hconflict
    · omega

omit [Reported ρ] in
/-- If all attempts that a call has are conflicts, it makes them all. -/
theorem Played.of_all {more : Nat} (h : Played policy convert turns 0 more t ending)
    (hall : ∀ i, 1 ≤ i → i ≤ policy.maxRetries.toNat + 1 →
      ((turns i).outcome convert).isConflict = true) :
    more = policy.maxRetries.toNat ∧ ∃ last, (turns (more + 1)).outcome convert = .conflict last ∧
      ending = .error (.exhausted (more + 1) policy.maxRetries.toNat last) := by
  obtain ⟨within, -, -, hends⟩ := h
  rw [Nat.zero_add] at within hends
  rcases hends with hends | ⟨e, hconflict, hspent, hending⟩
  · have hconflict := hall (more + 1) (by omega) (by omega)
    simp [Judgement.isConflict_of_ending? hends] at hconflict
  · exact ⟨hspent, e, hconflict, hending⟩

/-- **The outcome of a call.** A usable policy below the limit of the counter, and attempts in which
nothing crashes and nobody gives up: if the first attempt that is no conflict is within the budget,
the call makes attempts up to that one and ends as it does; if there is none, the call makes all
attempts that it has and ends with the error of the last. It asks for nothing but the attempts, one
after the other, and one wait between two. -/
theorem ends_as_first_unconflicted (policy : Policy) (valid : policy.fault? = none)
    (below : policy.maxRetries.toNat < Policy.counterLimit) (convert : ρ → ε)
    (turns : Nat → Turn τ ρ ε α) (draws : Nat → Nat) :
    let r := (transaction policy convert false).run (scripted turns draws) 0
    let outcome (i : Nat) := (turns i).outcome convert
    (∀ k, 1 ≤ k → k ≤ policy.maxRetries.toNat + 1 →
      (∀ i, 1 ≤ i → i < k → (outcome i).isConflict = true) → (outcome k).isConflict = false →
      r.begins = k ∧ (outcome k).ending? = some r.ending) ∧
    ((∀ i, 1 ≤ i → i ≤ policy.maxRetries.toNat + 1 → (outcome i).isConflict = true) →
      r.begins = policy.maxRetries.toNat + 1 ∧
      ∃ last, outcome (policy.maxRetries.toNat + 1) = .conflict last ∧
        r.ending = .error
          (.exhausted (policy.maxRetries.toNat + 1) policy.maxRetries.toNat last)) ∧
    r.waits + 1 = r.begins ∧ r.acts = actsFrom turns 1 r.waits := by
  intro r outcome
  obtain ⟨more, played⟩ : ∃ more, Played policy convert turns 0 more r.transcript r.ending :=
    (conduct_transaction policy convert false (scripted turns draws) 0).played valid below
      (Surroundings.replied_run _ _ _)
  have hacts : r.acts = actsFrom turns 1 more := played.acts
  have hbegins : r.begins = more + 1 := by rw [Run.begins, hacts, countP_isBegin_actsFrom]
  have hwaits : r.waits = more := by rw [Run.waits, hacts, countP_isWait_actsFrom]
  refine ⟨fun k hk hbudget hbefore hfirst => ?_, fun hall => ?_, ?_, ?_⟩
  · rw [hbegins]
    exact played.of_first hk hbudget hbefore hfirst
  · obtain ⟨hspent, last, hconflict, hending⟩ := played.of_all hall
    rw [hbegins, ← hspent]
    rw [← hspent] at hending
    exact ⟨rfl, last, hconflict, hending⟩
  · rw [hbegins, hwaits]
  · rw [hacts, hwaits]

end

/-- A transaction that opens and closes well, with this end of the work and of the commit. -/
def Turn.plain (work : Except Failure Nat) (commit : Except Failure Unit) :
    Turn Nat Failure Failure Nat :=
  { begin := .ok 0, work, commit, rollback := .ok () }

/-- After a conflict of the work and one of the commit, a call succeeds with its third attempt. -/
theorem ends_as_third_turn :
    let conflict : Failure := { code := some mutationConflict, message := "conflict" }
    let policy : Policy := { maxRetries := 2 }
    let turns : Nat → Turn Nat Failure Failure Nat
      | 1 => .plain (.error conflict) (.ok ())
      | 2 => .plain (.ok 5) (.error conflict)
      | _ => .plain (.ok 7) (.ok ())
    let r := (transaction policy id false).run (scripted turns fun _ => 0) 0
    policy.fault? = none ∧ policy.maxRetries.toNat < Policy.counterLimit ∧
      r.begins = 3 ∧ r.ending = .ok 7 := by
  intro conflict policy turns r
  have valid : policy.fault? = none := by decide +kernel
  have below : policy.maxRetries.toNat < Policy.counterLimit := by decide
  obtain ⟨hfirst, -⟩ := ends_as_first_unconflicted policy valid below id turns fun _ => 0
  have hbefore : ∀ i, 1 ≤ i → i < 3 → ((turns i).outcome id).isConflict = true := by
    intro i hi hlt
    obtain rfl | rfl : i = 1 ∨ i = 2 := by omega
    · decide +kernel
    · decide +kernel
  obtain ⟨hbegins, hending⟩ := hfirst 3 (by decide) (by decide) hbefore rfl
  exact ⟨valid, below, hbegins, (Option.some.inj hending).symm⟩

end StoreClient.Retry
