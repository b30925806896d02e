import Mathlib.Algebra.BigOperators.Group.Finset.Basic
import Mathlib.Algebra.Group.Int.Defs
import Mathlib.Data.Fintype.Basic
import StoreClient.Proofs.Retry.Course

/-!
# Calls that contend for a store

Several retried calls work on one ledger, which lets the first committer win: a transaction starts
from a snapshot, and it can be committed only if nobody else has committed since. Each call adds an
amount of its own. However the steps of the calls are interleaved, once all calls are over the
ledger has taken each amount once if its call succeeded, and not at all if it did not.

The argument follows the place at which each call stands, which its entries so far determine. An
invariant ties the ledger to these places.

## Main definitions

* `Procedure.step?` — the first thing that a procedure asks for, answered.
* `Ledger` — a store that lets the first committer win.
* `Contest`, `Contest.run` — calls that work on one ledger, and a schedule of their steps.
* `Stand` — the place at which a call stands with its transaction.
* `Accounts` — the ledger contains what the calls have committed.
-/

namespace StoreClient.Retry

section

variable {σ τ ρ ε α : Type}

/-! ## Step by step -/

namespace Procedure

/-- The first thing that a procedure asks for, answered: the entry which that makes, what remains of
the procedure, and the surroundings afterwards. Nothing remains of a procedure that is over. -/
def step? (s : Surroundings σ τ ρ ε α) :
    Procedure τ ρ ε α → σ → Option (Entry τ ρ ε α × Procedure τ ρ ε α × σ)
  | .finish _, _ => none
  | .report event rest, x => some (.reported event, rest, x)
  | .begin resume, x =>
    let (reply, y) := s.begin x
    some (.began reply, resume reply, y)
  | .call target resume, x =>
    let (reply, y) := s.call target x
    some (.called target reply, resume reply, y)
  | .work tx resume, x =>
    let (reply, y) := s.work tx x
    some (.worked tx reply, resume reply, y)
  | .draw bound resume, x =>
    let (n, y) := s.draw bound x
    some (.drew bound n, resume n, y)
  | .wait pause resume, x =>
    let (cancelled, y) := s.wait pause x
    some (.waited pause cancelled, resume cancelled, y)

/-- How a procedure has ended, if it is over. -/
def ending? : Procedure τ ρ ε α → Option (Ending (RetryError ε) α)
  | .finish ending => some ending
  | _ => none

variable {s : Surroundings σ τ ρ ε α} {p q : Procedure τ ρ ε α} {x y : σ} {e : Entry τ ρ ε α}

theorem eq_finish_of_ending? {ending : Ending (RetryError ε) α} (h : p.ending? = some ending) :
    p = .finish ending := by
  cases p with
  | finish => exact congrArg _ (Option.some.inj h)
  | report | begin | call | work | draw | wait => contradiction

/-- A step is an answer of the surroundings, and what remains of the procedure goes on from it. -/
theorem makes_of_step? (h : p.step? s x = some (e, q, y)) :
    s.Makes x e y ∧ ∀ t ending, q.Leaves t ending → p.Leaves (e :: t) ending := by
  cases p with
  | finish => contradiction
  | report | begin | call | work | draw | wait =>
      obtain ⟨rfl, rfl, rfl⟩ := by simpa only [step?, Option.some.injEq, Prod.mk.injEq] using h
      exact ⟨by constructor, fun t ending hq => by constructor; exact hq⟩

end Procedure

/-! ## Where a call stands -/

/-- Where a call stands with its transaction. -/
inductive Stand (τ : Type) where
  /-- It has no transaction that it could commit. -/
  | idle
  /-- It has a transaction in which the work is done, or is still to be done. -/
  | holding (tx : τ) (done : Bool)
  /-- It has committed. -/
  | settled
deriving DecidableEq, Repr

/-- Where a call stands that ends so. -/
def Stand.ofValue : Option α → Stand τ
  | some _ => .settled
  | none => .idle

variable [DecidableEq τ]

/-- Where a call stands after an entry, if the entry is allowed. -/
def Stand.next? : Stand τ → Entry τ ρ ε α → Option (Stand τ)
  | stand, .reported _ => some stand
  | .idle, .drew _ _ | .idle, .waited _ _ | .idle, .called (.rollback _) _ => some .idle
  | .idle, .began begun =>
    match begun.ending with
    | .ok tx => some (.holding tx false)
    | _ => some .idle
  | .holding tx false, .worked other worked =>
    if other = tx then
      match worked.ending with
      | .ok _ => some (.holding tx true)
      | _ => some .idle
    else none
  | .holding tx true, .called (.commit other) committed =>
    if other = tx then
      match committed.ending with
      | .ok _ => some .settled
      | _ => some .idle
    else none
  | _, _ => none

/-- Where a call stands after a transcript, if all its entries are allowed. -/
def Stand.after? (stand : Stand τ) (t : List (Entry τ ρ ε α)) : Option (Stand τ) :=
  t.foldlM Stand.next? stand

namespace Stand

variable {stand : Stand τ} {t u : List (Entry τ ρ ε α)}

@[simp] theorem after?_nil : stand.after? ([] : List (Entry τ ρ ε α)) = some stand := rfl

@[simp] theorem after?_cons (e : Entry τ ρ ε α) :
    stand.after? (e :: t) = (stand.next? e).bind fun next => next.after? t := rfl

theorem after?_append : stand.after? (t ++ u) = (stand.after? t).bind fun next => next.after? u :=
  List.foldlM_append

@[simp] theorem next?_reported (event : Event) :
    stand.next? (.reported event : Entry τ ρ ε α) = some stand := by
  cases stand <;> rfl

variable {next : Stand τ} {tx : τ}

/-- A transaction is begun by a call that has none. -/
theorem eq_of_next?_began {begun : Reply ρ τ}
    (h : stand.next? (.began begun : Entry τ ρ ε α) = some next) (given : begun.ending = .ok tx) :
    stand = .idle ∧ next = .holding tx false := by
  cases stand with
  | idle => simpa [next?, given, eq_comm] using h
  | holding _ done => cases done <;> contradiction
  | settled => contradiction

/-- The work runs in the transaction that its call has. -/
theorem eq_of_next?_worked {worked : Reply ε α} {value : α}
    (h : stand.next? (.worked tx worked : Entry τ ρ ε α) = some next)
    (done : worked.ending = .ok value) : stand = .holding tx false ∧ next = .holding tx true := by
  match stand, h with
  | .holding other false, h =>
      by_cases heq : tx = other
      · subst heq
        simpa [next?, done, eq_comm] using h
      · simp [next?, heq] at h

/-- What is committed is the transaction in which the work is done. -/
theorem eq_of_next?_commit {committed : Reply ρ Unit}
    (h : stand.next? (.called (.commit tx) committed : Entry τ ρ ε α) = some next) :
    stand = .holding tx true ∧
      next = if committed.ending.value?.isSome then .settled else .idle := by
  match stand, h with
  | .holding other true, h =>
      by_cases heq : tx = other
      · subst heq
        obtain ⟨ending, c⟩ := committed
        cases ending <;> simpa [next?, Ending.value?, eq_comm] using h
      · simp [next?, heq] at h

/-- What only an idle call does leaves it idle. -/
theorem eq_idle_of_next? {e : Entry τ ρ ε α} (h : stand.next? e = some next)
    (hholding : ∀ tx done, (holding tx done).next? e = none)
    (hsettled : (settled : Stand τ).next? e = none)
    (hidle : (idle : Stand τ).next? e = some .idle) : stand = .idle ∧ next = .idle := by
  cases stand with
  | idle => exact ⟨rfl, Option.some.inj (h.symm.trans hidle)⟩
  | holding tx done =>
      rw [hholding] at h
      contradiction
  | settled =>
      rw [hsettled] at h
      contradiction

theorem after?_rollback [Reported ρ] (tx : τ) (reply : Reply ρ Unit) :
    idle.after? (rollback tx reply : List (Entry τ ρ ε α)) = some .idle := by
  simp only [rollback, after?_cons, next?, Option.bind_some]
  split <;> simp

end Stand

section

variable [Reported ρ] [Reported ε] {policy : Policy} {convert : ρ → ε} {made : Nat}
  {backoff : Backoff} {upshot : Upshot ε α} {t : List (Entry τ ρ ε α)}
  {ending : Ending (RetryError ε) α}

/-- An attempt commits if it succeeds, and holds nothing otherwise. -/
theorem TransactionPass.stand (h : TransactionPass convert t upshot) :
    Stand.idle.after? t = some (.ofValue upshot.value?) := by
  cases h with
  | refused | beginCrashed => rfl
  | committed => simp [Stand.next?, Stand.ofValue, Upshot.value?]
  | workFailed reply | commitFailed reply =>
      rw [Upshot.value?_released (value?_judge_error _ _ _) reply]
      simp [Stand.next?, Stand.ofValue, Stand.after?_rollback]
  | workCrashed reply | commitCrashed reply =>
      rw [Upshot.value?_released rfl reply]
      simp [Stand.next?, Stand.ofValue, Stand.after?_rollback]

omit [Reported ρ] in
theorem Closes.stand (h : Closes policy made backoff upshot t ending) :
    (Stand.ofValue upshot.value?).after? t = some (.ofValue ending.value?) := by
  cases h with
  | crashed | failed | failedInVain | conflictInVain | exhausted | cutShort => rfl
  | succeeded =>
      simp only [recovery]
      split <;> rfl

theorem Course.stand (h : Course policy (TransactionPass convert) made backoff t ending) :
    Stand.idle.after? t = some (.ofValue ending.value?) := by
  induction h with
  | full => rfl
  | last _ pass closes =>
      rw [Stand.after?_cons, Stand.next?_reported, Option.bind_some, Stand.after?_append,
        pass.stand, Option.bind_some]
      exact closes.stand
  | again _ pass _ _ ih =>
      rw [Stand.after?_cons, Stand.next?_reported, Option.bind_some, Stand.after?_append,
        pass.stand, Option.bind_some]
      exact ih

theorem Conduct.stand {cancelled : Bool}
    (h : Conduct policy cancelled (TransactionPass convert) t ending) :
    Stand.idle.after? t = some (.ofValue ending.value?) := by
  cases h with
  | refused | unwanted => rfl
  | attempted _ _ course => exact course.stand

end

/-- Whatever a procedure can still do is allowed where its call stands, and the call ends in success
if and only if it has committed by then. -/
def Procedure.StandsAt (p : Procedure τ ρ ε α) (stand : Stand τ) : Prop :=
  ∀ t ending, p.Leaves t ending → stand.after? t = some (.ofValue ending.value?)

theorem standsAt_transaction [Reported ρ] [Reported ε] (policy : Policy) (convert : ρ → ε)
    (cancelled : Bool) :
    (transaction policy convert cancelled : Procedure τ ρ ε α).StandsAt .idle := by
  intro t ending h
  have hconduct : Conduct policy cancelled (TransactionPass convert) t ending :=
    conduct_of_leaves (passes_transactionAttempt convert) h
  exact hconduct.stand

theorem Procedure.StandsAt.eq_ofValue {stand : Stand τ} {ending : Ending (RetryError ε) α}
    (h : (finish ending : Procedure τ ρ ε α).StandsAt stand) : stand = .ofValue ending.value? :=
  Option.some.inj (h [] ending .finish)

/-- After a step the call stands where the entry leads. -/
theorem Procedure.StandsAt.step {s : Surroundings σ τ ρ ε α} {p q : Procedure τ ρ ε α} {x y : σ}
    {e : Entry τ ρ ε α} {stand : Stand τ} (h : p.StandsAt stand)
    (hstep : p.step? s x = some (e, q, y)) :
    ∃ next, stand.next? e = some next ∧ q.StandsAt next := by
  have hfuture (t ending) (hq : q.Leaves t ending) :
      (stand.next? e).bind (fun next => next.after? t) = some (.ofValue ending.value?) :=
    h _ _ ((makes_of_step? hstep).2 t ending hq)
  have hnext := hfuture _ _ (leaves_run s q y)
  obtain ⟨next, hnext, -⟩ := Option.bind_eq_some_iff.1 hnext
  refine ⟨next, hnext, fun t ending hq => ?_⟩
  have hafter := hfuture t ending hq
  rwa [hnext] at hafter

end

/-! ## A ledger -/

/-- What a transaction has before it: the balance as it would make it, and the version from which it
started. -/
structure Snapshot where
  /-- The version of the ledger from which the transaction started. -/
  version : Nat
  /-- The balance in the transaction. -/
  balance : Int
deriving DecidableEq, Repr

/-- A store with a single balance, which lets the first committer win. Transactions are known by
their numbers. -/
structure Ledger where
  /-- How many commits there have been. -/
  version : Nat := 0
  /-- The balance that was committed last. -/
  balance : Int := 0
  /-- The transactions that have been begun, in order. -/
  snapshots : List Snapshot := []
deriving DecidableEq, Repr

namespace Ledger

/-- How a commit fails that comes too late. -/
def conflict : Failure where
  code := some "40001"
  message := "ERROR: change conflicts with another transaction, please retry: (OC000)"

/-- Begins a transaction from what is committed. -/
def begin (l : Ledger) : Nat × Ledger :=
  (l.snapshots.length, { l with snapshots := l.snapshots ++ [⟨l.version, l.balance⟩] })

/-- Adds an amount to the balance in a transaction. -/
def add (l : Ledger) (tx : Nat) (amount : Int) : Ledger :=
  { l with snapshots := l.snapshots.modify tx fun s => { s with balance := s.balance + amount } }

/-- Commits a transaction if there was no commit since it was begun. -/
def commit (l : Ledger) (tx : Nat) : Ending Failure Unit × Ledger :=
  match l.snapshots[tx]?.filter (·.version = l.version) with
  | some s => (.ok (), { l with version := l.version + 1, balance := s.balance })
  | none => (.error conflict, l)

/-- The ledger as surroundings of a call whose work adds this amount. To roll back has no effect,
and whether the caller has given up by now and which number is drawn is laid down from outside. -/
def surroundings (amount : Int) (cancelled : Bool) (number : Nat) :
    Surroundings Ledger Nat Failure Failure Unit where
  begin l := let (tx, l) := l.begin; (⟨.ok tx, cancelled⟩, l)
  call target l :=
    match target with
    | .commit tx => let (ending, l) := l.commit tx; (⟨ending, cancelled⟩, l)
    | .rollback _ | .exec _ => (⟨.ok (), cancelled⟩, l)
  work tx l := (⟨.ok (), cancelled⟩, l.add tx amount)
  draw _ l := (number, l)
  wait _ l := (cancelled, l)

/-- A transaction, if it can still be committed, would change the balance by so much. -/
def Holds (l : Ledger) (tx : Nat) (change : Int) : Prop :=
  ∃ s, l.snapshots[tx]? = some s ∧ s.version ≤ l.version ∧
    (s.version = l.version → s.balance = l.balance + change)

variable {l : Ledger} {tx other : Nat} {change amount : Int}

theorem Holds.lt_length (h : l.Holds tx change) : tx < l.snapshots.length := by
  obtain ⟨s, hs, -⟩ := h
  exact (List.getElem?_eq_some_iff.1 hs).1

theorem holds_begin (l : Ledger) : l.begin.2.Holds l.begin.1 0 := by
  refine ⟨⟨l.version, l.balance⟩, ?_, Nat.le_refl _, fun _ => ?_⟩
  · exact List.getElem?_concat_length
  · exact (Int.add_zero _).symm

theorem Holds.begin (h : l.Holds tx change) : l.begin.2.Holds tx change := by
  have hlt := h.lt_length
  obtain ⟨s, hs, hversion⟩ := h
  refine ⟨s, ?_, hversion⟩
  rw [← hs]
  exact List.getElem?_append_left hlt

/-- To add changes the balance in that transaction. -/
theorem Holds.add_self (h : l.Holds tx change) : (l.add tx amount).Holds tx (change + amount) := by
  obtain ⟨s, hs, hle, hbalance⟩ := h
  refine ⟨{ s with balance := s.balance + amount }, ?_, hle, fun hversion => ?_⟩
  · simp [add, hs]
  · rw [hbalance hversion]
    exact Int.add_assoc ..

/-- To add changes no other transaction. -/
theorem Holds.add_of_ne (h : l.Holds tx change) (hne : tx ≠ other) :
    (l.add other amount).Holds tx change := by
  obtain ⟨s, hs, hversion⟩ := h
  refine ⟨s, ?_, hversion⟩
  simpa [add, hne.symm] using hs

/-- A commit that fails changes nothing. -/
theorem commit_of_ne_ok (h : (l.commit tx).1 ≠ .ok ()) : l.commit tx = (.error conflict, l) := by
  simp only [commit] at h ⊢
  cases hcurrent : l.snapshots[tx]?.filter (·.version = l.version) with
  | some s => simp [hcurrent] at h
  | none => rfl

/-- A commit that succeeds makes the change of its transaction. Every other transaction has then
come too late. -/
theorem Holds.commit (h : l.Holds tx change) (hok : (l.commit tx).1 = .ok ()) :
    (l.commit tx).2.balance = l.balance + change ∧
      ∀ other change', l.Holds other change' → (l.commit tx).2.Holds other change' := by
  obtain ⟨s, hs, -, hbalance⟩ := h
  simp only [Ledger.commit, hs] at hok ⊢
  by_cases hversion : s.version = l.version
  · rw [Option.filter_some_pos (by simpa using hversion)]
    refine ⟨hbalance hversion, ?_⟩
    rintro other change' ⟨s', hs', hle, -⟩
    refine ⟨s', hs', Nat.le_succ_of_le hle, fun heq => ?_⟩
    have heq : s'.version = l.version + 1 := heq
    omega
  · simp [Option.filter, hversion] at hok

/-- What a step of a call whose work adds this amount does to a ledger, and where it leads the
call. -/
inductive Turn (amount : Int) (l : Ledger) : Stand Nat → Stand Nat → Ledger → Prop
  /-- It changes nothing. -/
  | stays (stand : Stand Nat) : Turn amount l stand stand l
  /-- The call begins a transaction. -/
  | begins : Turn amount l .idle (.holding l.begin.1 false) l.begin.2
  /-- The work is done. -/
  | works (tx : Nat) : Turn amount l (.holding tx false) (.holding tx true) (l.add tx amount)
  /-- The transaction comes too late. -/
  | refuses (tx : Nat) : Turn amount l (.holding tx true) .idle l
  /-- The transaction is committed. -/
  | commits {tx : Nat} (ok : (l.commit tx).1 = .ok ()) :
      Turn amount l (.holding tx true) .settled (l.commit tx).2

/-- What a ledger answers to a call is one of the listed. -/
theorem turn_of_makes {cancelled : Bool} {number : Nat} {l' : Ledger}
    {e : Entry Nat Failure Failure Unit} {stand next : Stand Nat}
    (h : (surroundings amount cancelled number).Makes l e l') (hnext : stand.next? e = some next) :
    Turn amount l stand next l' := by
  cases h with
  | reported event =>
      obtain rfl := Option.some.inj ((Stand.next?_reported event).symm.trans hnext)
      exact .stays stand
  | began =>
      obtain ⟨rfl, rfl⟩ := Stand.eq_of_next?_began hnext rfl
      exact .begins
  | worked tx =>
      obtain ⟨rfl, rfl⟩ := Stand.eq_of_next?_worked hnext rfl
      exact .works tx
  | drew | waited =>
      obtain ⟨rfl, rfl⟩ :=
        Stand.eq_idle_of_next? hnext (fun _ done => by cases done <;> rfl) rfl rfl
      exact .stays .idle
  | called target =>
      cases target with
      | commit tx =>
          obtain ⟨rfl, rfl⟩ := Stand.eq_of_next?_commit hnext
          by_cases hok : (l.commit tx).1 = .ok ()
          · simpa [surroundings, hok, Ending.value?] using Turn.commits hok
          · simpa [surroundings, commit_of_ne_ok hok, Ending.value?] using Turn.refuses tx
      | rollback =>
          obtain ⟨rfl, rfl⟩ :=
            Stand.eq_idle_of_next? hnext (fun _ done => by cases done <;> rfl) rfl rfl
          exact .stays .idle
      | exec =>
          cases stand with
          | idle | settled => contradiction
          | holding _ done => cases done <;> contradiction

end Ledger

/-! ## Contests -/

/-- Calls that work on one ledger. -/
structure Contest (ι : Type) where
  /-- The ledger. -/
  ledger : Ledger
  /-- What each call has yet to do. -/
  calls : ι → Procedure Nat Failure Failure Unit

/-- A move of a schedule: one call makes its next step. -/
structure Move (ι : Type) where
  /-- The call that goes on. -/
  call : ι
  /-- Whether its caller has given up by the end of the step. -/
  cancelled : Bool := false
  /-- The number that comes out if one is drawn. -/
  number : Nat := 0
deriving DecidableEq, Repr

namespace Contest

variable {ι : Type}

/-- How a call has ended, if it is over. -/
def outcome (c : Contest ι) (i : ι) : Option (Ending (RetryError Failure) Unit) :=
  (c.calls i).ending?

/-- The balance that was committed last. -/
def balance (c : Contest ι) : Int := c.ledger.balance

/-- Before the first move: each call has its own policy, and its caller may have given up. -/
def start (policy : ι → Policy) (given : ι → Bool) (ledger : Ledger) : Contest ι where
  ledger := ledger
  calls i := transaction (policy i) id (given i)

variable [DecidableEq ι]

/-- Makes a move. A call that is over stays as it is. -/
def move (amount : ι → Int) (c : Contest ι) (m : Move ι) : Contest ι :=
  match (c.calls m.call).step? (Ledger.surroundings (amount m.call) m.cancelled m.number)
      c.ledger with
  | some (_, rest, ledger) => ⟨ledger, Function.update c.calls m.call rest⟩
  | none => c

/-- Makes the moves of a schedule. -/
def run (amount : ι → Int) (c : Contest ι) (moves : List (Move ι)) : Contest ι :=
  moves.foldl (move amount) c

end Contest

/-! ## Accounts -/

/-- What a call has added to a ledger where it stands. -/
def Stand.paid (amount : Int) : Stand Nat → Int
  | .settled => amount
  | _ => 0

variable {ι : Type} [Fintype ι] [DecidableEq ι] {amount : ι → Int} {initial : Int} {c : Contest ι}
  {stand : ι → Stand Nat}

/-- The books are in order: the ledger contains what the calls have committed and nothing else, and
each transaction that can still be committed would add the amount of its call and nothing else. -/
structure Accounts (amount : ι → Int) (initial : Int) (c : Contest ι) (stand : ι → Stand Nat) :
    Prop where
  /-- Every call goes on from where it stands. -/
  standing : ∀ i, (c.calls i).StandsAt (stand i)
  /-- The balance is what was there and what has been committed since. -/
  balance : c.ledger.balance = initial + ∑ i, (stand i).paid (amount i)
  /-- A transaction that is held changes the balance by what was done in it. -/
  held : ∀ i tx done, stand i = .holding tx done →
    c.ledger.Holds tx (if done then amount i else 0)
  /-- No two calls hold the same transaction. -/
  own : ∀ i j tx done done', stand i = .holding tx done → stand j = .holding tx done' → i = j

omit [DecidableEq ι] in
theorem accounts_start (amount : ι → Int) (policy : ι → Policy) (given : ι → Bool)
    (ledger : Ledger) :
    Accounts amount ledger.balance (Contest.start policy given ledger) fun _ => .idle := by
  refine ⟨fun i => standsAt_transaction (policy i) id (given i), ?_, by simp, by simp⟩
  simp [Contest.start, Stand.paid]

/-- Where one call goes on, only its own amount is added. -/
theorem sum_paid_update (i : ι) (next : Stand Nat) :
    ∑ j, (Function.update stand i next j).paid (amount j) =
      ∑ j, (stand j).paid (amount j) - (stand i).paid (amount i) + next.paid (amount i) := by
  have hothers : ∑ j ∈ Finset.univ.erase i, (Function.update stand i next j).paid (amount j) =
      ∑ j ∈ Finset.univ.erase i, (stand j).paid (amount j) := by
    refine Finset.sum_congr rfl fun j hj => ?_
    rw [Function.update_of_ne (Finset.ne_of_mem_erase hj)]
  rw [← Finset.add_sum_erase _ _ (Finset.mem_univ i), hothers, Function.update_self,
    ← Finset.add_sum_erase Finset.univ (fun j => (stand j).paid (amount j)) (Finset.mem_univ i)]
  omega

namespace Accounts

variable {i : ι} {rest : Procedure Nat Failure Failure Unit} {next : Stand Nat} {ledger : Ledger}

/-- The books stay in order if a step accounts for what it changes and leaves the others what they
hold. -/
theorem update (h : Accounts amount initial c stand) (hrest : rest.StandsAt next)
    (hbalance : ledger.balance =
      c.ledger.balance - (stand i).paid (amount i) + next.paid (amount i))
    (hothers : ∀ j tx done, j ≠ i → stand j = .holding tx done →
      ledger.Holds tx (if done then amount j else 0))
    (hown : ∀ tx done, next = .holding tx done → ledger.Holds tx (if done then amount i else 0) ∧
      ∀ j done', j ≠ i → stand j ≠ .holding tx done') :
    Accounts amount initial ⟨ledger, Function.update c.calls i rest⟩
      (Function.update stand i next) where
  standing j := by
    by_cases hj : j = i
    · subst hj
      simpa using hrest
    · simpa [hj] using h.standing j
  balance := by
    rw [sum_paid_update, hbalance, h.balance]
    omega
  held j tx done hheld := by
    by_cases hj : j = i
    · subst hj
      exact (hown tx done (by simpa using hheld)).1
    · exact hothers j tx done hj (by simpa [hj] using hheld)
  own j k tx done done' hheld hheld' := by
    by_cases hj : j = i <;> by_cases hk : k = i
    · rw [hj, hk]
    · subst hj
      have hnone := (hown tx done (by simpa using hheld)).2 k done' hk
      exact absurd (by simpa [hk] using hheld') hnone
    · subst hk
      have hnone := (hown tx done' (by simpa using hheld')).2 j done hj
      exact absurd (by simpa [hj] using hheld) hnone
    · exact h.own j k tx done done' (by simpa [hj] using hheld) (by simpa [hk] using hheld')

/-- A step of one call keeps the books in order. -/
theorem turn (h : Accounts amount initial c stand) (hrest : rest.StandsAt next)
    (hturn : Ledger.Turn (amount i) c.ledger (stand i) next ledger) :
    Accounts amount initial ⟨ledger, Function.update c.calls i rest⟩
      (Function.update stand i next) := by
  generalize hstand : stand i = here at hturn
  -- a transaction of the call is none of any other call
  have hown (tx : Nat) (done : Bool) (hheld : stand i = .holding tx done) (j : ι) (done' : Bool)
      (hj : j ≠ i) : stand j ≠ .holding tx done' :=
    fun hother => hj (h.own j i tx done' done hother hheld)
  cases hturn with
  | stays =>
      refine h.update hrest (by rw [hstand]; omega) (fun j tx done _ => h.held j tx done) ?_
      intro tx done hheld
      exact ⟨h.held i tx done (hstand.trans hheld), hown tx done (hstand.trans hheld)⟩
  | refuses tx =>
      exact h.update hrest (by simp [hstand, Stand.paid]) (fun j tx done _ => h.held j tx done)
        (by simp)
  | begins =>
      refine h.update hrest (by simp [hstand, Stand.paid, Ledger.begin])
        (fun j tx done _ hheld => (h.held j tx done hheld).begin) ?_
      intro tx done hheld
      obtain ⟨rfl, rfl⟩ := by simpa using hheld
      refine ⟨Ledger.holds_begin c.ledger, fun j done' _ hother => ?_⟩
      -- the number of a new transaction is that of no other
      have hlt := (h.held j _ done' hother).lt_length
      exact Nat.lt_irrefl _ hlt
  | works tx =>
      refine h.update hrest (by simp [hstand, Stand.paid, Ledger.add]) ?_ ?_
      · intro j other done hj hheld
        refine (h.held j other done hheld).add_of_ne ?_
        rintro rfl
        exact hown _ false hstand j done hj hheld
      · intro other done hheld
        obtain ⟨rfl, rfl⟩ := by simpa using hheld
        have hadded : (c.ledger.add tx (amount i)).Holds tx (0 + amount i) :=
          (h.held i tx false hstand).add_self
        exact ⟨by simpa using hadded, hown tx false hstand⟩
  | @commits tx ok =>
      obtain ⟨hbalance, hothers⟩ := (h.held i tx true hstand).commit ok
      refine h.update hrest ?_ (fun j other done _ hheld => hothers _ _ (h.held j other done hheld))
        (by simp)
      simp [hbalance, hstand, Stand.paid]

theorem move (h : Accounts amount initial c stand) (m : Move ι) :
    ∃ stand', Accounts amount initial (c.move amount m) stand' := by
  simp only [Contest.move]
  split
  next e rest ledger hstep =>
    obtain ⟨next, hnext, hrest⟩ := (h.standing m.call).step hstep
    have hmakes := (Procedure.makes_of_step? hstep).1
    exact ⟨_, h.turn hrest (Ledger.turn_of_makes hmakes hnext)⟩
  next => exact ⟨stand, h⟩

theorem run (h : Accounts amount initial c stand) (moves : List (Move ι)) :
    ∃ stand', Accounts amount initial (c.run amount moves) stand' := by
  induction moves generalizing c stand with
  | nil => exact ⟨stand, h⟩
  | cons m moves ih =>
      obtain ⟨stand', h'⟩ := h.move m
      exact ih h'

end Accounts

/-- **No update is lost or made twice.** However retried calls that work on one ledger are
interleaved, once all of them are over the balance is what it was and the amounts of exactly those
calls that ended in success. -/
theorem balance_of_contest (policy : ι → Policy) (given : ι → Bool) (amount : ι → Int)
    (ledger : Ledger) (moves : List (Move ι)) :
    let c := (Contest.start policy given ledger).run amount moves
    (∀ i, (c.outcome i).isSome) →
      c.balance = ledger.balance + ∑ i with c.outcome i = some (.ok ()), amount i := by
  intro c ended
  obtain ⟨stand, h⟩ := (accounts_start amount policy given ledger).run moves
  have hpaid (i : ι) : (stand i).paid (amount i) =
      if c.outcome i = some (.ok ()) then amount i else 0 := by
    obtain ⟨ending, hending⟩ := Option.isSome_iff_exists.1 (ended i)
    have hstanding : (c.calls i).StandsAt (stand i) := h.standing i
    rw [Procedure.eq_finish_of_ending? hending] at hstanding
    rw [hstanding.eq_ofValue, hending]
    cases ending with
    | ok => rfl
    | error | crash => rfl
  rw [Finset.sum_filter, ← Finset.sum_congr rfl fun i _ => hpaid i]
  exact h.balance

/-- Three calls that begin at the same time: the first commits, the second commits when it tries
again, and the caller of the third gives up. -/
theorem balance_of_contest_three_calls :
    let amount : Fin 3 → Int := fun i => 10 ^ i.val
    let schedule : List (Fin 3) :=
      [0, 1, 2, 0, 1, 2, 0, 1, 2, 0, 1, 2, 2, 2, 1, 1, 1, 1, 1, 1, 1, 1, 1, 1]
    let moves : List (Move (Fin 3)) := schedule.map fun i => { call := i, cancelled := i = 2 }
    let c := (Contest.start (fun _ => {}) (fun _ => false) { balance := 1000 }).run amount moves
    (∀ i, (c.outcome i).isSome) ∧ c.outcome 2 = some (.error .cancelled) ∧ c.balance = 1011 := by
  intro amount schedule moves c
  have ended : ∀ i, (c.outcome i).isSome := by decide +kernel
  have hcancelled : c.outcome 2 = some (.error .cancelled) := by decide +kernel
  have hsum : ∑ i with c.outcome i = some (.ok ()), amount i = 11 := by decide +kernel
  have hbalance := balance_of_contest (fun _ => {}) (fun _ => false) amount { balance := 1000 }
    moves ended
  rw [hsum] at hbalance
  exact ⟨ended, hcancelled, hbalance⟩

end StoreClient.Retry
