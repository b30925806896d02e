import StoreClient.Proofs.Retry.Course

/-!
# The life of a transaction

Every transaction that a retried call is given lives the same way: the work runs in it once, it is
committed once if the work succeeds, it is rolled back once if it was not committed, and nothing is
done with it afterwards. Transactions are lived through one by one. The next one is asked for, a
wait starts and the call ends only when none is open.

## Main definitions

* `Life` — the calls on one transaction.
* `Orderly` — the calls and waits of a call that lives through one transaction after the other.
* `opened`, `closed` — how many transactions have been given, and committed or rolled back.
-/

namespace StoreClient.Retry

variable {σ τ ρ ε α : Type}

/-- The calls on a transaction, from the first to the last. -/
inductive Life (tx : τ) : List (Entry τ ρ ε α) → Prop
  /-- The work is done and lasts. -/
  | committed {worked : Reply ε α} {value : α} {c : Bool} (done : worked.ending = .ok value) :
      Life tx [.worked tx worked, .called (.commit tx) ⟨.ok (), c⟩]
  /-- The work is not done. -/
  | undone {worked : Reply ε α} (released : Reply ρ Unit)
      (undone : ∀ value, worked.ending ≠ .ok value) :
      Life tx [.worked tx worked, .called (.rollback tx) released]
  /-- The work is done and does not last. -/
  | lost {worked : Reply ε α} {value : α} {committed : Reply ρ Unit} (released : Reply ρ Unit)
      (done : worked.ending = .ok value) (lost : committed.ending ≠ .ok ()) :
      Life tx [.worked tx worked, .called (.commit tx) committed, .called (.rollback tx) released]

/-- Calls and waits in which every transaction lives to its end before anything else is done. -/
inductive Orderly : List (Entry τ ρ ε α) → Prop
  /-- There is nothing left to do. -/
  | nil : Orderly []
  /-- A wait between transactions. -/
  | waited {pause : Pause} {cancelled : Bool} {rest : List (Entry τ ρ ε α)} (later : Orderly rest) :
      Orderly (.waited pause cancelled :: rest)
  /-- No transaction is given. -/
  | refused {begun : Reply ρ τ} {rest : List (Entry τ ρ ε α)} (none : ∀ tx, begun.ending ≠ .ok tx)
      (later : Orderly rest) : Orderly (.began begun :: rest)
  /-- A transaction is given and lives. -/
  | lived {begun : Reply ρ τ} {tx : τ} {life rest : List (Entry τ ρ ε α)}
      (given : begun.ending = .ok tx) (lives : Life tx life) (later : Orderly rest) :
      Orderly (.began begun :: (life ++ rest))

theorem Orderly.append {t u : List (Entry τ ρ ε α)} (ht : Orderly t) (hu : Orderly u) :
    Orderly (t ++ u) := by
  induction ht with
  | nil => exact hu
  | waited _ ih => exact .waited ih
  | refused none _ ih => exact .refused none ih
  | lived given lives _ ih =>
      rw [List.cons_append, List.append_assoc]
      exact .lived given lives ih

/-! ## Open transactions -/

namespace Entry

/-- Whether an entry gives a transaction. -/
def opens : Entry τ ρ ε α → Bool
  | .began ⟨.ok _, _⟩ => true
  | _ => false

/-- Whether an entry closes a transaction: a commit that succeeds does, and every rollback. -/
def closes : Entry τ ρ ε α → Bool
  | .called (.commit _) ⟨.ok _, _⟩ | .called (.rollback _) _ => true
  | _ => false

/-- Whether an entry asks for a transaction or is a wait. -/
def isBetween : Entry τ ρ ε α → Bool
  | .began _ | .waited _ _ => true
  | _ => false

/-- Whether an entry does something with a transaction. -/
def uses [DecidableEq τ] (tx : τ) : Entry τ ρ ε α → Bool
  | .worked other _ | .called (.commit other) _ | .called (.rollback other) _ => other = tx
  | _ => false

/-- Whether an entry gives this transaction. -/
def gives [DecidableEq τ] (tx : τ) : Entry τ ρ ε α → Bool
  | .began ⟨.ok other, _⟩ => other = tx
  | _ => false

section Began

variable {begun : Reply ρ τ} {tx : τ}

theorem opens_of_given (given : begun.ending = .ok tx) :
    (began begun : Entry τ ρ ε α).opens = true := by
  obtain ⟨ending, c⟩ := begun
  obtain rfl : ending = .ok tx := given
  rfl

theorem not_opens_of_refused (none : ∀ tx, begun.ending ≠ .ok tx) :
    (began begun : Entry τ ρ ε α).opens = false := by
  obtain ⟨ending, c⟩ := begun
  cases ending with
  | ok tx => exact absurd rfl (none tx)
  | error | crash => rfl

@[simp] theorem closes_began : (began begun : Entry τ ρ ε α).closes = false := rfl

variable [DecidableEq τ]

theorem gives_of_given (given : begun.ending = .ok tx) (other : τ) :
    (began begun : Entry τ ρ ε α).gives other = decide (tx = other) := by
  obtain ⟨ending, c⟩ := begun
  obtain rfl : ending = .ok tx := given
  rfl

theorem not_gives_of_refused (none : ∀ tx, begun.ending ≠ .ok tx) (other : τ) :
    (began begun : Entry τ ρ ε α).gives other = false := by
  obtain ⟨ending, c⟩ := begun
  cases ending with
  | ok tx => exact absurd rfl (none tx)
  | error | crash => rfl

end Began

end Entry

/-- How many transactions have been given. -/
def opened (t : List (Entry τ ρ ε α)) : Nat := t.countP Entry.opens

/-- How many transactions have been committed or rolled back. -/
def closed (t : List (Entry τ ρ ε α)) : Nat := t.countP Entry.closes

section Counts

variable (e : Entry τ ρ ε α) (t u : List (Entry τ ρ ε α))

@[simp] theorem opened_nil : opened ([] : List (Entry τ ρ ε α)) = 0 := rfl
@[simp] theorem closed_nil : closed ([] : List (Entry τ ρ ε α)) = 0 := rfl

theorem opened_cons : opened (e :: t) = opened t + if e.opens then 1 else 0 := List.countP_cons
theorem closed_cons : closed (e :: t) = closed t + if e.closes then 1 else 0 := List.countP_cons

@[simp] theorem opened_append : opened (t ++ u) = opened t + opened u := List.countP_append
@[simp] theorem closed_append : closed (t ++ u) = closed t + closed u := List.countP_append

variable {t}

theorem opened_eq_zero (h : ∀ e ∈ t, e.opens = false) : opened t = 0 :=
  List.countP_eq_zero.2 fun e he => by simp [h e he]

theorem closed_eq_zero (h : ∀ e ∈ t, e.closes = false) : closed t = 0 :=
  List.countP_eq_zero.2 fun e he => by simp [h e he]

end Counts

namespace Life

variable {tx : τ} {life front back : List (Entry τ ρ ε α)}

/-- A transaction is closed by the last call on it and by no other. -/
theorem closes_last (h : Life tx life) :
    ∃ init last, life = init ++ [last] ∧ last.closes = true ∧ ∀ e ∈ init, e.closes = false := by
  cases h with
  | committed | undone => exact ⟨[_], _, rfl, rfl, by simp [Entry.closes]⟩
  | @lost _ _ committed _ _ lost =>
      refine ⟨[_, _], _, rfl, rfl, ?_⟩
      obtain ⟨ending, c⟩ := committed
      cases ending with
      | ok => exact absurd rfl lost
      | error | crash => simp [Entry.closes]

/-- No call on a transaction asks for another, and none is a wait. -/
theorem not_between (h : Life tx life) :
    ∀ e ∈ life, e.opens = false ∧ e.isBetween = false := by
  cases h <;> simp [Entry.opens, Entry.isBetween]

theorem opened_eq (h : Life tx life) : opened life = 0 :=
  opened_eq_zero fun e he => (h.not_between e he).1

theorem closed_eq (h : Life tx life) : closed life = 1 := by
  obtain ⟨init, last, rfl, hlast, hinit⟩ := h.closes_last
  rw [closed_append, closed_eq_zero hinit, closed_cons, hlast]
  rfl

/-- Up to its last call a transaction stays open, and what follows is a call on it. -/
theorem open_of_append (h : Life tx (front ++ back)) (hback : back ≠ []) :
    opened front = 0 ∧ closed front = 0 ∧ back.head?.all Entry.isBetween = false := by
  obtain ⟨init, last, hsplit, -, hinit⟩ := h.closes_last
  have hconcat : front ++ back.dropLast ++ [back.getLast hback] = init ++ [last] := by
    rw [List.append_assoc, List.dropLast_concat_getLast, hsplit]
  obtain ⟨rfl, -⟩ := List.append_inj' hconcat rfl
  refine ⟨?_, ?_, ?_⟩
  · exact opened_eq_zero fun e he => (h.not_between e (List.mem_append_left _ he)).1
  · exact closed_eq_zero fun e he => hinit e (List.mem_append_left _ he)
  · obtain ⟨first, rest, rfl⟩ := List.exists_cons_of_ne_nil hback
    simp [(h.not_between first (by simp)).2]

end Life

namespace Orderly

variable {t front back : List (Entry τ ρ ε α)}

/-- At every point of orderly calls at most one transaction is open, and none is open where the next
one is asked for, where a wait starts and at the end. -/
theorem counts (h : Orderly t) (hsplit : t = front ++ back) :
    closed front ≤ opened front ∧ opened front ≤ closed front + 1 ∧
      (back.head?.all Entry.isBetween = true → opened front = closed front) := by
  induction h generalizing front with
  | nil =>
      obtain ⟨rfl, rfl⟩ := List.append_eq_nil_iff.1 hsplit.symm
      simp
  | @waited pause cancelled rest _ ih =>
      rcases List.cons_eq_append_iff.1 hsplit with ⟨rfl, rfl⟩ | ⟨front, rfl, hrest⟩
      · simp
      · have hquiet : opened (.waited pause cancelled :: front) = opened front ∧
            closed (.waited pause cancelled :: front) = closed front := ⟨rfl, rfl⟩
        rw [hquiet.1, hquiet.2]
        exact ih hrest
  | @refused begun rest none _ ih =>
      rcases List.cons_eq_append_iff.1 hsplit with ⟨rfl, rfl⟩ | ⟨front, rfl, hrest⟩
      · simp
      · have hquiet : opened (.began begun :: front) = opened front ∧
            closed (.began begun :: front) = closed front := by
          simp [opened_cons, closed_cons, Entry.not_opens_of_refused none]
        rw [hquiet.1, hquiet.2]
        exact ih hrest
  | @lived begun tx life rest given lives _ ih =>
      rcases List.cons_eq_append_iff.1 hsplit with ⟨rfl, rfl⟩ | ⟨front, rfl, hrest⟩
      · simp
      · have hopen : opened (.began begun :: front) = opened front + 1 ∧
            closed (.began begun :: front) = closed front := by
          simp [opened_cons, closed_cons, Entry.opens_of_given given]
        rw [hopen.1, hopen.2]
        rcases List.append_eq_append_iff.1 hrest with
          ⟨middle, rfl, hmiddle⟩ | ⟨middle, rfl, rfl⟩
        · -- the point lies behind this transaction
          obtain ⟨hle, hlt, hnone⟩ := ih hmiddle
          rw [opened_append, closed_append, lives.opened_eq, lives.closed_eq]
          refine ⟨by omega, by omega, fun hbetween => ?_⟩
          have heq := hnone hbetween
          omega
        · by_cases hmiddle : middle = []
          · -- the point lies right behind this transaction
            subst hmiddle
            rw [List.append_nil] at lives
            simp [lives.opened_eq, lives.closed_eq]
          · -- the point lies within this transaction
            obtain ⟨hopened, hclosed, hbetween⟩ := lives.open_of_append hmiddle
            obtain ⟨first, middle, rfl⟩ := List.exists_cons_of_ne_nil hmiddle
            have hhead : (first :: middle ++ rest).head?.all Entry.isBetween = false := hbetween
            rw [hopened, hclosed, hhead]
            simp

end Orderly

/-! ## Transactions by their handles -/

section

variable [DecidableEq τ] {tx : τ}

theorem Life.filter_uses {life : List (Entry τ ρ ε α)} (h : Life tx life) (other : τ) :
    life.filter (Entry.uses other) = if tx = other then life else [] := by
  cases h <;> by_cases heq : tx = other <;> simp [Entry.uses, heq]

/-- What is done with a handle are whole lives, one for each time that it is given. -/
theorem Orderly.lives_of_uses {t : List (Entry τ ρ ε α)} (h : Orderly t) (tx : τ) :
    ∃ lives : List (List (Entry τ ρ ε α)), lives.length = t.countP (Entry.gives tx) ∧
      (∀ life ∈ lives, Life tx life) ∧ t.filter (Entry.uses tx) = lives.flatten := by
  induction h with
  | nil => exact ⟨[], rfl, by simp, rfl⟩
  | waited _ ih => exact ih
  | refused none _ ih =>
      rw [List.countP_cons_of_neg (by simp [Entry.not_gives_of_refused none]),
        List.filter_cons_of_neg (by simp [Entry.uses])]
      exact ih
  | @lived begun other life rest given lived _ ih =>
      obtain ⟨lives, hlength, hlives, hflatten⟩ := ih
      have hnone : life.countP (Entry.gives tx) = 0 := by
        cases lived <;> simp [Entry.gives]
      rw [List.filter_cons_of_neg (by simp [Entry.uses]), List.filter_append, lived.filter_uses,
        hflatten, List.countP_cons, List.countP_append, hnone, ← hlength,
        Entry.gives_of_given given]
      by_cases heq : other = tx
      · subst heq
        refine ⟨life :: lives, by simp, ?_, by simp⟩
        rintro _ (_ | ⟨_, hmem⟩)
        · exact lived
        · exact hlives _ hmem
      · exact ⟨lives, by simp [heq], hlives, by simp [heq]⟩

end

/-! ## Retried calls -/

section

variable [Reported ρ] [Reported ε] {policy : Policy} {convert : ρ → ε} {made : Nat}
  {backoff : Backoff} {upshot : Upshot ε α} {t : List (Entry τ ρ ε α)}
  {ending : Ending (RetryError ε) α}

/-- An attempt asks for one transaction and lives through it. -/
theorem TransactionPass.orderly (h : TransactionPass convert t upshot) :
    Orderly (t.filter Entry.isStep) := by
  have hrollback (tx : τ) (reply : Reply ρ Unit) :
      (rollback tx reply : List (Entry τ ρ ε α)).filter Entry.isStep =
        [.called (.rollback tx) reply] := filter_rollback rfl fun _ => rfl
  cases h with
  | refused | beginCrashed => exact .refused (by simp) .nil
  | committed => exact .lived rfl (.committed rfl) .nil
  | workFailed reply | workCrashed reply =>
      simp only [List.filter_cons, Entry.isStep_eq, Entry.isCall_began, Entry.isCall_worked,
        Bool.true_or, if_true, hrollback]
      exact .lived rfl (.undone reply (by simp)) .nil
  | commitFailed reply | commitCrashed reply =>
      simp only [List.filter_cons, Entry.isStep_eq, Entry.isCall_began, Entry.isCall_worked,
        Entry.isCall_called, Bool.true_or, if_true, hrollback]
      exact .lived rfl (.lost reply rfl (by simp)) .nil

omit [Reported ρ] in
theorem Closes.orderly (h : Closes policy made backoff upshot t ending) :
    Orderly (t.filter Entry.isStep) := by
  cases h with
  | crashed | failed | failedInVain | conflictInVain | exhausted => exact .nil
  | succeeded =>
      simp only [recovery]
      split <;> exact .nil
  | cutShort => exact .waited .nil

theorem Course.orderly (h : Course policy (TransactionPass convert) made backoff t ending) :
    Orderly (t.filter Entry.isStep) := by
  induction h with
  | full => exact .nil
  | last _ pass closes =>
      rw [List.filter_cons_of_neg (by simp [Entry.isStep_eq]), List.filter_append]
      exact pass.orderly.append closes.orderly
  | again _ pass _ _ ih =>
      rw [List.filter_cons_of_neg (by simp [Entry.isStep_eq]), List.filter_append,
        List.filter_append]
      exact pass.orderly.append (.waited ih)

theorem Conduct.orderly {cancelled : Bool}
    (h : Conduct policy cancelled (TransactionPass convert) t ending) :
    Orderly (t.filter Entry.isStep) := by
  cases h with
  | refused | unwanted => exact .nil
  | attempted _ _ course => exact course.orderly

/-- **The life of a transaction.** The calls on each transaction that a call is given are the work
once, then a commit once if the work succeeds, then a rollback once if there was no commit that
succeeded, and nothing more. At every point at most one transaction is open, and none is open where
the next one is asked for, where a wait starts and where the call ends. What is done with a handle
are whole lives, one for each time that the store gives it. -/
theorem transactions_live_in_turn [DecidableEq τ] (policy : Policy) (convert : ρ → ε)
    (cancelled : Bool) (s : Surroundings σ τ ρ ε α) (x : σ) :
    let r := (transaction policy convert cancelled).run s x
    Orderly r.steps ∧
      (∀ front back, r.steps = front ++ back →
        closed front ≤ opened front ∧ opened front ≤ closed front + 1 ∧
        (back.head?.all Entry.isBetween = true → opened front = closed front)) ∧
      ∀ tx, ∃ lives : List (List (Entry τ ρ ε α)),
        lives.length = r.steps.countP (Entry.gives tx) ∧ (∀ life ∈ lives, Life tx life) ∧
        r.steps.filter (Entry.uses tx) = lives.flatten := by
  intro r
  have horderly : Orderly r.steps := (conduct_transaction policy convert cancelled s x).orderly
  exact ⟨horderly, fun front back hsplit => horderly.counts hsplit, horderly.lives_of_uses⟩

end

end StoreClient.Retry
