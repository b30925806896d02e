import StoreClient.Proofs.Retry.Course

/-!
# Commit once or not at all

A retried call succeeds if and only if one commit of it has succeeded. That commit is then the last
call of store or work, and the value is that of the work in the transaction that was committed. A
call that ends in an error or a crash has made nothing last.

## Main definitions

* `Run.commits` — how many commits have succeeded.
* `CommittedLast` — the last call is a commit that succeeds, and the work before it gave this value.
* `Lasting` — what calls have made last: one value at their end, or nothing.
-/

namespace StoreClient.Retry

variable {σ τ ρ ε α : Type}

/-- Whether an entry is a commit that succeeds. -/
def Entry.isCommitted : Entry τ ρ ε α → Bool
  | .called (.commit _) ⟨.ok _, _⟩ => true
  | _ => false

/-- How many commits of a run have succeeded. -/
def Run.commits (r : Run σ τ ρ ε α) : Nat := r.calls.countP Entry.isCommitted

/-- The last calls are those of a transaction in which the work gives this value and which is then
committed. -/
def CommittedLast (value : α) (calls : List (Entry τ ρ ε α)) : Prop :=
  ∃ front tx c₁ c₂ c₃, calls = front ++
    [.began ⟨.ok tx, c₁⟩, .worked tx ⟨.ok value, c₂⟩, .called (.commit tx) ⟨.ok (), c₃⟩]

theorem CommittedLast.value_eq {v w : α} {calls : List (Entry τ ρ ε α)}
    (hv : CommittedLast v calls) (hw : CommittedLast w calls) : v = w := by
  obtain ⟨front, tx, c₁, c₂, c₃, rfl⟩ := hv
  obtain ⟨front', tx', c₁', c₂', c₃', h⟩ := hw
  obtain ⟨-, hlast⟩ := List.append_inj' h rfl
  simp only [List.cons.injEq, Entry.worked.injEq, Reply.mk.injEq, Ending.ok.injEq] at hlast
  exact hlast.2.1.2.1

/-- What calls have made last: a value with one commit at their end, or nothing with none. -/
def Lasting (calls : List (Entry τ ρ ε α)) : Option α → Prop
  | none => calls.countP Entry.isCommitted = 0
  | some value => calls.countP Entry.isCommitted = 1 ∧ CommittedLast value calls

theorem Lasting.after {front calls : List (Entry τ ρ ε α)} {value? : Option α}
    (h : Lasting calls value?) (hfront : Lasting front none) : Lasting (front ++ calls) value? := by
  have hcount : front.countP Entry.isCommitted = 0 := hfront
  cases value? with
  | none =>
      have hnone : calls.countP Entry.isCommitted = 0 := h
      show (front ++ calls).countP Entry.isCommitted = 0
      rw [List.countP_append, hcount, hnone]
  | some value =>
      obtain ⟨honce, before, tx, c₁, c₂, c₃, rfl⟩ := h
      refine ⟨?_, front ++ before, tx, c₁, c₂, c₃, by rw [List.append_assoc]⟩
      rw [List.countP_append, hcount, honce]

section

variable [Reported ρ] [Reported ε] {policy : Policy} {convert : ρ → ε} {made : Nat}
  {backoff : Backoff} {upshot : Upshot ε α} {t : List (Entry τ ρ ε α)}
  {ending : Ending (RetryError ε) α}

/-- An attempt makes its value last if it succeeds, and nothing otherwise. -/
theorem TransactionPass.lasting (h : TransactionPass convert t upshot) :
    Lasting (t.filter Entry.isCall) upshot.value? := by
  cases h with
  | refused | beginCrashed => exact rfl
  | committed => exact ⟨rfl, [], _, _, _, _, rfl⟩
  | workFailed reply | commitFailed reply =>
      rw [Upshot.value?_released (value?_judge_error _ _ _) reply]
      simp only [List.filter_cons, Entry.isCall_began, Entry.isCall_worked, Entry.isCall_called,
        if_true, filter_rollback (Entry.isCall_called _ _) Entry.isCall_reported]
      exact rfl
  | workCrashed reply | commitCrashed reply =>
      rw [Upshot.value?_released rfl reply]
      simp only [List.filter_cons, Entry.isCall_began, Entry.isCall_worked, Entry.isCall_called,
        if_true, filter_rollback (Entry.isCall_called _ _) Entry.isCall_reported]
      exact rfl

omit [Reported ρ] in
/-- A call ends in success if its last attempt is one, and makes no further call. -/
theorem Closes.value? (h : Closes policy made backoff upshot t ending) :
    ending.value? = upshot.value? ∧ t.filter Entry.isCall = [] := by
  cases h with
  | succeeded =>
      refine ⟨rfl, ?_⟩
      simp only [recovery]
      split <;> rfl
  | crashed | failed | failedInVain | conflictInVain | exhausted | cutShort => exact ⟨rfl, rfl⟩

/-- A call makes its value last if it succeeds, and nothing otherwise. -/
theorem Course.lasting (h : Course policy (TransactionPass convert) made backoff t ending) :
    Lasting (t.filter Entry.isCall) ending.value? := by
  induction h with
  | full => exact rfl
  | last _ pass closes =>
      obtain ⟨hvalue, hback⟩ := closes.value?
      rw [List.filter_cons_of_neg (by simp), List.filter_append, hback,
        List.append_nil, hvalue]
      exact pass.lasting
  | again _ pass _ _ ih =>
      rw [List.filter_cons_of_neg (by simp), List.filter_append, List.filter_append]
      exact ih.after pass.lasting

theorem Conduct.lasting {cancelled : Bool}
    (h : Conduct policy cancelled (TransactionPass convert) t ending) :
    Lasting (t.filter Entry.isCall) ending.value? := by
  cases h with
  | refused | unwanted => exact rfl
  | attempted _ _ course => exact course.lasting

/-- **Commit once or not at all.** A call succeeds if and only if one commit has succeeded, this
commit is its last call of store or work, and the value is that of the work in the same transaction.
A call that ends otherwise has committed nothing. -/
theorem ok_iff_committed_last (policy : Policy) (convert : ρ → ε) (cancelled : Bool)
    (s : Surroundings σ τ ρ ε α) (x : σ) :
    let r := (transaction policy convert cancelled).run s x
    (∀ value, r.ending = .ok value ↔ r.commits = 1 ∧ CommittedLast value r.calls) ∧
      ((∀ value, r.ending ≠ .ok value) ↔ r.commits = 0) := by
  intro r
  have hlasting : Lasting r.calls r.ending.value? :=
    (conduct_transaction policy convert cancelled s x).lasting
  cases hvalue : r.ending.value? with
  | none =>
      rw [hvalue] at hlasting
      have hnone : r.commits = 0 := hlasting
      have hnever : ∀ value, r.ending ≠ .ok value := by
        intro value hok
        simp [hok, Ending.value?] at hvalue
      refine ⟨fun value => ⟨fun hok => absurd hok (hnever value), fun h => ?_⟩, ?_⟩
      · have hone := h.1
        omega
      · exact ⟨fun _ => hnone, fun _ => hnever⟩
  | some value =>
      rw [hvalue] at hlasting
      obtain ⟨hone, hlast⟩ := hlasting
      have hok : r.ending = .ok value := Ending.value?_eq_some.1 hvalue
      refine ⟨fun other => ⟨fun hother => ?_, fun h => ?_⟩, fun h => absurd hok (h value), ?_⟩
      · obtain rfl : value = other := Ending.ok.inj (hok.symm.trans hother)
        exact ⟨hone, hlast⟩
      · rw [hok, hlast.value_eq h.2]
      · intro hnone
        rw [Run.commits, hone] at hnone
        exact absurd hnone Nat.one_ne_zero

end

end StoreClient.Retry
