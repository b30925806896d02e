import StoreClient.Proofs.Retry.Budget
import StoreClient.Proofs.Retry.Congruence
import StoreClient.Proofs.Retry.Outcome
import StoreClient.Retry.Report

/-!
# Conflicts of work and commit

A conflict of the commit is retried as a conflict of the work is. Where the work of one attempt is
in conflict, let it succeed and the commit fail with an error that is read as the same conflict:
with the same replies before and after that, the call goes on as before, whichever attempt it is and
whether or not the caller gives up during it.

## Main definitions

* `Deferred` — a transcript with one conflict moved from the work to the commit.
* `Procedure.Defers`, `Attempt.Defers` — where a conflict may come of the work, it may come of the
  commit, and nothing else changes.
* `AlikeButStage` — two runs differ in the stage of a conflict only.
-/

namespace StoreClient.Retry

open Observability

variable {σ σ' τ ρ ε α β : Type}

/-! ## Transcripts -/

section

variable [Reported ε]

/-- The second transcript is the first with some conflicts moved from the work to the commit. -/
inductive Deferred (convert : ρ → ε) : List (Entry τ ρ ε α) → List (Entry τ ρ ε α) → Prop
  /-- Nothing is left to move. -/
  | nil : Deferred convert [] []
  /-- An entry stays as it is. -/
  | same (first : Entry τ ρ ε α) {t u : List (Entry τ ρ ε α)} (rest : Deferred convert t u) :
      Deferred convert (first :: t) (first :: u)
  /-- The work succeeds, and the commit fails with what is read as the same conflict. -/
  | moved (tx : τ) (e : ρ) (value : α) (c₁ c₂ : Bool) {t u : List (Entry τ ρ ε α)}
      (conflict : (failure (convert e)).isConflict = true) (rest : Deferred convert t u) :
      Deferred convert (.worked tx ⟨.error (convert e), c₁ || c₂⟩ :: t)
        (.worked tx ⟨.ok value, c₁⟩ :: .called (.commit tx) ⟨.error e, c₂⟩ :: u)

theorem deferred_refl (convert : ρ → ε) (t : List (Entry τ ρ ε α)) : Deferred convert t t := by
  induction t with
  | nil => exact .nil
  | cons first t ih => exact .same first ih

theorem Deferred.after {convert : ρ → ε} {t u : List (Entry τ ρ ε α)} (h : Deferred convert t u)
    (front : List (Entry τ ρ ε α)) : Deferred convert (front ++ t) (front ++ u) := by
  induction front with
  | nil => exact h
  | cons first front ih => exact .same first ih

/-- What does not look at work and commit sees the same of both. -/
theorem Deferred.filterMap_eq {convert : ρ → ε} {t u : List (Entry τ ρ ε α)}
    (h : Deferred convert t u) {f : Entry τ ρ ε α → Option β}
    (hwork : ∀ tx reply, f (.worked tx reply) = none)
    (hcommit : ∀ tx reply, f (.called (.commit tx) reply) = none) :
    t.filterMap f = u.filterMap f := by
  induction h with
  | nil => rfl
  | same first _ ih => simp [List.filterMap_cons, ih]
  | moved => simp_all

/-! ## Procedures -/

/-- Where the first procedure meets a conflict of the work, the second may meet one of the commit,
and comes to the same end. -/
def Procedure.Defers (convert : ρ → ε) (p q : Procedure τ ρ ε α) : Prop :=
  ∀ t u ending, Deferred convert t u → p.Leaves t ending → q.Leaves u ending

variable {convert : ρ → ε}

theorem defers_finish (ending : Ending (RetryError ε) α) :
    (Procedure.finish ending : Procedure τ ρ ε α).Defers convert (.finish ending) := by
  intro t u _ hdeferred hleaves
  obtain ⟨rfl, rfl⟩ := Procedure.leaves_finish.1 hleaves
  cases hdeferred
  exact .finish

theorem defers_report (event : Event) {p q : Procedure τ ρ ε α} (h : p.Defers convert q) :
    (Procedure.report event p).Defers convert (.report event q) := by
  intro t u ending hdeferred hleaves
  obtain ⟨t, rfl, hrest⟩ := Procedure.leaves_report.1 hleaves
  cases hdeferred with
  | same _ hdeferred => exact .report (h _ _ _ hdeferred hrest)

theorem defers_begin {p q : Reply ρ τ → Procedure τ ρ ε α}
    (h : ∀ reply, (p reply).Defers convert (q reply)) :
    (Procedure.begin p).Defers convert (.begin q) := by
  intro t u ending hdeferred hleaves
  obtain ⟨reply, t, rfl, hrest⟩ := Procedure.leaves_begin.1 hleaves
  cases hdeferred with
  | same _ hdeferred => exact .begin reply (h _ _ _ _ hdeferred hrest)

theorem defers_call {target : Target τ} {p q : Reply ρ Unit → Procedure τ ρ ε α}
    (h : ∀ reply, (p reply).Defers convert (q reply)) :
    (Procedure.call target p).Defers convert (.call target q) := by
  intro t u ending hdeferred hleaves
  obtain ⟨reply, t, rfl, hrest⟩ := Procedure.leaves_call.1 hleaves
  cases hdeferred with
  | same _ hdeferred => exact .call reply (h _ _ _ _ hdeferred hrest)

/-- Work defers conflicts if a commit follows its success, and what follows an error of that defers
what follows the conflict of the work. -/
theorem defers_work {tx : τ} {p q : Reply ε α → Procedure τ ρ ε α}
    (h : ∀ reply, (p reply).Defers convert (q reply))
    (hcommit : ∀ e value c₁ c₂, (failure (convert e)).isConflict = true →
      ∃ resume, q ⟨.ok value, c₁⟩ = .call (.commit tx) resume ∧
        (p ⟨.error (convert e), c₁ || c₂⟩).Defers convert (resume ⟨.error e, c₂⟩)) :
    (Procedure.work tx p).Defers convert (.work tx q) := by
  intro t u ending hdeferred hleaves
  obtain ⟨reply, t, rfl, hrest⟩ := Procedure.leaves_work.1 hleaves
  cases hdeferred with
  | same _ hdeferred => exact .work reply (h _ _ _ _ hdeferred hrest)
  | moved _ e value c₁ c₂ conflict hdeferred =>
      obtain ⟨resume, hresume, hdefers⟩ := hcommit e value c₁ c₂ conflict
      refine .work _ ?_
      rw [hresume]
      exact .call _ (hdefers _ _ _ hdeferred hrest)

theorem defers_draw (bound : Nat) (p q : Nat → Procedure τ ρ ε α)
    (h : ∀ n, (p n).Defers convert (q n)) :
    (Procedure.draw bound p).Defers convert (.draw bound q) := by
  intro t u ending hdeferred hleaves
  obtain ⟨n, t, rfl, hrest⟩ := Procedure.leaves_draw.1 hleaves
  cases hdeferred with
  | same _ hdeferred => exact .draw n (h _ _ _ _ hdeferred hrest)

theorem defers_wait (pause : Pause) (p q : Bool → Procedure τ ρ ε α)
    (h : ∀ cancelled, (p cancelled).Defers convert (q cancelled)) :
    (Procedure.wait pause p).Defers convert (.wait pause q) := by
  intro t u ending hdeferred hleaves
  obtain ⟨cancelled, t, rfl, hrest⟩ := Procedure.leaves_wait.1 hleaves
  cases hdeferred with
  | same _ hdeferred => exact .wait cancelled (h _ _ _ _ hdeferred hrest)

/-! ## Retried calls -/

theorem congruence_defers :
    Congruence fun _ (p q : Procedure τ ρ ε α) => p.Defers convert q where
  finish _ := defers_finish
  report _ event _ _ := defers_report event

variable [Reported ρ]

theorem defers_release {tx : τ} {cancelled : Bool} {next next' : Bool → Procedure τ ρ ε α}
    (h : ∀ cancelled, (next cancelled).Defers convert (next' cancelled)) :
    (release tx cancelled next).Defers convert (release tx cancelled next') := by
  refine defers_call ?_
  rintro ⟨ending, c⟩
  cases ending with
  | ok => exact h _
  | error e => exact defers_report _ (h _)
  | crash cause => exact defers_finish _

/-- A conflict is judged alike at both stages, and the transaction is released alike. -/
theorem defers_transactionAttempt (next next' : Bool → Judgement ε α → Procedure τ ρ ε α)
    (h : ∀ cancelled judgement,
      (next cancelled judgement).Defers convert (next' cancelled judgement)) :
    (transactionAttempt convert next).Defers convert (transactionAttempt convert next') := by
  refine defers_begin ?_
  rintro ⟨begun, c₀⟩
  cases begun with
  | crash cause => exact defers_finish _
  | error e => exact h _ _
  | ok tx =>
      refine defers_work ?_ ?_
      · rintro ⟨worked, c₁⟩
        cases worked with
        | crash cause => exact defers_release fun _ => defers_finish _
        | error e => exact defers_release fun _ => h _ _
        | ok value =>
            refine defers_call ?_
            rintro ⟨committed, c₂⟩
            cases committed with
            | ok => exact h _ _
            | error e => exact defers_release fun _ => h _ _
            | crash cause => exact defers_release fun _ => defers_finish _
      · intro e value c₁ c₂ conflict
        refine ⟨_, rfl, ?_⟩
        simp only [judge_error, conflict, if_true, ← Bool.or_assoc]
        exact defers_release fun _ => h _ _

theorem defers_transaction (policy : Policy) (convert : ρ → ε) (cancelled : Bool) :
    (transaction policy convert cancelled : Procedure τ ρ ε α).Defers convert
      (transaction policy convert cancelled) := by
  refine congruence_defers.rel_retry defers_transactionAttempt ?_ cancelled
  exact congruence_defers.rel_backOff defers_draw defers_wait

/-! ## Runs -/

/-- Whether a transaction is to be rolled back. -/
def Act.isRollback : Act τ → Bool
  | .rollback _ => true
  | _ => false

/-- How many times a run rolls a transaction back. -/
def Run.rollbacks (r : Run σ τ ρ ε α) : Nat := r.acts.countP Act.isRollback

/-- Two runs differ in the stage of a conflict only. -/
structure AlikeButStage (r : Run σ τ ρ ε α) (q : Run σ' τ ρ ε α) : Prop where
  /-- They end alike. -/
  ending : r.ending = q.ending
  /-- They open as many transactions. -/
  begins : r.begins = q.begins
  /-- They roll as many transactions back. -/
  rollbacks : r.rollbacks = q.rollbacks
  /-- They wait alike. -/
  waits : r.transcript.filter Entry.isWait = q.transcript.filter Entry.isWait
  /-- They count the same. -/
  measurements : ∀ op, r.measurements op = q.measurements op
  /-- They log the same. -/
  log : ∀ op, r.log op = q.log op

omit [Reported ρ] in
/-- Acts that are neither work nor commit are as many. -/
theorem Deferred.countP_acts {t u : List (Entry τ ρ ε α)} (h : Deferred convert t u)
    {p : Act τ → Bool} (hwork : ∀ tx, p (.work tx) = false)
    (hcommit : ∀ tx, p (.commit tx) = false) :
    (t.filterMap Entry.act?).countP p = (u.filterMap Entry.act?).countP p := by
  have hfilter : (t.filterMap Entry.act?).filter p = (u.filterMap Entry.act?).filter p := by
    simp only [List.filter_filterMap]
    exact h.filterMap_eq (by simp [Entry.act?, hwork]) (by simp [Entry.act?, hcommit])
  rw [List.countP_eq_length_filter, List.countP_eq_length_filter, hfilter]

omit [Reported ρ] in
theorem Deferred.alikeButStage {r : Run σ τ ρ ε α} {q : Run σ' τ ρ ε α}
    (h : Deferred convert r.transcript q.transcript) (hending : r.ending = q.ending) :
    AlikeButStage r q := by
  have hevents : r.events = q.events := h.filterMap_eq (by simp [Entry.event?])
    (by simp [Entry.event?])
  refine ⟨hending, ?_, ?_, ?_, fun op => ?_, fun op => ?_⟩
  · exact h.countP_acts (fun _ => rfl) (fun _ => rfl)
  · exact h.countP_acts (fun _ => rfl) (fun _ => rfl)
  · simp only [← List.filterMap_eq_filter]
    exact h.filterMap_eq (fun _ _ => rfl) (fun _ _ => rfl)
  · simp only [Run.measurements, hevents]
  · simp only [Run.log, hevents]

/-! ## The last attempt -/

section

variable {policy : Policy} {made : Nat} {backoff : Backoff} {upshot : Upshot ε α}
  {t front back : List (Entry τ ρ ε α)} {ending : Ending (RetryError ε) α} {tx : τ} {e : ε}
  {c : Bool}

/-- An attempt whose work is in conflict comes to that conflict, unless the rollback crashes. -/
theorem TransactionPass.conflict_of_mem (h : TransactionPass convert t upshot)
    (hmem : .worked tx ⟨.error e, c⟩ ∈ t) (conflict : (failure e).isConflict = true)
    (hcrashless : Crashless t) : ∃ gaveUp, upshot = .judged gaveUp (.conflict e) := by
  have hrollback {tx' : τ} {reply : Reply ρ Unit} :
      (.worked tx ⟨.error e, c⟩ : Entry τ ρ ε α) ∉ rollback tx' reply := by
    simp only [rollback]
    split <;> simp
  cases h with
  | refused | beginCrashed | committed => simp at hmem
  | workCrashed | commitFailed | commitCrashed => simp [hrollback] at hmem
  | @workFailed tx' e' c₁ c₂ reply =>
      simp only [List.mem_cons, reduceCtorEq, false_or, hrollback, or_false] at hmem
      obtain ⟨-, rfl, -⟩ := by simpa using hmem
      have hcrash := hcrashless (.called (.rollback tx') reply) (by simp [mem_rollback])
      obtain ⟨replied, c₃⟩ := reply
      cases replied with
      | crash cause => simp [Entry.crash?] at hcrash
      | ok | error =>
          exact ⟨c₁ || c₂ || c₃, by simp [Upshot.released, Upshot.since, judge_error, conflict]⟩

/-- As long as the counter has room, a call makes another attempt. -/
theorem Course.started_pos (h : Course policy (TransactionPass convert) made backoff t ending)
    (room : made < Policy.counterLimit) : 0 < started t := by
  cases h with
  | full => omega
  | last _ pass | again _ pass =>
      simp only [started_cons, started_append, pass.accounted.started]
      omega

/-- A call that ends after a conflict of the work has exhausted its attempts, unless the caller
gives up or something crashes. -/
theorem Course.exhausted_of_conflict
    (h : Course policy (TransactionPass convert) made backoff t ending)
    (hlimit : policy.maxRetries.toNat < Policy.counterLimit)
    (hsplit : t = front ++ .worked tx ⟨.error e, c⟩ :: back)
    (conflict : (failure e).isConflict = true) (hlast : started back = 0)
    (hstays : gaveUp t = false) (hcrashless : Crashless t) :
    ending = .error (.exhausted (made + started t) policy.maxRetries.toNat e) := by
  induction h generalizing front with
  | full => simp at hsplit
  | @last made backoff attempt rest upshot ending _ pass closes =>
      obtain ⟨hrest, hquiet, -⟩ := closes.counted convert
      have hmem : .worked tx ⟨.error e, c⟩ ∈ attempt := by
        have hnotMem : .worked tx ⟨.error e, c⟩ ∉ rest := fun hmem =>
          List.countP_eq_zero.1 hquiet _ hmem conflict
        have hall : .worked tx ⟨.error e, c⟩ ∈ .reported .attempted :: (attempt ++ rest) := by
          simp [hsplit]
        simpa [hnotMem] using hall
      simp only [gaveUp_cons, gaveUp_append, Bool.or_eq_false_iff] at hstays
      simp only [crashless_cons, crashless_append] at hcrashless
      obtain ⟨gaveUp, rfl⟩ := pass.conflict_of_mem hmem conflict hcrashless.2.1
      have htold := pass.accounted.told.1
      cases closes with
      | conflictInVain => simp [hstays] at htold
      | cutShort => simp at hstays
      | exhausted => simp [pass.accounted.started, hrest, Entry.starts]
  | @again made backoff attempt rest e' n ending room pass spare course ih =>
      have hsplit' : (.reported .attempted :: (attempt ++
          backingOff policy (made + 1) backoff e' n false)) ++ rest =
          front ++ .worked tx ⟨.error e, c⟩ :: back := by
        simpa using hsplit
      simp only [gaveUp_cons, gaveUp_append, Bool.or_eq_false_iff] at hstays
      simp only [crashless_cons, crashless_append] at hcrashless
      have hlater (front : List (Entry τ ρ ε α))
          (hrest : rest = front ++ .worked tx ⟨.error e, c⟩ :: back) :
          ending = .error (.exhausted (made + (1 + started rest)) policy.maxRetries.toNat e) := by
        rw [← Nat.add_assoc]
        exact ih hrest hstays.2.2.2 hcrashless.2.2.2
      have hstarted : started (.reported .attempted :: (attempt ++
          (backingOff policy (made + 1) backoff e' n false ++ rest))) = 1 + started rest := by
        simp [pass.accounted.started, Entry.starts]
      rw [hstarted]
      rcases List.append_eq_append_iff.1 hsplit' with ⟨between, -, hrest⟩ | ⟨between, -, hrest⟩
      · exact hlater _ hrest
      · cases between with
        | nil => exact hlater [] hrest.symm
        | cons first between =>
            -- The conflict is in this attempt, so the next would be made behind it.
            have hback : back = between ++ rest := (List.cons_eq_cons.1 hrest).2
            have hpos := course.started_pos (by omega)
            rw [hback, started_append] at hlast
            omega

theorem Conduct.exhausted_of_conflict {cancelled : Bool}
    (h : Conduct policy cancelled (TransactionPass convert) t ending)
    (hlimit : policy.maxRetries.toNat < Policy.counterLimit)
    (hsplit : t = front ++ .worked tx ⟨.error e, c⟩ :: back)
    (conflict : (failure e).isConflict = true) (hlast : started back = 0)
    (hstays : gaveUp t = false) (hcrashless : Crashless t) :
    ending = .error (.exhausted (started t) policy.maxRetries.toNat e) := by
  cases h with
  | refused | unwanted => simp at hsplit
  | attempted _ _ course =>
      simpa using course.exhausted_of_conflict hlimit hsplit conflict hlast hstays hcrashless

end

/-- **Conflicts of work and commit.** Take a run and any attempt whose work is in conflict, and let
the work succeed there and the commit fail with what is read as the same conflict, the other replies
being the same. Then the run is as it was but for this work and this commit: it ends alike, opens
and rolls back as many transactions, waits alike, and counts and logs the same. If the attempt is
the last, this conflict is the last that the call tells of, unless the caller gives up or something
crashes. -/
theorem alike_after_late_conflict (policy : Policy) (convert : ρ → ε) (cancelled : Bool)
    (s : Surroundings σ τ ρ ε α) (x : σ) :
    let call : Procedure τ ρ ε α := transaction policy convert cancelled
    let r := call.run s x
    ∀ front tx e value c₁ c₂ back,
      r.transcript = front ++ .worked tx ⟨.error (convert e), c₁ || c₂⟩ :: back →
      (failure (convert e)).isConflict = true →
      let t := front ++ .worked tx ⟨.ok value, c₁⟩ :: .called (.commit tx) ⟨.error e, c₂⟩ :: back
      (∃ x', (call.run Surroundings.replaying x').transcript = t) ∧
      (∀ (σ' : Type) (s' : Surroundings σ' τ ρ ε α) x' y, s'.Replied x' t y →
        (call.run s' x').transcript = t ∧ AlikeButStage r (call.run s' x')) ∧
      (started back = 0 → policy.maxRetries.toNat < Policy.counterLimit →
        gaveUp r.transcript = false → Crashless r.transcript →
        r.ending =
          .error (.exhausted (started r.transcript) policy.maxRetries.toNat (convert e))) := by
  intro call r front tx e value c₁ c₂ back hsplit conflict t
  have hdeferred : Deferred convert r.transcript t := by
    rw [hsplit]
    exact (Deferred.moved tx e value c₁ c₂ conflict (deferred_refl convert back)).after front
  have hleaves : call.Leaves t r.ending :=
    defers_transaction policy convert cancelled _ _ _ hdeferred (Procedure.leaves_run s call x)
  refine ⟨?_, fun σ' s' x' y hreplied => ?_, fun hlast hlimit hstays hcrashless => ?_⟩
  · obtain ⟨x', hreplied⟩ := Surroundings.exists_replied t
    exact ⟨x', by rw [hleaves.run_eq hreplied]⟩
  · rw [hleaves.run_eq hreplied]
    exact ⟨rfl, hdeferred.alikeButStage rfl⟩
  · exact (conduct_transaction policy convert cancelled s x).exhausted_of_conflict hlimit hsplit
      conflict hlast hstays hcrashless

end

/-- Attempts that are all in conflict: by their work before the given one, then by their commit. -/
def conflictsUntil (late : Nat) (number : Nat) : Turn Nat Failure Failure Nat :=
  if number < late then .plain (.error someConflict) (.ok ())
  else .plain (.ok number) (.error someConflict)

/-- Of two attempts the second is the last. Its conflict exhausts the call, whether it comes of the
work or of the commit. -/
theorem exhausted_after_late_conflict :
    let call : Procedure Nat Failure Failure Nat := transaction { maxRetries := 1 } id false
    let r := call.run (scripted (conflictsUntil 3) fun _ => 0) 0
    let q := call.run (scripted (conflictsUntil 2) fun _ => 0) 0
    r.transcript[10]? = some (.worked 0 ⟨.error someConflict, false⟩) ∧
      q.transcript[10]? = some (.worked 0 ⟨.ok 2, false⟩) ∧ AlikeButStage r q ∧
      r.ending = .error (.exhausted 2 1 someConflict) := by
  intro call r q
  obtain ⟨-, halike, hlast⟩ := alike_after_late_conflict { maxRetries := 1 } id false
    (scripted (conflictsUntil 3) fun _ => 0) 0 (r.transcript.take 10) 0 someConflict 2 false false
    (r.transcript.drop 11) (by decide +kernel) (by decide +kernel)
  have hreplied := Surroundings.replied_run (scripted (conflictsUntil 2) fun _ => 0) call 0
  have hsame : q.transcript = r.transcript.take 10 ++ .worked 0 ⟨.ok 2, false⟩ ::
      .called (.commit 0) ⟨.error someConflict, false⟩ :: r.transcript.drop 11 := by
    decide +kernel
  refine ⟨by decide +kernel, by decide +kernel, ?_, ?_⟩
  · exact (halike Nat _ 0 q.final (hsame ▸ hreplied)).2
  · have hending := hlast (by decide +kernel) (by decide +kernel) (by decide +kernel)
      (by decide +kernel)
    have hstarted : started r.transcript = 2 := by decide +kernel
    rw [← hstarted]
    exact hending

end StoreClient.Retry
