import StoreClient.Proofs.Retry.Transcript

/-!
# What an attempt can do

`TransactionPass` and `StatementPass` list the ways in which one attempt can go, each with the
entries it leaves and with its upshot. What holds of all attempts is proved by cases on these lists,
without a look at the procedures again.

## Main definitions

* `Judgement.isConflict` — an attempt may be repeated.
* `Upshot` — what an attempt comes to.
* `TransactionPass`, `StatementPass` — the ways an attempt can go.
* `Attempt.Passes` — an attempt goes in one of the listed ways, and what follows sees its upshot
  only.
-/

namespace StoreClient.Retry

variable {τ ρ ε α : Type}

/-- Whether a judgement lets an attempt be repeated. -/
def Judgement.isConflict : Judgement ε α → Bool
  | .conflict _ => true
  | _ => false

@[simp] theorem Judgement.isConflict_success (value : α) :
    (success value : Judgement ε α).isConflict = false := rfl

@[simp] theorem Judgement.isConflict_conflict (e : ε) :
    (conflict e : Judgement ε α).isConflict = true := rfl

@[simp] theorem Judgement.isConflict_fatal (error : RetryError ε) :
    (fatal error : Judgement ε α).isConflict = false := rfl

/-- An error is judged by whether it is a conflict. -/
theorem judge_error [Reported ε] (stage : ε → RetryError ε) (e : ε) :
    (judge stage (.error e) : Judgement ε α) =
      if (failure e).isConflict then .conflict e else .fatal (stage e) := by
  simp only [judge, classify]
  by_cases h : (failure e).isConflict <;> simp [h]

/-- The stage at which an error occurs does not make it a conflict. -/
@[simp] theorem isConflict_judge_error [Reported ε] (stage : ε → RetryError ε) (e : ε) :
    (judge stage (.error e) : Judgement ε α).isConflict = (failure e).isConflict := by
  rw [judge_error]
  by_cases h : (failure e).isConflict <;> simp [h]

/-- What an attempt comes to. -/
inductive Upshot (ε α : Type) where
  /-- It is judged, and the caller has given up by then or not. -/
  | judged (cancelled : Bool) (judgement : Judgement ε α)
  /-- It crashes. -/
  | crashed (cause : Crash)

namespace Upshot

/-- The value of an attempt that succeeds. -/
def value? : Upshot ε α → Option α
  | .judged _ (.success value) => some value
  | _ => none

/-- The same upshot for a caller who may have given up since. -/
def since (cancelled : Bool) : Upshot ε α → Upshot ε α
  | .judged before judgement => .judged (before || cancelled) judgement
  | .crashed cause => .crashed cause

/-- The upshot once the transaction has been rolled back: a crash of that goes before all else. -/
def released (upshot : Upshot ε α) (reply : Reply ρ Unit) : Upshot ε α :=
  match reply.ending with
  | .crash cause => .crashed cause
  | _ => upshot.since reply.cancelled

/-- How a call goes on after an attempt. -/
def resume (next : Bool → Judgement ε α → Procedure τ ρ ε α) : Upshot ε α → Procedure τ ρ ε α
  | .judged cancelled judgement => next cancelled judgement
  | .crashed cause => .finish (.crash cause)

/-- To roll back makes no success of a failure. -/
theorem value?_released {upshot : Upshot ε α} (h : upshot.value? = none) (reply : Reply ρ Unit) :
    (upshot.released reply).value? = none := by
  simp only [released]
  split
  · rfl
  · cases upshot with
    | judged _ judgement => cases judgement <;> exact h
    | crashed => rfl

end Upshot

/-- An error is never judged a success. -/
theorem value?_judge_error [Reported ε] (cancelled : Bool) (stage : ε → RetryError ε) (e : ε) :
    (Upshot.judged cancelled (judge stage (.error e)) : Upshot ε α).value? = none := by
  rw [judge_error]
  by_cases h : (failure e).isConflict <;> simp [h, Upshot.value?]

/-- The entries of a rollback. -/
def rollback [Reported ρ] (tx : τ) (reply : Reply ρ Unit) : List (Entry τ ρ ε α) :=
  .called (.rollback tx) reply ::
    match reply.ending with
    | .error e => [.reported (.rollbackFailed (failure e).message)]
    | _ => []

/-- Of a rollback only the call is left where reports do not count. -/
theorem filter_rollback [Reported ρ] {tx : τ} {reply : Reply ρ Unit} {p : Entry τ ρ ε α → Bool}
    (hcalled : p (.called (.rollback tx) reply) = true)
    (hreported : ∀ event, p (.reported event) = false) :
    (rollback tx reply).filter p = [.called (.rollback tx) reply] := by
  simp only [rollback, List.filter_cons, hcalled, if_true]
  split <;> simp [hreported]

/-- How an attempt in a transaction can go. -/
inductive TransactionPass [Reported ρ] [Reported ε] (convert : ρ → ε) :
    List (Entry τ ρ ε α) → Upshot ε α → Prop
  /-- No transaction can be opened. -/
  | refused {e : ρ} {c : Bool} :
      TransactionPass convert [.began ⟨.error e, c⟩] (.judged c (.fatal (.begin (convert e))))
  /-- The store crashes before there is a transaction. -/
  | beginCrashed {cause : Crash} {c : Bool} :
      TransactionPass convert [.began ⟨.crash cause, c⟩] (.crashed cause)
  /-- The work is done and lasts. -/
  | committed {tx : τ} {value : α} {c₁ c₂ c₃ : Bool} :
      TransactionPass convert
        [.began ⟨.ok tx, c₁⟩, .worked tx ⟨.ok value, c₂⟩, .called (.commit tx) ⟨.ok (), c₃⟩]
        (.judged (c₁ || c₂ || c₃) (.success value))
  /-- The work fails. -/
  | workFailed {tx : τ} {e : ε} {c₁ c₂ : Bool} (reply : Reply ρ Unit) :
      TransactionPass convert
        (.began ⟨.ok tx, c₁⟩ :: .worked tx ⟨.error e, c₂⟩ :: rollback tx reply)
        ((Upshot.judged (c₁ || c₂) (judge .fatal (.error e))).released reply)
  /-- The work crashes. -/
  | workCrashed {tx : τ} {cause : Crash} {c₁ c₂ : Bool} (reply : Reply ρ Unit) :
      TransactionPass convert
        (.began ⟨.ok tx, c₁⟩ :: .worked tx ⟨.crash cause, c₂⟩ :: rollback tx reply)
        ((Upshot.crashed cause).released reply)
  /-- The transaction cannot be committed. -/
  | commitFailed {tx : τ} {value : α} {e : ρ} {c₁ c₂ c₃ : Bool} (reply : Reply ρ Unit) :
      TransactionPass convert
        (.began ⟨.ok tx, c₁⟩ :: .worked tx ⟨.ok value, c₂⟩ ::
          .called (.commit tx) ⟨.error e, c₃⟩ :: rollback tx reply)
        ((Upshot.judged (c₁ || c₂ || c₃) (judge .commit (.error (convert e)))).released reply)
  /-- The store crashes while it commits. -/
  | commitCrashed {tx : τ} {value : α} {cause : Crash} {c₁ c₂ c₃ : Bool} (reply : Reply ρ Unit) :
      TransactionPass convert
        (.began ⟨.ok tx, c₁⟩ :: .worked tx ⟨.ok value, c₂⟩ ::
          .called (.commit tx) ⟨.crash cause, c₃⟩ :: rollback tx reply)
        ((Upshot.crashed cause).released reply)

/-- How an attempt of a single statement can go. -/
inductive StatementPass [Reported ρ] (statement : String) :
    List (Entry τ ρ ρ Unit) → Upshot ρ Unit → Prop
  /-- The statement is done. -/
  | done {c : Bool} : StatementPass statement [.called (.exec statement) ⟨.ok (), c⟩]
      (.judged c (.success ()))
  /-- The statement fails. -/
  | failed {e : ρ} {c : Bool} : StatementPass statement [.called (.exec statement) ⟨.error e, c⟩]
      (.judged c (judge .fatal (.error e)))
  /-- The store crashes. -/
  | crashed {cause : Crash} {c : Bool} :
      StatementPass statement [.called (.exec statement) ⟨.crash cause, c⟩] (.crashed cause)

/-- An attempt goes in one of the listed ways, and the call goes on from its upshot. -/
def Attempt.Passes (attempt : Attempt τ ρ ε α)
    (Pass : List (Entry τ ρ ε α) → Upshot ε α → Prop) : Prop :=
  ∀ next t ending, (attempt next).Leaves t ending →
    ∃ front back upshot, t = front ++ back ∧ Pass front upshot ∧
      (upshot.resume next).Leaves back ending

section

variable [Reported ρ] {next : Bool → Judgement ε α → Procedure τ ρ ε α}
  {t : List (Entry τ ρ ε α)} {ending : Ending (RetryError ε) α}

/-- After a rollback a call goes on from the upshot that this leaves. -/
theorem leaves_release {tx : τ} {cancelled : Bool} {rest : Bool → Procedure τ ρ ε α}
    (upshot : Upshot ε α) (hrest : ∀ c, rest (cancelled || c) = (upshot.since c).resume next)
    (h : (release tx cancelled rest).Leaves t ending) :
    ∃ reply back, t = rollback tx reply ++ back ∧
      ((upshot.released reply).resume next).Leaves back ending := by
  simp only [release, Procedure.leaves_call] at h
  obtain ⟨⟨replied, c⟩, back, rfl, h⟩ := h
  cases replied with
  | ok =>
      dsimp only at h
      rw [hrest] at h
      exact ⟨⟨.ok (), c⟩, back, rfl, h⟩
  | error e =>
      simp only [Procedure.leaves_report, hrest] at h
      obtain ⟨back, rfl, h⟩ := h
      exact ⟨⟨.error e, c⟩, back, rfl, h⟩
  | crash cause => exact ⟨⟨.crash cause, c⟩, back, rfl, h⟩

variable [Reported ε]

theorem passes_transactionAttempt (convert : ρ → ε) :
    (transactionAttempt convert : Attempt τ ρ ε α).Passes (TransactionPass convert) := by
  intro next t ending h
  have hcrashed {cause : Crash} (c : Bool) :
      .finish (.crash cause) = ((Upshot.crashed cause).since c).resume next := rfl
  simp only [transactionAttempt, Procedure.leaves_begin] at h
  obtain ⟨⟨begun, c₁⟩, t, rfl, h⟩ := h
  cases begun with
  | error e => exact ⟨_, t, _, rfl, .refused, h⟩
  | crash cause => exact ⟨_, t, _, rfl, .beginCrashed, h⟩
  | ok tx =>
      simp only [Procedure.leaves_work] at h
      obtain ⟨⟨worked, c₂⟩, t, rfl, h⟩ := h
      cases worked with
      | error e =>
          dsimp only at h
          obtain ⟨reply, back, rfl, hback⟩ :=
            leaves_release (.judged (c₁ || c₂) (judge .fatal (.error e))) (fun _ => rfl) h
          exact ⟨_, back, _, rfl, .workFailed reply, hback⟩
      | crash cause =>
          dsimp only at h
          obtain ⟨reply, back, rfl, hback⟩ :=
            leaves_release (.crashed cause) hcrashed h
          exact ⟨_, back, _, rfl, .workCrashed reply, hback⟩
      | ok value =>
          simp only [Procedure.leaves_call] at h
          obtain ⟨⟨committed, c₃⟩, t, rfl, h⟩ := h
          cases committed with
          | ok => exact ⟨_, t, _, rfl, .committed, h⟩
          | error e =>
              dsimp only at h
              obtain ⟨reply, back, rfl, hback⟩ :=
                leaves_release (.judged (c₁ || c₂ || c₃) (judge .commit (.error (convert e))))
                  (fun _ => rfl) h
              exact ⟨_, back, _, rfl, .commitFailed reply, hback⟩
          | crash cause =>
              dsimp only at h
              obtain ⟨reply, back, rfl, hback⟩ :=
                leaves_release (.crashed cause) hcrashed h
              exact ⟨_, back, _, rfl, .commitCrashed reply, hback⟩

omit [Reported ε] in
theorem passes_statementAttempt (statement : String) :
    (statementAttempt statement : Attempt τ ρ ρ Unit).Passes (StatementPass statement) := by
  intro next t ending h
  simp only [statementAttempt, Procedure.leaves_call] at h
  obtain ⟨⟨replied, c⟩, t, rfl, h⟩ := h
  cases replied with
  | ok => exact ⟨_, t, _, rfl, .done, h⟩
  | error e => exact ⟨_, t, _, rfl, .failed, h⟩
  | crash cause => exact ⟨_, t, _, rfl, .crashed, h⟩

end

end StoreClient.Retry
