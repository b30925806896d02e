import StoreClient.Proofs.Retry.Course

/-!
# Crashes of work and commit

A crash of the work or of a commit is held back until the transaction has been rolled back, and then
goes on. Nothing is done after that rollback. If it succeeds or fails, the call ends in the crash
that was held back; a rollback that crashes itself puts its own crash in the place of that one.

## Main definitions

* `Entry.breaks?` — the transaction in which work or commit crashes, and the cause.
* `Sound`, `Breaks` — neither of them crashes, or one does and there is a rollback after it.
* `Crash.held` — the crash that goes on after the rollback.
-/

namespace StoreClient.Retry

variable {σ τ ρ ε α : Type}

/-- The transaction in which the work or the commit crashes, and the cause. -/
def Entry.breaks? : Entry τ ρ ε α → Option (τ × Crash)
  | .worked tx ⟨.crash cause, _⟩ | .called (.commit tx) ⟨.crash cause, _⟩ => some (tx, cause)
  | _ => none

/-- The crash that goes on after the rollback: the one held back, unless the rollback crashes. -/
def Crash.held (cause : Crash) (reply : Reply ρ Unit) : Crash :=
  match reply.ending with
  | .crash other => other
  | _ => cause

theorem Crash.held_of_crash {cause other : Crash} {reply : Reply ρ Unit}
    (h : reply.ending = .crash other) : Crash.held cause reply = other := by
  rw [held, h]

/-- The crash held back goes on if and only if the rollback does not crash in another way. -/
theorem Crash.held_eq_iff {cause : Crash} {reply : Reply ρ Unit} :
    Crash.held cause reply = cause ↔ ∀ other, reply.ending = .crash other → other = cause := by
  obtain ⟨replied, c⟩ := reply
  cases replied <;> simp [held]

theorem Upshot.released_crashed (cause : Crash) (reply : Reply ρ Unit) :
    (crashed cause : Upshot ε α).released reply = .crashed (Crash.held cause reply) := by
  obtain ⟨replied, c⟩ := reply
  cases replied <;> rfl

/-! ## Transcripts -/

/-- Neither work nor commit crashes anywhere. -/
def Sound (t : List (Entry τ ρ ε α)) : Prop := ∀ e ∈ t, e.breaks? = none

section

variable {t u : List (Entry τ ρ ε α)} {e : Entry τ ρ ε α}

@[simp] theorem sound_nil : Sound ([] : List (Entry τ ρ ε α)) := by
  simp [Sound]

@[simp] theorem sound_cons : Sound (e :: t) ↔ e.breaks? = none ∧ Sound t := by
  simp [Sound]

@[simp] theorem sound_append : Sound (t ++ u) ↔ Sound t ∧ Sound u := by
  simp [Sound, or_imp, forall_and]

/-- An entry stands in one place of a transcript, or it also stands before or behind that place. -/
theorem eq_or_mem_of_split {before after front back : List (Entry τ ρ ε α)}
    {first : Entry τ ρ ε α} (h : before ++ first :: after = front ++ e :: back) :
    (first = e ∧ after = back) ∨ e ∈ before ∨ e ∈ after := by
  rcases List.append_eq_append_iff.1 h with ⟨between, -, hrest⟩ | ⟨between, rfl, hrest⟩
  · cases between with
    | nil => exact .inl (List.cons_eq_cons.1 hrest)
    | cons next between =>
        obtain ⟨-, rfl⟩ := List.cons_eq_cons.1 hrest
        exact .inr (.inr (List.mem_append_right _ List.mem_cons_self))
  · cases between with
    | nil =>
        obtain ⟨rfl, rfl⟩ := List.cons_eq_cons.1 hrest
        exact .inl ⟨rfl, rfl⟩
    | cons next between =>
        obtain ⟨rfl, -⟩ := List.cons_eq_cons.1 hrest
        exact .inr (.inl (List.mem_append_right _ List.mem_cons_self))

variable [Reported ρ]

theorem sound_rollback (tx : τ) (reply : Reply ρ Unit) :
    Sound (rollback tx reply : List (Entry τ ρ ε α)) := by
  simp only [rollback]
  split <;> simp [Entry.breaks?]

/-- Work or commit crashes, and nothing but the rollback of its transaction follows. -/
def Breaks (tx : τ) (cause : Crash) (reply : Reply ρ Unit) (t : List (Entry τ ρ ε α)) : Prop :=
  ∃ front e, t = front ++ e :: rollback tx reply ∧ Sound front ∧ e.breaks? = some (tx, cause)

variable {tx other : τ} {cause crash : Crash} {reply : Reply ρ Unit}

theorem Breaks.after (h : Breaks tx cause reply t) (sound : Sound u) :
    Breaks tx cause reply (u ++ t) := by
  obtain ⟨front, e, rfl, hfront, he⟩ := h
  exact ⟨u ++ front, e, by simp, sound_append.2 ⟨sound, hfront⟩, he⟩

/-- Work and commit crash only once, and the rollback is all that follows. -/
theorem Breaks.eq_of_breaks {front back : List (Entry τ ρ ε α)} (h : Breaks tx cause reply t)
    (hsplit : t = front ++ e :: back) (he : e.breaks? = some (other, crash)) :
    other = tx ∧ crash = cause ∧ back = rollback tx reply := by
  obtain ⟨before, first, rfl, hbefore, hfirst⟩ := h
  have hnotMem {u : List (Entry τ ρ ε α)} (hu : Sound u) : e ∉ u := by
    intro hmem
    rw [hu e hmem] at he
    contradiction
  rcases eq_or_mem_of_split hsplit with ⟨rfl, hback⟩ | hmem | hmem
  · rw [hfirst, Option.some_inj, Prod.mk.injEq] at he
    exact ⟨he.1.symm, he.2.symm, hback.symm⟩
  · exact absurd hmem (hnotMem hbefore)
  · exact absurd hmem (hnotMem (sound_rollback tx reply))

end

/-! ## Retried calls -/

section

variable [Reported ρ] [Reported ε] {policy : Policy} {convert : ρ → ε} {made : Nat}
  {backoff : Backoff} {upshot : Upshot ε α} {t : List (Entry τ ρ ε α)}
  {ending : Ending (RetryError ε) α}

/-- In an attempt neither work nor commit crashes, or the attempt amounts to the crash that goes on
after the rollback. -/
theorem TransactionPass.sound_or_breaks (h : TransactionPass convert t upshot) :
    Sound t ∨ ∃ tx cause reply, Breaks tx cause reply t ∧
      upshot = .crashed (Crash.held cause reply) := by
  cases h with
  | refused | beginCrashed | committed => exact .inl (by simp [Entry.breaks?])
  | workFailed reply | commitFailed reply =>
      exact .inl (by simp [Entry.breaks?, sound_rollback])
  | @workCrashed tx cause c₁ c₂ reply =>
      refine .inr ⟨tx, cause, reply, ⟨[.began ⟨.ok tx, c₁⟩], _, rfl, ?_, rfl⟩, ?_⟩
      · simp [Entry.breaks?]
      · exact Upshot.released_crashed cause reply
  | @commitCrashed tx value cause c₁ c₂ c₃ reply =>
      refine .inr ⟨tx, cause, reply,
        ⟨[.began ⟨.ok tx, c₁⟩, .worked tx ⟨.ok value, c₂⟩], _, rfl, ?_, rfl⟩, ?_⟩
      · simp [Entry.breaks?]
      · exact Upshot.released_crashed cause reply

omit [Reported ρ] in
/-- Behind the last attempt there is neither work nor commit, and after a crash there is nothing. -/
theorem Closes.sound (h : Closes policy made backoff upshot t ending) :
    Sound t ∧ ∀ cause, upshot = .crashed cause → t = [] ∧ ending = .crash cause := by
  cases h with
  | crashed => simp
  | succeeded =>
      simp only [recovery]
      split <;> simp [Entry.breaks?]
  | failed | failedInVain | conflictInVain | exhausted | cutShort =>
      simp [backingOff, Entry.breaks?]

/-- In a call neither work nor commit crashes, or the call ends in the crash that goes on after the
rollback. -/
theorem Course.sound_or_breaks
    (h : Course policy (TransactionPass convert) made backoff t ending) :
    Sound t ∨ ∃ tx cause reply, Breaks tx cause reply t ∧
      ending = .crash (Crash.held cause reply) := by
  have hstart : Sound [(.reported .attempted : Entry τ ρ ε α)] := by simp [Entry.breaks?]
  induction h with
  | full => exact .inl sound_nil
  | last _ pass closes =>
      obtain ⟨hback, hcrashed⟩ := closes.sound
      rcases pass.sound_or_breaks with hfront | ⟨tx, cause, reply, hbreaks, hupshot⟩
      · exact .inl (by simp [Entry.breaks?, hfront, hback])
      · obtain ⟨rfl, hending⟩ := hcrashed _ hupshot
        rw [List.append_nil]
        exact .inr ⟨tx, cause, reply, hbreaks.after hstart, hending⟩
  | @again made backoff front rest e n ending _ pass _ _ ih =>
      have hfront : Sound front := by
        rcases pass.sound_or_breaks with hfront | ⟨_, _, _, _, hupshot⟩
        · exact hfront
        · contradiction
      have hbefore : Sound (.reported .attempted ::
          (front ++ backingOff policy (made + 1) backoff e n false)) := by
        simp [backingOff, Entry.breaks?, hfront]
      rw [← List.append_assoc, ← List.cons_append]
      rcases ih with hrest | ⟨tx, cause, reply, hbreaks, hending⟩
      · exact .inl (sound_append.2 ⟨hbefore, hrest⟩)
      · exact .inr ⟨tx, cause, reply, hbreaks.after hbefore, hending⟩

theorem Conduct.sound_or_breaks {cancelled : Bool}
    (h : Conduct policy cancelled (TransactionPass convert) t ending) :
    Sound t ∨ ∃ tx cause reply, Breaks tx cause reply t ∧
      ending = .crash (Crash.held cause reply) := by
  cases h with
  | refused | unwanted => exact .inl sound_nil
  | attempted _ _ course => exact course.sound_or_breaks

/-- **Crashes of work and commit.** When work or commit crashes, its transaction is rolled back
once, nothing else follows, and the call ends in a crash: in the same one if and only if the
rollback does not crash in another way, and else in that of the rollback. -/
theorem resumed_iff_rollback_uncrashed (policy : Policy) (convert : ρ → ε) (cancelled : Bool)
    (s : Surroundings σ τ ρ ε α) (x : σ) :
    let r := (transaction policy convert cancelled).run s x
    ∀ front e back tx cause, r.transcript = front ++ e :: back → e.breaks? = some (tx, cause) →
      ∃ reply, back = rollback tx reply ∧
        (r.ending = .crash cause ↔ ∀ other, reply.ending = .crash other → other = cause) ∧
        ∀ other, reply.ending = .crash other → r.ending = .crash other := by
  intro r front e back tx cause hsplit he
  have hconduct := conduct_transaction policy convert cancelled s x
  rcases hconduct.sound_or_breaks with hsound | ⟨_, _, reply, hbreaks, hending⟩
  · have hnone := hsound e (by simp [r, hsplit])
    simp [hnone] at he
  · obtain ⟨rfl, rfl, hback⟩ := hbreaks.eq_of_breaks hsplit he
    have hending : r.ending = .crash (Crash.held cause reply) := hending
    refine ⟨reply, hback, ?_, fun other hother => ?_⟩
    · rw [hending, Ending.crash.injEq]
      exact Crash.held_eq_iff
    · rw [hending, Crash.held_of_crash hother]

end

/-- A store that opens a transaction, work that crashes in it, and a rollback that ends so. -/
def breaking (cause : Crash) (rollback : Ending Failure Unit) :
    Surroundings Unit Unit Failure Failure Unit where
  begin x := (⟨.ok (), false⟩, x)
  call _ x := (⟨rollback, false⟩, x)
  work _ x := (⟨.crash cause, false⟩, x)
  draw _ x := (0, x)
  wait _ x := (false, x)

/-- Work crashes, the rollback fails, and the call ends in the crash of the work. -/
theorem resumed_after_failed_rollback :
    let crash : Crash := .foreign "index out of bounds"
    let fault : Failure := { code := none, message := "connection closed" }
    let worked : Entry Unit Failure Failure Unit := .worked () ⟨.crash crash, false⟩
    let r := (transaction {} id false).run (breaking crash (.error fault)) ()
    r.transcript = [.reported .attempted, .began ⟨.ok (), false⟩] ++
      worked :: rollback () ⟨.error fault, false⟩ ∧
    worked.breaks? = some ((), crash) ∧ r.ending = .crash crash := by
  intro crash fault worked r
  have hsplit : r.transcript = [.reported .attempted, .began ⟨.ok (), false⟩] ++
      worked :: rollback () ⟨.error fault, false⟩ := by
    decide +kernel
  obtain ⟨reply, hback, hresumed, -⟩ := resumed_iff_rollback_uncrashed {} id false
    (breaking crash (.error fault)) () _ worked _ () crash hsplit rfl
  have hreply : reply.ending = .error fault := by
    simp only [rollback, List.cons.injEq, Entry.called.injEq] at hback
    rw [← hback.1.2]
  exact ⟨hsplit, rfl, hresumed.2 (by simp [hreply])⟩

/-- Work crashes, the rollback crashes in another way, and the crash of the work is lost. -/
theorem replaced_by_crashed_rollback :
    let crash : Crash := .foreign "index out of bounds"
    let other : Crash := .foreign "connection closed"
    let r := (transaction {} id false).run (breaking crash (.crash other)) ()
    .worked () ⟨.crash crash, false⟩ ∈ r.transcript ∧ r.ending = .crash other ∧
      r.ending ≠ .crash crash := by
  decide +kernel

end StoreClient.Retry
