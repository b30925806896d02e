import StoreClient.Proofs.Credentials.Progress

/-!
# Callers of a cache who give up

The next step of a call whose caller has given up ends it, wherever the call stands: before its
first look, in the queue before the lock, between its two looks, or inside the lock with a request
in flight. It ends as cancelled and takes nothing with it but its own place. Until that step the
issuer's answer no longer reaches it, and after it nothing does.

## Main definitions

* `GivesUp` — how a call comes to its end because its caller has given up.
* `Settled` — a call is over with a result and will never do anything again.
-/

namespace StoreClient.Credentials

open Cache

variable {c c' : Cache} {a : Action} {i : Nat} {call : Call} {result : Result}

/-- A call is over with this result, and nothing more can happen to it. -/
structure Settled (c : Cache) (i : Nat) (result : Result) : Prop where
  /-- It is over. -/
  done : c.phase? i = some (.done result)
  /-- It takes no step. -/
  still : c.act (.step i) = none
  /-- It takes no answer of the issuer. -/
  deaf : ∀ answer, c.act (.settle i answer) = none

/-- How call `i`, which has come to a phase, ends because its caller has given up. -/
structure GivesUp (c : Cache) (i : Nat) (phase : Phase) (c' : Cache) : Prop where
  /-- The call ends as cancelled. -/
  ended : c'.phase? i = some (.done (.token (.error .cancelled)))
  /-- Nothing is noted but its end, and before it that a request in flight is abandoned; in
  particular the issuer is not asked. -/
  journal : c'.journal = ⟨i, c.now, .ended (.token (.error .cancelled))⟩ ::
    (phase.abandonment.map (⟨i, c.now, ·⟩) ++ c.journal)
  /-- The records stay as they are. -/
  records : c'.records = c.records
  /-- The call is neither inside the lock nor before it. -/
  outside : i ∉ c'.lock.readers ∧ c'.lock.writer ≠ some i ∧
    ∀ access, (i, access) ∉ c'.lock.queue
  /-- If it had a request in flight it was the writer, and nobody is inside the lock now. -/
  freed : ∀ since, phase = .issuing since →
    c.lock.writer = some i ∧ c'.lock.writer = none ∧ c'.lock.readers = []
  /-- If it waited for a turn it had a place in the queue. -/
  placed : ∀ access, phase = .waiting access → (i, access) ∈ c.lock.queue
  /-- Whoever else is the writer stays the writer. -/
  writer : ∀ j, j ≠ i → (c'.lock.writer = some j ↔ c.lock.writer = some j)
  /-- Those who wait are the others who have waited, in the same order. -/
  queue : c'.lock.queue = c.lock.queue.filter (·.1 != i)
  /-- The other calls stay where they are. -/
  others : ∀ j, j ≠ i → c'.calls[j]? = c.calls[j]?

/-- A caller who has given up lets the next step end the call, whatever it would have done. -/
theorem Change.of_given_up (h : Change c (.step i) c') (at_i : c.calls[i]? = some call)
    (given : call.cancelled = true) :
    c' = c.ended i (.token (.error .cancelled)) call.phase.abandonment c.records := by
  have hwanted {j : Nat} {other : Call} (at_j : c.calls[j]? = some other)
      (wanted : other.cancelled = false) : j ≠ i := by
    rintro rfl
    obtain rfl := Option.some.inj (at_i.symm.trans at_j)
    simp [given] at wanted
  cases h with
  | queue at_j wanted => exact absurd rfl (hwanted at_j wanted)
  | miss at_j admitted | ask at_j admitted => exact absurd rfl (hwanted at_j admitted.wanted)
  | finish at_j outcome =>
      cases outcome with
      | gaveUp =>
          obtain rfl := Option.some.inj (at_i.symm.trans at_j)
          rfl
      | unreadable admitted | hit admitted | refreshed admitted | cleared admitted
      | counted admitted => exact absurd rfl (hwanted at_j admitted.wanted)

/-- The issuer's answer does not reach a caller who has given up. -/
theorem Cache.settle_eq_none_of_given_up (at_i : c.calls[i]? = some call)
    (given : call.cancelled = true) (answer : Ending String String) :
    c.act (.settle i answer) = none := by
  obtain ⟨request, phase, cancelled⟩ := call
  obtain rfl : cancelled = true := given
  simp [act, at_i]

/-- Nothing happens to a call that is over. -/
theorem Cache.settled_of_done (h : c.phase? i = some (.done result)) : Settled c i result := by
  obtain ⟨⟨request, phase, cancelled⟩, at_i, hphase⟩ := Option.map_eq_some_iff.1 h
  obtain rfl : phase = .done result := hphase
  exact ⟨h, by rw [act_step at_i, stepCall], by simp [act, at_i]⟩

/-- A call that is over stays so. -/
theorem Change.done (h : Change c a c') (hi : c.phase? i = some (.done result)) :
    c'.phase? i = some (.done result) := by
  rcases h.past hi (.inr ⟨result, rfl⟩) with hdone | ⟨call, _, _, _, at_i, outcome, -⟩
  · exact hdone
  · have hphase := Option.some.inj ((phase?_of_getElem? at_i).symm.trans hi)
    have hpos := outcome.ahead_pos
    rw [hphase] at hpos
    exact absurd hpos (Nat.lt_irrefl 0)

theorem Cache.LockInOrder.givesUp (hc : c.LockInOrder) (he : c.Exclusive)
    (at_i : c.calls[i]? = some call) : GivesUp c i call.phase
      (c.ended i (.token (.error .cancelled)) call.phase.abandonment c.records) := by
  have hphase := phase?_of_getElem? at_i
  refine ⟨?_, rfl, rfl, ⟨?_, ?_, ?_⟩, ?_, ?_, ?_, rfl, ?_⟩
  · simp [phase?_ended, hphase]
  · simp [Lock.leave]
  · intro hwriter
    exact (Lock.writer_of_leave hwriter).1 rfl
  · simp [Lock.leave]
  · intro since hissuing
    have hwriter : c.lock.writer = some i := he i since (by rw [hphase, hissuing])
    exact ⟨hwriter, by simp [Lock.leave, hwriter], by simp [Lock.leave, hc.readers]⟩
  · intro access hwaiting
    exact (hc.queue i access).2 (by rw [hphase, hwaiting])
  · intro j hne
    exact ⟨fun h => (Lock.writer_of_leave h).2, fun h => Lock.writer_leave_of_ne h (Ne.symm hne)⟩
  · intro j hne
    have hcalls := getElem?_calls_moved c i (.done (.token (.error .cancelled)))
      (c.lock.leave i) (.ended (.token (.error .cancelled)) :: call.phase.abandonment) j
    rwa [if_neg (Ne.symm hne)] at hcalls

/-- **Callers who give up.** However calls are interleaved, a call whose caller has given up takes
no answer of the issuer any more. Its next step can always be taken and ends it as cancelled,
without a look at the records and without a request, and takes it out of the lock. From then on
nothing happens to it. -/
theorem cancelled_of_given_up (s : Settings) (as : List Action) (c : Cache)
    (h : (ofSettings s).run as = some c) (i : Nat) (call : Call)
    (at_i : c.calls[i]? = some call) (given : call.cancelled = true)
    (unfinished : ∀ result, call.phase ≠ .done result) :
    (∀ answer, c.act (.settle i answer) = none) ∧
    ∃ c', c.act (.step i) = some c' ∧ GivesUp c i call.phase c' ∧
      ∀ more d, c'.run more = some d → Settled d i (.token (.error .cancelled)) := by
  obtain ⟨c', hact⟩ := exists_step_of_cancelled at_i given unfinished
  have hgives : GivesUp c i call.phase c' := by
    rw [(Change.of_act hact).of_given_up at_i given]
    exact (lockInOrder_of_run h).givesUp (exclusive_of_run h) at_i
  refine ⟨settle_eq_none_of_given_up at_i given, c', hact, hgives, fun more d hd => ?_⟩
  exact settled_of_done (invariant_of_run
    (P := fun d => d.phase? i = some (.done (.token (.error .cancelled))))
    (fun _ _ _ hdone hc => hc.done hdone) hd hgives.ended)

/-- Behind a request in flight one caller waits to read, another one to read, and a call waits to
clear. The second reader gives up, and the two others keep their places. -/
theorem cancelled_of_given_up_in_queue :
    let key : Key := ⟨"db", "eu", "admin", .ofSeconds 900⟩
    let schedule : List Action := [.start (.get key), .start (.get key), .start (.get key),
      .start .clear, .step 0, .step 0, .step 1, .step 2, .step 3, .cancel 2]
    ∃ c c', (ofSettings {}).run schedule = some c ∧
      c.lock = { writer := some 0, queue := [(1, .read), (2, .read), (3, .write)] } ∧
      c.act (.step 2) = some c' ∧ GivesUp c 2 (.waiting .read) c' ∧
      c'.lock = { writer := some 0, queue := [(1, .read), (3, .write)] } := by
  intro key schedule
  have hviews : ((ofSettings {}).run schedule).map (fun c => (c.lock, c.calls[2]?,
      (c.act (.step 2)).map (·.lock))) =
      some ({ writer := some 0, queue := [(1, .read), (2, .read), (3, .write)] },
        some ⟨.get key, .waiting .read, true⟩,
        some { writer := some 0, queue := [(1, .read), (3, .write)] }) := by
    decide +kernel
  obtain ⟨c, hc, hview⟩ := Option.map_eq_some_iff.1 hviews
  simp only [Prod.mk.injEq] at hview
  obtain ⟨hlock, at_2, hafter⟩ := hview
  obtain ⟨-, c', hact, hgives, -⟩ :=
    cancelled_of_given_up {} schedule c hc 2 _ at_2 rfl (by simp)
  refine ⟨c, c', hc, hlock, hact, hgives, ?_⟩
  simpa [hact] using hafter

end StoreClient.Credentials
