import StoreClient.Proofs.Credentials.Exclusion

/-!
# The lock between two steps

Between two steps the lock is held by nobody but a call that waits for the issuer, and the queue
before it consists of the calls that wait for their turn. So no call waits at the lock for itself,
and while no request is in flight it is the turn of whoever has waited longest: some call can always
go on, and every step brings its call nearer to its end.

## Main definitions

* `Cache.LockInOrder` — who is inside the lock and who stands in its queue.
* `Phase.ahead` — how many steps at most a call still has before it.
* `DeadlockFree` — what a cache promises about calls that wait.
-/

namespace StoreClient.Credentials

open Cache

variable {c c' : Cache} {a : Action} {i j : Nat} {call : Call} {access : Access} {p phase : Phase}
  {lock : Lock} {events : List Event} {key : Key} {since : Instant}

/-! ## Leaving the lock -/

namespace Lock

variable {l : Lock}

theorem mem_queue_filter : (j, access) ∈ l.queue.filter (·.1 != i) ↔
    j ≠ i ∧ (j, access) ∈ l.queue := by
  simp [and_comm]

/-- Whoever is the writer after a call has left is another call, and was the writer before. -/
theorem writer_of_leave (h : (l.leave i).writer = some j) : j ≠ i ∧ l.writer = some j := by
  simp only [leave] at h
  split at h
  · contradiction
  · rename_i hother
    refine ⟨?_, h⟩
    rintro rfl
    exact hother h

/-- Nobody is before the first in the queue, so it is their turn once nobody is inside. -/
theorem admits_head {rest : List (Nat × Access)} (hqueue : l.queue = (j, access) :: rest)
    (hreaders : l.readers = []) (hwriter : l.writer = none) : l.admits j = true := by
  have hahead : l.ahead j = [] := by simp [ahead, hqueue]
  have hlookup : l.queue.lookup j = some access := by simp [hqueue]
  cases access <;> simp [admits, hlookup, hahead, hreaders, hwriter]

end Lock

/-! ## Who is inside and who waits -/

/-- Nobody but a call that waits for the issuer is inside the lock, and the queue holds the calls
that wait for their turn, each of them once. -/
structure Cache.LockInOrder (c : Cache) : Prop where
  /-- No reader stays inside. -/
  readers : c.lock.readers = []
  /-- The writer waits for the issuer. -/
  writer : ∀ i, c.lock.writer = some i → ∃ key since, c.Asking i key since
  /-- Who stands in the queue waits for a turn, and the other way round. -/
  queue : ∀ i access, (i, access) ∈ c.lock.queue ↔ c.phase? i = some (.waiting access)
  /-- Nobody stands in the queue twice. -/
  distinct : (c.lock.queue.map Prod.fst).Nodup

namespace Cache

/-- A call that asks the issuer waits on when another call moves. -/
theorem Asking.moved (h : c.Asking j key since) (hne : i ≠ j) :
    (c.moved i phase lock events).Asking j key since :=
  ⟨by rw [request?_moved, h.1], by rw [phase?_moved, if_neg hne, h.2]⟩

/-- A call that does not stand in the queue any more keeps the lock in order. -/
theorem LockInOrder.moved (h : c.LockInOrder) (hnew : ∀ access, phase ≠ .waiting access)
    (hreaders : lock.readers = []) (hqueue : lock.queue = c.lock.queue.filter (·.1 != i))
    (hwriter : ∀ j, lock.writer = some j → ∃ key since,
      (c.moved i phase lock events).Asking j key since) :
    (c.moved i phase lock events).LockInOrder := by
  refine ⟨hreaders, hwriter, ?_, ?_⟩
  · intro j access
    rw [lock_moved, hqueue, Lock.mem_queue_filter, phase?_moved, h.queue j access]
    by_cases hij : i = j
    · subst hij
      simp [hnew access]
    · simp [hij, Ne.symm hij]
  · rw [lock_moved, hqueue]
    exact (List.filter_sublist.map Prod.fst).nodup h.distinct

/-- A call that leaves the lock keeps it in order. -/
theorem LockInOrder.moved_leave (h : c.LockInOrder) (hnew : ∀ access, phase ≠ .waiting access) :
    (c.moved i phase (c.lock.leave i) events).LockInOrder := by
  refine h.moved hnew (by simp [Lock.leave, h.readers]) rfl ?_
  intro j hj
  obtain ⟨hne, hj⟩ := Lock.writer_of_leave hj
  obtain ⟨key, since, hasking⟩ := h.writer j hj
  exact ⟨key, since, hasking.moved (Ne.symm hne)⟩

theorem lockInOrder_ofSettings (s : Settings) : (ofSettings s).LockInOrder := by
  refine ⟨rfl, ?_, ?_, ?_⟩ <;> simp [ofSettings, phase?]

end Cache

/-- A call that stands at the lock next, and not yet in its queue, has no place there. -/
theorem Cache.LockInOrder.notMem_queue (h : c.LockInOrder) (at_i : c.calls[i]? = some call)
    (new : ∀ access, call.phase ≠ .waiting access) : ∀ access, (i, access) ∉ c.lock.queue := by
  intro access hmem
  have hphase := (h.queue i access).1 hmem
  rw [phase?_of_getElem? at_i, Option.some.injEq] at hphase
  exact new access hphase

theorem Change.lockInOrder (h : Change c a c') (hc : c.LockInOrder) : c'.LockInOrder := by
  cases h with
  | start request =>
      have hphase {j : Nat} {p : Phase} (hp : p ≠ .ready) :
          ({ c with calls := c.calls ++ [{ request }] } : Cache).phase? j = some p ↔
            c.phase? j = some p := by
        refine ⟨fun hj => ?_, fun hj => ?_⟩
        · rcases phase?_start_eq_some hj with ⟨-, hready⟩ | hj
          · exact absurd hready hp
          · exact hj
        · rw [phase?_start, if_neg (Nat.ne_of_lt (lt_length_of_phase?_eq_some hj)), hj]
      refine ⟨hc.readers, ?_, ?_, hc.distinct⟩
      · intro j hj
        obtain ⟨key, since, hrequest, hissuing⟩ := hc.writer j hj
        exact ⟨key, since, (Change.start request).request?_eq_some hrequest,
          (hphase (by simp)).2 hissuing⟩
      · intro j access
        rw [hphase (by simp)]
        exact hc.queue j access
  | cancel =>
      refine ⟨hc.readers, ?_, ?_, hc.distinct⟩
      · simpa [Asking] using hc.writer
      · simpa using hc.queue
  | advance => exact ⟨hc.readers, hc.writer, hc.queue, hc.distinct⟩
  | @queue i call access at_i wanted turn new =>
      have hnone := hc.notMem_queue at_i new
      refine ⟨hc.readers, ?_, ?_, ?_⟩
      · intro j hj
        obtain ⟨key, since, hasking⟩ := hc.writer j hj
        refine ⟨key, since, hasking.moved ?_⟩
        rintro rfl
        have hphase := Option.some.inj ((phase?_of_getElem? at_i).symm.trans hasking.2)
        exact Call.not_past turn (.inl ⟨since, hphase⟩)
      · intro j other
        rw [lock_moved, Lock.join, List.mem_append, hc.queue j other, phase?_moved]
        by_cases hij : i = j
        · subst hij
          simp [phase?_of_getElem? at_i, new other, eq_comm]
        · simp [hij, Ne.symm hij]
      · have hnew : i ∉ c.lock.queue.map Prod.fst := by simpa using hnone
        rw [lock_moved, Lock.join, List.map_append, List.nodup_append]
        refine ⟨hc.distinct, by simp, ?_⟩
        rintro x hx y hy rfl
        obtain rfl : x = i := by simpa using hy
        exact hnew hx
  | miss => exact hc.moved_leave (by simp)
  | @ask i call key found at_i admitted request =>
      refine hc.moved (by simp) (by simp [Lock.enter, hc.readers]) rfl ?_
      intro j hj
      obtain rfl : i = j := by simpa [Lock.enter] using hj
      refine ⟨key, c.now, ?_, ?_⟩
      · rw [request?_moved, request?_of_getElem? at_i, request]
      · simp [phase?_moved, phase?_of_getElem? at_i]
  | @finish _ i _ result events =>
      have hleft : (c.moved i (.done result) (c.lock.leave i)
          (.ended result :: events)).LockInOrder := hc.moved_leave (by simp)
      exact ⟨hleft.readers, hleft.writer, hleft.queue, hleft.distinct⟩

theorem lockInOrder_of_run {s : Settings} {as : List Action} (h : (ofSettings s).run as = some c) :
    c.LockInOrder :=
  invariant_of_run (fun _ _ _ hd hc => hc.lockInOrder hd) h (lockInOrder_ofSettings s)

/-! ## Steps that can be taken -/

/-- A call has come and is not over. -/
def Cache.Unfinished (c : Cache) (i : Nat) : Prop :=
  ∃ p, c.phase? i = some p ∧ ∀ result, p ≠ .done result

theorem Cache.act_step (at_i : c.calls[i]? = some call) :
    c.act (.step i) = c.stepCall i call := by
  simp [act, at_i]

/-- A caller who has given up need not wait. -/
theorem Cache.exists_step_of_cancelled (at_i : c.calls[i]? = some call)
    (given : call.cancelled = true) (unfinished : ∀ result, call.phase ≠ .done result) :
    ∃ c', c.act (.step i) = some c' := by
  rw [act_step at_i, stepCall]
  split
  · rename_i result hp
    exact absurd hp (unfinished result)
  · exact ⟨_, if_pos given⟩

/-- A call that comes to the lock goes on, if only to its queue. -/
theorem Cache.exists_step_of_new (at_i : c.calls[i]? = some call)
    (new : call.phase = .ready ∨ call.phase = .missed) : ∃ c', c.act (.step i) = some c' := by
  rcases Bool.eq_false_or_eq_true call.cancelled with given | wanted
  · refine exists_step_of_cancelled at_i given fun result => ?_
    rcases new with hp | hp <;> simp [hp]
  · rw [act_step at_i]
    rcases new with hp | hp <;> exact ⟨_, by simp [stepCall, hp, wanted]; rfl⟩

/-- A call whose turn it is goes on. -/
theorem Cache.exists_step_of_admits (at_i : c.calls[i]? = some call)
    (waiting : call.phase = .waiting access) (turn : c.lock.admits i = true) :
    ∃ c', c.act (.step i) = some c' := by
  rcases Bool.eq_false_or_eq_true call.cancelled with given | wanted
  · exact exists_step_of_cancelled at_i given (by simp [waiting])
  · rw [act_step at_i]
    exact ⟨_, by simp [stepCall, waiting, wanted, enter?, turn]; rfl⟩

/-- Whoever waits for the issuer goes on with every answer, unless its caller has given up. -/
theorem Cache.exists_step_of_asking (h : c.Asking i key since) :
    (∃ c', c.act (.step i) = some c') ∨
      ∀ answer, ∃ c', c.act (.settle i answer) = some c' := by
  obtain ⟨⟨request, phase, cancelled⟩, at_i, hphase⟩ := Option.map_eq_some_iff.1 h.2
  obtain rfl : phase = .issuing since := hphase
  obtain rfl : request = .get key :=
    Option.some.inj ((request?_of_getElem? at_i).symm.trans h.1)
  cases cancelled with
  | true => exact .inl (exists_step_of_cancelled at_i rfl (by simp))
  | false => exact .inr fun answer => ⟨_, by simp [act, at_i]; rfl⟩

/-- While the lock is in order and no request is in flight, some call can go on: one that has yet to
come to the lock, or the one that has waited longest. -/
theorem Cache.LockInOrder.exists_step (hc : c.LockInOrder) (hi : c.Unfinished i)
    (idle : ∀ j since, c.phase? j ≠ some (.issuing since)) :
    ∃ j c', c.Unfinished j ∧ c.act (.step j) = some c' := by
  obtain ⟨p, hp, hopen⟩ := hi
  obtain ⟨call, at_i, rfl⟩ := Option.map_eq_some_iff.1 hp
  cases hphase : call.phase with
  | ready =>
      obtain ⟨c', hc'⟩ := exists_step_of_new at_i (.inl hphase)
      exact ⟨i, c', ⟨_, hp, hopen⟩, hc'⟩
  | missed =>
      obtain ⟨c', hc'⟩ := exists_step_of_new at_i (.inr hphase)
      exact ⟨i, c', ⟨_, hp, hopen⟩, hc'⟩
  | waiting access =>
      have hwriter : c.lock.writer = none := by
        by_contra hsome
        obtain ⟨j, hj⟩ := Option.ne_none_iff_exists'.1 hsome
        obtain ⟨key, since, hasking⟩ := hc.writer j hj
        exact idle j since hasking.2
      have hmem : (i, access) ∈ c.lock.queue := (hc.queue i access).2 (by rw [hp, hphase])
      obtain ⟨⟨j, other⟩, rest, hqueue⟩ := List.exists_cons_of_ne_nil (List.ne_nil_of_mem hmem)
      have hj : c.phase? j = some (.waiting other) := (hc.queue j other).1 (by simp [hqueue])
      obtain ⟨first, at_j, hwaiting⟩ := Option.map_eq_some_iff.1 hj
      obtain ⟨c', hc'⟩ := exists_step_of_admits at_j hwaiting
        (Lock.admits_head hqueue hc.readers hwriter)
      exact ⟨j, c', ⟨_, hj, by simp⟩, hc'⟩
  | issuing since => exact absurd (by rw [hp, hphase]) (idle i since)
  | done result => exact absurd hphase (hopen result)

/-! ## Steps bring calls nearer to their end -/

/-- How many steps at most a call in this phase still has before it. -/
def Phase.ahead : Phase → Nat
  | .ready => 5
  | .waiting .read => 4
  | .missed => 3
  | .waiting .write => 2
  | .issuing _ => 1
  | .done _ => 0

/-- A call that is let in as a reader has yet to look, and as a writer has yet to ask. -/
theorem Call.ahead_of_access (h : call.access? = some access) :
    (Phase.waiting access).ahead ≤ call.phase.ahead ∧
      ((∀ access, call.phase ≠ .waiting access) →
        (Phase.waiting access).ahead < call.phase.ahead) := by
  obtain ⟨request, phase, cancelled⟩ := call
  cases phase with
  | issuing | done => simp [Call.access?] at h
  | waiting => obtain rfl := Option.some.inj h; simp
  | missed => obtain rfl := Option.some.inj h; simp [Phase.ahead]
  | ready => obtain rfl := Option.some.inj h; cases request <;> simp [Phase.ahead, Request.access]

theorem Outcome.ahead_pos {result : Result} {records : Records}
    (h : Outcome c i a call result events records) : 0 < call.phase.ahead := by
  have hadmitted {access : Access} (admitted : Admitted c call access) : 0 < call.phase.ahead := by
    refine Nat.lt_of_lt_of_le ?_ (Call.ahead_of_access admitted.access).1
    cases access <;> decide
  cases h with
  | gaveUp _ unfinished =>
      cases hp : call.phase with
      | done result => exact absurd hp (unfinished result)
      | waiting access => cases access <;> simp [Phase.ahead]
      | ready | missed | issuing => simp [Phase.ahead]
  | unreadable admitted | hit admitted | refreshed admitted | cleared admitted
  | counted admitted => exact hadmitted admitted
  | crashed | failed | empty | overflowed | stored => simp [Phase.ahead]

/-- A call that moves to a phase nearer to its end leaves the others where they are. -/
theorem Cache.moved_nearer (lock : Lock) (events : List Event) (at_i : c.calls[i]? = some call)
    (h : phase.ahead < call.phase.ahead) : ∃ p p', c.phase? i = some p ∧
      (c.moved i phase lock events).phase? i = some p' ∧ p'.ahead < p.ahead ∧
      ∀ j, j ≠ i → (c.moved i phase lock events).phase? j = c.phase? j := by
  refine ⟨call.phase, phase, phase?_of_getElem? at_i, ?_, h, fun j hne => ?_⟩
  · rw [phase?_moved, if_pos rfl, phase?_of_getElem? at_i, Option.map_some]
  · rw [phase?_moved, if_neg (Ne.symm hne)]

/-- A step brings its call nearer to its end and leaves the others where they are. -/
theorem Change.nearer (h : Change c (.step i) c') : ∃ p p', c.phase? i = some p ∧
    c'.phase? i = some p' ∧ p'.ahead < p.ahead ∧ ∀ j, j ≠ i → c'.phase? j = c.phase? j := by
  cases h with
  | queue at_i _ turn new => exact moved_nearer _ _ at_i ((Call.ahead_of_access turn).2 new)
  | miss at_i admitted | ask at_i admitted =>
      refine moved_nearer _ _ at_i (Nat.lt_of_lt_of_le ?_ (Call.ahead_of_access admitted.access).1)
      simp [Phase.ahead]
  | @finish _ k call result events _ at_k outcome =>
      obtain rfl : k = i := by cases outcome <;> rfl
      have hlt : (Phase.done result).ahead < call.phase.ahead := outcome.ahead_pos
      exact moved_nearer (c.lock.leave k) (.ended result :: events) at_k hlt

/-! ## Freedom from deadlock -/

/-- What a cache promises about calls that wait. -/
structure DeadlockFree (c : Cache) : Prop where
  /-- Whoever waits at the lock holds it neither as a reader nor as the writer. -/
  apart : ∀ i access, (i, access) ∈ c.lock.queue ∨ c.phase? i = some (.waiting access) →
    i ∉ c.lock.readers ∧ c.lock.writer ≠ some i
  /-- Between two steps no reader is inside, and no writer but a call that waits for the issuer's
  answer to its request. -/
  held : c.lock.readers = [] ∧
    ∀ i, c.lock.writer = some i → ∃ key since, c.Asking i key since
  /-- If a call is unfinished and no request is in flight, some unfinished call can take a step, and
  this step brings it nearer to its end. -/
  progress : (∃ i, c.Unfinished i) → (∀ i since, c.phase? i ≠ some (.issuing since)) →
    ∃ j c' p p', c.Unfinished j ∧ c.act (.step j) = some c' ∧ c.phase? j = some p ∧
      c'.phase? j = some p' ∧ p'.ahead < p.ahead
  /-- A call that waits for the issuer takes any answer, unless its caller has given up: then it can
  take a step. -/
  answered : ∀ i key since, c.Asking i key since → (∃ c', c.act (.step i) = some c') ∨
    ∀ answer, ∃ c', c.act (.settle i answer) = some c'

/-- **No deadlock.** However calls are interleaved, cancelled, failed and cleared away, no call
waits for the lock while it holds it, the lock is held from one step to the next only for a request
in flight, and without one some unfinished call can go on. -/
theorem deadlockFree_of_run (s : Settings) (as : List Action) (c : Cache)
    (h : (ofSettings s).run as = some c) : DeadlockFree c := by
  have hc := lockInOrder_of_run h
  refine ⟨?_, ⟨hc.readers, hc.writer⟩, ?_, fun i key since => exists_step_of_asking⟩
  · intro i access hwaits
    have hwaiting : c.phase? i = some (.waiting access) := by
      rcases hwaits with hmem | hphase
      · exact (hc.queue i access).1 hmem
      · exact hphase
    refine ⟨by simp [hc.readers], fun hwriter => ?_⟩
    obtain ⟨key, since, hasking⟩ := hc.writer i hwriter
    simp [hasking.2] at hwaiting
  · rintro ⟨i, hi⟩ idle
    obtain ⟨j, c', hj, hact⟩ := hc.exists_step hi idle
    obtain ⟨p, p', hp, hp', hlt, -⟩ := (Change.of_act hact).nearer
    exact ⟨j, c', p, p', hj, hact, hp, hp', hlt⟩

/-- One call is about to clear and another to count when the caller of a request in flight gives up.
The one that counts has to wait still, but the one that came before it can go on. -/
theorem deadlockFree_behind_given_up :
    let key : Key := ⟨"db", "eu", "admin", .ofSeconds 900⟩
    let schedule : List Action := [.start (.get key), .start .clear, .start .size, .step 0, .step 0,
      .step 1, .step 2, .cancel 0, .step 0]
    ∃ c, (ofSettings {}).run schedule = some c ∧ DeadlockFree c ∧ c.act (.step 2) = none ∧
      ∃ j c', c.Unfinished j ∧ c.act (.step j) = some c' := by
  intro key schedule
  have hviews : ((ofSettings {}).run schedule).map (fun c =>
      (c.calls.map (·.phase), (c.act (.step 2)).isNone)) =
      some ([.done (.token (.error .cancelled)), .waiting .write, .waiting .read], true) := by
    decide +kernel
  obtain ⟨c, hc, hview⟩ := Option.map_eq_some_iff.1 hviews
  obtain ⟨hphases, hnone⟩ := Prod.mk.inj hview
  have hphase (i : Nat) : c.phase? i = [.done (.token (.error .cancelled)), .waiting .write,
      .waiting .read][i]? := by
    rw [← hphases, List.getElem?_map, phase?]
  have hfree := deadlockFree_of_run {} schedule c hc
  have hopen : c.Unfinished 1 := ⟨.waiting .write, hphase 1, by simp⟩
  have hidle : ∀ i since, c.phase? i ≠ some (.issuing since) := by
    intro i since hi
    have hmem := List.mem_of_getElem? ((hphase i).symm.trans hi)
    simp at hmem
  obtain ⟨j, c', -, -, hj, hact, -⟩ := hfree.progress ⟨1, hopen⟩ hidle
  exact ⟨c, hc, hfree, Option.isNone_iff_eq_none.1 hnone, j, c', hj, hact⟩

end StoreClient.Credentials
