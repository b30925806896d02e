import StoreClient.Proofs.Credentials.Run

/-!
# One writer at a time

A call asks the issuer only as the writer, and stays the writer until it is over. So while one call
waits for the issuer no other call does, and no other call is let in at all.
-/

namespace StoreClient.Credentials

namespace Cache

variable {c : Cache} {i j : Nat} {since later : Instant}

/-- Whoever waits for the issuer is the writer. -/
def Exclusive (c : Cache) : Prop :=
  ∀ i since, c.phase? i = some (.issuing since) → c.lock.writer = some i

@[simp] theorem phase?_ofSettings (s : Settings) (i : Nat) : (ofSettings s).phase? i = none := rfl

theorem exclusive_ofSettings (s : Settings) : (ofSettings s).Exclusive := by
  intro i since h
  simp at h

/-- Two calls that wait for the issuer are one. -/
theorem Exclusive.eq (h : c.Exclusive) (hi : c.phase? i = some (.issuing since))
    (hj : c.phase? j = some (.issuing later)) : i = j := by
  have hw := (h i since hi).symm.trans (h j later hj)
  simpa using hw

/-- Where no writer is inside, nobody waits for the issuer. -/
theorem Exclusive.phase?_ne (h : c.Exclusive) (free : c.lock.writer = none) :
    c.phase? i ≠ some (.issuing since) := by
  intro hi
  have hw := h i since hi
  simp [free] at hw

end Cache

namespace Change

open Cache

variable {c c' : Cache} {a : Action}

theorem exclusive (h : Change c a c') (he : c.Exclusive) : c'.Exclusive := by
  intro j since hj
  cases h with
  | start =>
      rcases phase?_start_eq_some hj with ⟨-, hp⟩ | hj
      · simp at hp
      · exact he j since hj
  | cancel => exact he j since (by simpa using hj)
  | advance => exact he j since hj
  | queue =>
      rcases phase?_moved_eq_some hj with ⟨-, hp⟩ | ⟨-, hj⟩
      · simp at hp
      · exact he j since hj
  | miss =>
      rcases phase?_moved_eq_some hj with ⟨-, hp⟩ | ⟨hne, hj⟩
      · simp at hp
      · exact Lock.writer_leave_of_ne (he j since hj) hne
  | ask _ admitted =>
      rcases phase?_moved_eq_some hj with ⟨rfl, -⟩ | ⟨-, hj⟩
      · rfl
      · exact absurd hj (he.phase?_ne admitted.free)
  | finish =>
      rcases phase?_ended_eq_some hj with ⟨-, hp⟩ | ⟨hne, hj⟩
      · simp at hp
      · exact Lock.writer_leave_of_ne (he j since hj) hne

end Change

namespace Cache

theorem exclusive_of_run {s : Settings} {as : List Action} {c : Cache}
    (h : (ofSettings s).run as = some c) : c.Exclusive :=
  invariant_of_run (fun _ _ _ he hc => hc.exclusive he) h (exclusive_ofSettings s)

/-- A call waits for the issuer's answer to a request that it made at an instant. -/
def Asking (c : Cache) (i : Nat) (key : Key) (since : Instant) : Prop :=
  c.request? i = some (.get key) ∧ c.phase? i = some (.issuing since)

end Cache

open Cache

/-- A call that waits for the issuer waits for the answer to its request. -/
theorem Cache.Asking.eq {c : Cache} {i : Nat} {key other : Key} {since time : Instant}
    {cancelled : Bool} (hi : c.Asking i key since)
    (at_i : c.calls[i]? = some ⟨.get other, .issuing time, cancelled⟩) :
    other = key ∧ time = since := by
  have hr := (request?_of_getElem? at_i).symm.trans hi.1
  have hp := (phase?_of_getElem? at_i).symm.trans hi.2
  simpa using And.intro hr hp

/-- A call that is let in does not wait for the issuer. -/
theorem Admitted.not_asking {c : Cache} {i : Nat} {call : Call} {access : Access} {key : Key}
    {since : Instant} (h : Admitted c call access) (hi : c.calls[i]? = some call) :
    ¬ c.Asking i key since := by
  rintro ⟨-, hp⟩
  obtain hphase := Option.some.inj ((phase?_of_getElem? hi).symm.trans hp)
  exact Call.not_past h.access (.inl ⟨since, hphase⟩)

/-- A call that waits for the issuer waits on until it ends. -/
theorem Change.asking {c c' : Cache} {a : Action} {i : Nat} {key : Key} {since : Instant}
    (h : Change c a c') (hi : c.Asking i key since) :
    c'.Asking i key since ∨ ∃ call result events records, c.calls[i]? = some call ∧
      Outcome c i a call result events records ∧ c' = c.ended i result events records := by
  rcases h.past hi.2 (.inl ⟨since, rfl⟩) with hphase | hended
  · exact .inl ⟨h.request?_eq_some hi.1, hphase⟩
  · exact .inr hended

/-- A call that waits for the issuer has waited before or has just asked, as the only writer and
without a fresh record. -/
theorem Change.asking_before {c c' : Cache} {a : Action} {i : Nat} {key : Key} {since : Instant}
    (h : Change c a c') (hi : c'.Asking i key since) :
    c.Asking i key since ∨ since = c.now ∧ c.lock.writer = none ∧ a = .step i ∧ ∃ found,
      c.find key = .ok found ∧ (∀ token, found ≠ .fresh token) ∧
      c' = c.moved i (.issuing c.now) (c.lock.enter i .write)
        (.requested key :: found.staleness) := by
  obtain ⟨hr, hp⟩ := hi
  cases h with
  | start =>
      rcases phase?_start_eq_some hp with ⟨-, hready⟩ | hp
      · simp at hready
      · have hne : i ≠ c.calls.length := Nat.ne_of_lt (lt_length_of_phase?_eq_some hp)
        exact .inl ⟨by simpa [request?_start, hne] using hr, hp⟩
  | cancel => exact .inl ⟨by simpa using hr, by simpa using hp⟩
  | advance => exact .inl ⟨hr, hp⟩
  | queue | miss =>
      rcases phase?_moved_eq_some hp with ⟨-, hother⟩ | ⟨-, hp⟩
      · simp at hother
      · exact .inl ⟨by simpa using hr, hp⟩
  | @ask j call asked found at_j admitted request look unfresh =>
      rcases phase?_moved_eq_some hp with ⟨rfl, hnow⟩ | ⟨-, hp⟩
      · simp only [Phase.issuing.injEq] at hnow
        rw [request?_moved, request?_of_getElem? at_j, request] at hr
        simp only [Option.some.injEq, Request.get.injEq] at hr
        subst hr
        exact .inr ⟨hnow, admitted.free, rfl, found, look, unfresh, rfl⟩
      · exact .inl ⟨by simpa using hr, hp⟩
  | finish =>
      rcases phase?_ended_eq_some hp with ⟨-, hdone⟩ | ⟨-, hp⟩
      · simp at hdone
      · exact .inl ⟨by simpa using hr, hp⟩

/-- A call that waits for the issuer ends without a token or with the record of a new one. -/
theorem Outcome.of_asking {c : Cache} {i : Nat} {a : Action} {call : Call} {result : Result}
    {events : List Event} {records : Records} {key : Key} {since : Instant}
    (h : Outcome c i a call result events records) (at_i : c.calls[i]? = some call)
    (hi : c.Asking i key since) :
    ((∃ error, result = .token (.error error)) ∨ ∃ cause, result = .token (.crash cause)) ∧
        records = c.records ∨
      ∃ token record, a = .settle i (.ok token) ∧
        Record.issue token since (c.lifetime key) = .ok record ∧ result = .token (.ok token) ∧
        events = [.stored key record (c.records.insert key record).length, .issued] ∧
        records = c.records.insert key record := by
  cases h with
  | gaveUp => exact .inl ⟨.inl ⟨_, rfl⟩, rfl⟩
  | unreadable admitted | hit admitted | refreshed admitted | cleared admitted
  | counted admitted => exact absurd hi (admitted.not_asking at_i)
  | failed | empty => exact .inl ⟨.inl ⟨_, rfl⟩, rfl⟩
  | crashed | overflowed => exact .inl ⟨.inr ⟨_, rfl⟩, rfl⟩
  | stored _ issue =>
      obtain ⟨rfl, rfl⟩ := hi.eq at_i
      exact .inr ⟨_, _, rfl, issue, rfl, rfl, rfl⟩

end StoreClient.Credentials
