import StoreClient.Proofs.Credentials.Journal

/-!
# Forgetting as a fence

Once a call has forgotten all records, a call that begins only then ends with no token other than
those for which the issuer has been asked since. No request can be in flight across the fence: a
call that asks the issuer holds the lock until it is over, and all records are forgotten behind the
same lock.
-/

namespace StoreClient.Credentials

open Cache

variable {c c' old : Cache} {a : Action} {key : Key} {i : Nat} {token : String}
  {new more : List Entry}

/-- The entries hold a request to the issuer for a key and, after that, the record of the token that
the same call was given. -/
def Produced (key : Key) (token : String) (entries : List Entry) : Prop :=
  ∃ newer between older k since time record size,
    entries = newer ++ ⟨k, time, .stored key record size⟩ ::
      (between ++ ⟨k, since, .requested key⟩ :: older) ∧
    record.token = token ∧ record.issuedAt = since

theorem Produced.append (h : Produced key token new) (more : List Entry) :
    Produced key token (more ++ new) := by
  obtain ⟨newer, between, older, k, since, time, record, size, rfl, h⟩ := h
  exact ⟨more ++ newer, between, older, k, since, time, record, size, by simp, h⟩

/-- A call ends with no token but the one on record. -/
theorem Outcome.lookup_of_token {call : Call} {events : List Event} {records : Records}
    (h : Outcome c i a call (.token (.ok token)) events records) :
    ∃ key record, call.request = .get key ∧ records.lookup key = some record ∧
      record.token = token := by
  cases h with
  | hit _ request found | refreshed _ request found =>
      obtain ⟨record, hr, htoken, -⟩ := find_eq_fresh.1 found
      exact ⟨_, record, request, hr, htoken⟩
  | stored _ issue =>
      obtain ⟨htoken, -, -⟩ := Record.fields_of_issue issue
      exact ⟨_, _, rfl, Records.lookup_insert_self _ _ _, htoken⟩

/-- What holds of a cache and the entries since all records were forgotten. -/
structure Fenced (old c : Cache) (new : List Entry) : Prop where
  journal : c.journal = new ++ old.journal
  asked : ∀ k key since, c.Asking k key since → ⟨k, since, .requested key⟩ ∈ new
  produced : ∀ key record, c.records.lookup key = some record → Produced key record.token new
  returned : ∀ i token, (∀ result, old.phase? i ≠ some (.done result)) →
    c.phase? i = some (.done (.token (.ok token))) →
    ∃ key, c.request? i = some (.get key) ∧ Produced key token new

/-- When all records have just been forgotten nothing is left, and nobody waits for the issuer. -/
theorem fenced_of_cleared (he : c.Exclusive) (h : Ends c a c' i .cleared) : Fenced c' c' [] := by
  obtain ⟨call, events, records, at_i, outcome, rfl⟩ := h.outcome
  cases outcome with
  | cleared admitted =>
      refine ⟨rfl, ?_, ?_, ?_⟩
      · intro k key since hk
        rcases phase?_ended_eq_some hk.2 with ⟨-, hp⟩ | ⟨-, hp⟩
        · simp at hp
        · exact absurd hp (he.phase?_ne admitted.free)
      · intro key record hr
        simp at hr
      · intro k token hnew hk
        exact absurd hk (hnew _)

theorem Change.fenced (h : Change c a c') (hf : Fenced old c new) :
    ∃ more, Fenced old c' (more ++ new) := by
  obtain ⟨more, hmore, -⟩ := h.journal_eq
  have hproduced : ∀ key record, c'.records.lookup key = some record →
      Produced key record.token (more ++ new) := by
    intro key record hr
    cases h with
    | start | cancel | advance | queue | miss | ask => exact (hf.produced key record hr).append more
    | @finish _ k call result events records at_k outcome =>
        rcases outcome.records_eq with
          hsame | ⟨-, hnone⟩ | ⟨other, since, _, stored, rfl, issue, rfl, rfl⟩
        · rw [records_ended, hsame] at hr
          exact (hf.produced key record hr).append more
        · simp [hnone] at hr
        · -- the call that stores a token has been in flight, so its request is behind the fence
          by_cases heq : key = other
          · subst heq
            obtain rfl : stored = record := by simpa using hr
            obtain ⟨-, hissued, -⟩ := Record.fields_of_issue issue
            have hasking : c.Asking k key since :=
              ⟨request?_of_getElem? at_k, phase?_of_getElem? at_k⟩
            obtain ⟨between, older, hnew⟩ := List.append_of_mem (hf.asked k key since hasking)
            have hevents := List.append_cancel_right hmore
            refine ⟨[⟨k, c.now, .ended result⟩], ⟨k, c.now, .issued⟩ :: between, older, k, since,
              c.now, stored, (c.records.insert key stored).length, ?_, rfl, hissued⟩
            rw [← hevents, hnew]
            simp
          · rw [records_ended, Records.lookup_insert_of_ne _ _ heq] at hr
            exact (hf.produced key record hr).append more
  refine ⟨more, ?_, ?_, hproduced, ?_⟩
  · rw [hmore, hf.journal, List.append_assoc]
  · intro k key since hk
    rcases h.asking_before hk with hold | ⟨rfl, -, -, found, -, -, rfl⟩
    · exact List.mem_append_right _ (hf.asked k key since hold)
    · have hevents := List.append_cancel_right hmore
      simp [← hevents]
  · intro k token hnew hk
    rcases h.done_before hk with hold | ⟨call, events, records, at_k, outcome, rfl⟩
    · obtain ⟨key, hr, hp⟩ := hf.returned k token hnew hold
      exact ⟨key, h.request?_eq_some hr, hp.append more⟩
    · obtain ⟨key, record, request, hr, rfl⟩ := outcome.lookup_of_token
      refine ⟨key, ?_, hproduced key record hr⟩
      rw [request?_ended, request?_of_getElem? at_k, request]

theorem fenced_of_run {as : List Action} (start : Fenced old old [])
    (h : old.run as = some c) : ∃ new, Fenced old c new := by
  refine invariant_of_run (P := fun d => ∃ new, Fenced old d new) ?_ h ⟨[], start⟩
  rintro a d d' ⟨new, hf⟩ hc
  obtain ⟨more, hf⟩ := hc.fenced hf
  exact ⟨more ++ new, hf⟩

/-- **Forgetting is a fence.** A call that is not over when all records are forgotten, in particular
one that begins only then, ends with no token but one for which the issuer has been asked since. -/
theorem produced_since_cleared (s : Settings) (before after : List Action) (c cleared d : Cache)
    (a : Action) (i j : Nat) (token : String) (hc : (ofSettings s).run before = some c)
    (hclear : Ends c a cleared j .cleared) (hd : cleared.run after = some d)
    (hnew : ∀ result, cleared.phase? i ≠ some (.done result))
    (hi : d.phase? i = some (.done (.token (.ok token)))) :
    ∃ key new, d.request? i = some (.get key) ∧ d.journal = new ++ cleared.journal ∧
      Produced key token new := by
  obtain ⟨new, hf⟩ := fenced_of_run (fenced_of_cleared (exclusive_of_run hc) hclear) hd
  obtain ⟨key, hr, hp⟩ := hf.returned i token hnew hi
  exact ⟨key, new, hr, hf.journal, hp⟩

/-- A call forgets all records right after a token has come that was asked for before, and the next
call asks again. -/
theorem produced_since_cleared_behind_request :
    let key : Key := ⟨"db", "eu", "admin", .ofSeconds 900⟩
    let before : List Action :=
      [.start (.get key), .start .clear, .step 0, .step 0, .step 1, .settle 0 (.ok "old")]
    let after : List Action := [.start (.get key), .step 2, .step 2, .settle 2 (.ok "new")]
    ∃ c cleared d, (ofSettings {}).run before = some c ∧
      c.phase? 0 = some (.done (.token (.ok "old"))) ∧ c.phase? 1 = some (.waiting .write) ∧
      Ends c (.step 1) cleared 1 .cleared ∧ cleared.run after = some d ∧
      ∃ new, d.journal = new ++ cleared.journal ∧ Produced key "new" new := by
  intro key before after
  have hrun : ((ofSettings {}).run before).bind (fun c => (c.act (.step 1)).bind fun cleared =>
      (cleared.run after).map fun d => ((c.phase? 0, c.phase? 1),
        (cleared.phase? 1, cleared.phase? 2), (d.phase? 2, d.request? 2))) =
      some ((some (.done (.token (.ok "old"))), some (.waiting .write)),
        (some (.done .cleared), none),
        (some (.done (.token (.ok "new"))), some (.get key))) := by
    decide +kernel
  obtain ⟨c, hc, hact⟩ := Option.bind_eq_some_iff.1 hrun
  obtain ⟨cleared, ha, hafter⟩ := Option.bind_eq_some_iff.1 hact
  obtain ⟨d, hd, hviews⟩ := Option.map_eq_some_iff.1 hafter
  simp only [Prod.mk.injEq] at hviews
  obtain ⟨⟨hold, hwaiting⟩, ⟨hcleared, hnone⟩, hdone, hrequest⟩ := hviews
  have hend : Ends c (.step 1) cleared 1 .cleared := ⟨ha, by simp [hwaiting], hcleared⟩
  obtain ⟨other, new, hother, hjournal, hp⟩ := produced_since_cleared {} before after c cleared d
    (.step 1) 2 1 "new" hc hend hd (by simp [hnone]) hdone
  obtain rfl := Request.get.inj (Option.some.inj (hrequest.symm.trans hother))
  exact ⟨c, cleared, d, hc, hold, hwaiting, hend, hd, new, hjournal, hp⟩

end StoreClient.Credentials
