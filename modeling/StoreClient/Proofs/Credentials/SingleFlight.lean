import StoreClient.Proofs.Credentials.Journal

/-!
# Single flight

However calls are interleaved, the issuer answers one request at a time, and a key is asked for
again only once the token it was last given has become stale, unless that token never was stored or
has been forgotten.

The proof follows each request through the journal: until its call ends it is in flight, and from
then on its record is either still in the cache or stale for good.
-/

namespace StoreClient.Credentials

open Cache

variable {c c' : Cache} {a : Action} {key : Key} {i j : Nat} {since : Instant}
  {lifetime : Duration} {entries more : List Entry} {P Q : Record → Prop}

/-! ## Conclusions -/

/-- How the request of call `i` for a key, made at an instant, has come to its end according to the
entries that follow it: without a token, with a token that was forgotten again, or with a stored
record of which `P` holds. -/
def Concluded (lifetime : Duration) (key : Key) (i : Nat) (since : Instant) (entries : List Entry)
    (P : Record → Prop) : Prop :=
  ∃ time result, ⟨i, time, .ended result⟩ ∈ entries ∧
    ((∃ error, result = .token (.error error)) ∨ (∃ cause, result = .token (.crash cause)) ∨
      (∃ j time, ⟨j, time, .cleared⟩ ∈ entries) ∨
      ∃ token record size, result = .token (.ok token) ∧
        Record.issue token since lifetime = .ok record ∧
        ⟨i, time, .stored key record size⟩ ∈ entries ∧ P record)

/-- A conclusion stands whatever follows, as far as what it says of the record does. -/
theorem Concluded.append (h : Concluded lifetime key i since entries P)
    (weaken : ∀ token record, Record.issue token since lifetime = .ok record → P record →
      (∃ j time, ⟨j, time, .cleared⟩ ∈ more) ∨ Q record) :
    Concluded lifetime key i since (more ++ entries) Q := by
  obtain ⟨time, result, hend, h⟩ := h
  refine ⟨time, result, List.mem_append_right _ hend, ?_⟩
  rcases h with herror | hcrash | ⟨j, t, hclear⟩ |
    ⟨token, record, size, hresult, issue, hstore, hP⟩
  · exact .inl herror
  · exact .inr (.inl hcrash)
  · exact .inr (.inr (.inl ⟨j, t, List.mem_append_right _ hclear⟩))
  · rcases weaken token record issue hP with ⟨j, t, hclear⟩ | hQ
    · exact .inr (.inr (.inl ⟨j, t, List.mem_append_left _ hclear⟩))
    · exact .inr (.inr (.inr
        ⟨token, record, size, hresult, issue, List.mem_append_right _ hstore, hQ⟩))

/-! ## Keys in flight -/

/-- A key for which the issuer is asked has no fresh record. -/
def StaleInFlight (c : Cache) : Prop :=
  ∀ i key since record, c.Asking i key since → c.records.lookup key = some record →
    record.isStale c.now c.settings.refreshBuffer = .ok true

theorem Change.staleInFlight (h : Change c a c') (he : c.Exclusive) (hs : StaleInFlight c) :
    StaleInFlight c' := by
  intro i key since record hi hr
  rcases h.asking_before hi with hold | ⟨-, -, -, found, look, unfresh, rfl⟩
  · cases h with
    | start | cancel | queue | miss | ask => exact hs i key since record hold hr
    | advance reach =>
        have hle := (Change.advance reach).now_le
        exact Record.isStale_of_le (hs i key since record hold hr) hle
    | @finish _ j _ _ _ _ at_j outcome =>
        rcases outcome.records_eq with hsame | ⟨-, hnone⟩ | ⟨_, _, _, _, rfl, -⟩
        · rw [records_ended, hsame] at hr
          exact hs i key since record hold hr
        · simp [hnone] at hr
        · -- whoever stores a token was the only call in flight
          have hj := phase?_of_getElem? at_j
          obtain rfl := he.eq hold.2 hj
          simp [Asking, phase?_ended, hj] at hi
  · exact isStale_of_find look unfresh hr

/-! ## What becomes of a request -/

/-- What a request still has in a cache: its record, or the certainty that the record is stale. -/
def Kept (c : Cache) (key : Key) (record : Record) : Prop :=
  c.records.lookup key = some record ∨
    record.isStale c.now c.settings.refreshBuffer = .ok true

/-- Every request in the journal is in flight or concluded. -/
def Accounted (c : Cache) : Prop :=
  ∀ newer older i key since, c.journal = newer ++ ⟨i, since, .requested key⟩ :: older →
    c.Asking i key since ∨ Concluded (c.lifetime key) key i since newer (Kept c key)

/-- A kept record stays kept unless all records are forgotten. -/
theorem Kept.of_change {record : Record} (h : Change c a c') (hs : StaleInFlight c)
    (hk : Kept c key record) (hnew : c'.journal = more ++ c.journal) :
    (∃ j time, ⟨j, time, .cleared⟩ ∈ more) ∨ Kept c' key record := by
  have hstale (hr : record.isStale c.now c.settings.refreshBuffer = .ok true) :
      Kept c' key record := by
    right
    rw [h.settings_eq]
    exact Record.isStale_of_le hr h.now_le
  rcases hk with hlookup | hr
  · cases h with
    | start | cancel | advance | queue | miss | ask => exact .inr (.inl hlookup)
    | @finish _ j _ _ events _ at_j outcome =>
        rcases outcome.records_eq with
          hsame | ⟨hclear, -⟩ | ⟨other, since, _, _, rfl, -, -, hrecords⟩
        · exact .inr (.inl (by rw [records_ended, hsame, hlookup]))
        · have hmore : (.ended _ :: events).map (⟨j, c.now, ·⟩) = more :=
            List.append_cancel_right hnew
          exact .inl ⟨j, c.now, by simp [← hmore, hclear]⟩
        · by_cases heq : key = other
          · subst heq
            have hj : c.Asking j key since := ⟨request?_of_getElem? at_j, phase?_of_getElem? at_j⟩
            exact .inr (hstale (hs j key since record hj hlookup))
          · refine .inr (.inl ?_)
            rw [records_ended, hrecords, Records.lookup_insert_of_ne _ _ heq, hlookup]
  · exact .inr (hstale hr)

theorem Change.accounted (h : Change c a c') (hs : StaleInFlight c) (ha : Accounted c) :
    Accounted c' := by
  intro newer older i key since hj
  obtain ⟨new, hnew, hreq⟩ := h.journal_eq
  rw [hnew] at hj
  rw [h.lifetime_eq]
  rcases append_eq_append_cons hj with ⟨rest, rfl, hrest⟩ | ⟨rest, hcons, -⟩
  · -- an old request: it stays in flight or concludes now, or what it concluded with stands
    rcases ha rest older i key since hrest with hi | hc
    · rcases h.asking hi with hi | ⟨call, result, events, records, at_i, outcome, rfl⟩
      · exact .inl hi
      · have hevents : (.ended result :: events).map (⟨i, c.now, ·⟩) = new :=
          List.append_cancel_right hnew
        refine .inr ⟨c.now, result, by simp [← hevents], ?_⟩
        rcases outcome.of_asking at_i hi with
          ⟨herror | hcrash, -⟩ | ⟨token, record, -, issue, hresult, rfl, rfl⟩
        · exact .inl herror
        · exact .inr (.inl hcrash)
        · refine .inr (.inr (.inr
            ⟨token, record, (c.records.insert key record).length, hresult, issue, ?_, .inl ?_⟩))
          · simp [← hevents]
          · simp
    · exact .inr (hc.append fun _ record _ hk => hk.of_change h hs hnew)
  · exact .inl (hreq newer i key since rest hcons).2.asking

/-- Two requests for a key are spaced: the earlier has come to an end before the later one is made,
and if its record was not forgotten then it is stale by then. -/
def Spaced (c : Cache) : Prop :=
  ∀ newer between older i j key since later,
    c.journal = newer ++ ⟨j, later, .requested key⟩ ::
      (between ++ ⟨i, since, .requested key⟩ :: older) →
    Concluded (c.lifetime key) key i since between fun record =>
      record.isStale later c.settings.refreshBuffer = .ok true

theorem Change.spaced (h : Change c a c') (he : c.Exclusive) (ha : Accounted c) (hs : Spaced c) :
    Spaced c' := by
  intro newer between older i j key since later hj
  obtain ⟨new, hnew, hreq⟩ := h.journal_eq
  rw [hnew] at hj
  rw [h.settings_eq, h.lifetime_eq]
  rcases append_eq_append_cons hj with ⟨rest, rfl, hrest⟩ | ⟨before, hcons, hold⟩
  · exact hs rest between older i j key since later hrest
  · obtain ⟨-, hr⟩ := hreq newer j key later before hcons
    -- the later request is new, so nobody was in flight and its key had no fresh record
    rcases append_eq_append_cons hold.symm with ⟨rest, rfl, hrest⟩ | ⟨rest, rfl, -⟩
    · rcases ha rest older i key since hrest with hi | hc
      · exact absurd hi.2 (he.phase?_ne hr.free)
      · refine hc.append fun _ record _ hk => .inr ?_
        rw [hr.now]
        rcases hk with hlookup | hstale
        · exact hr.unfresh record hlookup
        · exact hstale
    · exact absurd (by simp) (hr.only i since key)

/-! ## Runs -/

/-- What holds of the requests of a cache whatever has happened to it. -/
structure Disciplined (c : Cache) : Prop where
  exclusive : c.Exclusive
  staleInFlight : StaleInFlight c
  accounted : Accounted c
  spaced : Spaced c

theorem disciplined_of_run {s : Settings} {as : List Action} (h : (ofSettings s).run as = some c) :
    Disciplined c := by
  refine invariant_of_run (fun _ d d' hd hc => ?_) h ?_
  · exact ⟨hc.exclusive hd.exclusive, hc.staleInFlight hd.exclusive hd.staleInFlight,
      hc.accounted hd.staleInFlight hd.accounted, hc.spaced hd.exclusive hd.accounted hd.spaced⟩
  · refine ⟨exclusive_ofSettings s, ?_, ?_, ?_⟩
    · intro i key since record _ hr
      simp [ofSettings] at hr
    · intro newer older i key since hj
      simp [ofSettings] at hj
    · intro newer between older i j key since later hj
      simp [ofSettings] at hj

/-- A writer who still wants a token and finds a fresh record takes that one. -/
theorem token_of_fresh {call : Call} {record : Record} (at_i : c.calls[i]? = some call)
    (request : call.request = .get key) (wanted : call.cancelled = false)
    (writer : call.access? = some .write) (hr : c.records.lookup key = some record)
    (fresh : record.isStale c.now c.settings.refreshBuffer = .ok false)
    (h : c.act (.step i) = some c') :
    (∀ access, call.phase ≠ .waiting access) ∧ c'.phase? i = some (.waiting .write) ∨
      c'.phase? i = some (.done (.token (.ok record.token))) ∧
        c'.journal = ⟨i, c.now, .ended (.token (.ok record.token))⟩ ::
          ⟨i, c.now, .refreshed⟩ :: c.journal := by
  have hfind : c.find key = .ok (.fresh record.token) := find_eq_fresh.2 ⟨record, hr, rfl, fresh⟩
  generalize ha : Action.step i = a at h
  cases Change.of_act h with
  | start | cancel | advance => contradiction
  | queue at_j _ turn new =>
      obtain rfl := Action.step.inj ha
      obtain rfl := Option.some.inj (at_i.symm.trans at_j)
      obtain rfl := Option.some.inj (writer.symm.trans turn)
      exact .inl ⟨new, by simp [phase?_moved, phase?_of_getElem? at_j]⟩
  | miss at_j admitted =>
      obtain rfl := Action.step.inj ha
      obtain rfl := Option.some.inj (at_i.symm.trans at_j)
      exact absurd (writer.symm.trans admitted.access) (by simp)
  | ask at_j _ asked look unfresh =>
      obtain rfl := Action.step.inj ha
      obtain rfl := Option.some.inj (at_i.symm.trans at_j)
      obtain rfl := Request.get.inj (request.symm.trans asked)
      exact absurd (Except.ok.inj (look.symm.trans hfind)) (unfresh _)
  | @finish _ j other result events records at_j outcome =>
      obtain rfl : i = j := by
        cases outcome <;> first | exact Action.step.inj ha | contradiction
      obtain rfl := Option.some.inj (at_i.symm.trans at_j)
      have hphase : c.phase? i = some call.phase := phase?_of_getElem? at_i
      cases outcome with
      | gaveUp cancelled => exact absurd (wanted.symm.trans cancelled) (by simp)
      | unreadable _ asked found =>
          obtain rfl := Request.get.inj (request.symm.trans asked)
          exact absurd (found.symm.trans hfind) (by simp)
      | hit admitted => exact absurd (writer.symm.trans admitted.access) (by simp)
      | refreshed _ asked found =>
          obtain rfl := Request.get.inj (request.symm.trans asked)
          obtain rfl := Lookup.fresh.inj (Except.ok.inj (found.symm.trans hfind))
          exact .inr ⟨by simp [phase?_ended, hphase], rfl⟩
      | cleared _ asked | counted _ asked => exact absurd (request.symm.trans asked) (by simp)
      | crashed | failed | empty | overflowed | stored => contradiction

/-! ## The discipline of requests -/

/-- What a cache promises about the requests it makes to the issuer. -/
structure SingleFlight (c : Cache) : Prop where
  /-- At most one request is in flight. -/
  alone : ∀ i j since later, c.phase? i = some (.issuing since) →
    c.phase? j = some (.issuing later) → i = j
  /-- A request in flight is in the journal. -/
  recorded : ∀ i key since, c.Asking i key since → ⟨i, since, .requested key⟩ ∈ c.journal
  /-- Of two requests for a key, the earlier one has come to its end before the later one is made.
  The later one is not made before the record of the earlier one becomes stale, unless that request
  gave no record or the record was forgotten. -/
  spaced : ∀ newer between older i j key since later,
    c.journal = newer ++ ⟨j, later, .requested key⟩ ::
      (between ++ ⟨i, since, .requested key⟩ :: older) →
    Concluded (c.lifetime key) key i since between fun record => ∃ window,
      record.refreshWindow c.settings.refreshBuffer = .ok window ∧
        record.issuedAt.nanoseconds + record.lifetime.nanoseconds - window.nanoseconds ≤
          later.nanoseconds
  /-- A call that has missed, is let in as the writer and finds that another call has stored a fresh
  record ends with the token of that record and without a request. -/
  shared : ∀ i call key record c', c.calls[i]? = some call → call.request = .get key →
    call.cancelled = false → call.phase = .missed ∨ call.phase = .waiting .write →
    c.records.lookup key = some record →
    record.isStale c.now c.settings.refreshBuffer = .ok false → c.act (.step i) = some c' →
    call.phase = .missed ∧ c'.phase? i = some (.waiting .write) ∨
      c'.phase? i = some (.done (.token (.ok record.token))) ∧
        c'.journal = ⟨i, c.now, .ended (.token (.ok record.token))⟩ ::
          ⟨i, c.now, .refreshed⟩ :: c.journal

/-- A stale record has reached its last window. -/
theorem refresh_le_of_isStale {token : String} {record : Record} {now : Instant}
    {buffer : Binary64} (issue : Record.issue token since lifetime = .ok record)
    (stale : record.isStale now buffer = .ok true) :
    ∃ window, record.refreshWindow buffer = .ok window ∧
      record.issuedAt.nanoseconds + record.lifetime.nanoseconds - window.nanoseconds ≤
        now.nanoseconds := by
  obtain ⟨t, ht, hnow⟩ := Record.isStale_eq_ok.1 stale
  obtain ⟨window, hwindow, hsub⟩ := Record.refreshAt_eq_ok.1 ht
  have hle : t.nanoseconds ≤ now.nanoseconds := of_decide_eq_true hnow
  have ht := Instant.nanoseconds_of_sub?_eq_some hsub
  obtain ⟨-, hsince, hexpires⟩ := Record.fields_of_issue issue
  have hlife := Record.lifetime_of_issue issue
  refine ⟨window, hwindow, ?_⟩
  rw [hsince]
  omega

/-- **Single flight.** However calls are interleaved, cancelled, failed and cleared away, a cache
keeps its promise about requests. -/
theorem singleFlight_of_run (s : Settings) (as : List Action) (c : Cache)
    (h : (ofSettings s).run as = some c) : SingleFlight c := by
  have hd := disciplined_of_run h
  refine ⟨fun i j since later => hd.exclusive.eq, ?_, ?_, ?_⟩
  · intro i key since hi
    exact mem_of_asked?_eq_some ((journaled_of_run h).asking i key since hi)
  · intro newer between older i j key since later hj
    have hc := hd.spaced newer between older i j key since later hj
    change Concluded (c.lifetime key) key i since ([] ++ between) _
    exact hc.append fun _ _ issue stale => .inr (refresh_le_of_isStale issue stale)
  · intro i call key record c' at_i request wanted hphase hr fresh ha
    have hwriter : call.access? = some .write := by
      rcases hphase with hp | hp <;> simp [Call.access?, hp]
    rcases token_of_fresh at_i request wanted hwriter hr fresh ha with ⟨hnew, hwait⟩ | hdone
    · exact .inl ⟨hphase.resolve_right (hnew .write), hwait⟩
    · exact .inr hdone

/-- Two callers miss together and share a token, and a third one comes when it is stale. -/
theorem singleFlight_three_callers :
    let key : Key := ⟨"db", "eu", "admin", .ofSeconds 900⟩
    let schedule : List Action :=
      [.start (.get key), .start (.get key), .step 0, .step 1, .step 0, .step 1,
        .advance (.ofSeconds 1), .settle 0 (.ok "first"), .step 1, .advance (.ofSeconds 720),
        .start (.get key), .step 2, .step 2, .settle 2 (.ok "second")]
    ∃ c, (ofSettings {}).run schedule = some c ∧
      c.phase? 1 = some (.done (.token (.ok "first"))) ∧
      c.phase? 2 = some (.done (.token (.ok "second"))) ∧ SingleFlight c := by
  intro key schedule
  have hviews : ((ofSettings {}).run schedule).map (fun c => (c.phase? 1, c.phase? 2)) =
      some (some (.done (.token (.ok "first"))), some (.done (.token (.ok "second")))) := by
    decide +kernel
  obtain ⟨c, hc, hphases⟩ := Option.map_eq_some_iff.1 hviews
  obtain ⟨hsecond, hthird⟩ := Prod.mk.inj hphases
  exact ⟨c, hc, hsecond, hthird, singleFlight_of_run {} schedule c hc⟩

end StoreClient.Credentials
