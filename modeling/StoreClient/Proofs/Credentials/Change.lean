import StoreClient.Credentials.Cache

/-!
# What an action can do to a cache

`Change` lists the ways in which an action turns one cache into another, each with the conditions
under which it happens, and `Outcome` the ways in which a call can end. A claim about all
interleavings is proved by cases on these, without a look at the operations again.
-/

namespace StoreClient.Credentials

/-! ## The lock -/

namespace Lock

variable {l : Lock} {i : Nat} {a b : Access}

/-- Whoever is let in finds no writer inside. -/
theorem writer_eq_none_of_admits (h : l.admits i = true) : l.writer = none := by
  simp only [admits] at h
  split at h <;> simp_all

theorem leave_join (l : Lock) (i : Nat) (a : Access) : (l.join i a).leave i = l.leave i := by
  simp [leave, join]
  rfl

/-- To enter and to leave again is to leave the queue. -/
theorem leave_enter (h : l.writer = none) : (l.enter i a).leave i = l.leave i := by
  cases a <;> simp [leave, enter, h]

theorem enter_join (l : Lock) (i : Nat) (a b : Access) : (l.join i a).enter i b = l.enter i b := by
  cases b <;> simp [enter, join]

/-- A writer stays when another call leaves. -/
theorem writer_leave_of_ne {j : Nat} (h : l.writer = some j) (hne : i ≠ j) :
    (l.leave i).writer = some j := by
  simp [leave, h, Ne.symm hne]

end Lock

/-! ## Calls -/

namespace Cache

/-- How far a call has come. -/
def phase? (c : Cache) (i : Nat) : Option Phase := c.calls[i]?.map (·.phase)

/-- What a call asks for. -/
def request? (c : Cache) (i : Nat) : Option Request := c.calls[i]?.map (·.request)

/-- The cache once a call has come to a phase, with the lock and the events this leaves, the latest
event first. -/
def moved (c : Cache) (i : Nat) (phase : Phase) (lock : Lock) (events : List Event) : Cache :=
  { c with
    lock
    calls := c.calls.modify i ({ · with phase })
    journal := events.map (⟨i, c.now, ·⟩) ++ c.journal }

/-- The cache once a call is over, with the events before its end and the records it leaves. -/
def ended (c : Cache) (i : Nat) (result : Result) (events : List Event) (records : Records) :
    Cache :=
  { c.moved i (.done result) (c.lock.leave i) (.ended result :: events) with records }

section Views

variable (c : Cache) (i : Nat) (phase : Phase) (lock : Lock) (result : Result)
  (events : List Event) (records : Records) (j : Nat)

@[simp] theorem settings_moved : (c.moved i phase lock events).settings = c.settings := rfl
@[simp] theorem now_moved : (c.moved i phase lock events).now = c.now := rfl
@[simp] theorem records_moved : (c.moved i phase lock events).records = c.records := rfl
@[simp] theorem lock_moved : (c.moved i phase lock events).lock = lock := rfl
@[simp] theorem journal_moved : (c.moved i phase lock events).journal =
    events.map (⟨i, c.now, ·⟩) ++ c.journal := rfl

@[simp] theorem settings_ended : (c.ended i result events records).settings = c.settings := rfl
@[simp] theorem now_ended : (c.ended i result events records).now = c.now := rfl
@[simp] theorem records_ended : (c.ended i result events records).records = records := rfl
@[simp] theorem lock_ended : (c.ended i result events records).lock = c.lock.leave i := rfl
@[simp] theorem journal_ended : (c.ended i result events records).journal =
    ⟨i, c.now, .ended result⟩ :: (events.map (⟨i, c.now, ·⟩) ++ c.journal) := rfl

theorem getElem?_calls_moved : (c.moved i phase lock events).calls[j]? =
    if i = j then c.calls[j]?.map ({ · with phase }) else c.calls[j]? := by
  by_cases h : i = j <;> simp [moved, h]

theorem phase?_moved : (c.moved i phase lock events).phase? j =
    if i = j then (c.phase? j).map fun _ => phase else c.phase? j := by
  by_cases h : i = j <;> simp [phase?, getElem?_calls_moved, h, Function.comp_def]

theorem phase?_ended : (c.ended i result events records).phase? j =
    if i = j then (c.phase? j).map fun _ => .done result else c.phase? j :=
  phase?_moved c i _ (c.lock.leave i) (.ended result :: events) j

@[simp] theorem request?_moved :
    (c.moved i phase lock events).request? j = c.request? j := by
  by_cases h : i = j <;> simp [request?, getElem?_calls_moved, h, Function.comp_def]

@[simp] theorem request?_ended :
    (c.ended i result events records).request? j = c.request? j :=
  request?_moved c i (.done result) (c.lock.leave i) (.ended result :: events) j

theorem getElem?_concat {α : Type} (xs : List α) (x : α) (j : Nat) :
    (xs ++ [x])[j]? = if j = xs.length then some x else xs[j]? := by
  rw [List.getElem?_append]
  by_cases hlt : j < xs.length
  · simp [hlt, Nat.ne_of_lt hlt]
  · by_cases heq : j = xs.length
    · simp [heq]
    · have hpos : j - xs.length ≠ 0 := by omega
      simp [hlt, heq, hpos]

theorem phase?_start (request : Request) :
    ({ c with calls := c.calls ++ [{ request }] } : Cache).phase? j =
      if j = c.calls.length then some .ready else c.phase? j := by
  simp only [phase?, getElem?_concat]
  split <;> rfl

theorem request?_start (request : Request) :
    ({ c with calls := c.calls ++ [{ request }] } : Cache).request? j =
      if j = c.calls.length then some request else c.request? j := by
  simp only [request?, getElem?_concat]
  split <;> rfl

@[simp] theorem phase?_cancel :
    ({ c with calls := c.calls.modify i ({ · with cancelled := true }) } : Cache).phase? j =
      c.phase? j := by
  by_cases h : i = j <;> simp [phase?, h, Function.comp_def]

@[simp] theorem request?_cancel :
    ({ c with calls := c.calls.modify i ({ · with cancelled := true }) } : Cache).request? j =
      c.request? j := by
  by_cases h : i = j <;> simp [request?, h, Function.comp_def]

end Views

variable {c : Cache} {i j : Nat} {phase p : Phase} {lock : Lock} {result : Result}
  {events : List Event} {records : Records}

/-- Where a phase comes from: this move, or an earlier one of another call. -/
theorem phase?_moved_eq_some (h : (c.moved i phase lock events).phase? j = some p) :
    i = j ∧ p = phase ∨ i ≠ j ∧ c.phase? j = some p := by
  rw [phase?_moved] at h
  split at h
  · simp only [Option.map_eq_some_iff] at h
    obtain ⟨-, -, rfl⟩ := h
    exact .inl ⟨‹_›, rfl⟩
  · exact .inr ⟨‹_›, h⟩

theorem phase?_ended_eq_some (h : (c.ended i result events records).phase? j = some p) :
    i = j ∧ p = .done result ∨ i ≠ j ∧ c.phase? j = some p := by
  have hmoved : (c.moved i (.done result) (c.lock.leave i)
      (.ended result :: events)).phase? j = some p := h
  exact phase?_moved_eq_some hmoved

theorem phase?_of_getElem? {call : Call} (h : c.calls[i]? = some call) :
    c.phase? i = some call.phase := by
  simp [phase?, h]

theorem request?_of_getElem? {call : Call} (h : c.calls[i]? = some call) :
    c.request? i = some call.request := by
  simp [request?, h]

/-- A call that has come has a place below the number of calls. -/
theorem lt_length_of_phase?_eq_some (h : c.phase? i = some p) : i < c.calls.length := by
  simp only [phase?, Option.map_eq_some_iff] at h
  obtain ⟨call, hi, -⟩ := h
  exact (List.getElem?_eq_some_iff.1 hi).1

theorem phase?_start_eq_some {request : Request}
    (h : ({ c with calls := c.calls ++ [{ request }] } : Cache).phase? j = some p) :
    j = c.calls.length ∧ p = .ready ∨ c.phase? j = some p := by
  rw [phase?_start] at h
  split at h
  · simp only [Option.some.injEq] at h
    exact .inl ⟨‹_›, h.symm⟩
  · exact .inr h

end Cache

/-- As what a call stands at the lock next, if it does. -/
def Call.access? (call : Call) : Option Access :=
  match call.phase with
  | .ready => some call.request.access
  | .waiting access => some access
  | .missed => some .write
  | .issuing _ | .done _ => none

/-- What is remembered when a caller gives up. -/
def Phase.abandonment : Phase → List Event
  | .issuing _ => [.abandoned]
  | _ => []

/-- What is remembered when a look finds no fresh record. -/
def Lookup.staleness : Lookup → List Event
  | .stale => [.stale]
  | _ => []

theorem Cache.noteLookup_eq (c : Cache) (i : Nat) (found : Lookup) :
    c.noteLookup i found =
      { c with journal := found.staleness.map (⟨i, c.now, ·⟩) ++ c.journal } := by
  cases found <;> rfl

theorem Lookup.requested_notMem_staleness (found : Lookup) (key : Key) :
    .requested key ∉ found.staleness := by
  cases found <;> simp [staleness]

/-- A call whose caller still wants it is let in. -/
structure Admitted (c : Cache) (call : Call) (access : Access) : Prop where
  wanted : call.cancelled = false
  access : call.access? = some access
  free : c.lock.writer = none

/-! ## Changes -/

/-- How call `i` can end: by which action, with which result, after which events, the latest first,
and what it leaves as records. -/
inductive Outcome (c : Cache) (i : Nat) : Action → Call → Result → List Event → Records → Prop
  /-- The caller has given up. -/
  | gaveUp {call : Call} (cancelled : call.cancelled = true)
      (unfinished : ∀ result, call.phase ≠ .done result) :
      Outcome c i (.step i) call (.token (.error .cancelled)) call.phase.abandonment c.records
  /-- The clock or a duration cannot hold when a record becomes stale. -/
  | unreadable {call : Call} {access : Access} {key : Key} {cause : Crash}
      (admitted : Admitted c call access) (request : call.request = .get key)
      (found : c.find key = .error cause) :
      Outcome c i (.step i) call (.token (.crash cause)) [] c.records
  /-- A reader finds a fresh record. -/
  | hit {call : Call} {key : Key} {token : String}
      (admitted : Admitted c call .read) (request : call.request = .get key)
      (found : c.find key = .ok (.fresh token)) :
      Outcome c i (.step i) call (.token (.ok token)) [.hit] c.records
  /-- A writer finds a fresh record. -/
  | refreshed {call : Call} {key : Key} {token : String}
      (admitted : Admitted c call .write) (request : call.request = .get key)
      (found : c.find key = .ok (.fresh token)) :
      Outcome c i (.step i) call (.token (.ok token)) [.refreshed] c.records
  /-- All records are forgotten. -/
  | cleared {call : Call} {access : Access}
      (admitted : Admitted c call access) (request : call.request = .clear) :
      Outcome c i (.step i) call .cleared [.cleared] []
  /-- The records are counted. -/
  | counted {call : Call} {access : Access}
      (admitted : Admitted c call access) (request : call.request = .size) :
      Outcome c i (.step i) call (.size c.records.length) [] c.records
  /-- The issuer crashes. -/
  | crashed {key : Key} {since : Instant} {cause : Crash} :
      Outcome c i (.settle i (.crash cause)) ⟨.get key, .issuing since, false⟩
        (.token (.crash cause)) [] c.records
  /-- The issuer fails. -/
  | failed {key : Key} {since : Instant} {source : String} :
      Outcome c i (.settle i (.error source)) ⟨.get key, .issuing since, false⟩
        (.token (.error (.issuance key.host key.user source))) [.failed source] c.records
  /-- The issuer gives an empty token. -/
  | empty {key : Key} {since : Instant} {token : String} (empty : token.isEmpty = true) :
      Outcome c i (.settle i (.ok token)) ⟨.get key, .issuing since, false⟩
        (.token (.error (.emptyToken key.host key.user))) [.empty] c.records
  /-- The clock cannot hold the end of the lifetime of a new token. -/
  | overflowed {key : Key} {since : Instant} {token : String} {cause : Crash}
      (nonempty : token.isEmpty = false)
      (issue : Record.issue token since (c.lifetime key) = .error cause) :
      Outcome c i (.settle i (.ok token)) ⟨.get key, .issuing since, false⟩
        (.token (.crash cause)) [.issued] c.records
  /-- A new token is stored. -/
  | stored {key : Key} {since : Instant} {token : String} {record : Record}
      (nonempty : token.isEmpty = false)
      (issue : Record.issue token since (c.lifetime key) = .ok record) :
      Outcome c i (.settle i (.ok token)) ⟨.get key, .issuing since, false⟩ (.token (.ok token))
        [.stored key record (c.records.insert key record).length, .issued]
        (c.records.insert key record)

/-- What an action makes of a cache. -/
inductive Change (c : Cache) : Action → Cache → Prop
  /-- A call comes. -/
  | start (request : Request) :
      Change c (.start request) { c with calls := c.calls ++ [{ request }] }
  /-- A caller gives up. -/
  | cancel {i : Nat} {key : Key} (request : c.request? i = some (.get key)) :
      Change c (.cancel i) { c with calls := c.calls.modify i ({ · with cancelled := true }) }
  /-- Time passes. -/
  | advance {d : Duration} {now : Instant} (reach : c.now.add? d = some now) :
      Change c (.advance d) { c with now }
  /-- A call comes to the lock and has to wait. -/
  | queue {i : Nat} {call : Call} {access : Access} (at_i : c.calls[i]? = some call)
      (wanted : call.cancelled = false) (turn : call.access? = some access)
      (new : ∀ access, call.phase ≠ .waiting access) :
      Change c (.step i) (c.moved i (.waiting access) (c.lock.join i access) [])
  /-- A reader finds no fresh record. -/
  | miss {i : Nat} {call : Call} {key : Key} {found : Lookup} (at_i : c.calls[i]? = some call)
      (admitted : Admitted c call .read) (request : call.request = .get key)
      (look : c.find key = .ok found) (unfresh : ∀ token, found ≠ .fresh token) :
      Change c (.step i)
        (c.moved i .missed (c.lock.leave i) (.missed :: found.staleness))
  /-- A writer finds no fresh record and asks the issuer. -/
  | ask {i : Nat} {call : Call} {key : Key} {found : Lookup} (at_i : c.calls[i]? = some call)
      (admitted : Admitted c call .write) (request : call.request = .get key)
      (look : c.find key = .ok found) (unfresh : ∀ token, found ≠ .fresh token) :
      Change c (.step i)
        (c.moved i (.issuing c.now) (c.lock.enter i .write) (.requested key :: found.staleness))
  /-- A call ends. -/
  | finish {a : Action} {i : Nat} {call : Call} {result : Result} {events : List Event}
      {records : Records} (at_i : c.calls[i]? = some call)
      (outcome : Outcome c i a call result events records) :
      Change c a (c.ended i result events records)

namespace Outcome

variable {c : Cache} {i : Nat} {a : Action} {call : Call} {result : Result} {events : List Event}
  {records : Records}

/-- No call asks the issuer when it ends. -/
theorem requested_notMem (h : Outcome c i a call result events records) (key : Key) :
    .requested key ∉ events := by
  cases h with
  | gaveUp => cases call.phase <;> simp [Phase.abandonment]
  | _ => simp

/-- Records change only when they are forgotten or a new token is stored. -/
theorem records_eq (h : Outcome c i a call result events records) :
    records = c.records ∨ .cleared ∈ events ∧ records = [] ∨
      ∃ key since token record, call = ⟨.get key, .issuing since, false⟩ ∧
        Record.issue token since (c.lifetime key) = .ok record ∧
        events = [.stored key record (c.records.insert key record).length, .issued] ∧
        records = c.records.insert key record := by
  cases h with
  | cleared => exact .inr (.inl ⟨by simp, rfl⟩)
  | stored _ issue => exact .inr (.inr ⟨_, _, _, _, rfl, issue, rfl, rfl⟩)
  | _ => exact .inl rfl

end Outcome

namespace Change

variable {c c' : Cache} {a : Action} {i : Nat} {call : Call} {access : Access} {l : Lock}
  {calls : List Call}

/-- A call that is over changes the cache, whatever it has done at the lock before. -/
theorem of_finish {result : Result} {events : List Event} {records : Records}
    (hi : c.calls[i]? = some call) (outcome : Outcome c i a call result events records)
    (hleave : l.leave i = c.lock.leave i)
    (hcalls : ∀ phase, calls.modify i ({ · with phase }) = c.calls.modify i ({ · with phase })) :
    Change c a (({ c with
      lock := l
      calls
      records
      journal := events.map (⟨i, c.now, ·⟩) ++ c.journal } : Cache).finish i result) := by
  simpa [Cache.finish, Cache.release, Cache.setPhase, Cache.note, Cache.ended, Cache.moved, hleave,
    hcalls] using finish hi outcome

/-- Whatever a call has done at the lock before, once it is let in it changes the cache. -/
theorem of_proceed (hi : c.calls[i]? = some call) (admitted : Admitted c call access)
    (hleave : l.leave i = c.lock.leave i)
    (hwrite : access = .write → l = c.lock.enter i .write)
    (hcalls : ∀ phase, calls.modify i ({ · with phase }) = c.calls.modify i ({ · with phase })) :
    Change c (.step i) (({ c with lock := l, calls } : Cache).proceed i call.request access) := by
  have hfind : ∀ key, ({ c with lock := l, calls } : Cache).find key = c.find key := fun _ => rfl
  cases hr : call.request with
  | clear => exact of_finish hi (.cleared admitted hr) hleave hcalls
  | size => exact of_finish hi (.counted admitted hr) hleave hcalls
  | get key =>
      cases hf : c.find key with
      | error cause =>
          cases access with
          | read =>
              simp only [Cache.proceed, Cache.lookUp, hfind, hf]
              exact of_finish hi (.unreadable admitted hr hf) hleave hcalls
          | write =>
              simp only [Cache.proceed, Cache.lookAgain, hfind, hf]
              exact of_finish hi (.unreadable admitted hr hf) hleave hcalls
      | ok found =>
          cases access with
          | read =>
              cases found with
              | fresh token =>
                  simp only [Cache.proceed, Cache.lookUp, hfind, hf]
                  exact of_finish hi (.hit admitted hr hf) hleave hcalls
              | absent | stale =>
                  have h := miss hi admitted hr hf (by simp)
                  simpa [Cache.proceed, Cache.lookUp, hfind, hf, Cache.noteLookup_eq,
                    Cache.release, Cache.setPhase, Cache.note, Cache.moved, hleave, hcalls] using h
          | write =>
              cases found with
              | fresh token =>
                  simp only [Cache.proceed, Cache.lookAgain, hfind, hf]
                  exact of_finish hi (.refreshed admitted hr hf) hleave hcalls
              | absent | stale =>
                  have h := ask hi admitted hr hf (by simp)
                  obtain rfl := hwrite rfl
                  simpa [Cache.proceed, Cache.lookAgain, hfind, hf, Cache.noteLookup_eq,
                    Cache.setPhase, Cache.note, Cache.moved, hcalls] using h

/-- A call that comes to the lock joins the queue, and goes on at once if it is its turn. -/
theorem of_approach (hi : c.calls[i]? = some call) (wanted : call.cancelled = false)
    (hturn : call.access? = some access) (hnew : ∀ access, call.phase ≠ .waiting access) :
    Change c (.step i) (c.approach i call.request access) := by
  simp only [Cache.approach, Cache.enter?]
  split
  · rename_i hadmits
    have hfree : (c.lock.join i access).writer = none := Lock.writer_eq_none_of_admits hadmits
    refine of_proceed (l := (c.lock.join i access).enter i access) hi ⟨wanted, hturn, hfree⟩
      ?_ ?_ ?_
    · rw [Lock.leave_enter hfree, Lock.leave_join]
    · rintro rfl
      exact Lock.enter_join _ _ _ _
    · intro phase
      simp [Cache.setPhase, List.modify_modify_eq, Function.comp_def]
  · exact queue hi wanted hturn hnew

theorem of_stepCall (hi : c.calls[i]? = some call) (h : c.stepCall i call = some c') :
    Change c (.step i) c' := by
  obtain ⟨request, phase, cancelled⟩ := call
  cases cancelled with
  | true =>
      cases phase with
      | done result => simp [Cache.stepCall] at h
      | ready | waiting access | missed | issuing since =>
          simp only [Cache.stepCall, if_true, Option.some.injEq] at h
          subst h
          exact finish hi (.gaveUp rfl (by simp))
  | false =>
      cases phase with
      | done result | issuing since => simp [Cache.stepCall] at h
      | ready | missed =>
          simp only [Cache.stepCall, Bool.false_eq_true, if_false, Option.some.injEq] at h
          subst h
          exact of_approach hi rfl rfl (by simp)
      | waiting access =>
          simp only [Cache.stepCall, Cache.enter?, Bool.false_eq_true, if_false] at h
          split at h
          · rename_i hadmits
            have hfree : c.lock.writer = none := Lock.writer_eq_none_of_admits hadmits
            simp only [Option.some.injEq] at h
            subst h
            refine of_proceed hi ⟨rfl, rfl, hfree⟩ (Lock.leave_enter hfree) ?_ fun _ => rfl
            rintro rfl
            rfl
          · contradiction

theorem of_settleCall {key : Key} {since : Instant} (answer : Ending String String)
    (hi : c.calls[i]? = some ⟨.get key, .issuing since, false⟩) :
    Change c (.settle i answer) (c.settleCall i key since answer) := by
  cases answer with
  | crash cause => exact finish hi .crashed
  | error source => exact finish hi .failed
  | ok token =>
      cases he : token.isEmpty with
      | true =>
          simp only [Cache.settleCall, he, if_true]
          exact finish hi (.empty he)
      | false =>
          have hlife : (c.note i .issued).lifetime key = c.lifetime key := rfl
          cases hr : Record.issue token since (c.lifetime key) with
          | error cause =>
              simp only [Cache.settleCall, Cache.store, he, Bool.false_eq_true, if_false, hlife, hr]
              exact finish hi (.overflowed he hr)
          | ok record =>
              simp only [Cache.settleCall, Cache.store, he, Bool.false_eq_true, if_false, hlife, hr]
              exact finish hi (.stored he hr)

/-- Every action makes one of the listed changes. -/
theorem of_act (h : c.act a = some c') : Change c a c' := by
  cases a with
  | start request =>
      simp only [Cache.act, Option.some.injEq] at h
      subst h
      exact start request
  | cancel i =>
      cases hi : c.calls[i]? with
      | none => simp [Cache.act, hi] at h
      | some call =>
          simp only [Cache.act, hi, Option.bind_eq_bind, Option.bind_some] at h
          split at h
          · rename_i key hr
            simp only [Option.pure_def, Option.some.injEq] at h
            subst h
            have hrequest : c.request? i = some (.get key) := by simp [Cache.request?, hi, hr]
            exact cancel hrequest
          · contradiction
  | advance d =>
      simp only [Cache.act, Option.map_eq_some_iff] at h
      obtain ⟨now, hnow, rfl⟩ := h
      exact advance hnow
  | step i =>
      cases hi : c.calls[i]? with
      | none => simp [Cache.act, hi] at h
      | some call =>
          simp only [Cache.act, hi, Option.bind_eq_bind, Option.bind_some] at h
          exact of_stepCall hi h
  | settle i answer =>
      cases hi : c.calls[i]? with
      | none => simp [Cache.act, hi] at h
      | some call =>
          simp only [Cache.act, hi, Option.bind_eq_bind, Option.bind_some] at h
          split at h
          · simp only [Option.pure_def, Option.some.injEq] at h
            subst h
            exact of_settleCall answer hi
          · contradiction

end Change

end StoreClient.Credentials
