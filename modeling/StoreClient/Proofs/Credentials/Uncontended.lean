import StoreClient.Proofs.Credentials.History

/-!
# Calls at a free lock

A call that finds nobody at the lock goes on without waiting, so what becomes of it can be written
down: it ends with the token of a fresh record, or it misses, asks the issuer and stores the answer.

## Main definitions

* `Cache.entered` — a cache that has let a call in at the free lock.
* `Cache.asking` — a cache after a new call has missed and asked.
* `Cache.answered` — a cache after this call has been given a token.
-/

namespace StoreClient.Credentials

open Cache

variable {c : Cache} {key : Key} {i : Nat} {since : Instant} {token : String} {record : Record}
  {access : Access} {found : Lookup}

/-! ## Steps at a free lock -/

/-- The cache once a call has been let in at a free lock. -/
def Cache.entered (c : Cache) (i : Nat) (access : Access) : Cache :=
  { c with
    lock := Lock.enter {} i access
    calls := c.calls.modify i ({ · with phase := .waiting access }) }

/-- A call that finds the lock free is let in at once. -/
theorem Cache.approach_of_free {request : Request} (free : c.lock = {}) :
    c.approach i request access = (c.entered i access).proceed i request access := by
  cases access <;>
    simp [approach, enter?, setPhase, free, Lock.join, Lock.admits, Lock.ahead, Lock.enter, entered]

/-- A reader who finds the lock free and a fresh record is given its token. -/
theorem hit_of_free (at_i : c.calls[i]? = some ⟨.get key, .ready, false⟩)
    (free : c.lock = {}) (found : c.find key = .ok (.fresh token)) :
    ∃ c', Ends c (.step i) c' i (.token (.ok token)) ∧ c'.now = c.now := by
  have hfound : (c.entered i .read).find key = .ok (.fresh token) := found
  have hact : c.act (.step i) =
      some (((c.entered i .read).note i .hit).finishToken i (.ok token)) := by
    simp only [act, at_i, Option.bind_eq_bind, Option.bind_some, stepCall, Bool.false_eq_true,
      if_false, Request.access, approach_of_free free, proceed, lookUp, hfound]
  refine ⟨_, ⟨hact, ?_, ?_⟩, rfl⟩
  · simp [phase?_of_getElem? at_i]
  · simp [phase?, finishToken, finish, setPhase, note, release, entered, at_i]

/-- A reader who finds the lock free and no fresh record misses. -/
theorem miss_of_free (at_i : c.calls[i]? = some ⟨.get key, .ready, false⟩)
    (free : c.lock = {}) (look : c.find key = .ok found) (unfresh : ∀ token, found ≠ .fresh token) :
    c.act (.step i) = some (c.moved i .missed {} (.missed :: found.staleness)) := by
  have hlook : (c.entered i .read).find key = .ok found := look
  simp only [act, at_i, Option.bind_eq_bind, Option.bind_some, stepCall, Bool.false_eq_true,
    if_false, Request.access, approach_of_free free, proceed, lookUp, hlook]
  cases found with
  | fresh token => exact absurd rfl (unfresh token)
  | absent | stale =>
      simp [noteLookup_eq, release, setPhase, note, moved, entered, Lookup.staleness, Lock.enter,
        Lock.leave, List.modify_modify_eq, Function.comp_def]

/-- A writer who finds the lock free and no fresh record asks the issuer. -/
theorem ask_of_free (at_i : c.calls[i]? = some ⟨.get key, .missed, false⟩)
    (free : c.lock = {}) (look : c.find key = .ok found) (unfresh : ∀ token, found ≠ .fresh token) :
    c.act (.step i) = some
      (c.moved i (.issuing c.now) { writer := some i } (.requested key :: found.staleness)) := by
  have hlook : (c.entered i .write).find key = .ok found := look
  simp only [act, at_i, Option.bind_eq_bind, Option.bind_some, stepCall, Bool.false_eq_true,
    if_false, Request.access, approach_of_free free, proceed, lookAgain, hlook]
  cases found with
  | fresh token => exact absurd rfl (unfresh token)
  | absent | stale =>
      simp [noteLookup_eq, setPhase, note, moved, entered, Lookup.staleness, Lock.enter,
        List.modify_modify_eq, Function.comp_def]

/-- A token that the issuer gives is stored, if the clock reaches the end of its record. -/
theorem settle_stored (at_i : c.calls[i]? = some ⟨.get key, .issuing since, false⟩)
    (nonempty : token.isEmpty = false)
    (issue : Record.issue token since (c.lifetime key) = .ok record) :
    c.act (.settle i (.ok token)) = some (c.ended i (.token (.ok token))
      [.stored key record (c.records.insert key record).length, .issued]
      (c.records.insert key record)) := by
  have hi : c.Asking i key since := ⟨request?_of_getElem? at_i, phase?_of_getElem? at_i⟩
  have hact : c.act (.settle i (.ok token)) = some (c.settleCall i key since (.ok token)) := by
    simp [act, at_i]
  rw [hact, (Change.of_act hact).of_settle_ok hi nonempty issue]

/-! ## A call that is answered at once -/

/-- The cache once a call for a key has come. -/
def Cache.begun (c : Cache) (key : Key) : Cache :=
  { c with calls := c.calls ++ [{ request := .get key }] }

/-- The cache once this call has missed and has asked the issuer. -/
def Cache.asking (c : Cache) (key : Key) (found : Lookup) : Cache :=
  ((c.begun key).moved c.calls.length .missed {} (.missed :: found.staleness)).moved c.calls.length
    (.issuing c.now) { writer := some c.calls.length } (.requested key :: found.staleness)

/-- The cache once it has been given a token and the record of the token has been stored. -/
def Cache.answered (c : Cache) (key : Key) (found : Lookup) (token : String) (record : Record) :
    Cache :=
  (c.asking key found).ended c.calls.length (.token (.ok token))
    [.stored key record (c.records.insert key record).length, .issued]
    (c.records.insert key record)

namespace Cache

section Views

variable (c : Cache) (key : Key) (found : Lookup) (token : String) (record : Record)

theorem getElem?_calls_begun :
    (c.begun key).calls[c.calls.length]? = some ⟨.get key, .ready, false⟩ := by
  simp [begun]

theorem phase?_begun (i : Nat) : (c.begun key).phase? i =
    if i = c.calls.length then some .ready else c.phase? i :=
  phase?_start c i (.get key)

theorem getElem?_calls_asking :
    (c.asking key found).calls[c.calls.length]? = some ⟨.get key, .issuing c.now, false⟩ := by
  simp [asking, begun, getElem?_calls_moved]

theorem phase?_answered : (c.answered key found token record).phase? c.calls.length =
    some (.done (.token (.ok token))) := by
  rw [answered, phase?_ended, if_pos rfl, phase?_of_getElem? (c.getElem?_calls_asking key found)]
  rfl

@[simp] theorem lookup_answered :
    (c.answered key found token record).records.lookup key = some record :=
  Records.lookup_insert_self _ _ _

@[simp] theorem lock_answered : (c.answered key found token record).lock = {} := by
  simp [answered, asking, Lock.leave]

@[simp] theorem length_calls_answered :
    (c.answered key found token record).calls.length = c.calls.length + 1 := by
  simp [answered, asking, begun, ended, moved]

end Views

theorem act_start (c : Cache) (key : Key) : c.act (.start (.get key)) = some (c.begun key) := rfl

/-- A call that finds the lock free and no fresh record asks the issuer. -/
theorem run_asking (free : c.lock = {}) (look : c.find key = .ok found)
    (unfresh : ∀ token, found ≠ .fresh token) :
    c.run [.start (.get key), .step c.calls.length, .step c.calls.length] =
      some (c.asking key found) := by
  let missed : Cache := (c.begun key).moved c.calls.length .missed {} (.missed :: found.staleness)
  have hstart := c.act_start key
  have ready := c.getElem?_calls_begun key
  have hmiss : (c.begun key).act (.step c.calls.length) = some missed :=
    miss_of_free ready free look unfresh
  have again : missed.calls[c.calls.length]? = some ⟨.get key, .missed, false⟩ := by
    simp [missed, getElem?_calls_moved, ready]
  have hask : missed.act (.step c.calls.length) = some (c.asking key found) :=
    ask_of_free again rfl look unfresh
  simp [run, hstart, hmiss, hask]

/-- If it is given a token, the record of the token is stored. -/
theorem run_answered (free : c.lock = {}) (look : c.find key = .ok found)
    (unfresh : ∀ token, found ≠ .fresh token) (nonempty : token.isEmpty = false)
    (issue : Record.issue token c.now (c.lifetime key) = .ok record) :
    c.run [.start (.get key), .step c.calls.length, .step c.calls.length,
      .settle c.calls.length (.ok token)] = some (c.answered key found token record) :=
  run_concat_eq_some.2 ⟨_, run_asking free look unfresh,
    settle_stored (c.getElem?_calls_asking key found) nonempty issue⟩

end Cache

end StoreClient.Credentials
