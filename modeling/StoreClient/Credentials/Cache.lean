import StoreClient.Credentials.Lock
import StoreClient.Credentials.Record

/-!
# The token cache

A cache serves tokens to any number of calls at a time. It is described by what one call does
between two points at which it may have to wait: at the lock, or for the issuer. `Cache.act` is one
such step, or one thing that happens from outside, so every interleaving of calls is a sequence of
actions.

A call for a token looks first as a reader. If it finds no fresh record, it looks again as a writer,
because another call may have stored one in the meantime, and asks the issuer only then, while it
still is the writer. A caller who has given up gets nothing at the next step, whatever the call was
waiting for.
-/

namespace StoreClient.Credentials

/-- Why a caller got no token. -/
inductive TokenError where
  /-- The issuer failed. -/
  | issuance (host user source : String)
  /-- The issuer gave an empty token. -/
  | emptyToken (host user : String)
  /-- The caller gave up. -/
  | cancelled
deriving DecidableEq, Repr

/-- The text of an error. -/
def TokenError.message : TokenError → String
  | .issuance host user source => s!"failed to generate auth token for {user}@{host}: {source}"
  | .emptyToken host user => s!"generated auth token for {user}@{host} is empty"
  | .cancelled => "token request cancelled"

/-- The error behind an error. -/
def TokenError.source? : TokenError → Option String
  | .issuance _ _ source => some source
  | _ => none

/-- What a call asks of a cache. -/
inductive Request where
  /-- A token. -/
  | get (key : Key)
  /-- To forget all records. -/
  | clear
  /-- The number of records. -/
  | size
deriving DecidableEq, Repr

/-- As what a call first stands at the lock. -/
def Request.access : Request → Access
  | .get _ | .size => .read
  | .clear => .write

/-- What a call comes to. -/
inductive Result where
  /-- A call for a token ended. -/
  | token (ending : Ending TokenError String)
  /-- All records are forgotten. -/
  | cleared
  /-- The number of records. -/
  | size (n : Nat)
deriving DecidableEq, Repr

/-- How far a call has come. -/
inductive Phase where
  /-- It has done nothing yet. -/
  | ready
  /-- It waits at the lock. -/
  | waiting (access : Access)
  /-- It has found no fresh record as a reader. -/
  | missed
  /-- It waits for the issuer, which it asked at this instant. -/
  | issuing (since : Instant)
  /-- It is over. -/
  | done (result : Result)
deriving DecidableEq

/-- A call. -/
structure Call where
  /-- What it asks for. -/
  request : Request
  /-- How far it has come. -/
  phase : Phase := .ready
  /-- Whether its caller has given up. -/
  cancelled : Bool := false
deriving DecidableEq

/-- Something worth remembering of a call. -/
inductive Event where
  /-- A fresh record was found as a reader. -/
  | hit
  /-- A record was found, but it is stale. -/
  | stale
  /-- No fresh record was found as a reader. -/
  | missed
  /-- A fresh record was found as a writer. -/
  | refreshed
  /-- The issuer was asked. -/
  | requested (key : Key)
  /-- The issuer gave a token. -/
  | issued
  /-- The issuer failed. -/
  | failed (message : String)
  /-- The issuer gave an empty token. -/
  | empty
  /-- The caller gave up on the issuer. -/
  | abandoned
  /-- A record was stored; the cache holds so many now. -/
  | stored (key : Key) (record : Record) (entries : Nat)
  /-- All records were forgotten. -/
  | cleared
  /-- The call is over. -/
  | ended (result : Result)
deriving DecidableEq

/-- An event with its call and its time. -/
structure Entry where
  /-- The number of the call. -/
  call : Nat
  /-- When it happened. -/
  time : Instant
  /-- What happened. -/
  event : Event
deriving DecidableEq

/-- Records under distinct keys. -/
abbrev Records := List (Key × Record)

/-- The records with a record under a key, in place of an earlier one. -/
def Records.insert (rs : Records) (key : Key) (r : Record) : Records :=
  match rs with
  | [] => [(key, r)]
  | (k, old) :: rest => if k = key then (k, r) :: rest else (k, old) :: Records.insert rest key r

/-- A record that was put in is found. -/
@[simp] theorem Records.lookup_insert_self (rs : Records) (key : Key) (r : Record) :
    (rs.insert key r).lookup key = some r := by
  induction rs with
  | nil => simp [Records.insert]
  | cons e rest ih =>
    obtain ⟨k, old⟩ := e
    by_cases h : k = key
    · simp [Records.insert, h]
    · have h' : (key == k) = false := by simpa using Ne.symm h
      simp [Records.insert, h, List.lookup_cons, h', ih]

/-- Other keys keep their records. -/
theorem Records.lookup_insert_of_ne (rs : Records) {key other : Key} (r : Record)
    (h : other ≠ key) : (rs.insert key r).lookup other = rs.lookup other := by
  induction rs with
  | nil =>
    have h' : (other == key) = false := by simpa using h
    simp [Records.insert, List.lookup_cons, h']
  | cons e rest ih =>
    obtain ⟨k, old⟩ := e
    by_cases hk : k = key
    · have h' : (other == key) = false := by simpa using h
      simp [Records.insert, hk, List.lookup_cons, h']
    · simp [Records.insert, hk, List.lookup_cons, ih]

/-- What a look for a key finds. -/
inductive Lookup where
  /-- No record. -/
  | absent
  /-- A stale record. -/
  | stale
  /-- A fresh record with this token. -/
  | fresh (token : String)
deriving DecidableEq, Repr

/-- A cache with all the calls on it. Calls go by their place, in the order in which they came. -/
structure Cache where
  /-- The settings. -/
  settings : Settings
  /-- The time. -/
  now : Instant := .origin
  /-- The records. -/
  records : Records := []
  /-- The lock before the records. -/
  lock : Lock := {}
  /-- The calls. -/
  calls : List Call := []
  /-- What happened, the latest first. -/
  journal : List Entry := []

/-- Something that happens to a cache. -/
inductive Action where
  /-- A call comes. -/
  | start (request : Request)
  /-- The caller of a call for a token gives up. -/
  | cancel (call : Nat)
  /-- Time passes. -/
  | advance (d : Duration)
  /-- A call goes on to where it may have to wait next. -/
  | step (call : Nat)
  /-- A call goes on with the issuer's answer. -/
  | settle (call : Nat) (answer : Ending String String)
deriving DecidableEq, Repr

namespace Cache

/-- An empty cache; settings it cannot use give way to the default ones. -/
def ofSettings (s : Settings) : Cache := { settings := s.usable }

/-- The lifetime of a token for a key. -/
def lifetime (c : Cache) (key : Key) : Duration :=
  if key.duration.isZero then c.settings.defaultDuration else key.duration

/-- Looks for a key. -/
def find (c : Cache) (key : Key) : Except Crash Lookup :=
  match c.records.lookup key with
  | none => .ok .absent
  | some r => do
    if ← r.isStale c.now c.settings.refreshBuffer then return .stale else return .fresh r.token

/-- Remembers an event of a call. -/
def note (c : Cache) (i : Nat) (event : Event) : Cache :=
  { c with journal := ⟨i, c.now, event⟩ :: c.journal }

/-- Sets how far a call has come. -/
def setPhase (c : Cache) (i : Nat) (phase : Phase) : Cache :=
  { c with calls := c.calls.modify i ({ · with phase }) }

/-- Takes a call away from the lock. -/
def release (c : Cache) (i : Nat) : Cache := { c with lock := c.lock.leave i }

/-- Ends a call; it leaves the lock. -/
def finish (c : Cache) (i : Nat) (result : Result) : Cache :=
  ((c.release i).setPhase i (.done result)).note i (.ended result)

/-- Ends a call for a token. -/
def finishToken (c : Cache) (i : Nat) (ending : Ending TokenError String) : Cache :=
  c.finish i (.token ending)

/-- Remembers that a record was found stale. -/
def noteLookup (c : Cache) (i : Nat) (found : Lookup) : Cache :=
  if found = .stale then c.note i .stale else c

/-- A reader looks for a key. Without a fresh record the call leaves the lock. -/
def lookUp (c : Cache) (i : Nat) (key : Key) : Cache :=
  match c.find key with
  | .error cause => c.finishToken i (.crash cause)
  | .ok (.fresh token) => (c.note i .hit).finishToken i (.ok token)
  | .ok found => (((c.noteLookup i found).note i .missed).release i).setPhase i .missed

/-- A writer looks for a key. Without a fresh record the call asks the issuer and stays. -/
def lookAgain (c : Cache) (i : Nat) (key : Key) : Cache :=
  match c.find key with
  | .error cause => c.finishToken i (.crash cause)
  | .ok (.fresh token) => (c.note i .refreshed).finishToken i (.ok token)
  | .ok found => ((c.noteLookup i found).note i (.requested key)).setPhase i (.issuing c.now)

/-- A writer forgets all records. -/
def wipe (c : Cache) (i : Nat) : Cache :=
  ({ c with records := [] }.note i .cleared).finish i .cleared

/-- What a call does once it is let in. -/
def proceed (c : Cache) (i : Nat) : Request → Access → Cache
  | .get key, .read => c.lookUp i key
  | .get key, .write => c.lookAgain i key
  | .clear, _ => c.wipe i
  | .size, _ => c.finish i (.size c.records.length)

/-- Lets a waiting call in, if it is its turn. -/
def enter? (c : Cache) (i : Nat) (request : Request) (access : Access) : Option Cache :=
  if c.lock.admits i then
    some ({ c with lock := c.lock.enter i access }.proceed i request access)
  else none

/-- A call comes to the lock and goes on at once, if it is its turn. -/
def approach (c : Cache) (i : Nat) (request : Request) (access : Access) : Cache :=
  let c := { c with lock := c.lock.join i access }.setPhase i (.waiting access)
  (c.enter? i request access).getD c

/-- Ends the call of a caller who has given up. -/
def giveUp (c : Cache) (i : Nat) (phase : Phase) : Cache :=
  let c := match phase with
    | .issuing _ => c.note i .abandoned
    | _ => c
  c.finishToken i (.error .cancelled)

/-- A step of a call; none if it is over or has to wait. -/
def stepCall (c : Cache) (i : Nat) (call : Call) : Option Cache :=
  match call.phase with
  | .done _ => none
  | phase =>
    if call.cancelled then some (c.giveUp i phase)
    else match phase with
      | .ready => some (c.approach i call.request call.request.access)
      | .waiting access => c.enter? i call.request access
      | .missed => some (c.approach i call.request .write)
      | .issuing _ | .done _ => none

/-- Stores a token that was issued. -/
def store (c : Cache) (i : Nat) (key : Key) (issuedAt : Instant) (token : String) : Cache :=
  match Record.issue token issuedAt (c.lifetime key) with
  | .error cause => c.finishToken i (.crash cause)
  | .ok record =>
    let c := { c with records := c.records.insert key record }
    (c.note i (.stored key record c.records.length)).finishToken i (.ok token)

/-- Ends a call that waits for the issuer with the issuer's answer. -/
def settleCall (c : Cache) (i : Nat) (key : Key) (issuedAt : Instant) :
    Ending String String → Cache
  | .crash cause => c.finishToken i (.crash cause)
  | .error source =>
    (c.note i (.failed source)).finishToken i (.error (.issuance key.host key.user source))
  | .ok token =>
    if token.isEmpty then
      (c.note i .empty).finishToken i (.error (.emptyToken key.host key.user))
    else (c.note i .issued).store i key issuedAt token

/-- What an action makes of a cache; none if it cannot happen. -/
def act (c : Cache) : Action → Option Cache
  | .start request => some { c with calls := c.calls ++ [{ request }] }
  | .cancel i => do
    match (← c.calls[i]?).request with
    | .get _ => return { c with calls := c.calls.modify i ({ · with cancelled := true }) }
    | _ => none
  | .advance d => (c.now.add? d).map ({ c with now := · })
  | .step i => do c.stepCall i (← c.calls[i]?)
  | .settle i answer => do
    match ← c.calls[i]? with
    | ⟨.get key, .issuing issuedAt, false⟩ => return c.settleCall i key issuedAt answer
    | _ => none

end Cache

end StoreClient.Credentials
