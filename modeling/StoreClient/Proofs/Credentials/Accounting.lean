import StoreClient.Credentials.Report
import StoreClient.Proofs.Credentials.Lifetimes
import StoreClient.Proofs.Observability.Registry

/-!
# The books of a cache

Every call for a token goes through three stages, and can end in each: before its first look, before
its second, and while the issuer is asked. What a cache counts of it depends on the way in which it
ends and on whether it has missed before. So the counters fit the ways in which calls have ended,
however the calls are interleaved, and once no call is under way the books are closed. The gauge
stands at the number of records from the first time it is set.

## Main definitions

* `Stage`, `Way` — how far a call for a token has come, and how it ends.
* `ways` — the ways in which the calls of a run end.
* `Balance`, `Shift` — what a change moves between the stages and adds to the counters.
* `Ledger` — the counters fit the calls under way and the ways in which the others have ended.
* `Gauged` — the gauge is right once it is set.
* `Books` — what the metrics say of the calls and of the issuer.
-/

namespace StoreClient.Credentials

open Observability Cache

/-! ## Ways of a call -/

/-- How far a call for a token has come. -/
inductive Stage where
  /-- It has not looked yet. -/
  | looking
  /-- It has looked as a reader, and not as a writer. -/
  | lookingAgain
  /-- It waits for the issuer. -/
  | asking
deriving DecidableEq, Repr

/-- Whether a call has missed that has come so far. -/
def Stage.hasMissed : Stage → Bool
  | .looking => false
  | .lookingAgain | .asking => true

/-- The stage of a call for a token in a phase; none if it is over. -/
def Phase.stage? : Phase → Option Stage
  | .ready | .waiting .read => some .looking
  | .missed | .waiting .write => some .lookingAgain
  | .issuing _ => some .asking
  | .done _ => none

/-- Whether a call is for a token. -/
def Call.isGet (call : Call) : Bool :=
  match call.request with
  | .get _ => true
  | _ => false

/-- The stage of a call, if it is for a token and under way. -/
def Call.stage? (call : Call) : Option Stage := if call.isGet then call.phase.stage? else none

@[simp] theorem Call.stage?_done (call : Call) (result : Result) :
    ({ call with phase := .done result } : Call).stage? = none := ite_self _

/-- The way in which a call for a token ends. -/
inductive Way where
  /-- It is given a token by the first look. -/
  | served
  /-- Its caller gives up before the first look. -/
  | neverLooked
  /-- It is given a token by the second look. -/
  | refreshed
  /-- Its caller gives up before the second look. -/
  | gaveUpQueueing
  /-- Its caller gives up while the issuer is asked. -/
  | abandoned
  /-- The issuer has answered, by a crash perhaps. -/
  | answered (answer : Ending String String)
deriving DecidableEq, Repr

namespace Way

/-- The stage at which a call ends so. -/
def stage : Way → Stage
  | .served | .neverLooked => .looking
  | .refreshed | .gaveUpQueueing => .lookingAgain
  | .abandoned | .answered _ => .asking

/-- The answer of the issuer to a call that ends so. -/
def answer? : Way → Option (Ending String String)
  | .answered answer => some answer
  | _ => none

/-- What is counted when a call ends so. -/
def measurement? : Way → Option Measurement
  | .served => some .cacheHit
  | .abandoned => some (.issuance "cancelled")
  | .answered (.ok token) => some (.issuance (if token.isEmpty then "empty" else "success"))
  | .answered (.error _) => some (.issuance "error")
  | .neverLooked | .refreshed | .gaveUpQueueing | .answered (.crash _) => none

end Way

/-- The way of a call that ends so by a step of its own. -/
def Stage.way? : Stage → Ending TokenError String → Option Way
  | .looking, .ok _ => some .served
  | .looking, .error .cancelled => some .neverLooked
  | .lookingAgain, .ok _ => some .refreshed
  | .lookingAgain, .error .cancelled => some .gaveUpQueueing
  | .asking, .error .cancelled => some .abandoned
  | _, _ => none

/-- The way in which an action ends a call for a token, if it ends one: the call answers for itself
when it takes a step, and the issuer does when it is asked. -/
def Cache.way? (c : Cache) (a : Action) (c' : Cache) : Option Way :=
  match a with
  | .step i => do
    let call ← c.calls[i]?
    match c'.phase? i with
    | some (.done (.token ending)) => (← call.stage?).way? ending
    | _ => none
  | .settle _ answer => some (.answered answer)
  | _ => none

/-- The ways in which the calls for a token end along a run, in order. -/
def ways (c : Cache) : List Action → List Way
  | [] => []
  | a :: as =>
    match c.act a with
    | some c' => (c.way? a c').toList ++ ways c' as
    | none => []

/-- The answer of the issuer in an action. -/
def Action.answer? : Action → Option (Ending String String)
  | .settle _ answer => some answer
  | _ => none

/-- The answers of the issuer, in order. -/
def answers (as : List Action) : List (Ending String String) := as.filterMap Action.answer?

/-- Whether an answer of the issuer delivers a token. -/
def isDelivery : Ending String String → Bool
  | .ok token => !token.isEmpty
  | _ => false

/-- Whether the issuer has crashed instead of answering. -/
def isCrash : Ending String String → Bool
  | .crash _ => true
  | _ => false

theorem ways_concat {c d d' : Cache} {as : List Action} {a : Action} (h : c.run as = some d)
    (ha : d.act a = some d') : ways c (as ++ [a]) = ways c as ++ (d.way? a d').toList := by
  induction as generalizing c with
  | nil =>
      obtain rfl := Option.some.inj h
      simp [ways, ha]
  | cons b as ih =>
      simp only [run, List.foldlM_cons, Option.bind_eq_bind, Option.bind_eq_some_iff] at h
      obtain ⟨e, he, hrun⟩ := h
      simp [ways, he, ih hrun]

/-! ## Balances -/

/-- What a journal counts, in order. The gauge is not counted. -/
def countedIn (entries : List Entry) : List Measurement :=
  (measurements entries).filter Measurement.isCount

theorem countedIn_append (new entries : List Entry) :
    countedIn (new ++ entries) = countedIn entries ++ countedIn new := by
  simp [countedIn, measurements]

namespace Cache

/-- How many calls for a token there have been. -/
def gets (c : Cache) : Nat := c.calls.countP Call.isGet

/-- The stages of the calls for a token that are under way. -/
def stages (c : Cache) : List Stage := c.calls.filterMap Call.stage?

end Cache

section

variable {α β : Type} {l : List α} {i : Nat} {x : α}

theorem filterMap_cons_eq (f : α → Option β) (x : α) (l : List α) :
    (x :: l).filterMap f = (f x).toList ++ l.filterMap f := by
  cases h : f x <;> simp [h]

open scoped List in
/-- A change of one element exchanges what is seen of it. -/
theorem perm_filterMap_modify (f : α → Option β) (g : α → α) (h : l[i]? = some x) :
    (f (g x)).toList ++ l.filterMap f ~ (f x).toList ++ (l.modify i g).filterMap f := by
  induction l generalizing i with
  | nil => simp at h
  | cons y l ih =>
      cases i with
      | zero =>
          obtain rfl : y = x := by simpa using h
          simp only [List.modify_zero_cons, filterMap_cons_eq]
          exact List.perm_append_comm_assoc _ _ _
      | succ i =>
          have hrest := ih (by simpa using h)
          simp only [List.modify_succ_cons, filterMap_cons_eq]
          calc (f (g x)).toList ++ ((f y).toList ++ l.filterMap f)
            _ ~ (f y).toList ++ ((f (g x)).toList ++ l.filterMap f) :=
                List.perm_append_comm_assoc _ _ _
            _ ~ (f y).toList ++ ((f x).toList ++ (l.modify i g).filterMap f) :=
                hrest.append_left _
            _ ~ (f x).toList ++ ((f y).toList ++ (l.modify i g).filterMap f) :=
                List.perm_append_comm_assoc _ _ _

theorem countP_modify {p : α → Bool} {g : α → α} (h : ∀ x, p (g x) = p x) (l : List α) (i : Nat) :
    (l.modify i g).countP p = l.countP p := by
  induction l generalizing i with
  | nil => simp
  | cons x l ih => cases i <;> simp [List.countP_cons, h, ih]

end

/-- What a change moves: so many calls for a token come, they leave and reach these stages, and this
is counted. -/
structure Balance (c c' : Cache) (come : Nat) (left reached : List Stage)
    (counted : List Measurement) : Prop where
  /-- So many calls for a token come. -/
  gets : c'.gets = c.gets + come
  /-- They leave and reach these stages. -/
  stages : (reached ++ c.stages).Perm (left ++ c'.stages)
  /-- This is counted. -/
  counted : countedIn c'.journal = countedIn c.journal ++ counted

/-- What the events of a change count, the latest event first. -/
def Event.counted (events : List Event) : List Measurement :=
  (events.reverse.filterMap Event.measurement?).filter Measurement.isCount

@[simp] theorem Event.counted_ended (result : Result) (events : List Event) :
    Event.counted (.ended result :: events) = Event.counted events := by
  simp [Event.counted, List.filterMap_cons, Event.measurement?]

section

variable {c c' : Cache} {i : Nat} {call : Call} {come : Nat} {stages : List Stage}
  {ms : List Measurement}

/-- To leave a stage for the same one is to stay. -/
theorem Balance.stay (h : Balance c c' come stages stages ms) : Balance c c' come [] [] ms :=
  ⟨h.gets, (List.perm_append_left_iff stages).1 h.stages, h.counted⟩

/-- A call that goes on leaves its stage for another. -/
theorem balance_moved (at_i : c.calls[i]? = some call) (phase : Phase) (lock : Lock)
    (events : List Event) : Balance c (c.moved i phase lock events) 0 call.stage?.toList
      ({ call with phase } : Call).stage?.toList (Event.counted events) where
  gets := countP_modify (p := Call.isGet) (g := ({ · with phase })) (fun _ => rfl) c.calls i
  stages := perm_filterMap_modify Call.stage? ({ · with phase }) at_i
  counted := by
    rw [journal_moved, countedIn_append]
    simp [countedIn, measurements, Event.counted]

/-- A call that ends leaves its stage. -/
theorem balance_ended (at_i : c.calls[i]? = some call) (result : Result) (events : List Event)
    (records : Records) : Balance c (c.ended i result events records) 0 call.stage?.toList []
      (Event.counted events) := by
  obtain ⟨hgets, hstages, hcounted⟩ :=
    balance_moved at_i (.done result) (c.lock.leave i) (.ended result :: events)
  refine ⟨hgets, ?_, ?_⟩
  · rw [Call.stage?_done] at hstages
    exact hstages
  · rwa [Event.counted_ended] at hcounted

end

/-! ## Shifts -/

/-- What a change does to the calls for a token: none, or one, comes, goes on or ends. -/
inductive Shift (c c' : Cache) : Option Way → Prop
  /-- Nothing. -/
  | still (balance : Balance c c' 0 [] [] []) : Shift c c' none
  /-- A call comes. -/
  | come (balance : Balance c c' 1 [] [.looking] []) : Shift c c' none
  /-- A call misses. -/
  | missed (balance : Balance c c' 0 [.looking] [.lookingAgain] [.cacheMiss]) : Shift c c' none
  /-- A call asks the issuer. -/
  | asked (balance : Balance c c' 0 [.lookingAgain] [.asking] []) : Shift c c' none
  /-- A call ends. -/
  | ended (w : Way) (balance : Balance c c' 0 [w.stage] [] w.measurement?.toList) :
      Shift c c' (some w)

/-- Before the lock a call stands at one of the first two stages. -/
def Access.stage : Access → Stage
  | .read => .looking
  | .write => .lookingAgain

section

variable {c : Cache} {i : Nat} {call : Call} {key : Key} {access : Access} {phase : Phase}
  {lock : Lock} {events : List Event} {records : Records} {result : Result}

theorem Call.stage?_of_get (request : call.request = .get key) (phase : Phase) :
    ({ call with phase } : Call).stage? = phase.stage? := by
  simp [stage?, isGet, request]

theorem Call.stage?_eq_none (other : call.isGet = false) : call.stage? = none := by
  simp [stage?, other]

/-- As what a call for a token stands at the lock next tells its stage. -/
theorem Call.stage?_of_access? (request : call.request = .get key)
    (h : call.access? = some access) : call.stage? = some access.stage := by
  have hstage : call.stage? = call.phase.stage? := stage?_of_get request call.phase
  rw [hstage]
  obtain ⟨asked, phase, cancelled⟩ := call
  simp only at request
  subst request
  cases phase with
  | ready =>
      obtain rfl : .read = access := by simpa [access?, Request.access] using h
      rfl
  | waiting before =>
      obtain rfl : before = access := by simpa [access?] using h
      cases before <;> rfl
  | missed =>
      obtain rfl : .write = access := by simpa [access?] using h
      rfl
  | issuing | done => simp [access?] at h

/-- A call that goes on does not end. -/
theorem way?_moved (at_i : c.calls[i]? = some call) (unfinished : ∀ result, phase ≠ .done result) :
    c.way? (.step i) (c.moved i phase lock events) = none := by
  cases phase with
  | done result => exact absurd rfl (unfinished result)
  | _ => simp [way?, at_i, phase?_moved, phase?_of_getElem? at_i]

theorem way?_ended (at_i : c.calls[i]? = some call) (ending : Ending TokenError String) :
    c.way? (.step i) (c.ended i (.token ending) events records) =
      call.stage?.bind (·.way? ending) := by
  simp [way?, at_i, phase?_ended, phase?_of_getElem? at_i]

/-- Only a call for a token ends in one of the listed ways. -/
theorem way?_ended_eq_none (at_i : c.calls[i]? = some call) (other : call.isGet = false) :
    c.way? (.step i) (c.ended i result events records) = none := by
  cases result <;>
    simp [way?, at_i, phase?_ended, phase?_of_getElem? at_i, Call.stage?_eq_none other]

/-- A call that ends in some way leaves the stage of that, and what belongs to it is counted. -/
theorem shift_ended (at_i : c.calls[i]? = some call) (w : Way) (stage : call.stage? = some w.stage)
    (counted : Event.counted events = w.measurement?.toList) :
    Shift c (c.ended i result events records) (some w) := by
  have hbalance := balance_ended at_i result events records
  rw [stage, counted] at hbalance
  exact .ended w hbalance

/-- The end of any other call moves nothing. -/
theorem shift_ended_of_other (at_i : c.calls[i]? = some call) (other : call.isGet = false)
    (counted : Event.counted events = []) :
    Shift c (c.ended i result events records) none := by
  have hbalance := balance_ended at_i result events records
  rw [Call.stage?_eq_none other, counted] at hbalance
  exact .still hbalance

/-- Who gives up ends in the way that belongs to the stage, and what is remembered is counted. -/
theorem Phase.exists_way (phase : Phase) (unfinished : ∀ result, phase ≠ .done result) :
    ∃ w : Way, phase.stage? = some w.stage ∧
      phase.stage?.bind (·.way? (.error .cancelled)) = some w ∧
      Event.counted phase.abandonment = w.measurement?.toList := by
  rcases phase with _ | ⟨_ | _⟩ | _ | _ | result
  case done => exact absurd rfl (unfinished result)
  all_goals exact ⟨_, rfl, rfl, rfl⟩

theorem Outcome.shift {a : Action} (h : Outcome c i a call result events records)
    (at_i : c.calls[i]? = some call) (given : call.cancelled = true → call.isGet = true)
    (origin : c.SinceOrigin) :
    Shift c (c.ended i result events records) (c.way? a (c.ended i result events records)) := by
  cases h with
  | gaveUp cancelled unfinished =>
      obtain ⟨w, hleft, hway, hcounted⟩ := call.phase.exists_way unfinished
      have hstage : call.stage? = call.phase.stage? := if_pos (given cancelled)
      rw [way?_ended at_i, hstage, hway]
      exact shift_ended at_i w (hstage.trans hleft) hcounted
  | @unreadable _ access key cause _ _ found =>
      obtain ⟨other, hother⟩ := origin.exists_find key
      rw [found] at hother
      contradiction
  | hit admitted request | refreshed admitted request =>
      have hstage := Call.stage?_of_access? request admitted.access
      rw [way?_ended at_i, hstage]
      exact shift_ended at_i _ hstage rfl
  | cleared _ request | counted _ request =>
      have hother : call.isGet = false := by simp [Call.isGet, request]
      rw [way?_ended_eq_none at_i hother]
      exact shift_ended_of_other at_i hother rfl
  | crashed | failed => exact shift_ended at_i _ rfl rfl
  | empty empty => exact shift_ended at_i _ rfl (by simp [Way.measurement?, empty]; rfl)
  | overflowed nonempty | stored nonempty =>
      exact shift_ended at_i _ rfl (by simp [Way.measurement?, nonempty]; rfl)

end

/-- Only callers of calls for a token have given up. -/
def Cache.GivenUpGets (c : Cache) : Prop :=
  ∀ (i : Nat) (call : Call), c.calls[i]? = some call → call.cancelled = true → call.isGet = true

theorem Cache.GivenUpGets.moved {c : Cache} (h : c.GivenUpGets) (i : Nat) (phase : Phase)
    (lock : Lock) (events : List Event) : (c.moved i phase lock events).GivenUpGets := by
  intro j call hj given
  rw [getElem?_calls_moved] at hj
  split at hj
  · obtain ⟨old, hold, rfl⟩ := Option.map_eq_some_iff.1 hj
    exact h j old hold given
  · exact h j call hj given

theorem Change.givenUpGets {c c' : Cache} {a : Action} (h : Change c a c')
    (hc : c.GivenUpGets) : c'.GivenUpGets := by
  cases h with
  | start request =>
      intro j call hj given
      rw [getElem?_concat] at hj
      split at hj
      · obtain rfl := Option.some.inj hj
        simp at given
      · exact hc j call hj given
  | @cancel i key request =>
      intro j call hj given
      by_cases hij : i = j
      · subst hij
        obtain ⟨old, hold, rfl⟩ := Option.map_eq_some_iff.1 (by simpa using hj)
        obtain hrequest := (request?_of_getElem? hold).symm.trans request
        simp [Call.isGet, Option.some.inj hrequest]
      · exact hc j call (by simpa [hij] using hj) given
  | advance => exact hc
  | queue | miss | ask => exact hc.moved _ _ _ _
  | @finish _ i _ result events =>
      exact hc.moved i (.done result) (c.lock.leave i) (.ended result :: events)

theorem givenUpGets_of_run {s : Settings} {as : List Action} {c : Cache}
    (h : (ofSettings s).run as = some c) : c.GivenUpGets :=
  invariant_of_run (fun _ _ _ hd hc => hc.givenUpGets hd) h fun i call hi => by
    simp [ofSettings] at hi

/-- Every change moves at most one call for a token from its stage to another, or to its end. -/
theorem Change.shift {c c' : Cache} {a : Action} (h : Change c a c')
    (given : c.GivenUpGets) (origin : c.SinceOrigin) : Shift c c' (c.way? a c') := by
  cases h with
  | start request =>
      have hcounted (calls : List Call) : countedIn ({ c with calls } : Cache).journal =
          countedIn c.journal ++ [] := (List.append_nil _).symm
      cases request with
      | get key =>
          refine .come ⟨?_, ?_, hcounted _⟩
          · simp [gets, Call.isGet]
          · have hstages :
                ({ c with calls := c.calls ++ [{ request := .get key }] } : Cache).stages =
                  c.stages ++ [.looking] := by
              simp [stages, Call.stage?, Call.isGet, Phase.stage?]
            rw [hstages]
            exact (List.perm_append_singleton _ _).symm
      | clear | size =>
          refine .still ⟨?_, ?_, hcounted _⟩
          · simp [gets, Call.isGet]
          · simp [stages, Call.stage?, Call.isGet]
  | @cancel i _ request =>
      obtain ⟨call, at_i, -⟩ := Option.map_eq_some_iff.1 request
      have hgets := countP_modify (p := Call.isGet) (g := ({ · with cancelled := true }))
        (fun _ => rfl) c.calls i
      have hstages := perm_filterMap_modify Call.stage? ({ · with cancelled := true }) at_i
      have hbalance : Balance c { c with calls := c.calls.modify i ({ · with cancelled := true }) }
          0 call.stage?.toList call.stage?.toList [] :=
        ⟨hgets, hstages, (List.append_nil _).symm⟩
      exact .still hbalance.stay
  | advance => exact .still ⟨rfl, .refl _, (List.append_nil _).symm⟩
  | @queue i call access at_i wanted turn new =>
      rw [way?_moved at_i (by simp)]
      have hbalance := balance_moved at_i (.waiting access) (c.lock.join i access) []
      have hstage : ({ call with phase := .waiting access } : Call).stage? = call.stage? := by
        cases hr : call.request with
        | clear | size => simp [Call.stage?, Call.isGet, hr]
        | get key =>
            rw [Call.stage?_of_access? hr turn, ← hr, Call.stage?_of_get hr]
            cases access <;> rfl
      rw [hstage] at hbalance
      exact .still hbalance.stay
  | @miss i call key found at_i admitted request =>
      rw [way?_moved at_i (by simp)]
      have hbalance := balance_moved at_i .missed (c.lock.leave i) (.missed :: found.staleness)
      have hcounted : Event.counted (.missed :: found.staleness) = [.cacheMiss] := by
        cases found <;> rfl
      rw [Call.stage?_of_access? request admitted.access, Call.stage?_of_get request,
        hcounted] at hbalance
      exact .missed hbalance
  | @ask i call key found at_i admitted request =>
      rw [way?_moved at_i (by simp)]
      have hbalance := balance_moved at_i (.issuing c.now) (c.lock.enter i .write)
        (.requested key :: found.staleness)
      have hcounted : Event.counted (.requested key :: found.staleness) = [] := by
        cases found <;> rfl
      rw [Call.stage?_of_access? request admitted.access, Call.stage?_of_get request,
        hcounted] at hbalance
      exact .asked hbalance
  | finish at_i outcome => exact outcome.shift at_i (given _ _ at_i) origin

/-! ## The ledger -/

/-- The counters fit the calls for a token under way and the ways in which the others have ended. -/
structure Ledger (ws : List Way) (c : Cache) : Prop where
  /-- Every call for a token is under way or has ended in one of the ways. -/
  gets : c.gets = c.stages.length + ws.length
  /-- A miss is counted of every call that has come past its first look. -/
  misses : (countedIn c.journal).count .cacheMiss =
    c.stages.countP Stage.hasMissed + ws.countP (·.stage.hasMissed)
  /-- All else is counted of calls that have ended. -/
  told : ∀ m, m ≠ .cacheMiss →
    (countedIn c.journal).count m = ws.countP (·.measurement? = some m)

theorem ledger_ofSettings (s : Settings) : Ledger [] (ofSettings s) :=
  ⟨rfl, rfl, fun _ _ => rfl⟩

theorem Way.measurement?_ne_cacheMiss (w : Way) : w.measurement? ≠ some .cacheMiss := by
  rcases w with _ | _ | _ | _ | _ | ⟨_ | _ | _⟩ <;> simp [measurement?]

/-- A balance carries the ledger on if what leaves, comes and ends is made up for. -/
theorem Ledger.of_balance {c c' : Cache} {ws new : List Way} {come : Nat}
    {left reached : List Stage} {ms : List Measurement} (h : Ledger ws c)
    (hb : Balance c c' come left reached ms)
    (hgets : come + left.length = reached.length + new.length)
    (hmisses : ms.count .cacheMiss + left.countP Stage.hasMissed =
      reached.countP Stage.hasMissed + new.countP (·.stage.hasMissed))
    (htold : ∀ m, m ≠ .cacheMiss → ms.count m = new.countP (·.measurement? = some m)) :
    Ledger (ws ++ new) c' := by
  have hlength := hb.stages.length_eq
  have hmissed := hb.stages.countP_eq Stage.hasMissed
  rw [List.length_append, List.length_append] at hlength
  rw [List.countP_append, List.countP_append] at hmissed
  constructor
  · have hbefore := h.gets
    rw [hb.gets, List.length_append]
    omega
  · have hbefore := h.misses
    rw [hb.counted, List.count_append, List.countP_append]
    omega
  · intro m hm
    rw [hb.counted, List.count_append, List.countP_append, h.told m hm, htold m hm]

theorem Ledger.shift {c c' : Cache} {ws : List Way} {w : Option Way} (h : Ledger ws c)
    (hs : Shift c c' w) : Ledger (ws ++ w.toList) c' := by
  cases hs with
  | still balance | come balance | asked balance =>
      exact h.of_balance balance rfl rfl fun _ _ => rfl
  | missed balance =>
      exact h.of_balance balance rfl rfl fun m hm => List.count_singleton.trans (by simp [hm.symm])
  | ended w balance =>
      refine h.of_balance balance rfl ?_ fun m _ => ?_
      · have hnone : w.measurement?.toList.count .cacheMiss = 0 := by
          rw [List.count_eq_zero, Option.mem_toList]
          exact w.measurement?_ne_cacheMiss
        rw [hnone]
        simp
      · cases hw : w.measurement? <;> simp [hw, List.count_singleton, List.countP_cons]

theorem ledger_of_run {s : Settings} {as : List Action} {c : Cache}
    (h : (ofSettings s).run as = some c) : Ledger (ways (ofSettings s) as) c := by
  induction as using List.reverseRecOn generalizing c with
  | nil =>
      obtain rfl := Option.some.inj h
      exact ledger_ofSettings s
  | append_singleton as a ih =>
      obtain ⟨d, hd, ha⟩ := run_concat_eq_some.1 h
      rw [ways_concat hd ha]
      exact (ih hd).shift ((Change.of_act ha).shift (givenUpGets_of_run hd) (sinceOrigin_of_run hd))

/-! ## The gauge -/

/-- The gauge is not set, and there is no record, or it stands at the number of records. -/
def Cache.Gauged (c : Cache) : Prop :=
  c.metrics.lookup entriesSeries = none ∧ c.records = [] ∨
    c.metrics.lookup entriesSeries = some c.records.length

/-- Whether an event sets the gauge. -/
def Event.setsGauge : Event → Bool
  | .stored _ _ _ | .cleared => true
  | _ => false

theorem Event.isCount_of_measurement? {event : Event} {m : Measurement}
    (quiet : event.setsGauge = false) (h : event.measurement? = some m) : m.isCount = true := by
  cases event <;> simp_all [setsGauge, measurement?] <;> subst h <;> rfl

section

variable {c c' : Cache} {i : Nat} {time : Instant} {events : List Event}

/-- The metrics after new entries of the journal. -/
theorem metrics_of_journal (hjournal : c'.journal = events.map (⟨i, time, ·⟩) ++ c.journal) :
    c'.metrics = (events.reverse.filterMap Event.measurement?).foldl Registry.record c.metrics := by
  simp [Cache.metrics, Registry.ofMeasurements, measurements, hjournal]

/-- Events that do not set the gauge leave it right if the records stay. -/
theorem Cache.Gauged.of_quiet (h : c.Gauged)
    (hjournal : c'.journal = events.map (⟨i, time, ·⟩) ++ c.journal)
    (quiet : ∀ event ∈ events, event.setsGauge = false) (hrecords : c'.records = c.records) :
    c'.Gauged := by
  have hlookup : c'.metrics.lookup entriesSeries = c.metrics.lookup entriesSeries := by
    rw [metrics_of_journal hjournal]
    refine Registry.lookup_entriesSeries_foldl (fun m hm => ?_) c.metrics
    obtain ⟨event, hevent, hm⟩ := List.mem_filterMap.1 hm
    exact Event.isCount_of_measurement? (quiet event (List.mem_reverse.1 hevent)) hm
  simpa only [Gauged, hlookup, hrecords] using h

/-- The gauge is right when it has just been set to the number of records. -/
theorem gauged_of_set (ms : List Measurement)
    (hjournal : c'.journal = events.map (⟨i, time, ·⟩) ++ c.journal)
    (hset : events.reverse.filterMap Event.measurement? =
      ms ++ [.cacheEntries c'.records.length]) : c'.Gauged := by
  right
  rw [metrics_of_journal hjournal, hset, List.foldl_append]
  exact Registry.lookup_entriesSeries_record _ _

theorem Change.gauged {a : Action} (h : Change c a c') (hg : c.Gauged) : c'.Gauged := by
  cases h with
  | start | cancel | advance | queue => exact hg
  | @miss i _ _ found | @ask i _ _ found =>
      refine hg.of_quiet (journal_moved ..) ?_ rfl
      cases found <;> simp [Event.setsGauge, Lookup.staleness]
  | @finish _ i call result events records at_i outcome =>
      have hjournal : (c.ended i result events records).journal =
          (.ended result :: events).map (⟨i, c.now, ·⟩) ++ c.journal := rfl
      cases outcome with
      | cleared => exact gauged_of_set [] hjournal rfl
      | stored => exact gauged_of_set [.issuance "success"] hjournal rfl
      | gaveUp =>
          refine hg.of_quiet hjournal ?_ rfl
          cases call.phase <;> simp [Event.setsGauge, Phase.abandonment]
      | unreadable | hit | refreshed | counted | crashed | failed | empty | overflowed =>
          exact hg.of_quiet hjournal (by simp [Event.setsGauge]) rfl

theorem gauged_of_run {s : Settings} {as : List Action} (h : (ofSettings s).run as = some c) :
    c.Gauged :=
  invariant_of_run (fun _ _ _ hg hc => hc.gauged hg) h (.inl ⟨rfl, rfl⟩)

end

/-! ## The books -/

/-- What the counter of a measurement stands at. -/
def Cache.counter (c : Cache) (m : Measurement) : Nat := c.metrics.value m.series

theorem counter_eq (c : Cache) {m : Measurement} (h : m.isCount = true) :
    c.counter m = (countedIn c.journal).count m := by
  rw [counter, Cache.metrics, Registry.ofMeasurements, Registry.value_foldl_record h, countedIn,
    List.count_filter h]
  exact Nat.zero_add _

namespace Way

variable (ws : List Way)

theorem countP_hit : ws.countP (·.measurement? = some .cacheHit) = ws.count .served := by
  refine List.countP_congr fun w _ => ?_
  rcases w with _ | _ | _ | _ | _ | ⟨_ | _ | _⟩ <;> simp [measurement?]

theorem countP_success : ws.countP (·.measurement? = some (.issuance "success")) =
    (ws.filterMap answer?).countP isDelivery := by
  rw [List.countP_filterMap]
  refine List.countP_congr fun w _ => ?_
  rcases w with _ | _ | _ | _ | _ | ⟨_ | _ | _⟩ <;> simp [measurement?, answer?, isDelivery]

/-- A call that has not missed was given a token at once or never looked. -/
theorem length_eq : ws.length =
    ws.count .served + ws.count .neverLooked + ws.countP (·.stage.hasMissed) := by
  induction ws with
  | nil => rfl
  | cons w ws ih =>
      simp only [List.length_cons, List.count_cons, List.countP_cons, ih]
      cases w <;> simp [stage, Stage.hasMissed] <;> omega

/-- A call that has missed is given a token by its second look, is given up before that, or has
asked the issuer, and then one of four outcomes is counted unless the issuer crashes. -/
theorem countP_hasMissed : ws.countP (·.stage.hasMissed) =
    ws.countP (·.measurement? = some (.issuance "success")) +
      ws.countP (·.measurement? = some (.issuance "error")) +
      ws.countP (·.measurement? = some (.issuance "empty")) +
      ws.countP (·.measurement? = some (.issuance "cancelled")) +
      ws.count .refreshed + ws.count .gaveUpQueueing + (ws.filterMap answer?).countP isCrash := by
  induction ws with
  | nil => rfl
  | cons w ws ih =>
      have hone : [w].countP (·.stage.hasMissed) =
          [w].countP (·.measurement? = some (.issuance "success")) +
            [w].countP (·.measurement? = some (.issuance "error")) +
            [w].countP (·.measurement? = some (.issuance "empty")) +
            [w].countP (·.measurement? = some (.issuance "cancelled")) +
            [w].count .refreshed + [w].count .gaveUpQueueing +
            ([w].filterMap answer?).countP isCrash := by
        rcases w with _ | _ | _ | _ | _ | ⟨token | _ | _⟩
        case answered.ok =>
          by_cases h : token = "" <;> simp [stage, Stage.hasMissed, measurement?, answer?,
            isCrash, h]
        all_goals rfl
      rw [← List.singleton_append (x := w)]
      simp only [List.filterMap_append, List.countP_append, List.count_append]
      omega

end Way

section

variable {c c' : Cache} {as : List Action}

/-- An action ends a call as answered if the issuer answers in it. -/
theorem answer?_way? (c : Cache) (a : Action) (c' : Cache) :
    (c.way? a c').bind Way.answer? = a.answer? := by
  cases a with
  | settle | start | cancel | advance => rfl
  | step i =>
      have hstage (stage : Stage) (ending : Ending TokenError String) :
          (stage.way? ending).bind Way.answer? = none := by
        rcases stage with _ | _ | _ <;> rcases ending with _ | ⟨_ | _ | _⟩ | _ <;> rfl
      refine Option.bind_eq_none_iff.2 fun w hw => ?_
      obtain ⟨call, -, hw⟩ := Option.bind_eq_some_iff.1 hw
      split at hw
      · obtain ⟨stage, -, hw⟩ := Option.bind_eq_some_iff.1 hw
        exact Option.bind_eq_none_iff.1 (hstage stage _) w hw
      · contradiction

theorem filterMap_ways (h : c.run as = some c') :
    (ways c as).filterMap Way.answer? = answers as := by
  induction as generalizing c with
  | nil => rfl
  | cons a as ih =>
      simp only [run, List.foldlM_cons, Option.bind_eq_bind, Option.bind_eq_some_iff] at h
      obtain ⟨d, hd, hrun⟩ := h
      have hfirst : (c.way? a d).toList.filterMap Way.answer? = a.answer?.toList := by
        rw [← answer?_way? c a d]
        cases c.way? a d <;> simp [filterMap_cons_eq]
      simp only [ways, hd, answers, filterMap_cons_eq, List.filterMap_append, hfirst, ih hrun]

/-- No call for a token is under way. -/
def Cache.Quiet (c : Cache) : Prop :=
  ∀ call ∈ c.calls, call.isGet = true → ∃ result, call.phase = .done result

theorem Phase.stage?_eq_none {phase : Phase} :
    phase.stage? = none ↔ ∃ result, phase = .done result := by
  rcases phase with _ | ⟨_ | _⟩ | _ | _ | _ <;> simp [stage?]

theorem quiet_iff : c.Quiet ↔ c.stages = [] := by
  simp only [Cache.Quiet, Cache.stages, List.filterMap_eq_nil_iff, Call.stage?, ite_eq_right_iff,
    Phase.stage?_eq_none]

end

/-- The metrics of a cache fit the ways in which its calls for a token have ended and the answers
of the issuer. -/
structure Books (ws : List Way) (answers : List (Ending String String)) (c : Cache) : Prop where
  /-- A hit is a call that is given a token by its first look. -/
  hits : c.counter .cacheHit = ws.count .served
  /-- A success is a token that the issuer delivers. -/
  successes : c.counter (.issuance "success") = answers.countP isDelivery
  /-- Once no call is under way, every call for a token is a hit or a miss or has never looked. -/
  gets : c.Quiet → c.counter .cacheHit + c.counter .cacheMiss + ws.count .neverLooked = c.gets
  /-- Then a miss has come to one of four outcomes, has been given a token by its second look, has
  been given up before that, or its issuer has crashed. -/
  misses : c.Quiet → c.counter .cacheMiss =
    c.counter (.issuance "success") + c.counter (.issuance "error") +
      c.counter (.issuance "empty") + c.counter (.issuance "cancelled") +
      ws.count .refreshed + ws.count .gaveUpQueueing + answers.countP isCrash
  /-- The gauge is not set, and there is no record, or it stands at the number of records. -/
  gauged : c.Gauged
  /-- A small number of records is shown as it is. -/
  shown : ∀ n, c.metrics.lookup entriesSeries = some n → n < 2 ^ 53 →
    (entriesSeries.text, n) ∈ c.metrics.shown
  /-- A call for the number of records is told what the gauge stands at, and zero before it is
  set. -/
  size : ∀ a c' i n, Ends c a c' i (.size n) →
    n = (c.metrics.lookup entriesSeries).getD 0

/-- **The books balance.** -/
theorem books_of_run (s : Settings) (as : List Action) (c : Cache)
    (h : (ofSettings s).run as = some c) :
    Books (ways (ofSettings s) as) (answers as) c := by
  have hledger := ledger_of_run h
  have hgauged := gauged_of_run h
  have htold (m : Measurement) (hcount : m.isCount = true) (hm : m ≠ .cacheMiss) :=
    (counter_eq c hcount).trans (hledger.told m hm)
  have hhits := (htold .cacheHit rfl (by simp)).trans (Way.countP_hit _)
  have hmisses : c.counter .cacheMiss = _ := (counter_eq c rfl).trans hledger.misses
  have hanswers := filterMap_ways h
  constructor
  case hits => exact hhits
  case successes =>
    rw [htold _ rfl (by simp), Way.countP_success, hanswers]
  case gets =>
    intro quiet
    have hgets := hledger.gets
    have hways := Way.length_eq (ways (ofSettings s) as)
    rw [quiet_iff.1 quiet] at hgets hmisses
    simp only [List.length_nil, List.countP_nil] at hgets hmisses
    omega
  case misses =>
    intro quiet
    rw [quiet_iff.1 quiet, List.countP_nil, Nat.zero_add, Way.countP_hasMissed,
      hanswers] at hmisses
    rw [hmisses, htold _ rfl (by simp), htold _ rfl (by simp), htold _ rfl (by simp),
      htold _ rfl (by simp)]
  case gauged => exact hgauged
  case shown =>
    intro n hset hsmall
    have hmem := Registry.mem_shown hset
    rwa [shown_entriesSeries hsmall] at hmem
  case size =>
    intro a c' i n hn
    obtain ⟨call, events, records, -, outcome, -⟩ := hn.outcome
    cases outcome with
    | counted =>
        rcases hgauged with ⟨hunset, hempty⟩ | hset
        · simp [hunset, hempty]
        · simp [hset]

/-- Of two callers that miss, one asks the issuer and the other is given the new token; the third is
served at once, and the fourth gives up before it looks. For another key the fifth waits for the
issuer until that crashes, and the sixth gives up behind it. -/
theorem books_six_callers :
    let first : Key := ⟨"db", "eu", "admin", .ofSeconds 900⟩
    let second : Key := ⟨"db", "eu", "reader", .zero⟩
    let schedule : List Action :=
      [.start (.get first), .step 0, .start (.get first), .step 1, .step 0, .step 1,
        .settle 0 (.ok "one"), .step 1, .start (.get first), .step 2,
        .start (.get first), .cancel 3, .step 3,
        .start (.get second), .step 4, .start (.get second), .step 5, .step 4, .step 5,
        .cancel 5, .step 5, .settle 4 (.crash .instantAboveRange)]
    ∃ c, (ofSettings {}).run schedule = some c ∧ c.counter .cacheHit = 1 ∧
      c.counter .cacheMiss = 4 ∧ c.gets = 6 ∧ c.Quiet ∧
      Books [.answered (.ok "one"), .refreshed, .served, .neverLooked, .gaveUpQueueing,
        .answered (.crash .instantAboveRange)] [.ok "one", .crash .instantAboveRange] c := by
  intro first second schedule
  have hviews : ((ofSettings {}).run schedule).map (fun c =>
        (c.counter .cacheHit, c.counter .cacheMiss, c.gets, c.stages,
          ways (ofSettings {}) schedule)) =
      some (1, 4, 6, [], [.answered (.ok "one"), .refreshed, .served, .neverLooked,
        .gaveUpQueueing, .answered (.crash .instantAboveRange)]) := by
    decide +kernel
  obtain ⟨c, hc, hviews⟩ := Option.map_eq_some_iff.1 hviews
  simp only [Prod.mk.injEq] at hviews
  obtain ⟨hhits, hmisses, hgets, hstages, hways⟩ := hviews
  have hbooks := books_of_run {} schedule c hc
  rw [hways] at hbooks
  exact ⟨c, hc, hhits, hmisses, hgets, quiet_iff.2 hstages, hbooks⟩

end StoreClient.Credentials
