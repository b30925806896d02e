import StoreClient.Credentials.Report
import StoreClient.Rehearsal.Clock

/-!
# Rehearsed token caches

A rehearsal lets calls run on a token cache on a virtual clock, with an issuer that follows a
script. At every instant the calls go on in turn, each as far as it can, until none can; then the
clock jumps to the next instant at which a call comes, a caller gives up or the issuer answers.
-/

namespace StoreClient.Rehearsal

open Credentials

/-- What the issuer does when it is asked. Once its answer is there it counts, even if the caller
gives up at the same moment. -/
structure Issue where
  /-- The token it gives, unless it is to be made up. -/
  token : Option String := none
  /-- The message it fails with, if it does. -/
  failure : Option String := none
  /-- The message it crashes with, if it does. -/
  crash : Option String := none
  /-- How long it takes, in milliseconds. -/
  delay : Nat := 0
deriving Repr

/-- A token made up for a key from the number of the request. -/
def madeUp (key : Key) (serial : Nat) : String := s!"{key.user}@{key.host}/{key.region}#{serial}"

/-- The answer of the issuer; a crash goes before a failure. -/
def Issue.answer (issue : Issue) (key : Key) (serial : Nat) : Ending String String :=
  match issue.crash, issue.failure with
  | some message, _ => .crash (.foreign message)
  | none, some message => .error message
  | none, none => .ok (issue.token.getD (madeUp key serial))

/-- A request to the issuer that was made. -/
structure Asked where
  /-- The call that made it. -/
  call : Nat
  /-- The key. -/
  key : Key
  /-- When it was made, in milliseconds. -/
  time : Nat
  /-- When the answer is there, in milliseconds. -/
  due : Nat
  /-- The answer. -/
  answer : Ending String String

/-- A call that is to come. -/
structure Task where
  /-- What it asks for. -/
  request : Request
  /-- When it comes, in milliseconds. -/
  start : Nat := 0
  /-- Whether its caller has given up beforehand. -/
  cancelled : Bool := false
  /-- When its caller gives up, in milliseconds. -/
  cancelAt : Option Nat := none
  /-- The number of its call, once it has come. -/
  call : Option Nat := none

/-- A rehearsal of a token cache. -/
structure Service where
  /-- The cache. -/
  cache : Cache
  /-- The time. -/
  clock : Clock := {}
  /-- The steps of the issuer to come. -/
  script : List Issue := []
  /-- The requests to the issuer, the latest first. -/
  asked : List Asked := []
  /-- The calls of the rehearsal. -/
  tasks : List Task := []

namespace Service

/-- Lets something happen to the cache, if it can. -/
def act (s : Service) (a : Action) : Service :=
  match s.cache.act a with
  | some cache => { s with cache }
  | none => s

/-- The phase of a call. -/
def phase? (s : Service) (i : Nat) : Option Phase := s.cache.calls[i]?.map (·.phase)

/-- The result of a call that is over. -/
def result? (s : Service) (i : Nat) : Option Result :=
  match s.phase? i with
  | some (.done result) => some result
  | _ => none

/-- Puts the request of a call to the issuer. -/
def ask (s : Service) (i : Nat) (key : Key) : Service :=
  let issue := s.script.headD {}
  let asked : Asked := {
    call := i
    key
    time := s.clock.milliseconds
    due := s.clock.wakeIn issue.delay
    answer := issue.answer key (s.asked.length + 1) }
  { s with script := s.script.tail, asked := asked :: s.asked }

/-- The request of a call to the issuer. -/
def asked? (s : Service) (i : Nat) : Option Asked := s.asked.find? fun asked => asked.call == i

/-- Lets a call take one step, if it can. -/
def step? (s : Service) (i : Nat) : Option Service :=
  match s.cache.act (.step i) with
  | some cache =>
    let s := { s with cache }
    match cache.calls[i]? with
    | some ⟨.get key, .issuing _, _⟩ => some (s.ask i key)
    | _ => some s
  | none => do
    let asked ← s.asked? i
    if asked.due ≤ s.clock.milliseconds then
      return { s with cache := ← s.cache.act (.settle i asked.answer) }
    else none

/-- Lets a call go on as far as it can, for at most so many steps. -/
def goOn : (steps : Nat) → Nat → Service → Service
  | 0, _, s => s
  | steps + 1, i, s =>
    match s.step? i with
    | some s => goOn steps i s
    | none => s

/-- A call takes no more steps than this. -/
def stepsPerCall : Nat := 8

/-- Lets a task come if it is time, tells its caller to give up if it is time, and lets its call go
on. -/
def visit (s : Service) (t : Task) : Service × Task :=
  let (s, t) :=
    if t.call.isNone && t.start ≤ s.clock.milliseconds then
      let i := s.cache.calls.length
      let s := s.act (.start t.request)
      (if t.cancelled then s.act (.cancel i) else s, { t with call := some i })
    else (s, t)
  match t.call with
  | none => (s, t)
  | some i =>
    let s := if t.cancelAt.any (· ≤ s.clock.milliseconds) then s.act (.cancel i) else s
    (goOn stepsPerCall i s, t)

/-- Visits all tasks in turn. -/
def visitAll (s : Service) : Service :=
  let (s, tasks) := s.tasks.foldl
    (fun (s, done) t => let (s, t) := s.visit t; (s, done ++ [t])) (s, [])
  { s with tasks }

/-- Visits all tasks again and again, at most so many times, until nothing happens any more. -/
def settleInstant : (rounds : Nat) → Service → Service
  | 0, s => s
  | rounds + 1, s =>
    let next := s.visitAll
    if next.cache.journal.length = s.cache.journal.length then next else settleInstant rounds next

/-- The milliseconds to come at which something happens to a task. -/
def alarms (s : Service) (t : Task) : List Nat :=
  let times := match t.call with
    | none => [t.start]
    | some i =>
      if (s.result? i).isSome then []
      else t.cancelAt.toList ++ ((s.asked? i).map Asked.due).toList
  times.filter (s.clock.milliseconds < ·)

/-- The next millisecond at which something happens. -/
def nextAlarm? (s : Service) : Option Nat := (s.tasks.flatMap s.alarms).min?

/-- Moves the clock to a millisecond. -/
def reach (s : Service) (ms : Nat) : Service :=
  let clock := s.clock.reach ms
  { s.act (.advance (.saturate (clock.nanoseconds - s.clock.nanoseconds))) with clock }

/-- Runs until nothing more happens, for at most so many instants. -/
def run : (instants : Nat) → Service → Service
  | 0, s => s
  | instants + 1, s =>
    let s := settleInstant (stepsPerCall * (s.tasks.length + 1)) s
    match s.nextAlarm? with
    | some ms => run instants (s.reach ms)
    | none => s

/-- Runs all tasks to their end. Each has at most three instants: it comes, its caller gives up, and
the issuer answers. -/
def runTasks (s : Service) (tasks : List Task) : Service :=
  run (3 * tasks.length + 1) { s with tasks }

/-- Moves the clock by hand. -/
def advance (s : Service) (d : Duration) : Service :=
  { s.act (.advance d) with clock := s.clock.advance d }

/-- When a call was over, in milliseconds. -/
def endOf? (s : Service) (i : Nat) : Option Nat :=
  let isEnd (e : Credentials.Entry) : Bool := e.call == i && e.event matches .ended _
  (s.cache.journal.find? isEnd).map fun e => e.time.nanoseconds.toNat / 10 ^ 6

end Service

end StoreClient.Rehearsal
