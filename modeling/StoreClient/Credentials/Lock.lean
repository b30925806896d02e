/-!
# A fair lock for readers and writers

Those who want to enter stand in a queue. Readers enter together, a writer alone, and nobody enters
before someone who came earlier, except that readers at the front of the queue need not wait for one
another.
-/

namespace StoreClient.Credentials

/-- What someone wants to do behind a lock. -/
inductive Access where
  /-- Only look, together with others who only look. -/
  | read
  /-- Change what is there, alone. -/
  | write
deriving DecidableEq, Repr

/-- A lock: who is inside, and who waits. Everyone goes by a number. -/
structure Lock where
  /-- The readers inside. -/
  readers : List Nat := []
  /-- The writer inside. -/
  writer : Option Nat := none
  /-- Those who wait, the earliest first. -/
  queue : List (Nat × Access) := []
deriving DecidableEq, Repr, Inhabited

namespace Lock

/-- Puts someone at the end of the queue. -/
def join (l : Lock) (i : Nat) (a : Access) : Lock := { l with queue := l.queue ++ [(i, a)] }

/-- Those who came before someone. -/
def ahead (l : Lock) (i : Nat) : List (Nat × Access) := l.queue.takeWhile (·.1 != i)

/-- Whether it is someone's turn: a reader's if no writer is inside and only readers came before,
a writer's if nobody is inside and nobody came before. -/
def admits (l : Lock) (i : Nat) : Bool :=
  match l.queue.lookup i with
  | none => false
  | some .read => l.writer.isNone && (l.ahead i).all (·.2 == .read)
  | some .write => l.writer.isNone && l.readers.isEmpty && (l.ahead i).isEmpty

/-- Lets someone in from the queue. -/
def enter (l : Lock) (i : Nat) (a : Access) : Lock :=
  let l := { l with queue := l.queue.filter (·.1 != i) }
  match a with
  | .read => { l with readers := i :: l.readers }
  | .write => { l with writer := some i }

/-- Takes someone out, from inside or from the queue; the others keep their places. -/
def leave (l : Lock) (i : Nat) : Lock where
  readers := l.readers.filter (· != i)
  writer := if l.writer = some i then none else l.writer
  queue := l.queue.filter (·.1 != i)

end Lock

end StoreClient.Credentials
