import StoreClient.Retry.Loop

/-!
# Transcripts

`Procedure.Leaves` lists the transcripts that a procedure can leave and the endings that go with
them, whatever the surroundings are; `Surroundings.Replied` says of a transcript that its replies
are those of given surroundings. A run has both properties, and no other transcript has. What holds
of all behaviours of store, work, clock and chance follows from the first alone, what holds in given
surroundings from both.

## Main definitions

* `Procedure.Leaves` — a procedure can leave this transcript and end so.
* `Surroundings.Replied` — the surroundings give the replies of this transcript.
* `Surroundings.replaying` — surroundings for the replies of any transcript.
* `Run.calls`, `Run.steps` — the part of a transcript that store and work see, and the waits.
-/

namespace StoreClient.Retry

variable {σ τ ρ ε α : Type}

/-! ## What a procedure allows -/

/-- A procedure can leave this transcript and come to this end. -/
inductive Procedure.Leaves :
    Procedure τ ρ ε α → List (Entry τ ρ ε α) → Ending (RetryError ε) α → Prop
  /-- Nothing follows the end. -/
  | finish {ending : Ending (RetryError ε) α} : Leaves (.finish ending) [] ending
  /-- An event is noted. -/
  | report {event : Event} {rest : Procedure τ ρ ε α} {t : List (Entry τ ρ ε α)}
      {ending : Ending (RetryError ε) α} (leaves : Leaves rest t ending) :
      Leaves (.report event rest) (.reported event :: t) ending
  /-- The store may reply in any way. -/
  | begin {resume : Reply ρ τ → Procedure τ ρ ε α} (reply : Reply ρ τ) {t : List (Entry τ ρ ε α)}
      {ending : Ending (RetryError ε) α} (leaves : Leaves (resume reply) t ending) :
      Leaves (.begin resume) (.began reply :: t) ending
  /-- The store may reply in any way. -/
  | call {target : Target τ} {resume : Reply ρ Unit → Procedure τ ρ ε α} (reply : Reply ρ Unit)
      {t : List (Entry τ ρ ε α)} {ending : Ending (RetryError ε) α}
      (leaves : Leaves (resume reply) t ending) :
      Leaves (.call target resume) (.called target reply :: t) ending
  /-- The work may reply in any way. -/
  | work {tx : τ} {resume : Reply ε α → Procedure τ ρ ε α} (reply : Reply ε α)
      {t : List (Entry τ ρ ε α)} {ending : Ending (RetryError ε) α}
      (leaves : Leaves (resume reply) t ending) :
      Leaves (.work tx resume) (.worked tx reply :: t) ending
  /-- Any number may come out. -/
  | draw {bound : Nat} {resume : Nat → Procedure τ ρ ε α} (n : Nat) {t : List (Entry τ ρ ε α)}
      {ending : Ending (RetryError ε) α} (leaves : Leaves (resume n) t ending) :
      Leaves (.draw bound resume) (.drew bound n :: t) ending
  /-- The caller may give up or not. -/
  | wait {pause : Pause} {resume : Bool → Procedure τ ρ ε α} (cancelled : Bool)
      {t : List (Entry τ ρ ε α)} {ending : Ending (RetryError ε) α}
      (leaves : Leaves (resume cancelled) t ending) :
      Leaves (.wait pause resume) (.waited pause cancelled :: t) ending

namespace Procedure

variable {t : List (Entry τ ρ ε α)} {ending e : Ending (RetryError ε) α}

@[simp] theorem leaves_finish :
    (finish ending : Procedure τ ρ ε α).Leaves t e ↔ t = [] ∧ e = ending := by
  constructor
  · rintro ⟨⟩
    exact ⟨rfl, rfl⟩
  · rintro ⟨rfl, rfl⟩
    exact .finish

@[simp] theorem leaves_report {event : Event} {rest : Procedure τ ρ ε α} :
    (report event rest).Leaves t e ↔ ∃ t', t = .reported event :: t' ∧ rest.Leaves t' e := by
  constructor
  · rintro ⟨⟩
    exact ⟨_, rfl, ‹_›⟩
  · rintro ⟨_, rfl, h⟩
    exact .report h

@[simp] theorem leaves_begin {resume : Reply ρ τ → Procedure τ ρ ε α} :
    (begin resume).Leaves t e ↔
      ∃ reply t', t = .began reply :: t' ∧ (resume reply).Leaves t' e := by
  constructor
  · rintro ⟨⟩
    exact ⟨_, _, rfl, ‹_›⟩
  · rintro ⟨_, _, rfl, h⟩
    exact .begin _ h

@[simp] theorem leaves_call {target : Target τ} {resume : Reply ρ Unit → Procedure τ ρ ε α} :
    (call target resume).Leaves t e ↔
      ∃ reply t', t = .called target reply :: t' ∧ (resume reply).Leaves t' e := by
  constructor
  · rintro ⟨⟩
    exact ⟨_, _, rfl, ‹_›⟩
  · rintro ⟨_, _, rfl, h⟩
    exact .call _ h

@[simp] theorem leaves_work {tx : τ} {resume : Reply ε α → Procedure τ ρ ε α} :
    (work tx resume).Leaves t e ↔
      ∃ reply t', t = .worked tx reply :: t' ∧ (resume reply).Leaves t' e := by
  constructor
  · rintro ⟨⟩
    exact ⟨_, _, rfl, ‹_›⟩
  · rintro ⟨_, _, rfl, h⟩
    exact .work _ h

@[simp] theorem leaves_draw {bound : Nat} {resume : Nat → Procedure τ ρ ε α} :
    (draw bound resume).Leaves t e ↔ ∃ n t', t = .drew bound n :: t' ∧ (resume n).Leaves t' e := by
  constructor
  · rintro ⟨⟩
    exact ⟨_, _, rfl, ‹_›⟩
  · rintro ⟨_, _, rfl, h⟩
    exact .draw _ h

@[simp] theorem leaves_wait {pause : Pause} {resume : Bool → Procedure τ ρ ε α} :
    (wait pause resume).Leaves t e ↔
      ∃ cancelled t', t = .waited pause cancelled :: t' ∧ (resume cancelled).Leaves t' e := by
  constructor
  · rintro ⟨⟩
    exact ⟨_, _, rfl, ‹_›⟩
  · rintro ⟨_, _, rfl, h⟩
    exact .wait _ h

/-- A run leaves a transcript that its procedure allows, and ends as this allows. -/
theorem leaves_run (s : Surroundings σ τ ρ ε α) (p : Procedure τ ρ ε α) (x : σ) :
    p.Leaves (p.run s x).transcript (p.run s x).ending := by
  induction p generalizing x with
  | finish => exact .finish
  | report _ _ ih => exact .report (ih x)
  | begin _ ih => exact .begin _ (ih _ _)
  | call _ _ ih => exact .call _ (ih _ _)
  | work _ _ ih => exact .work _ (ih _ _)
  | draw _ _ ih => exact .draw _ (ih _ _)
  | wait _ _ ih => exact .wait _ (ih _ _)

end Procedure

/-! ## What surroundings reply -/

namespace Surroundings

/-- Surroundings in a state make an entry and are left in a state. -/
inductive Makes (s : Surroundings σ τ ρ ε α) : σ → Entry τ ρ ε α → σ → Prop
  /-- Nobody listens to an event. -/
  | reported (x : σ) (event : Event) : Makes s x (.reported event) x
  /-- The store opens a transaction. -/
  | began (x : σ) : Makes s x (.began (s.begin x).1) (s.begin x).2
  /-- The store is called. -/
  | called (x : σ) (target : Target τ) :
      Makes s x (.called target (s.call target x).1) (s.call target x).2
  /-- The work runs. -/
  | worked (x : σ) (tx : τ) : Makes s x (.worked tx (s.work tx x).1) (s.work tx x).2
  /-- A number is drawn. -/
  | drew (x : σ) (bound : Nat) : Makes s x (.drew bound (s.draw bound x).1) (s.draw bound x).2
  /-- A wait ends. -/
  | waited (x : σ) (pause : Pause) :
      Makes s x (.waited pause (s.wait pause x).1) (s.wait pause x).2

/-- Surroundings in a state give the replies of a transcript and are left in a state. -/
inductive Replied (s : Surroundings σ τ ρ ε α) : σ → List (Entry τ ρ ε α) → σ → Prop
  /-- Nothing is asked. -/
  | nil (x : σ) : Replied s x [] x
  /-- One thing after the other. -/
  | cons {x y z : σ} {e : Entry τ ρ ε α} {t : List (Entry τ ρ ε α)} (head : s.Makes x e y)
      (tail : Replied s y t z) : Replied s x (e :: t) z

variable {s : Surroundings σ τ ρ ε α} {x y : σ}

@[simp] theorem makes_reported {event : Event} : s.Makes x (.reported event) y ↔ y = x := by
  constructor
  · rintro ⟨⟩
    rfl
  · rintro rfl
    exact .reported y event

@[simp] theorem makes_began {reply : Reply ρ τ} :
    s.Makes x (.began reply) y ↔ s.begin x = (reply, y) := by
  constructor
  · rintro ⟨⟩
    rfl
  · intro h
    simpa [h] using Makes.began (s := s) x

@[simp] theorem makes_called {target : Target τ} {reply : Reply ρ Unit} :
    s.Makes x (.called target reply) y ↔ s.call target x = (reply, y) := by
  constructor
  · rintro ⟨⟩
    rfl
  · intro h
    simpa [h] using Makes.called (s := s) x target

@[simp] theorem makes_worked {tx : τ} {reply : Reply ε α} :
    s.Makes x (.worked tx reply) y ↔ s.work tx x = (reply, y) := by
  constructor
  · rintro ⟨⟩
    rfl
  · intro h
    simpa [h] using Makes.worked (s := s) x tx

@[simp] theorem makes_drew {bound n : Nat} :
    s.Makes x (.drew bound n) y ↔ s.draw bound x = (n, y) := by
  constructor
  · rintro ⟨⟩
    rfl
  · intro h
    simpa [h] using Makes.drew (s := s) x bound

@[simp] theorem makes_waited {pause : Pause} {cancelled : Bool} :
    s.Makes x (.waited pause cancelled) y ↔ s.wait pause x = (cancelled, y) := by
  constructor
  · rintro ⟨⟩
    rfl
  · intro h
    simpa [h] using Makes.waited (s := s) x pause

@[simp] theorem replied_nil : s.Replied x [] y ↔ y = x := by
  constructor
  · rintro ⟨⟩
    rfl
  · rintro rfl
    exact .nil y

@[simp] theorem replied_cons {e : Entry τ ρ ε α} {t : List (Entry τ ρ ε α)} :
    s.Replied x (e :: t) y ↔ ∃ z, s.Makes x e z ∧ s.Replied z t y := by
  constructor
  · rintro ⟨⟩
    exact ⟨_, ‹_›, ‹_›⟩
  · rintro ⟨_, head, tail⟩
    exact .cons head tail

@[simp] theorem replied_append {t u : List (Entry τ ρ ε α)} :
    s.Replied x (t ++ u) y ↔ ∃ z, s.Replied x t z ∧ s.Replied z u y := by
  induction t generalizing x with
  | nil => simp
  | cons e t ih =>
      simp only [List.cons_append, replied_cons, ih]
      constructor
      · rintro ⟨z, hz, w, hw, hu⟩
        exact ⟨w, ⟨z, hz, hw⟩, hu⟩
      · rintro ⟨w, ⟨z, hz, hw⟩, hu⟩
        exact ⟨z, hz, w, hw, hu⟩

/-- The replies of a run are those of its surroundings. -/
theorem replied_run (s : Surroundings σ τ ρ ε α) (p : Procedure τ ρ ε α) (x : σ) :
    s.Replied x (p.run s x).transcript (p.run s x).final := by
  induction p generalizing x with
  | finish => exact .nil x
  | report event _ ih => exact .cons (.reported x event) (ih x)
  | begin _ ih => exact .cons (.began x) (ih _ _)
  | call target _ ih => exact .cons (.called x target) (ih _ _)
  | work tx _ ih => exact .cons (.worked x tx) (ih _ _)
  | draw bound _ ih => exact .cons (.drew x bound) (ih _ _)
  | wait pause _ ih => exact .cons (.waited x pause) (ih _ _)

end Surroundings

/-! ## Transcripts as runs -/

/-- What a procedure does is settled by the replies: where these are the ones of a transcript that
it can leave, it leaves this transcript. -/
theorem Procedure.Leaves.run_eq {s : Surroundings σ τ ρ ε α} {p : Procedure τ ρ ε α}
    {t : List (Entry τ ρ ε α)} {ending : Ending (RetryError ε) α} (h : p.Leaves t ending) {x y : σ}
    (hr : s.Replied x t y) : p.run s x = ⟨ending, t, y⟩ := by
  induction h generalizing x with
  | finish =>
      obtain rfl := Surroundings.replied_nil.1 hr
      rfl
  | @report _ _ t _ _ ih =>
      have hrest : s.Replied x t y := by simpa using hr
      rw [Procedure.run, ih hrest, Run.after]
  | begin _ _ ih | call _ _ ih | work _ _ ih | draw _ _ ih | wait _ _ ih =>
      obtain ⟨z, hz, hr⟩ := by simpa using hr
      simp only [Procedure.run, hz, ih hr, Run.after]

namespace Surroundings

/-- Surroundings that give the replies of a transcript one after the other, whatever they are asked
to do with them. The state is what is left of the transcript, and at the end of it they crash. -/
def replaying : Surroundings (List (Entry τ ρ ε α)) τ ρ ε α where
  begin
    | .began reply :: t => (reply, t)
    | t => (⟨.crash .counterFull, false⟩, t)
  call
    | _, .called _ reply :: t => (reply, t)
    | _, t => (⟨.crash .counterFull, false⟩, t)
  work
    | _, .worked _ reply :: t => (reply, t)
    | _, t => (⟨.crash .counterFull, false⟩, t)
  draw
    | _, .drew _ n :: t => (n, t)
    | _, t => (0, t)
  wait
    | _, .waited _ cancelled :: t => (cancelled, t)
    | _, t => (false, t)

/-- Every transcript is that of some replies. -/
theorem exists_replied (t : List (Entry τ ρ ε α)) : ∃ x, replaying.Replied x t [] := by
  induction t with
  | nil => exact ⟨[], .nil []⟩
  | cons e t ih =>
      obtain ⟨x, hx⟩ := ih
      cases e with
      | reported event => exact ⟨x, .cons (.reported x event) hx⟩
      | began reply => exact ⟨.began reply :: x, .cons (makes_began.2 rfl) hx⟩
      | called target reply => exact ⟨.called target reply :: x, .cons (makes_called.2 rfl) hx⟩
      | worked tx reply => exact ⟨.worked tx reply :: x, .cons (makes_worked.2 rfl) hx⟩
      | drew bound n => exact ⟨.drew bound n :: x, .cons (makes_drew.2 rfl) hx⟩
      | waited pause cancelled =>
          exact ⟨.waited pause cancelled :: x, .cons (makes_waited.2 rfl) hx⟩

end Surroundings

/-! ## Views -/

namespace Entry

/-- Whether an entry is a call of store or work. -/
def isCall : Entry τ ρ ε α → Bool
  | .began _ | .called _ _ | .worked _ _ => true
  | _ => false

/-- Whether an entry is a wait. -/
def isWait : Entry τ ρ ε α → Bool
  | .waited _ _ => true
  | _ => false

variable (event : Event) (begun : Reply ρ τ) (target : Target τ) (reply : Reply ρ Unit) (tx : τ)
  (worked : Reply ε α) (bound n : Nat) (pause : Pause) (cancelled : Bool)

@[simp] theorem isCall_reported : (reported event : Entry τ ρ ε α).isCall = false := rfl
@[simp] theorem isCall_began : (began begun : Entry τ ρ ε α).isCall = true := rfl
@[simp] theorem isCall_called : (called target reply : Entry τ ρ ε α).isCall = true := rfl
@[simp] theorem isCall_worked : (Entry.worked tx worked : Entry τ ρ ε α).isCall = true := rfl
@[simp] theorem isCall_drew : (drew bound n : Entry τ ρ ε α).isCall = false := rfl
@[simp] theorem isCall_waited : (waited pause cancelled : Entry τ ρ ε α).isCall = false := rfl

@[simp] theorem isWait_reported : (reported event : Entry τ ρ ε α).isWait = false := rfl
@[simp] theorem isWait_began : (began begun : Entry τ ρ ε α).isWait = false := rfl
@[simp] theorem isWait_called : (called target reply : Entry τ ρ ε α).isWait = false := rfl
@[simp] theorem isWait_worked : (Entry.worked tx worked : Entry τ ρ ε α).isWait = false := rfl
@[simp] theorem isWait_drew : (drew bound n : Entry τ ρ ε α).isWait = false := rfl
@[simp] theorem isWait_waited : (waited pause cancelled : Entry τ ρ ε α).isWait = true := rfl

/-- Whether an entry is a call of store or work, or a wait. -/
def isStep (e : Entry τ ρ ε α) : Bool := e.isCall || e.isWait

theorem isStep_eq (e : Entry τ ρ ε α) : e.isStep = (e.isCall || e.isWait) := rfl

end Entry

namespace Run

/-- The calls of store and work in a run, in order. -/
def calls (r : Run σ τ ρ ε α) : List (Entry τ ρ ε α) := r.transcript.filter Entry.isCall

/-- The calls and the waits of a run, in order. -/
def steps (r : Run σ τ ρ ε α) : List (Entry τ ρ ε α) := r.transcript.filter Entry.isStep

end Run

end StoreClient.Retry
