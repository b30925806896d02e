import StoreClient.Proofs.Observability.Registry
import StoreClient.Proofs.Retry.Agreement
import StoreClient.Proofs.Retry.Cancellation

/-!
# Tallies

Four counters go up while an operation is retried: at the start of an attempt, at a conflict, at a
failure that is told, and when the attempts have run out. A tally is what they stand at in a
registry, or what they go up by. Tallies add up along a sequence of measurements, and the entries of
a transcript add what their events do.

## Main definitions

* `Tally` — the four counters of an operation.
* `standing` — what the counters stand at.
* `gain`, `recorded` — what measurements and transcripts add to them.
-/

namespace StoreClient.Retry

open Observability

variable {σ τ ρ ε α : Type} {op : Operation} {counter : String → Measurement}

/-! ## Tallies -/

/-- What the counters of an operation stand at, or go up by. -/
@[ext] structure Tally where
  /-- The attempts. -/
  attempts : Nat := 0
  /-- The conflicts. -/
  conflicts : Nat := 0
  /-- The failures that are told. -/
  fatal : Nat := 0
  /-- The calls whose attempts have run out. -/
  exhausted : Nat := 0
deriving DecidableEq, Repr

namespace Tally

instance : Add Tally where
  add j k := {
    attempts := j.attempts + k.attempts
    conflicts := j.conflicts + k.conflicts
    fatal := j.fatal + k.fatal
    exhausted := j.exhausted + k.exhausted }

variable (j k l : Tally)

@[simp] theorem attempts_add : (j + k).attempts = j.attempts + k.attempts := rfl
@[simp] theorem conflicts_add : (j + k).conflicts = j.conflicts + k.conflicts := rfl
@[simp] theorem fatal_add : (j + k).fatal = j.fatal + k.fatal := rfl
@[simp] theorem exhausted_add : (j + k).exhausted = j.exhausted + k.exhausted := rfl

@[simp] theorem add_empty : k + {} = k := rfl

@[simp] theorem empty_add : {} + k = k := by
  ext <;> simp

theorem add_assoc : j + k + l = j + (k + l) := by
  ext <;> simp [Nat.add_assoc]

end Tally

/-! ## Registries -/

/-- What the counters of an operation stand at. -/
def standing (op : Operation) (registry : Registry) : Tally where
  attempts := registry.value (Measurement.attempt op.label).series
  conflicts := registry.value (Measurement.conflict op.label).series
  fatal := registry.value (Measurement.fatal op.label).series
  exhausted := registry.value (Measurement.retriesExhausted op.label).series

/-- What measurements add to the counters of an operation. -/
def gain (op : Operation) (ms : List Measurement) : Tally where
  attempts := ms.count (.attempt op.label)
  conflicts := ms.count (.conflict op.label)
  fatal := ms.count (.fatal op.label)
  exhausted := ms.count (.retriesExhausted op.label)

@[simp] theorem gain_nil : gain op [] = {} := rfl

@[simp] theorem gain_append (ms ms' : List Measurement) :
    gain op (ms ++ ms') = gain op ms + gain op ms' := by
  ext <;> simp [gain]

theorem gain_perm {ms ms' : List Measurement} (h : ms.Perm ms') : gain op ms = gain op ms' := by
  ext <;> exact h.count_eq _

theorem mem_counters_iff : counter ∈ counters ↔ counter = .attempt ∨ counter = .conflict ∨
    counter = .fatal ∨ counter = .retriesExhausted := by
  simp [counters]

/-- The counters of an operation go up by what measurements add to them. -/
theorem standing_foldl_record (ms : List Measurement) (registry : Registry) :
    standing op (ms.foldl Registry.record registry) = standing op registry + gain op ms := by
  ext <;> exact Registry.value_foldl_record rfl ms registry

theorem standing_ofMeasurements (ms : List Measurement) :
    standing op (.ofMeasurements ms) = gain op ms := by
  rw [Registry.ofMeasurements, standing_foldl_record]
  exact Tally.empty_add _

/-! ## Transcripts -/

/-- What an entry adds to the counters. -/
def Entry.gain (op : Operation) (e : Entry τ ρ ε α) : Tally :=
  Retry.gain op (e.event?.bind (Event.measurement? op)).toList

/-- What a transcript adds to the counters. -/
def recorded (op : Operation) (t : List (Entry τ ρ ε α)) : Tally :=
  gain op ((t.filterMap Entry.event?).filterMap (Event.measurement? op))

section

variable (e : Entry τ ρ ε α) (t u : List (Entry τ ρ ε α))

@[simp] theorem recorded_nil : recorded op ([] : List (Entry τ ρ ε α)) = {} := rfl

@[simp] theorem recorded_cons : recorded op (e :: t) = e.gain op + recorded op t := by
  simp only [recorded, Entry.gain, List.filterMap_cons]
  cases e.event? with
  | none => simp
  | some event =>
      simp only [List.filterMap_cons, Option.bind_some]
      cases event.measurement? op <;> simp [← gain_append]

@[simp] theorem Entry.gain_attempted :
    (.reported .attempted : Entry τ ρ ε α).gain op = { attempts := 1 } := by
  simp [Entry.gain, event?, Event.measurement?, Retry.gain]

@[simp] theorem Entry.gain_conflicted :
    (.reported .conflicted : Entry τ ρ ε α).gain op = { conflicts := 1 } := by
  simp [Entry.gain, event?, Event.measurement?, Retry.gain]

@[simp] theorem Entry.gain_failed :
    (.reported .failed : Entry τ ρ ε α).gain op = { fatal := 1 } := by
  simp [Entry.gain, event?, Event.measurement?, Retry.gain]

@[simp] theorem Entry.gain_exhausted (attempts : Nat) (error : String) :
    (.reported (.exhausted attempts error) : Entry τ ρ ε α).gain op = { exhausted := 1 } := by
  simp [Entry.gain, event?, Event.measurement?, Retry.gain]

@[simp] theorem recorded_append : recorded op (t ++ u) = recorded op t + recorded op u := by
  simp [recorded]

/-- Where only failed rollbacks are reported, nothing is counted. -/
theorem Contained.recorded {t : List (Entry τ ρ ε α)} (h : Contained t) : recorded op t = {} := by
  have hnone : (t.filterMap Entry.event?).filterMap (Event.measurement? op) = [] := by
    refine List.filterMap_eq_nil_iff.2 fun event hevent => ?_
    obtain ⟨e, he, hreported⟩ := List.mem_filterMap.1 hevent
    cases e with
    | reported other =>
        obtain rfl := Option.some.inj hreported
        obtain ⟨message, rfl⟩ := h.reports _ he
        rfl
    | began | called | worked | drew | waited => contradiction
  rw [Retry.recorded, hnone, gain_nil]

end

/-! ## Operations -/

/-- Labels tell operations apart. -/
theorem Operation.label_eq_iff {op other : Operation} : op.label = other.label ↔ op = other := by
  cases op <;> cases other <;> simp [label]

/-- A run adds nothing to the counters of the other operation. -/
theorem gain_of_ne {other : Operation} (h : other ≠ op) (r : Run σ τ ρ ε α) :
    gain other (r.measurements op) = {} := by
  have hlabel : op.label ≠ other.label := fun heq => h (Operation.label_eq_iff.1 heq).symm
  have hnone {counter : String → Measurement} (hcounter : counter ∈ counters) :
      (r.measurements op).count (counter other.label) = 0 := by
    refine List.count_eq_zero.2 fun hmem => ?_
    obtain ⟨event, -, hevent⟩ := Run.mem_measurements.1 hmem
    rcases mem_counters_iff.1 hcounter with rfl | rfl | rfl | rfl <;> cases event <;>
      simp [Event.measurement?, hlabel] at hevent
  ext <;> exact hnone (by simp [counters])

end StoreClient.Retry
