import StoreClient.Proofs.Retry.Course
import StoreClient.Proofs.Retry.Growth

/-!
# The waits of a call

The next wait can be told of any backoff, whatever its policy: jitter is drawn only where there is
room for it, and a product that is no duration counts as the greatest wait. So every base but the
first is bounded, and a wait is less than a quarter longer than its base. A call waits as a fresh
backoff does on the numbers that the call draws.

## Main definitions

* `Pause.Bounded` — what jitter can make of a wait.
* `draws`, `waits` — the numbers drawn and the waits of a transcript.
* `Paced` — a run waits as a fresh backoff does.
-/

namespace StoreClient.Retry

/-! ## One wait -/

/-- A wait is what base and jitter add up to, and jitter is less than a quarter of the base. -/
structure Pause.Bounded (p : Pause) : Prop where
  /-- The sum saturates: it is the longest duration where base and jitter together are longer. -/
  sum : p.delay.nanoseconds =
    min (p.base.nanoseconds + p.jitter.nanoseconds) Duration.max.nanoseconds
  /-- Jitter is less than a quarter of the base; where there is no room there is none. -/
  jitter : if p.base.nanoseconds < 4 then p.jitter = .zero
    else p.jitter.nanoseconds < p.base.nanoseconds / 4
  /-- A wait is its base where that is below four nanoseconds. Otherwise it is not less than its
  base and less than a quarter longer. -/
  delay : if p.base.nanoseconds < 4 then p.delay = p.base
    else p.base ≤ p.delay ∧ p.delay.nanoseconds < p.base.nanoseconds + p.base.nanoseconds / 4

namespace Backoff

variable {b : Backoff}

/-- The next waits, one for each number drawn. -/
def pauses (b : Backoff) : List Nat → List Pause
  | [] => []
  | draw :: draws => b.pause draw :: b.advance.pauses draws

theorem nanoseconds_jitter (b : Backoff) (draw : Nat) : (b.pause draw).jitter.nanoseconds =
    if b.current.nanoseconds / 4 = 0 then 0 else draw % (b.current.nanoseconds / 4) := by
  have hlimit : (if b.current.nanoseconds / 4 = 0 then 0
      else draw % (b.current.nanoseconds / 4)) < 2 ^ 64 * 10 ^ 9 := by
    have := b.current.lt_limit
    by_cases hrange : b.current.nanoseconds / 4 = 0
    · rw [if_pos hrange]
      omega
    · rw [if_neg hrange]
      have hjitter := Nat.mod_lt draw (Nat.pos_of_ne_zero hrange)
      omega
  exact (Duration.nanoseconds_saturate _).trans (Nat.min_eq_left (Nat.le_sub_one_of_lt hlimit))

/-- The draw of the jitter does not crash: where there is no room nothing is drawn. -/
theorem jitter?_eq (b : Backoff) (draw : Nat) :
    Pause.jitter? b.current draw = some (b.pause draw).jitter := by
  have hjitter := b.nanoseconds_jitter draw
  by_cases hrange : b.current.nanoseconds / 4 = 0
  · rw [if_pos hrange] at hjitter
    have hzero : (Pause.range b.current).isZero = true := beq_iff_eq.2 hrange
    rw [Pause.jitter?, if_pos hzero]
    exact congrArg some (Duration.eq_of_nanoseconds_eq hjitter.symm)
  · rw [if_neg hrange] at hjitter
    have hnonzero : ¬ (Pause.range b.current).isZero = true := fun h => hrange (beq_iff_eq.1 h)
    have hpos : 0 < (Pause.range b.current).nanoseconds := Nat.pos_of_ne_zero hrange
    rw [Pause.jitter?, if_neg hnonzero, Duration.below?, dif_pos hpos]
    exact congrArg some (Duration.eq_of_nanoseconds_eq hjitter.symm)

theorem next?_eq (b : Backoff) (draw : Nat) : b.next? draw = some (b.pause draw, b.advance) := by
  rw [next?, jitter?_eq]
  rfl

theorem bounded_pause (b : Backoff) (draw : Nat) : (b.pause draw).Bounded := by
  have hjitter := b.nanoseconds_jitter draw
  have hdelay : (b.pause draw).delay.nanoseconds =
      min (b.current.nanoseconds + (b.pause draw).jitter.nanoseconds) (2 ^ 64 * 10 ^ 9 - 1) :=
    Duration.nanoseconds_saturatingAdd _ _
  have hlimit := b.current.lt_limit
  by_cases hsmall : b.current.nanoseconds < 4
  · rw [if_pos (Nat.div_eq_of_lt hsmall)] at hjitter
    refine ⟨hdelay, ?_, ?_⟩
    · rw [base_pause, if_pos hsmall]
      exact Duration.eq_of_nanoseconds_eq hjitter
    · rw [base_pause, if_pos hsmall]
      apply Duration.eq_of_nanoseconds_eq
      omega
  · have hrange : b.current.nanoseconds / 4 ≠ 0 := by omega
    have hlt := Nat.mod_lt draw (Nat.pos_of_ne_zero hrange)
    rw [if_neg hrange] at hjitter
    refine ⟨hdelay, ?_, ?_⟩
    · rw [base_pause, if_neg hsmall, hjitter]
      exact hlt
    · rw [base_pause, if_neg hsmall]
      constructor
      · show b.current.nanoseconds ≤ (b.pause draw).delay.nanoseconds
        omega
      · omega

/-- Jitter is at most a quarter of the base. -/
theorem jitter_pause_le (b : Backoff) (draw : Nat) : (b.pause draw).jitter ≤ b.current.quarter := by
  show (b.pause draw).jitter.nanoseconds ≤ b.current.nanoseconds / 4
  rw [nanoseconds_jitter]
  by_cases hrange : b.current.nanoseconds / 4 = 0
  · rw [if_pos hrange]
    exact Nat.zero_le _
  · rw [if_neg hrange]
    exact Nat.le_of_lt (Nat.mod_lt draw (Nat.pos_of_ne_zero hrange))

/-- A wait whose base is at most the greatest wait is at most a quarter longer than that. -/
theorem delay_pause_le (draw : Nat) (h : b.current ≤ b.maxWait) :
    (b.pause draw).delay ≤ b.maxWait.saturatingAdd b.maxWait.quarter := by
  have hquarter : b.current.quarter ≤ b.maxWait.quarter := Nat.div_le_div_right h
  exact Duration.saturatingAdd_le h (Nat.le_trans (b.jitter_pause_le draw) hquarter)

/-! ## Many waits -/

theorem pauses?_eq (b : Backoff) (draws : List Nat) : b.pauses? draws = some (b.pauses draws) := by
  induction draws generalizing b with
  | nil => rfl
  | cons draw draws ih =>
      rw [pauses?, next?_eq]
      show (b.advance.pauses? draws).bind (fun pauses => some (b.pause draw :: pauses)) = _
      rw [ih b.advance]
      rfl

theorem length_pauses (b : Backoff) (draws : List Nat) :
    (b.pauses draws).length = draws.length := by
  induction draws generalizing b with
  | nil => rfl
  | cons draw draws ih => rw [pauses, List.length_cons, List.length_cons, ih]

theorem getElem?_pauses (b : Backoff) (draws : List Nat) (k : Nat) :
    (b.pauses draws)[k]? = draws[k]?.map (b.after k).pause := by
  induction draws generalizing b k with
  | nil => rfl
  | cons draw draws ih =>
      cases k with
      | zero => rfl
      | succ k => rw [pauses, List.getElem?_cons_succ, List.getElem?_cons_succ, ih, after_succ]

/-- Every base but the first is bounded by the greatest wait. -/
theorem after_succ_le_maxWait (b : Backoff) (k : Nat) : (b.after (k + 1)).current ≤ b.maxWait := by
  have hle := (b.after k).advance_le_maxWait
  rwa [maxWait_after, ← after_succ'] at hle

end Backoff

/-! ## The waits of a run -/

section

variable {σ τ ρ ε α : Type}

namespace Entry

/-- The number that was drawn. -/
def draw? : Entry τ ρ ε α → Option Nat
  | .drew _ n => some n
  | _ => none

/-- The wait that was asked for. -/
def pause? : Entry τ ρ ε α → Option Pause
  | .waited pause _ => some pause
  | _ => none

end Entry

/-- The numbers that are drawn in a transcript. -/
def draws (t : List (Entry τ ρ ε α)) : List Nat := t.filterMap Entry.draw?

/-- The waits of a transcript, also those that are cut short. -/
def waits (t : List (Entry τ ρ ε α)) : List Pause := t.filterMap Entry.pause?

/-- Nothing is drawn, and there is no wait. -/
def Unpaused (t : List (Entry τ ρ ε α)) : Prop := ∀ e ∈ t, e.draw? = none ∧ e.pause? = none

theorem Unpaused.draws_append {t u : List (Entry τ ρ ε α)} (h : Unpaused t) :
    draws (t ++ u) = draws u := by
  rw [draws, List.filterMap_append, List.filterMap_eq_nil_iff.2 fun e he => (h e he).1]
  rfl

theorem Unpaused.waits_append {t u : List (Entry τ ρ ε α)} (h : Unpaused t) :
    waits (t ++ u) = waits u := by
  rw [waits, List.filterMap_append, List.filterMap_eq_nil_iff.2 fun e he => (h e he).2]
  rfl

theorem unpaused_cons {e : Entry τ ρ ε α} {t : List (Entry τ ρ ε α)} :
    Unpaused (e :: t) ↔ (e.draw? = none ∧ e.pause? = none) ∧ Unpaused t :=
  List.forall_mem_cons

theorem unpaused_nil : Unpaused ([] : List (Entry τ ρ ε α)) := List.forall_mem_nil _

theorem unpaused_rollback [Reported ρ] (tx : τ) (reply : Reply ρ Unit) :
    Unpaused (rollback tx reply : List (Entry τ ρ ε α)) := by
  refine unpaused_cons.2 ⟨⟨rfl, rfl⟩, ?_⟩
  split
  · exact unpaused_cons.2 ⟨⟨rfl, rfl⟩, unpaused_nil⟩
  · exact unpaused_nil

theorem TransactionPass.unpaused [Reported ρ] [Reported ε] {convert : ρ → ε}
    {t : List (Entry τ ρ ε α)} {upshot : Upshot ε α} (h : TransactionPass convert t upshot) :
    Unpaused t := by
  cases h <;>
    simp only [unpaused_cons, unpaused_nil, unpaused_rollback, Entry.draw?, Entry.pause?, and_self]

theorem StatementPass.unpaused [Reported ρ] {statement : String} {t : List (Entry τ ρ ρ Unit)}
    {upshot : Upshot ρ Unit} (h : StatementPass statement t upshot) : Unpaused t := by
  cases h <;> simp only [unpaused_cons, unpaused_nil, Entry.draw?, Entry.pause?, and_self]

variable [Reported ε] {policy : Policy} {made : Nat} {backoff : Backoff} {upshot : Upshot ε α}
  {Pass : List (Entry τ ρ ε α) → Upshot ε α → Prop} {t : List (Entry τ ρ ε α)}
  {ending : Ending (RetryError ε) α}

/-- Behind the last attempt there is the next wait or none. -/
theorem Closes.waits_eq (h : Closes policy made backoff upshot t ending) :
    waits t = backoff.pauses (draws t) := by
  cases h with
  | crashed | failed | failedInVain | conflictInVain | exhausted | cutShort => rfl
  | succeeded =>
      rw [recovery]
      split <;> rfl

/-- An attempt after the other, the waits are those of the backoff. -/
theorem Course.waits_eq (hpass : ∀ front upshot, Pass front upshot → Unpaused front)
    (h : Course policy Pass made backoff t ending) : waits t = backoff.pauses (draws t) := by
  induction h with
  | full => rfl
  | last room pass closes =>
      have hfront := hpass _ _ pass
      show waits (_ ++ _) = Backoff.pauses _ (draws (_ ++ _))
      rw [hfront.waits_append, hfront.draws_append]
      exact closes.waits_eq
  | @again made backoff front rest e n ending room pass spare course ih =>
      have hfront := hpass _ _ pass
      show waits (_ ++ _) = Backoff.pauses _ (draws (_ ++ _))
      rw [hfront.waits_append, hfront.draws_append]
      show backoff.pause n :: waits rest = backoff.pauses (n :: draws rest)
      rw [ih, Backoff.pauses]

/-- A run waits as a fresh backoff does on the numbers that the run draws. No wait is more than a
quarter above the greatest one. -/
structure Paced (policy : Policy) (r : Run σ τ ρ ε α) : Prop where
  /-- The waits are those of a fresh backoff. -/
  waits : (Backoff.ofPolicy policy).pauses? (draws r.transcript) = some (waits r.transcript)
  /-- They are bounded. -/
  delay : ∀ pause ∈ Retry.waits r.transcript,
    pause.delay ≤ policy.maxWait.saturatingAdd policy.maxWait.quarter

theorem Backoff.Growing.delay_le {b : Backoff} (h : b.Growing) {ns : List Nat} :
    ∀ pause ∈ b.pauses ns, pause.delay ≤ b.maxWait.saturatingAdd b.maxWait.quarter := by
  intro pause hmem
  obtain ⟨k, hk⟩ := List.mem_iff_getElem?.1 hmem
  rw [Backoff.getElem?_pauses] at hk
  obtain ⟨n, -, rfl⟩ := Option.map_eq_some_iff.1 hk
  have hdelay := Backoff.delay_pause_le n (h.after k).le
  rwa [Backoff.maxWait_after] at hdelay

theorem Conduct.paced {cancelled : Bool} {r : Run σ τ ρ ε α}
    (hpass : ∀ front upshot, Pass front upshot → Unpaused front)
    (h : Conduct policy cancelled Pass r.transcript r.ending) : Paced policy r := by
  obtain ⟨ending, t, final⟩ := r
  cases h with
  | refused | unwanted => exact ⟨rfl, List.forall_mem_nil _⟩
  | attempted valid wanted course =>
      have hwaits := course.waits_eq hpass
      constructor
      · rw [Backoff.pauses?_eq, hwaits]
      · rw [hwaits]
        exact (Policy.growing valid).delay_le

/-- For every policy, valid or not, the next waits can be told. The first base is the first wait,
the others are at most the greatest wait, and jitter adds less than a quarter. Both kinds of calls
wait like this, and under a valid policy, the only one that lets them wait at all, no wait is more
than a quarter above the greatest. -/
theorem backoff_within_bounds [Reported ρ] (policy : Policy) :
    (policy.base 0 = policy.initialWait ∧ ∀ k, policy.base (k + 1) ≤ policy.maxWait) ∧
    (∀ ns, ∃ pauses, (Backoff.ofPolicy policy).pauses? ns = some pauses ∧
      pauses.length = ns.length ∧
      ∀ k pause, pauses[k]? = some pause → pause.base = policy.base k ∧ pause.Bounded) ∧
    (∀ (convert : ρ → ε) (cancelled : Bool) (s : Surroundings σ τ ρ ε α) (x : σ),
      Paced policy ((transaction policy convert cancelled).run s x)) ∧
    (∀ (cancelled : Bool) (text : String) (s : Surroundings σ τ ρ ρ Unit) (x : σ),
      Paced policy ((statement policy cancelled text).run s x)) := by
  refine ⟨⟨rfl, ?_⟩, ?_, ?_, ?_⟩
  · intro k
    exact (Backoff.ofPolicy policy).after_succ_le_maxWait k
  · intro ns
    refine ⟨_, Backoff.pauses?_eq _ ns, Backoff.length_pauses _ ns, ?_⟩
    intro k pause hpause
    rw [Backoff.getElem?_pauses] at hpause
    obtain ⟨n, -, rfl⟩ := Option.map_eq_some_iff.1 hpause
    exact ⟨rfl, Backoff.bounded_pause _ n⟩
  · intro convert cancelled s x
    exact (conduct_transaction policy convert cancelled s x).paced
      fun _ _ pass => pass.unpaused
  · intro cancelled text s x
    exact (conduct_statement policy cancelled text s x).paced fun _ _ pass => pass.unpaused

/-- The longest wait has no room for jitter, and a multiplier that is no number leads to the
greatest wait, here none. -/
example :
    let policy : Policy := { initialWait := .max, maxWait := .zero, multiplier := .nan }
    ((Backoff.ofPolicy policy).pauses [3, 5]).map Pause.delay = [.max, .zero] := by
  decide +kernel

end

end StoreClient.Retry
