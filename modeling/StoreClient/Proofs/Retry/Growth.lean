import StoreClient.Proofs.Duration.Seconds
import StoreClient.Retry.Backoff

/-!
# Growth of the waits

Under a policy that passes validation the waits before jitter never shrink: the multiplier is above
one, and the conversion to binary seconds and back loses less than the smallest of these multipliers
gains. With a whole multiplier and short waits nothing is lost at all, and the waits are those of
exact arithmetic.

## Main definitions

* `Policy.base` — the wait before jitter after a number of waits.
* `Backoff.Growing` — a backoff whose waits cannot shrink.
-/

namespace StoreClient

/-- A finite number that is not at most one is positive and above one. -/
theorem Binary64.exists_magnitude_of_not_le_one {x : Binary64} (hfinite : x.isFinite = true)
    (h : x.le (.ofNat 1) = false) : ∃ m, x = .finite false m ∧ one < m.units := by
  have hone : Short 1 := short_of_lt (by decide)
  cases x with
  | nan | infinite => simp [isFinite] at hfinite
  | finite negative m =>
      have hlt : (ofNat 1).lt (.finite negative m) = true := by
        rw [ofNat_eq hone] at h ⊢
        rw [lt_eq_not_le rfl rfl, h, Bool.not_false]
      rw [lt_eq_decide (place?_ofNat hone) (place?_finite negative m), decide_eq_true_eq] at hlt
      cases negative with
      | true =>
          rw [if_pos rfl] at hlt
          omega
      | false =>
          rw [if_neg Bool.false_ne_true, Nat.one_mul] at hlt
          exact ⟨m, rfl, Int.ofNat_lt.1 hlt⟩

namespace Retry

/-! ## One step -/

/-- A backoff whose waits cannot shrink. -/
structure Backoff.Growing (b : Backoff) : Prop where
  /-- The next wait is a wait. -/
  pos : 0 < b.current.nanoseconds
  /-- It is at most the greatest wait. -/
  le : b.current ≤ b.maxWait
  /-- The multiplier is above one. -/
  multiplier : ∃ m, b.multiplier = .finite false m ∧ Binary64.one < m.units

/-- The backoff of a policy that passes validation. -/
theorem Policy.growing {p : Policy} (valid : p.fault? = none) : (Backoff.ofPolicy p).Growing := by
  rw [fault?] at valid
  by_cases hzero : p.initialWait.isZero = true
  · rw [if_pos hzero] at valid
    contradiction
  rw [if_neg hzero] at valid
  by_cases hbelow : p.maxWait < p.initialWait
  · rw [if_pos hbelow] at valid
    contradiction
  rw [if_neg hbelow] at valid
  by_cases hmultiplier : (!p.multiplier.isFinite || p.multiplier.le (.ofNat 1)) = true
  · rw [if_pos hmultiplier] at valid
    contradiction
  rw [Bool.not_eq_true, Bool.or_eq_false_iff, Bool.not_eq_false'] at hmultiplier
  constructor
  · exact Nat.pos_of_ne_zero fun h => hzero (beq_iff_eq.2 h)
  · exact Nat.le_of_not_lt hbelow
  · exact Binary64.exists_magnitude_of_not_le_one hmultiplier.1 hmultiplier.2

namespace Backoff

variable {b : Backoff} {n m : Nat}

/-- The base after a wait is at most the greatest wait. -/
theorem advance_le_maxWait (b : Backoff) : b.advance.current ≤ b.maxWait := by
  show ((Duration.ofSeconds? (b.current.toSeconds * b.multiplier)).elim b.maxWait
    (min · b.maxWait)).nanoseconds ≤ b.maxWait.nanoseconds
  cases Duration.ofSeconds? (b.current.toSeconds * b.multiplier) with
  | none => exact Nat.le_refl _
  | some grown =>
      rw [Option.elim_some, Duration.nanoseconds_min]
      exact Nat.min_le_right _ _

/-- The base after a wait is not less than the one before it. -/
theorem Growing.le_advance (h : b.Growing) : b.current ≤ b.advance.current := by
  obtain ⟨m, hm, habove⟩ := h.multiplier
  show b.current.nanoseconds ≤ ((Duration.ofSeconds? (b.current.toSeconds * b.multiplier)).elim
    b.maxWait (min · b.maxWait)).nanoseconds
  cases hgrown : Duration.ofSeconds? (b.current.toSeconds * b.multiplier) with
  | none => exact h.le
  | some grown =>
      rw [hm] at hgrown
      have hle := Duration.le_of_ofSeconds?_mul h.pos habove hgrown
      rw [Option.elim_some, Duration.nanoseconds_min]
      exact Nat.le_min.2 ⟨hle, h.le⟩

theorem Growing.advance (h : b.Growing) : b.advance.Growing where
  pos := Nat.lt_of_lt_of_le h.pos h.le_advance
  le := by
    rw [maxWait_advance]
    exact b.advance_le_maxWait
  multiplier := by
    rw [multiplier_advance]
    exact h.multiplier

/-- With a whole multiplier and short waits the base is multiplied exactly. -/
theorem Growing.advance_eq (h : b.Growing) (hm : 0 < m) (hmultiplier : b.multiplier = .ofNat m)
    (hshort : m * b.maxWait.nanoseconds ≤ 2 ^ 20 * 10 ^ 9) :
    b.advance.current.nanoseconds = min (m * b.current.nanoseconds) b.maxWait.nanoseconds := by
  have hproduct : m * b.current.nanoseconds ≤ 2 ^ 20 * 10 ^ 9 :=
    Nat.le_trans (Nat.mul_le_mul_left m h.le) hshort
  have hlimit : m * b.current.nanoseconds < 2 ^ 64 * 10 ^ 9 :=
    Nat.lt_of_le_of_lt hproduct (by decide)
  have hgrown : Duration.ofSeconds? (b.current.toSeconds * b.multiplier) = some ⟨_, hlimit⟩ := by
    rw [hmultiplier]
    exact (Duration.ofSeconds?_mul_ofNat hm h.pos hproduct).trans (dif_pos hlimit)
  rw [Backoff.advance, hgrown]
  exact Duration.nanoseconds_min _ _

/-! ## Many steps -/

theorem after_zero (b : Backoff) : b.after 0 = b := rfl

-- sealed, since to compare the two backoffs would be to evaluate large powers
attribute [local irreducible] advance in
theorem after_succ (b : Backoff) (n : Nat) : b.after (n + 1) = b.advance.after n := rfl

theorem after_succ' (b : Backoff) (n : Nat) : b.after (n + 1) = (b.after n).advance := by
  induction n generalizing b with
  | zero => rw [after_succ, after_zero, after_zero]
  | succ n ih => rw [after_succ, ih b.advance, ← after_succ]

@[simp] theorem maxWait_after (b : Backoff) (n : Nat) : (b.after n).maxWait = b.maxWait := by
  induction n with
  | zero => rfl
  | succ n ih => rw [after_succ', maxWait_advance, ih]

@[simp] theorem multiplier_after (b : Backoff) (n : Nat) :
    (b.after n).multiplier = b.multiplier := by
  induction n with
  | zero => rfl
  | succ n ih => rw [after_succ', multiplier_advance, ih]

theorem Growing.after (h : b.Growing) (n : Nat) : (b.after n).Growing := by
  induction n with
  | zero => exact h
  | succ n ih =>
      rw [after_succ']
      exact ih.advance

theorem Growing.after_le_after (h : b.Growing) {j k : Nat} (hjk : j ≤ k) :
    (b.after j).current ≤ (b.after k).current := by
  induction hjk with
  | refl => exact Nat.le_refl _
  | step _ ih =>
      rw [after_succ']
      exact Nat.le_trans ih (h.after _).le_advance

end Backoff

/-! ## The waits of a policy -/

/-- The wait before jitter after `k` waits. -/
def Policy.base (p : Policy) (k : Nat) : Duration := ((Backoff.ofPolicy p).after k).current

/-- Before jitter the waits of a valid policy start with the first wait, are positive and do not
shrink, and once they reach the greatest wait they stay there. -/
theorem base_monotone (p : Policy) (valid : p.fault? = none) :
    p.base 0 = p.initialWait ∧ ∀ j k, j ≤ k →
      0 < (p.base j).nanoseconds ∧ p.base j ≤ p.base k ∧
      (p.base j = p.maxWait → p.base k = p.maxWait) := by
  have hgrowing := Policy.growing valid
  refine ⟨rfl, ?_⟩
  intro j k hjk
  have hle : p.base j ≤ p.base k := hgrowing.after_le_after hjk
  refine ⟨(hgrowing.after j).pos, hle, ?_⟩
  intro hfull
  have hmost : p.base k ≤ p.maxWait := by
    have hbound := (hgrowing.after k).le
    rwa [Backoff.maxWait_after] at hbound
  rw [hfull] at hle
  exact Duration.eq_of_nanoseconds_eq (Nat.le_antisymm hmost hle)

/-- The least multiplier still makes a wait grow that has more seconds than 53 bits can tell. -/
theorem base_monotone_of_least_multiplier :
    let p : Policy := { initialWait := .ofSeconds 0x1000000000000001, maxWait := .max,
                        multiplier := .ofRatio false (2 ^ 52 + 1) (2 ^ 52) }
    p.fault? = none ∧ 0 < (p.base 1).nanoseconds ∧ p.base 1 ≤ p.base 2 := by
  intro p
  have valid : p.fault? = none := by decide +kernel
  obtain ⟨-, hgrow⟩ := base_monotone p valid
  obtain ⟨hpos, hle, -⟩ := hgrow 1 2 (by decide)
  exact ⟨valid, hpos, hle⟩

/-- With a whole multiplier, and as long as the greatest wait times the multiplier is at most
`2 ^ 20` seconds, the waits before jitter are those of exact arithmetic. -/
theorem base_eq_geometric (p : Policy) (valid : p.fault? = none) (m : Nat) (hm : 2 ≤ m)
    (hmultiplier : p.multiplier = .ofNat m)
    (hshort : m * p.maxWait.nanoseconds ≤ 2 ^ 20 * 10 ^ 9) (k : Nat) :
    (p.base k).nanoseconds = min (p.initialWait.nanoseconds * m ^ k) p.maxWait.nanoseconds := by
  have hgrowing := Policy.growing valid
  have hpos : 0 < m := Nat.lt_of_lt_of_le (by decide) hm
  induction k with
  | zero =>
      rw [Nat.pow_zero, Nat.mul_one]
      exact (Nat.min_eq_left hgrowing.le).symm
  | succ k ih =>
      have hstep : (p.base (k + 1)).nanoseconds =
          min (m * (p.base k).nanoseconds) p.maxWait.nanoseconds := by
        have hadvance := (hgrowing.after k).advance_eq hpos
          (by rw [Backoff.multiplier_after]; exact hmultiplier)
          (by rw [Backoff.maxWait_after]; exact hshort)
        rwa [← Backoff.after_succ', Backoff.maxWait_after] at hadvance
      -- the cap of the wait before does not show, since the multiple of it is beyond the cap
      have hcap : min (m * p.maxWait.nanoseconds) p.maxWait.nanoseconds = p.maxWait.nanoseconds :=
        Nat.min_eq_right (Nat.le_mul_of_pos_left _ hpos)
      rw [hstep, ih, ← Nat.mul_min_mul_left, Nat.min_assoc, hcap, Nat.pow_succ,
        Nat.mul_left_comm, Nat.mul_comm m]

/-- By default the wait is doubled, from a tenth of a second to five. -/
theorem base_eq_geometric_of_default :
    let p : Policy := {}
    p.fault? = none ∧ p.multiplier = .ofNat 2 ∧ 2 * p.maxWait.nanoseconds ≤ 2 ^ 20 * 10 ^ 9 ∧
      ∀ k, (p.base k).nanoseconds = min (100 * 10 ^ 6 * 2 ^ k) (5 * 10 ^ 9) := by
  intro p
  have valid : p.fault? = none := by decide +kernel
  have hshort : 2 * p.maxWait.nanoseconds ≤ 2 ^ 20 * 10 ^ 9 := by decide
  have hmultiplier : p.multiplier = .ofNat 2 := by decide +kernel
  have hgrow := base_eq_geometric p valid 2 (Nat.le_refl 2) hmultiplier hshort
  have hfirst : p.initialWait.nanoseconds = 100 * 10 ^ 6 := by decide
  have hgreatest : p.maxWait.nanoseconds = 5 * 10 ^ 9 := by decide
  rw [hfirst, hgreatest] at hgrow
  exact ⟨valid, hmultiplier, hshort, hgrow⟩

end Retry

end StoreClient
