import StoreClient.Proofs.Credentials.Lifetimes
import StoreClient.Proofs.Duration.Parts

/-!
# Staleness

A record is stale from some window before its end on. The window is the lifetime times the refresh
buffer, computed in floating-point numbers and rounded to nanoseconds, but all of this keeps the
order: a record that is stale stays stale, and is stale under every greater buffer. With the default
buffer the window is exactly a fifth of the lifetime, to the nearest nanosecond.

## Main definitions

* `Record.share` — the part of a lifetime that a refresh buffer stands for, in units.
* `Record.Graded` — how staleness depends on the time and on the refresh buffer.
-/

namespace StoreClient.Credentials.Record

open Binary64

/-! ## Shares -/

section

variable {buffer wider : Binary64} {p : Int}

/-- The part of a lifetime that a refresh buffer stands for, in units. -/
def share (buffer : Binary64) : Nat := (fraction buffer).size

theorem share_le_one (buffer : Binary64) : share buffer ≤ one := by
  obtain ⟨negative, m, hm, hle, -⟩ := upTo_fraction buffer
  rwa [share, hm, size_finite, ← Nat.one_mul one]

theorem fraction_default : fraction defaultRefreshBuffer = defaultRefreshBuffer := by
  decide +kernel

theorem fraction_nan : fraction .nan = defaultRefreshBuffer := if_pos rfl

theorem share_nan : share .nan = share defaultRefreshBuffer := by
  rw [share, share, fraction_default, fraction_nan]

theorem share_eq (hp : buffer.place? = some p) : share buffer = (min p one).toNat := by
  have hnumber : buffer.isNaN = false := by
    cases buffer with
    | nan => exact absurd hp (by simp)
    | infinite | finite => rfl
  rw [share, fraction, hnumber]
  exact size_clamp hp

theorem exists_place_of_le (h : buffer.le wider = true) :
    ∃ p q, buffer.place? = some p ∧ wider.place? = some q ∧ p ≤ q := by
  rw [Binary64.le] at h
  split at h
  next p q hp hq => exact ⟨p, q, hp, hq, of_decide_eq_true h⟩
  next => contradiction

theorem share_mono (h : buffer.le wider = true) : share buffer ≤ share wider := by
  obtain ⟨p, q, hp, hq, hle⟩ := exists_place_of_le h
  rw [share_eq hp, share_eq hq]
  omega

theorem share_of_le_zero (h : buffer.le (.zero false) = true) : share buffer = 0 := by
  obtain ⟨p, q, hp, hq, hle⟩ := exists_place_of_le h
  obtain rfl := Option.some.inj ((place?_zero false).symm.trans hq)
  rw [share_eq hp]
  omega

theorem share_of_one_le (h : (Binary64.ofNat 1).le buffer = true) : share buffer = one := by
  obtain ⟨p, q, hp, hq, hle⟩ := exists_place_of_le h
  obtain rfl := Option.some.inj ((place?_ofNat short_one).symm.trans hp)
  rw [Nat.one_mul] at hle
  rw [share_eq hq]
  omega

theorem share_default : share defaultRefreshBuffer = roundUnits (1 * one) 5 := by
  decide +kernel

theorem share_default_of {buffer : Binary64}
    (h : buffer = defaultRefreshBuffer ∨ buffer = .nan) :
    share buffer = roundUnits (1 * one) 5 := by
  rcases h with h | h
  · rw [h, share_default]
  · rw [h, share_nan, share_default]

end

/-! ## The point of refresh -/

variable {r : Record} {token : String} {since now : Instant} {lifetime window : Duration}
  {buffer : Binary64}

theorem expiresAt_eq (r : Record) (hpos : 0 < r.lifetime.nanoseconds) :
    r.expiresAt.nanoseconds = r.issuedAt.nanoseconds + r.lifetime.nanoseconds := by
  have hsince : r.lifetime.nanoseconds =
      (r.expiresAt.nanoseconds - r.issuedAt.nanoseconds).toNat := rfl
  omega

/-- A record of up to `2 ^ 62` seconds that ends behind the origin of the clock is stale from a part
of its lifetime before its end on. -/
theorem isStale_eq_part (hlifetime : r.lifetime.nanoseconds ≤ 2 ^ 62 * 10 ^ 9)
    (hexpires : 0 ≤ r.expiresAt.nanoseconds) (now : Instant) (buffer : Binary64) :
    r.isStale now buffer = .ok (decide
      (r.expiresAt.nanoseconds ≤ now.nanoseconds + r.lifetime.part (share buffer))) := by
  obtain ⟨window, hwindow, hpart, hle⟩ := Duration.exists_scale? hlifetime (upTo_fraction buffer)
  rw [isStale_eq hwindow (by omega), hpart, share]

/-- How the staleness of a record depends on the time and on the refresh buffer. -/
structure Graded (r : Record) : Prop where
  /-- It can be told of every instant and every buffer. -/
  told : ∀ now buffer, ∃ stale, r.isStale now buffer = .ok stale
  /-- What is stale stays stale. -/
  later : ∀ now later buffer, now ≤ later → r.isStale now buffer = .ok true →
    r.isStale later buffer = .ok true
  /-- What is stale under a buffer is stale under every greater one. -/
  wider : ∀ now buffer wider, buffer.le wider = true → r.isStale now buffer = .ok true →
    r.isStale now wider = .ok true
  /-- What is expired is stale. -/
  expired : ∀ now buffer, r.isExpired now = true → r.isStale now buffer = .ok true
  /-- Not-a-number stands for the default buffer. -/
  unset : ∀ now, r.isStale now .nan = r.isStale now defaultRefreshBuffer
  /-- Without a buffer only what is expired is stale. -/
  unbuffered : ∀ now buffer, buffer.le (.zero false) = true →
    r.isStale now buffer = .ok (r.isExpired now)
  /-- A buffer that takes all makes a record of up to `2 ^ 20` seconds stale from its issue on. -/
  whole : ∀ now buffer, (Binary64.ofNat 1).le buffer = true →
    r.lifetime.nanoseconds ≤ 2 ^ 20 * 10 ^ 9 →
    r.isStale now buffer = .ok (decide (r.issuedAt ≤ now))

/-- A record of up to `2 ^ 62` seconds that was issued behind the origin of the clock is graded. -/
theorem graded (hpos : 0 < r.lifetime.nanoseconds)
    (hlifetime : r.lifetime.nanoseconds ≤ 2 ^ 62 * 10 ^ 9)
    (hissued : 0 ≤ r.issuedAt.nanoseconds) : r.Graded := by
  have hend := r.expiresAt_eq hpos
  have hstale := r.isStale_eq_part hlifetime (by omega)
  have hle {now later : Instant} (h : now ≤ later) : now.nanoseconds ≤ later.nanoseconds := h
  refine ⟨fun now buffer => ⟨_, hstale now buffer⟩, ?_, ?_, ?_, ?_, ?_, ?_⟩
  · intro now later buffer h stale
    exact isStale_of_le stale (hle h)
  · intro now buffer wider h stale
    have hpart := r.lifetime.part_mono (share_mono h)
    rw [hstale] at stale ⊢
    have hreached := of_decide_eq_true (Except.ok.inj stale)
    exact congrArg _ (decide_eq_true (by omega))
  · intro now buffer expired
    have hexpired := hle (of_decide_eq_true expired)
    rw [hstale]
    exact congrArg _ (decide_eq_true (by omega))
  · intro now
    rw [hstale, hstale, share_nan]
  · intro now buffer h
    rw [hstale, share_of_le_zero h, Duration.part_zero]
    refine congrArg _ (decide_eq_decide.2 ?_)
    show _ ↔ r.expiresAt.nanoseconds ≤ now.nanoseconds
    omega
  · intro now buffer h hmost
    rw [hstale, share_of_one_le h, Duration.part_one hpos hmost]
    refine congrArg _ (decide_eq_decide.2 ?_)
    show _ ↔ r.issuedAt.nanoseconds ≤ now.nanoseconds
    omega

theorem nanoseconds_leastLifetime : leastLifetime.nanoseconds = 10 ^ 6 := by decide

/-- **Staleness is graded.** A token of up to `2 ^ 62` seconds that is issued at the origin of the
clock or up to `2 ^ 61` seconds after it has a record, and the record is graded. -/
theorem graded_of_issue (token : String) (since : Instant) (lifetime : Duration)
    (hsince : 0 ≤ since.nanoseconds) (hlatest : since.nanoseconds ≤ 2 ^ 61 * 10 ^ 9)
    (hlifetime : lifetime.nanoseconds ≤ 2 ^ 62 * 10 ^ 9) :
    ∃ r, Record.issue token since lifetime = .ok r ∧ r.Graded := by
  have hmax := Duration.nanoseconds_max lifetime leastLifetime
  rw [nanoseconds_leastLifetime] at hmax
  have hwithin : ¬ (max lifetime leastLifetime).Outlasts since := by
    rw [Duration.Outlasts]
    omega
  obtain ⟨r, issue⟩ := exists_issue token hwithin
  have hlength := lifetime_of_issue issue
  have hissued := (fields_of_issue issue).2.1
  exact ⟨r, issue, graded (by omega) (by omega) (hissued ▸ hsince)⟩

/-- The record of a token of a day is graded, so it is stale under every buffer once its time is
over. -/
theorem graded_for_a_day :
    ∃ r, Record.issue "token" .origin (.ofSeconds 86400) = .ok r ∧ r.Graded ∧
      r.isStale ⟨86400 * 10 ^ 9, by decide, by decide⟩ (.infinite true) = .ok true := by
  obtain ⟨r, issue, hgraded⟩ :=
    graded_of_issue "token" .origin (.ofSeconds 86400) (by decide) (by decide) (by decide)
  have hexpires := (fields_of_issue issue).2.2
  refine ⟨r, issue, hgraded, hgraded.expired _ _ (decide_eq_true ?_)⟩
  show r.expiresAt.nanoseconds ≤ 86400 * 10 ^ 9
  rw [hexpires]
  decide

/-! ## The default buffer -/

/-- **A fifth.** Under the default buffer, or not-a-number in its place, the window of a record of
a millisecond up to `2 ^ 20` seconds is the fifth part of its lifetime, rounded to the nearest
nanosecond. So the record is stale from four fifths of the lifetime on. -/
theorem isStale_default (r : Record) (now : Instant) (t : Nat) (buffer : Binary64)
    (hleast : 10 ^ 6 ≤ r.lifetime.nanoseconds)
    (hmost : r.lifetime.nanoseconds ≤ 2 ^ 20 * 10 ^ 9)
    (hnow : now.nanoseconds = r.issuedAt.nanoseconds + t)
    (hbuffer : buffer = defaultRefreshBuffer ∨ buffer = .nan) :
    (∃ window, r.refreshWindow buffer = .ok window ∧
      window.nanoseconds = (r.lifetime.nanoseconds + 2) / 5) ∧
    (∃ stale, r.isStale now buffer = .ok stale ∧
      (stale = true ↔ r.lifetime.nanoseconds - (r.lifetime.nanoseconds + 2) / 5 ≤ t) ∧
      (5 ∣ r.lifetime.nanoseconds → (stale = true ↔ 4 * r.lifetime.nanoseconds ≤ 5 * t))) := by
  obtain ⟨window, hwindow, hpart, -⟩ :=
    Duration.exists_scale? (d := r.lifetime) (by omega) (upTo_fraction buffer)
  have hfifth : window.nanoseconds = (r.lifetime.nanoseconds + 2) / 5 := by
    rw [← Duration.part_fifth (by omega) hmost, ← share_default_of hbuffer]
    exact hpart
  have hend := r.expiresAt_eq (by omega)
  have hissued := r.issuedAt.le_nanoseconds
  refine ⟨⟨window, ?_, hfifth⟩, _, isStale_eq hwindow (by omega) now, ?_, ?_⟩
  · rw [refreshWindow, hwindow]
  · rw [decide_eq_true_eq]
    omega
  · intro hdvd
    rw [decide_eq_true_eq]
    omega

/-- A token of fifteen minutes is stale from twelve minutes on and not before. -/
theorem isStale_after_twelve_minutes :
    let r : Record := ⟨"token", .origin, ⟨900 * 10 ^ 9, by decide, by decide⟩⟩
    r.isStale ⟨720 * 10 ^ 9 - 1, by decide, by decide⟩ defaultRefreshBuffer = .ok false ∧
      r.isStale ⟨720 * 10 ^ 9, by decide, by decide⟩ .nan = .ok true := by
  intro r
  have hlifetime : r.lifetime.nanoseconds = 900 * 10 ^ 9 := by decide
  obtain ⟨-, before, hbefore, hfresh, -⟩ :=
    r.isStale_default ⟨720 * 10 ^ 9 - 1, by decide, by decide⟩ (720 * 10 ^ 9 - 1)
      defaultRefreshBuffer (by decide) (by decide) (by decide) (.inl rfl)
  obtain ⟨-, after, hafter, hstale, -⟩ :=
    r.isStale_default ⟨720 * 10 ^ 9, by decide, by decide⟩ (720 * 10 ^ 9) .nan (by decide)
      (by decide) (by decide) (.inr rfl)
  rw [hlifetime] at hfresh hstale
  constructor
  · cases before with
    | false => exact hbefore
    | true => exact absurd (hfresh.1 rfl) (by decide)
  · rw [hafter, hstale.2 (by decide)]

end StoreClient.Credentials.Record
