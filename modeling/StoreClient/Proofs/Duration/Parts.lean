import StoreClient.Proofs.Binary64.Accuracy
import StoreClient.Proofs.Duration.Seconds

/-!
# Parts of a duration

A duration times a number between zero and one is rounded on the way to binary seconds, at the
product and on the way back to nanoseconds. Every one of these steps keeps the order, so a greater
part is not shorter. And together they move the exact product by less than 386 parts in `2 ^ 60`
before the last step, so that up to `2 ^ 20` seconds the whole is the whole and a fifth is the fifth
rounded to the nearest nanosecond.

## Main definitions

* `Duration.part` — the nanoseconds of a part of a duration.
-/

namespace StoreClient.Duration

open Binary64

variable {d : Duration} {x : Binary64} {u v : Nat}

/-- The nanoseconds of a part of a duration. The part is given in units, the whole being `1`. -/
def part (d : Duration) (u : Nat) : Nat :=
  roundHalfEven (roundUnits (u * d.units) one * perSecond) one

/-! ## Order -/

theorem part_mono (d : Duration) (h : u ≤ v) : d.part u ≤ d.part v := by
  refine roundHalfEven_mono (Nat.mul_le_mul_right _ ?_) _
  exact roundUnits_mono units_one_pos (Nat.mul_le_mul_right _ h)

theorem part_zero (d : Duration) : d.part 0 = 0 := by
  have hnone : roundHalfEven 0 one ≤ 0 := roundHalfEven_le_of_le (Nat.zero_le _)
  rw [part, Nat.zero_mul, roundUnits_zero, Nat.zero_mul]
  exact Nat.le_zero.1 hnone

/-- A number of seconds with a finite number of units. -/
theorem nanoseconds_of_ofSeconds? {negative : Bool} {n k : Nat} {w : Duration}
    (h : ofSeconds? (ofUnits negative n k) = some w) :
    w.nanoseconds = roundHalfEven (roundUnits n k * perSecond) one := by
  by_cases hfinite : roundUnits n k < limit
  · rw [ofUnits_eq hfinite, ofSeconds?] at h
    split at h
    · cases h
    · exact ofNanoseconds?_eq_some h
  · rw [ofUnits, dif_neg hfinite, ofSeconds?] at h
    cases h

/-- Up to `2 ^ 62` seconds, a part of a duration is a duration. -/
theorem exists_scale? (hd : d.nanoseconds ≤ 2 ^ 62 * 10 ^ 9) (hx : x.UpTo 1) :
    ∃ w, d.scale? x = some w ∧ w.nanoseconds = d.part x.size ∧
      w.nanoseconds ≤ 2 ^ 63 * 10 ^ 9 := by
  have hseconds : d.seconds ≤ 1 * 2 ^ 62 := by
    simp only [seconds, perSecond]
    omega
  have hshort : Short (1 * 2 ^ 63) := short_mul_two_pow (by decide) (by decide)
  have hlength : d.toSeconds.UpTo (1 * 2 ^ 63) :=
    toSeconds_upTo hseconds (short_mul_two_pow (by decide) (by decide)) hshort (by decide)
  obtain ⟨w, hw, hle⟩ :=
    ofSeconds?_of_upTo (hx.mul hlength hshort (Nat.le_of_eq (Nat.one_mul _))) (by decide)
  rw [Nat.one_mul] at hle
  refine ⟨w, hw, ?_, hle⟩
  obtain ⟨m, hm, hunits⟩ := d.exists_toSeconds
  obtain ⟨negative, l, rfl, -, -⟩ := hx
  have hproduct : Binary64.finite negative l * .finite false m =
      ofUnits (negative != false) (l.units * m.units) one := by
    show Binary64.mul _ _ = _
    rw [Binary64.mul]
  rw [hm, hproduct] at hw
  rw [nanoseconds_of_ofSeconds? hw, hunits]
  rfl

/-! ## Accuracy -/

/-- A nanosecond has more than 60 bits of units. -/
theorem two_pow_sixty_le_units (hd : 0 < d.nanoseconds) : 2 ^ 60 ≤ d.units := by
  have hnarrow : Narrow (1 * 2 ^ 60) := narrow_mul_two_pow (by decide) 60
  rw [Nat.one_mul] at hnarrow
  exact le_units hnarrow (Nat.le_trans (le_one_of_le (by decide)) (Nat.le_mul_of_pos_left one hd))

/-- The units of a duration are its length but for 257 parts. -/
theorem within_units (hd : 0 < d.nanoseconds) :
    Within 257 (perSecond * d.units) (d.nanoseconds * one) := by
  have hwhole := within_ratio Nat.one_pos (le_one_of_le (by decide)) d.seconds
  have hrest := within_ratio perSecond_pos (le_one_of_le (by decide)) (d.nanoseconds % perSecond)
  rw [Nat.one_mul] at hwhole
  have hsum := (hwhole.mul_left perSecond).add hrest
  rw [← nanoseconds_mul_one, ← Nat.mul_add] at hsum
  have hlarge := two_pow_sixty_le_units hd
  rw [units] at hlarge ⊢
  generalize roundUnits (d.seconds * one) 1 +
    roundUnits (d.nanoseconds % perSecond * one) perSecond = n at hsum hlarge ⊢
  have hbits : 1 * 2 ^ 52 ≤ n := by
    rcases Nat.lt_or_ge n (2 ^ 52) with hlt | hge
    · -- so small a number would be itself
      have hnarrow : Narrow (n * 2 ^ 0) := narrow_mul_two_pow (by omega) 0
      rw [Nat.pow_zero, Nat.mul_one] at hnarrow
      rw [hnarrow.roundUnits_eq] at hlarge
      omega
    · omega
  have hround := within_roundUnits Nat.one_pos hbits
  rw [Nat.one_mul] at hround
  exact (hround.mul_left perSecond).trans hsum (by decide)

/-- Before the last rounding, a part that is not too small is exact but for 386 parts. -/
theorem within_product (hd : 0 < d.nanoseconds) (hu : one ≤ 2 ^ 8 * u) :
    Within 386 (perSecond * roundUnits (u * d.units) one) (u * d.nanoseconds) := by
  have hbits : one * 2 ^ 52 ≤ u * d.units := by
    calc one * 2 ^ 52 ≤ 2 ^ 8 * u * 2 ^ 52 := Nat.mul_le_mul_right _ hu
      _ = u * 2 ^ 60 := by rw [Nat.mul_comm (2 ^ 8), Nat.mul_assoc, ← Nat.pow_add]
      _ ≤ u * d.units := Nat.mul_le_mul_left u (two_pow_sixty_le_units hd)
  have hround := (within_roundUnits units_one_pos hbits).mul_left perSecond
  have hlength := (within_units hd).mul_left u
  rw [Nat.mul_left_comm] at hlength
  have hproduct := hround.trans hlength (by decide)
  rw [Nat.mul_left_comm perSecond one, ← Nat.mul_assoc u, Nat.mul_comm (u * d.nanoseconds)]
    at hproduct
  exact hproduct.of_mul_left units_one_pos

/-! ## Wholes, fifths and less -/

/-- Up to `2 ^ 20` seconds the whole of a duration is exact. -/
theorem part_one (hd : 0 < d.nanoseconds) (hmost : d.nanoseconds ≤ 2 ^ 20 * 10 ^ 9) :
    d.part one = d.nanoseconds := by
  have hseconds : d.seconds < 2 ^ 53 := Nat.lt_of_le_of_lt (Nat.div_le_self _ _) (by omega)
  have hsame : roundUnits (one * d.units) one = d.units := by
    have hscale := roundUnits_mul units_one_pos d.units 1
    rwa [Nat.one_mul, Nat.mul_comm, d.narrow_units.roundUnits_eq] at hscale
  have hclose := close_units hseconds hd
  rw [part, hsame]
  exact roundHalfEven_of_close hmost hclose ⟨Nat.le_add_right _ _, Nat.le_add_right _ _⟩

theorem mul_fifth_near (n k : Nat) :
    5 * (k * ((n + 2) / 5)) ≤ n * k + 2 * k ∧ n * k ≤ 5 * (k * ((n + 2) / 5)) + 2 * k := by
  have hle : 5 * ((n + 2) / 5) ≤ n + 2 := Nat.mul_div_le _ 5
  have hge : n ≤ 5 * ((n + 2) / 5) + 2 := by omega
  have hle := Nat.mul_le_mul_left k hle
  have hge := Nat.mul_le_mul_left k hge
  rw [Nat.mul_left_comm, Nat.mul_add, Nat.mul_comm k 2, Nat.mul_comm k n] at hle
  rw [Nat.mul_add, Nat.mul_left_comm, Nat.mul_comm k 2, Nat.mul_comm k n] at hge
  exact ⟨hle, hge⟩

/-- Up to `2 ^ 20` seconds a fifth of a duration is the fifth of its length, rounded to the nearest
nanosecond. The errors stay below a tenth of a nanosecond, the least distance of a fifth from the
middle between two nanoseconds. -/
theorem part_fifth (hd : 0 < d.nanoseconds) (hmost : d.nanoseconds ≤ 2 ^ 20 * 10 ^ 9) :
    d.part (roundUnits (1 * one) 5) = (d.nanoseconds + 2) / 5 := by
  have hfifth := within_ratio (d := 5) (by decide) (le_one_of_le (by decide)) 1
  rw [Nat.one_mul] at hfifth ⊢
  have hlarge : one ≤ 2 ^ 8 * roundUnits one 5 := by
    have hge := hfifth.ge
    omega
  have hproduct := (within_product hd hlarge).mul_left 5
  rw [← Nat.mul_assoc 5 (roundUnits one 5), Nat.mul_comm _ d.nanoseconds] at hproduct
  have hlength := hproduct.trans (hfifth.mul_left d.nanoseconds) (by decide)
  rw [part]
  generalize roundUnits (roundUnits one 5 * d.units) one = r at hlength ⊢
  have hle := hlength.le
  have hge := hlength.ge
  have hbound := Nat.mul_le_mul_right one hmost
  obtain ⟨hnear, hnear'⟩ := mul_fifth_near d.nanoseconds one
  have hpos := units_one_pos
  refine roundHalfEven_eq ?_ ?_
  all_goals
    rw [Nat.mul_comm r]
    generalize perSecond * r = p at *
    generalize one * ((d.nanoseconds + 2) / 5) = q at *
    generalize one = w at *
    generalize d.nanoseconds * w = t at *
    omega

/-- A part that is not too small is shorter than the whole if it leaves out a nanosecond and more
than rounding can add. -/
theorem part_lt_of_large (hd : 0 < d.nanoseconds) (hlarge : one ≤ 2 ^ 8 * u) (hu : u ≤ one)
    (hspare : one ≤ (one - u) * d.nanoseconds) (hshare : one ≤ 2 ^ 50 * (one - u)) :
    d.part u < d.nanoseconds := by
  have hproduct := (within_product hd hlarge).le
  have hsplit : u * d.nanoseconds + (one - u) * d.nanoseconds = one * d.nanoseconds := by
    rw [← Nat.add_mul, Nat.add_sub_cancel' hu]
  have hshare := Nat.mul_le_mul_right d.nanoseconds hshare
  rw [Nat.mul_assoc] at hshare
  have hwhole : 0 < one * d.nanoseconds := Nat.mul_pos units_one_pos hd
  have hbefore : one * (2 * (d.nanoseconds - 1) + 1) + one = 2 * (one * d.nanoseconds) := by
    rw [← Nat.mul_add_one, Nat.mul_left_comm]
    congr 1
    omega
  have hround : d.part u ≤ d.nanoseconds - 1 := by
    refine roundHalfEven_le_of_lt units_one_pos ?_
    rw [Nat.mul_comm (roundUnits _ _)]
    generalize perSecond * roundUnits (u * d.units) one = p at hproduct ⊢
    generalize one * (2 * (d.nanoseconds - 1) + 1) = q at *
    generalize (one - u) * d.nanoseconds = s at *
    generalize u * d.nanoseconds = t at *
    generalize one * d.nanoseconds = w at *
    omega
  omega

/-- A part is shorter than the whole if it leaves out a nanosecond and more than rounding can
add. -/
theorem part_lt (hd : 2 ≤ d.nanoseconds) (hu : u ≤ one)
    (hspare : one ≤ (one - u) * d.nanoseconds) (hshare : one ≤ 2 ^ 50 * (one - u)) :
    d.part u < d.nanoseconds := by
  by_cases hlarge : one ≤ 2 ^ 8 * u
  · exact part_lt_of_large (by omega) hlarge hu hspare hshare
  · -- a half is more
    have hone : 2 ≤ one := le_one_of_le (by decide)
    refine Nat.lt_of_le_of_lt (d.part_mono (v := one / 2) (by omega)) ?_
    refine part_lt_of_large (by omega) (by omega) (Nat.div_le_self _ _) ?_ (by omega)
    calc one ≤ (one - one / 2) * 2 := by omega
      _ ≤ (one - one / 2) * d.nanoseconds := Nat.mul_le_mul_left _ hd

end StoreClient.Duration
