import StoreClient.Proofs.Binary64.Neighbours

/-!
# Durations in binary seconds

The conversion of a duration to seconds rounds three times: the whole seconds, the rest, and their
sum. It is still beside the exact length, because what a number of 53 bits has beyond whole seconds
is a number of 53 bits again. So a duration that is multiplied by a factor above one and converted
back does not shrink, and a small multiple is exact to the nanosecond.

## Main definitions

* `Duration.units` — the units of a duration in seconds.
-/

namespace StoreClient

namespace Binary64

variable {n m d k : Nat} {negative : Bool}

theorem ofUnits_eq (h : roundUnits n d < limit) :
    ofUnits negative n d = .finite negative ⟨roundUnits n d, h, narrow_roundUnits n d⟩ :=
  dif_pos h

theorem roundUnits_lt_limit (hk : Short k) (h : n ≤ d * (k * one)) : roundUnits n d < limit := by
  have hle : roundUnits n d ≤ k * one := Narrow.roundUnits_le hk.2 h
  exact Nat.lt_of_le_of_lt hle hk.1

/-- The number nearest to a natural number, if it is finite. -/
theorem ofNat_eq_finite (h : roundUnits (n * one) 1 < limit) :
    ofNat n = .finite false ⟨_, h, narrow_roundUnits _ _⟩ := by
  rw [ofNat, ofRatio, ofUnits_eq h]

theorem finite_mul_finite (m l : Magnitude) :
    Binary64.finite false m * .finite false l = ofUnits false (m.units * l.units) one := by
  show Binary64.mul _ _ = _
  rw [Binary64.mul, bne_self_eq_false]

theorem finite_mul_ofNat (m : Magnitude) (hk : Short k) :
    Binary64.finite false m * .ofNat k = ofUnits false (m.units * k) 1 := by
  have hscale : roundUnits (m.units * (k * one)) one = roundUnits (m.units * k) 1 := by
    have hscale := roundUnits_mul (Nat.two_pow_pos places) (m.units * k) 1
    rwa [← one, Nat.one_mul, Nat.mul_assoc] at hscale
  rw [ofNat_eq hk, finite_mul_finite]
  simp only [ofUnits, hscale]

theorem narrow_mul_one (h : k ≤ 2 ^ 53) : Narrow (k * one) := narrow_mul_two_pow h places

/-- A narrow number strictly between two whole numbers is below `2 ^ 53`. -/
theorem Narrow.lt_of_between (hm : Narrow m) (hlow : k * one < m) (hhigh : m < (k + 1) * one) :
    k < 2 ^ 53 ∧ Narrow (m - k * one) := by
  obtain ⟨significand, shift, hsignificand, rfl⟩ := hm
  by_cases hshift : places ≤ shift
  · -- the number would be whole
    exfalso
    have hwhole : significand * 2 ^ shift = significand * 2 ^ (shift - places) * one := by
      rw [one, Nat.mul_assoc, ← Nat.pow_add, Nat.sub_add_cancel hshift]
    rw [hwhole] at hlow hhigh
    have hafter := Nat.lt_of_mul_lt_mul_right hlow
    have hbefore := Nat.lt_of_mul_lt_mul_right hhigh
    omega
  · have hone : one = 2 ^ (places - shift) * 2 ^ shift := by
      rw [one, ← Nat.pow_add, Nat.sub_add_cancel (Nat.le_of_not_le hshift)]
    rw [hone, ← Nat.mul_assoc] at hlow ⊢
    have hbits := Nat.lt_of_mul_lt_mul_right hlow
    have hk : k ≤ k * 2 ^ (places - shift) := Nat.le_mul_of_pos_right k (Nat.two_pow_pos _)
    refine ⟨by omega, significand - k * 2 ^ (places - shift), shift, by omega, ?_⟩
    rw [Nat.sub_mul]

theorem narrow_zero : Narrow 0 := ⟨0, 0, by decide, rfl⟩

/-- What a narrow number has beyond whole units of a second is narrow. -/
theorem Narrow.sub_mul_one (hm : Narrow m) (hlow : k * one ≤ m) (hhigh : m < (k + 1) * one) :
    Narrow (m - k * one) := by
  by_cases heq : k * one = m
  · rw [heq, Nat.sub_self]
    exact narrow_zero
  · exact (hm.lt_of_between (Nat.lt_of_le_of_ne hlow heq) hhigh).2

end Binary64

namespace Duration

open Binary64

variable {d g : Duration} {m : Magnitude} {n k : Nat}

/-! ## The units of a duration -/

/-- The units of a duration in seconds. -/
def units (d : Duration) : Nat :=
  roundUnits (roundUnits (d.seconds * one) 1 +
    roundUnits (d.nanoseconds % perSecond * one) perSecond) 1

theorem perSecond_pos : 0 < perSecond := by decide

theorem seconds_lt (d : Duration) : d.seconds < 2 ^ 64 := by
  have := d.lt_limit
  simp only [seconds, perSecond]
  omega

theorem rest_lt (d : Duration) : d.nanoseconds % perSecond < perSecond :=
  Nat.mod_lt _ perSecond_pos

theorem narrow_units (d : Duration) : Narrow d.units := narrow_roundUnits _ 1

/-- The length of a duration, in units times the nanoseconds of a second. -/
theorem nanoseconds_mul_one (d : Duration) :
    d.nanoseconds * one = perSecond * (d.seconds * one) + d.nanoseconds % perSecond * one := by
  have hdivision : perSecond * d.seconds + d.nanoseconds % perSecond = d.nanoseconds :=
    Nat.div_add_mod d.nanoseconds perSecond
  calc d.nanoseconds * one = (perSecond * d.seconds + d.nanoseconds % perSecond) * one := by
        rw [hdivision]
    _ = _ := by rw [Nat.add_mul, Nat.mul_assoc]

/-- The part of a duration beyond whole seconds, in seconds. -/
theorem ofNat_div_perSecond (h : n < perSecond)
    (hfinite : roundUnits (n * one) perSecond < limit) :
    Binary64.ofNat n / Binary64.ofNat perSecond =
      .finite false ⟨_, hfinite, narrow_roundUnits _ _⟩ := by
  have hnumerator : Short n := short_of_lt (Nat.lt_trans h (by decide))
  have hdenominator : Short perSecond := short_of_lt (by decide)
  have hunits : perSecond * one ≠ 0 := Nat.ne_of_gt (Nat.mul_pos perSecond_pos units_one_pos)
  rw [ofNat_eq hnumerator, ofNat_eq hdenominator]
  show Binary64.div _ _ = _
  rw [Binary64.div, if_neg hunits]
  exact ofUnits_eq_finite_iff.2 (roundUnits_mul units_one_pos _ _)

theorem roundUnits_seconds_le (d : Duration) :
    roundUnits (d.seconds * one) 1 ≤ 1 * 2 ^ 64 * one := by
  have hseconds := d.seconds_lt
  refine Narrow.roundUnits_le (short_mul_two_pow (by decide) (by decide)).2 ?_
  rw [Nat.one_mul]
  exact Nat.mul_le_mul_right one (by omega)

theorem roundUnits_rest_le (d : Duration) :
    roundUnits (d.nanoseconds % perSecond * one) perSecond ≤ one :=
  narrow_one.roundUnits_le (Nat.mul_le_mul_right one (Nat.le_of_lt d.rest_lt))

theorem units_lt_limit (d : Duration) : d.units < limit := by
  have hlarge : Short (1 * 2 ^ 65) := short_mul_two_pow (by decide) (by decide)
  refine roundUnits_lt_limit hlarge ?_
  rw [Nat.one_mul]
  calc _ ≤ 1 * 2 ^ 64 * one + one := Nat.add_le_add d.roundUnits_seconds_le d.roundUnits_rest_le
    _ ≤ 1 * 2 ^ 65 * one := by
      generalize one = u
      omega

/-- A duration in seconds is a finite number of these units. -/
theorem exists_toSeconds (d : Duration) :
    ∃ m, d.toSeconds = .finite false m ∧ m.units = d.units := by
  have hlarge : Short (1 * 2 ^ 64) := short_mul_two_pow (by decide) (by decide)
  have hone : Short 1 := short_of_lt (by decide)
  have hwhole := Nat.lt_of_le_of_lt d.roundUnits_seconds_le hlarge.1
  have hrest : roundUnits (d.nanoseconds % perSecond * one) perSecond < limit := by
    refine Nat.lt_of_le_of_lt d.roundUnits_rest_le ?_
    have hlimit := hone.1
    rwa [Nat.one_mul] at hlimit
  refine ⟨⟨d.units, d.units_lt_limit, d.narrow_units⟩, ?_, rfl⟩
  rw [toSeconds, ofNat_eq_finite hwhole, ofNat_div_perSecond d.rest_lt hrest]
  show Binary64.add _ _ = _
  rw [Binary64.add, if_pos rfl]
  exact ofUnits_eq d.units_lt_limit

/-! ## The error of the conversion -/

/-- The units of a duration reach every narrow number that its length reaches. -/
theorem le_units {m : Nat} (hm : Narrow m) (h : perSecond * m ≤ d.nanoseconds * one) :
    m ≤ d.units := by
  refine hm.le_roundUnits Nat.one_pos ?_
  rw [Nat.one_mul]
  by_cases hwhole : m ≤ d.seconds * one
  · refine Nat.le_trans (hm.le_roundUnits Nat.one_pos ?_) (Nat.le_add_right _ _)
    rwa [Nat.one_mul]
  · -- the number lies between two whole seconds, so the whole seconds are exact
    have hlow := Nat.lt_of_not_le hwhole
    rw [nanoseconds_mul_one] at h
    have hrest := Nat.mul_lt_mul_of_pos_right d.rest_lt units_one_pos
    have hhigh : m < (d.seconds + 1) * one := by
      apply Nat.lt_of_mul_lt_mul_left (a := perSecond)
      rw [Nat.add_one_mul, Nat.mul_add]
      omega
    obtain ⟨hseconds, hbeyond⟩ := hm.lt_of_between hlow hhigh
    rw [(narrow_mul_one (Nat.le_of_lt hseconds)).roundUnits_eq]
    have hpart : m - d.seconds * one ≤
        roundUnits (d.nanoseconds % perSecond * one) perSecond := by
      refine hbeyond.le_roundUnits perSecond_pos ?_
      rw [Nat.mul_sub]
      omega
    omega

/-- Below `2 ^ 53` seconds the units of a duration exceed no narrow number that its length does not
exceed. -/
theorem units_le {m : Nat} (hd : d.seconds < 2 ^ 53) (hm : Narrow m)
    (h : d.nanoseconds * one ≤ perSecond * m) : d.units ≤ m := by
  refine hm.roundUnits_le ?_
  rw [Nat.one_mul, (narrow_mul_one (Nat.le_of_lt hd)).roundUnits_eq]
  rw [nanoseconds_mul_one] at h
  have hlow : d.seconds * one ≤ m := by
    apply Nat.le_of_mul_le_mul_left _ perSecond_pos
    omega
  by_cases hnext : m < (d.seconds + 1) * one
  · have hpart : roundUnits (d.nanoseconds % perSecond * one) perSecond ≤
        m - d.seconds * one := by
      refine (hm.sub_mul_one hlow hnext).roundUnits_le ?_
      rw [Nat.mul_sub]
      omega
    omega
  · have hpart := d.roundUnits_rest_le
    rw [Nat.add_one_mul] at hnext
    omega

/-- A nanosecond has more than 53 bits of units. -/
theorem perSecond_mul_le (hd : 0 < d.nanoseconds) :
    perSecond * 2 ^ 52 ≤ d.nanoseconds * one := by
  have hbits : perSecond * 2 ^ 52 ≤ 1 * one := by
    calc perSecond * 2 ^ 52 ≤ 2 ^ 82 := by decide
      _ ≤ 2 ^ places := Nat.pow_le_pow_right (by decide) (by decide)
      _ = 1 * one := (Nat.one_mul one).symm
  exact Nat.le_trans hbits (Nat.mul_le_mul_right one hd)

theorem two_pow_le_units (hd : 0 < d.nanoseconds) : 2 ^ 52 ≤ d.units :=
  le_units ⟨2 ^ 52, 0, by decide, rfl⟩ (perSecond_mul_le hd)

/-- Below `2 ^ 53` seconds the units of a duration are close to its length. -/
theorem close_units (hd : d.seconds < 2 ^ 53) (hpos : 0 < d.nanoseconds) :
    Close (perSecond * d.units) (d.nanoseconds * one) := by
  have hbeside : Beside d.units (d.nanoseconds * one) perSecond :=
    ⟨fun _ => le_units, fun _ => units_le hd⟩
  exact hbeside.close perSecond_pos (perSecond_mul_le hpos)

/-! ## Back to nanoseconds -/

theorem ofNanoseconds?_eq_some (h : ofNanoseconds? n = some g) : g.nanoseconds = n := by
  rw [ofNanoseconds?] at h
  split at h
  · cases h
    rfl
  · contradiction

theorem ofSeconds?_finite (m : Magnitude) :
    ofSeconds? (.finite false m) = ofNanoseconds? (roundHalfEven (m.units * perSecond) one) := by
  rw [ofSeconds?, if_neg fun h => Bool.false_ne_true h.1]

/-- Units that exceed those of a duration stand for no shorter one. -/
theorem nanoseconds_le_of_add_gap_le {u : Nat} (h : d.units + gap d.units ≤ u) :
    d.nanoseconds ≤ roundHalfEven (u * perSecond) one := by
  have hunits : d.nanoseconds * one ≤ perSecond * (d.units + gap d.units) := by
    by_cases hle : d.nanoseconds * one ≤ perSecond * (d.units + gap d.units)
    · exact hle
    · -- the units would reach the number after them
      have hnext := le_units d.narrow_units.add_gap (Nat.le_of_not_le hle)
      have := gap_pos d.units
      omega
  refine Nat.le_trans ?_ (le_roundHalfEven _ _)
  rw [Nat.le_div_iff_mul_le units_one_pos, Nat.mul_comm u]
  exact Nat.le_trans hunits (Nat.mul_le_mul_left _ h)

/-- A duration does not shrink when it is multiplied by a number above one. -/
theorem le_of_ofSeconds?_mul (hd : 0 < d.nanoseconds) (hm : one < m.units)
    (h : ofSeconds? (d.toSeconds * .finite false m) = some g) : d ≤ g := by
  obtain ⟨x, hx, hunits⟩ := d.exists_toSeconds
  have hproduct := add_gap_le_roundUnits_mul d.narrow_units (two_pow_le_units hd) m.narrow hm
  rw [hx, finite_mul_finite, hunits] at h
  by_cases hfinite : roundUnits (d.units * m.units) one < limit
  · rw [ofUnits_eq hfinite, ofSeconds?_finite] at h
    show d.nanoseconds ≤ g.nanoseconds
    rw [ofNanoseconds?_eq_some h]
    exact nanoseconds_le_of_add_gap_le hproduct
  · rw [ofUnits, dif_neg hfinite, ofSeconds?] at h
    cases h

/-- A multiple close to `2 ^ 20` seconds or less is finite. -/
theorem roundUnits_lt_limit_of_close {a : Nat} (hn : n ≤ 2 ^ 20 * 10 ^ 9)
    (hquotient : Close (perSecond * a) (n * one)) : roundUnits a 1 < limit := by
  refine roundUnits_lt_limit (k := 2 ^ 21) (short_of_lt (by decide)) ?_
  have hle := hquotient.le
  have hbound := Nat.mul_le_mul_right one hn
  rw [perSecond] at hle
  generalize one = w at *
  generalize n * w = t at *
  omega

/-- Two roundings after another move a number of nanoseconds below `2 ^ 20` seconds by less than
half a nanosecond. -/
theorem roundHalfEven_of_close {a u : Nat} (hn : n ≤ 2 ^ 20 * 10 ^ 9)
    (hquotient : Close a (n * one)) (hround : Close (perSecond * u) a) :
    roundHalfEven (u * perSecond) one = n := by
  have hle := hquotient.le
  have hge := hquotient.ge
  have hle' := hround.le
  have hge' := hround.ge
  have hbound := Nat.mul_le_mul_right one hn
  have hpos := units_one_pos
  refine roundHalfEven_eq ?_ ?_
  all_goals
    rw [Nat.mul_comm u, Nat.mul_comm one n]
    generalize perSecond * u = r at *
    generalize one = w at *
    generalize n * w = t at *
    omega

/-- A small multiple of a short duration is exact. -/
theorem ofSeconds?_mul_ofNat (hk : 0 < k) (hd : 0 < d.nanoseconds)
    (h : k * d.nanoseconds ≤ 2 ^ 20 * 10 ^ 9) :
    ofSeconds? (d.toSeconds * .ofNat k) = ofNanoseconds? (k * d.nanoseconds) := by
  have hfactor : k ≤ k * d.nanoseconds := Nat.le_mul_of_pos_right k hd
  have hlength : d.nanoseconds ≤ k * d.nanoseconds := Nat.le_mul_of_pos_left _ hk
  have hseconds : d.seconds < 2 ^ 53 := Nat.lt_of_le_of_lt (Nat.div_le_self _ _) (by omega)
  have hquotient : Close (perSecond * (d.units * k)) (k * d.nanoseconds * one) := by
    have hclose := (close_units hseconds hd).mul_left k
    rwa [Nat.mul_left_comm, Nat.mul_comm k, ← Nat.mul_assoc k] at hclose
  have hround : Close (perSecond * roundUnits (d.units * k) 1) (perSecond * (d.units * k)) := by
    have hbits : 1 * 2 ^ 52 ≤ d.units * k :=
      Nat.le_trans (two_pow_le_units hd) (Nat.le_mul_of_pos_right _ hk)
    have hclose := (close_roundUnits Nat.one_pos hbits).mul_left perSecond
    rwa [Nat.one_mul] at hclose
  obtain ⟨x, hx, hunits⟩ := d.exists_toSeconds
  rw [hx, finite_mul_ofNat x (short_of_lt (by omega)), hunits,
    ofUnits_eq (roundUnits_lt_limit_of_close h hquotient), ofSeconds?_finite]
  show ofNanoseconds? (roundHalfEven (roundUnits (d.units * k) 1 * perSecond) one) = _
  rw [roundHalfEven_of_close h hquotient hround]

end Duration

end StoreClient
