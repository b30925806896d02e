import StoreClient.Duration

/-!
# Bounds on rounded results

A quotient at most a representable number is rounded to at most that number. So where the exact
result of an operation is between zero and a bound that is representable itself, the rounded result
is finite and obeys the same bound, and bounds can be carried through a formula without a word on
errors.

## Main definitions

* `Short` — a natural number that is representable as it is.
* `Binary64.UpTo` — a finite number between zero and a natural number.
-/

namespace StoreClient

namespace Binary64

/-! ## Order -/

section

variable {x y : Binary64}

theorem exists_place_of_isNaN (h : x.isNaN = false) : ∃ a, x.place? = some a := by
  cases x with
  | nan => contradiction
  | infinite | finite => exact ⟨_, rfl⟩

theorem lt_eq_decide {a b : Int} (hx : x.place? = some a) (hy : y.place? = some b) :
    x.lt y = decide (a < b) := by
  rw [lt, hx, hy]

/-- Numbers can be compared: the one is less, or the other is not greater. -/
theorem lt_eq_not_le (hx : x.isNaN = false) (hy : y.isNaN = false) : x.lt y = !y.le x := by
  obtain ⟨a, ha⟩ := exists_place_of_isNaN hx
  obtain ⟨b, hb⟩ := exists_place_of_isNaN hy
  rw [lt_eq_decide ha hb, le, ha, hb, ← decide_not]
  exact decide_eq_decide.2 Int.not_le.symm

/-- A number between two finite ones is finite. -/
theorem isFinite_of_between {lo hi : Binary64} (hlo : lo.isFinite = true) (hhi : hi.isFinite = true)
    (hle : lo.le x = true) (hlt : x.lt hi = true) : x.isFinite = true := by
  cases x with
  | finite => rfl
  | nan => cases lo <;> simp [le] at hle
  | infinite negative =>
      cases lo with
      | nan | infinite => simp [isFinite] at hlo
      | finite s m =>
          cases hi with
          | nan | infinite => simp [isFinite] at hhi
          | finite t l =>
              have hm : m.units < limit := m.representable.1
              have hl : l.units < limit := l.representable.1
              simp only [le, lt, place?, decide_eq_true_eq] at hle hlt
              cases negative <;> cases s <;> cases t <;>
                simp only [if_true, if_false, Bool.false_eq_true] at hle hlt <;> omega

end

/-! ## Rounding -/

section

variable {n d m : Nat}

theorem le_roundHalfEven (n d : Nat) : n / d ≤ roundHalfEven n d := by
  simp only [roundHalfEven]
  split
  · exact Nat.le_refl _
  · split
    · exact Nat.le_succ _
    · split
      · exact Nat.le_refl _
      · exact Nat.le_succ _

/-- A quotient at most a natural number is rounded to at most that number. -/
theorem roundHalfEven_le_of_le (h : n ≤ d * m) : roundHalfEven n d ≤ m := by
  rcases Nat.eq_zero_or_pos d with rfl | hpos
  · obtain rfl : n = 0 := by omega
    exact Nat.zero_le m
  · rcases Nat.lt_or_eq_of_le (Nat.div_le_of_le_mul h) with hlt | heq
    · exact Nat.le_trans (roundHalfEven_le n d) hlt
    · -- the quotient is exact
      have hdivision := Nat.div_add_mod n d
      rw [heq] at hdivision
      have hrest : n % d = 0 := by omega
      have hhalf : 2 * 0 < d := by omega
      simp only [roundHalfEven, hrest, hhalf, if_true, heq]
      exact Nat.le_refl m

/-- Numbers beyond the first 53 bits are far from zero compared with their gap. -/
theorem le_of_lt_log2 {q significand shift : Nat} (hsignificand : significand < 2 ^ 53)
    (h : shift < q.log2 - 52) :
    significand * 2 ^ shift < 2 ^ 52 * gap q ∧ 2 ^ 52 * gap q ≤ q := by
  have hnonzero : q ≠ 0 := by
    rintro rfl
    simp at h
  have hgap : 2 ^ 52 * gap q = 2 ^ q.log2 := by
    rw [gap, ← Nat.pow_add]
    congr 1
    omega
  rw [hgap]
  refine ⟨?_, Nat.log2_self_le hnonzero⟩
  calc significand * 2 ^ shift < 2 ^ 53 * 2 ^ shift :=
        Nat.mul_lt_mul_of_pos_right hsignificand (Nat.two_pow_pos shift)
    _ = 2 ^ (53 + shift) := (Nat.pow_add 2 53 shift).symm
    _ ≤ 2 ^ q.log2 := Nat.pow_le_pow_right (by omega) (by omega)

/-- Numbers of at most 53 significant bits are multiples of a gap that is not too wide. -/
theorem mul_two_pow_eq_mul_gap {q shift : Nat} (significand : Nat) (h : q.log2 - 52 ≤ shift) :
    significand * 2 ^ shift = significand * 2 ^ (shift - (q.log2 - 52)) * gap q := by
  rw [gap, Nat.mul_assoc, ← Nat.pow_add, Nat.sub_add_cancel h]

/-- A quotient at most a number of at most 53 significant bits is rounded to at most that number. -/
theorem roundUnits_le_of_le {significand shift : Nat} (hsignificand : significand < 2 ^ 53)
    (h : n ≤ d * (significand * 2 ^ shift)) : roundUnits n d ≤ significand * 2 ^ shift := by
  rcases Nat.lt_or_ge shift ((n / d).log2 - 52) with hlt | hle
  · have hquotient : n / d ≤ significand * 2 ^ shift := Nat.div_le_of_le_mul h
    obtain ⟨hsmall, hlarge⟩ := le_of_lt_log2 hsignificand hlt
    omega
  · rw [mul_two_pow_eq_mul_gap significand hle] at h ⊢
    refine Nat.mul_le_mul_right _ (roundHalfEven_le_of_le ?_)
    rwa [Nat.mul_assoc, Nat.mul_comm (gap (n / d))]

theorem roundUnits_zero (d : Nat) : roundUnits 0 d = 0 := by
  have hle : roundUnits 0 d ≤ 0 * 2 ^ 0 := roundUnits_le_of_le (by decide) (Nat.zero_le _)
  exact Nat.le_zero.1 hle

/-- A quotient at least a number of at most 53 significant bits is rounded to at least that
number. -/
theorem le_roundUnits_of_le {significand shift : Nat} (hsignificand : significand < 2 ^ 53)
    (hpos : 0 < d) (h : d * (significand * 2 ^ shift) ≤ n) :
    significand * 2 ^ shift ≤ roundUnits n d := by
  have hquotient : significand * 2 ^ shift ≤ n / d := by
    rw [Nat.le_div_iff_mul_le hpos, Nat.mul_comm]
    exact h
  have hround : n / d / gap (n / d) ≤ roundHalfEven n (d * gap (n / d)) := by
    rw [Nat.div_div_eq_div_mul]
    exact le_roundHalfEven n _
  refine Nat.le_trans ?_ (Nat.mul_le_mul_right (gap (n / d)) hround)
  rcases Nat.lt_or_ge shift ((n / d).log2 - 52) with hlt | hle
  · obtain ⟨hsmall, hlarge⟩ := le_of_lt_log2 hsignificand hlt
    refine Nat.le_trans (Nat.le_of_lt hsmall) (Nat.mul_le_mul_right _ ?_)
    exact (Nat.le_div_iff_mul_le (gap_pos _)).2 hlarge
  · rw [mul_two_pow_eq_mul_gap significand hle] at hquotient ⊢
    exact Nat.mul_le_mul_right _ ((Nat.le_div_iff_mul_le (gap_pos _)).2 hquotient)

end

/-! ## Bounds -/

/-- A natural number that is representable as it is. -/
def Short (k : Nat) : Prop := Representable (k * one)

theorem short_mul_two_pow {significand shift : Nat} (h : significand < 2 ^ 53)
    (hshift : shift ≤ 900) : Short (significand * 2 ^ shift) := by
  refine ⟨?_, significand, shift + places, h, ?_⟩
  · rw [one, limit, width]
    calc significand * 2 ^ shift * 2 ^ places = significand * 2 ^ (shift + places) := by
          rw [Nat.mul_assoc, Nat.pow_add]
      _ < 2 ^ 53 * 2 ^ (shift + places) := Nat.mul_lt_mul_of_pos_right h (Nat.two_pow_pos _)
      _ = 2 ^ (53 + (shift + places)) := (Nat.pow_add 2 53 _).symm
      _ ≤ 2 ^ (1024 + places) := Nat.pow_le_pow_right (by omega) (by omega)
  · rw [one, Nat.mul_assoc, Nat.pow_add]

theorem short_of_lt {k : Nat} (h : k < 2 ^ 53) : Short k := by
  have hshort := short_mul_two_pow h (Nat.zero_le 900)
  rwa [Nat.pow_zero, Nat.mul_one] at hshort

theorem Magnitude.eq_of_units_eq {m l : Magnitude} (h : m.units = l.units) : m = l := by
  cases m
  cases l
  cases h
  rfl

/-- A finite number between zero and a natural number. -/
def UpTo (x : Binary64) (k : Nat) : Prop :=
  ∃ negative m, x = .finite negative m ∧ m.units ≤ k * one ∧ (negative = true → m.units = 0)

section

variable {x y : Binary64} {k a b n d : Nat} {negative : Bool}

/-- What is rounded to a bound stays within it. -/
theorem upTo_ofUnits (hk : Short k) (h : n ≤ d * (k * one)) (hsign : negative = true → n = 0) :
    (ofUnits negative n d).UpTo k := by
  obtain ⟨hlimit, significand, shift, hsignificand, heq⟩ := hk
  have hle : roundUnits n d ≤ k * one := by
    rw [heq] at h ⊢
    exact roundUnits_le_of_le hsignificand h
  have hfinite : roundUnits n d < limit := Nat.lt_of_le_of_lt hle hlimit
  rw [ofUnits, dif_pos hfinite]
  refine ⟨negative, _, rfl, hle, fun hnegative => ?_⟩
  obtain rfl := hsign hnegative
  exact roundUnits_zero d

theorem upTo_ofNat (hk : Short k) (h : n ≤ k) : (ofNat n).UpTo k := by
  show (ofUnits false (n * one) 1).UpTo k
  refine upTo_ofUnits hk ?_ (by simp)
  rw [Nat.one_mul]
  exact Nat.mul_le_mul_right one h

theorem upTo_zero (k : Nat) : (zero false).UpTo k :=
  ⟨false, _, rfl, Nat.zero_le _, fun _ => rfl⟩

theorem UpTo.add (hx : x.UpTo a) (hy : y.UpTo b) (hk : Short k) (h : a + b ≤ k) :
    (x + y).UpTo k := by
  obtain ⟨s, m, rfl, hm, hs⟩ := hx
  obtain ⟨t, l, rfl, hl, ht⟩ := hy
  have hsum : m.units + l.units ≤ k * one := by
    calc m.units + l.units ≤ a * one + b * one := Nat.add_le_add hm hl
      _ = (a + b) * one := (Nat.add_mul a b one).symm
      _ ≤ k * one := Nat.mul_le_mul_right one h
  show (Binary64.add _ _).UpTo k
  simp only [Binary64.add]
  split
  next hsame =>
    refine upTo_ofUnits hk (by omega) fun hsign => ?_
    rw [hs hsign, ht (hsame ▸ hsign)]
  next =>
    -- the difference has the sign of the larger, which is zero if the sign is negative
    split
    · exact upTo_zero k
    · split
      · refine upTo_ofUnits hk (by omega) fun hsign => ?_
        rw [ht hsign, Nat.zero_sub]
      · refine upTo_ofUnits hk (by omega) fun hsign => ?_
        rw [hs hsign, Nat.zero_sub]

theorem mul_le_mul_of_units {u m l : Nat} (hm : m ≤ a * u) (hl : l ≤ b * u) (h : a * b ≤ k) :
    m * l ≤ u * (k * u) := by
  calc m * l ≤ a * u * (b * u) := Nat.mul_le_mul hm hl
    _ = a * b * (u * u) := Nat.mul_mul_mul_comm a u b u
    _ ≤ k * (u * u) := Nat.mul_le_mul_right _ h
    _ = u * (k * u) := Nat.mul_left_comm k u u

theorem UpTo.mul (hx : x.UpTo a) (hy : y.UpTo b) (hk : Short k) (h : a * b ≤ k) :
    (x * y).UpTo k := by
  obtain ⟨s, m, rfl, hm, hs⟩ := hx
  obtain ⟨t, l, rfl, hl, ht⟩ := hy
  show (Binary64.mul _ _).UpTo k
  rw [Binary64.mul]
  refine upTo_ofUnits hk ?_ ?_
  · exact mul_le_mul_of_units hm hl h
  · intro hsign
    cases s with
    | true => rw [hs rfl, Nat.zero_mul]
    | false =>
        cases t with
        | true => rw [ht rfl, Nat.mul_zero]
        | false => simp at hsign

/-- A short natural number is itself. -/
theorem ofNat_eq (hk : Short k) : ofNat k = .finite false ⟨k * one, hk⟩ := by
  have hexact : roundUnits (k * one) 1 = k * one := by
    obtain ⟨-, significand, shift, hsignificand, heq⟩ := hk
    rw [heq]
    exact Nat.le_antisymm (roundUnits_le_of_le hsignificand (Nat.le_of_eq (Nat.one_mul _).symm))
      (le_roundUnits_of_le hsignificand Nat.one_pos (Nat.le_of_eq (Nat.one_mul _)))
  have hfinite : roundUnits (k * one) 1 < limit := by
    rw [hexact]
    exact hk.1
  rw [ofNat, ofRatio, ofUnits, dif_pos hfinite]
  exact congrArg (Binary64.finite false) (Magnitude.eq_of_units_eq hexact)

theorem place?_ofNat (hk : Short k) : (ofNat k).place? = some ((k * one : Nat) : Int) := by
  rw [ofNat_eq hk]
  rfl

theorem UpTo.div_ofNat (hx : x.UpTo a) (hb : Short b) (hpos : 0 < b) (hk : Short k)
    (h : a ≤ k * b) : (x / ofNat b).UpTo k := by
  obtain ⟨s, m, rfl, hm, hs⟩ := hx
  have hunits : b * one ≠ 0 := Nat.ne_of_gt (Nat.mul_pos hpos (Nat.two_pow_pos places))
  rw [ofNat_eq hb]
  show (Binary64.div _ _).UpTo k
  rw [Binary64.div, if_neg hunits]
  refine upTo_ofUnits hk ?_ ?_
  · calc m.units * one ≤ k * b * one * one := Nat.mul_le_mul_right one
          (Nat.le_trans hm (Nat.mul_le_mul_right one h))
      _ = b * one * (k * one) := by
          rw [Nat.mul_comm k b, Nat.mul_assoc, Nat.mul_mul_mul_comm]
  · intro hsign
    rw [hs (by simpa using hsign), Nat.zero_mul]

/-- What is brought between zero and one is between zero and one. -/
theorem upTo_clamp (hx : x.isNaN = false) : (clamp (zero false) (ofNat 1) x).UpTo 1 := by
  have hone : Short 1 := short_of_lt (by decide)
  rw [clamp]
  split
  · exact upTo_zero 1
  next hzero =>
    split
    · exact upTo_ofNat hone (Nat.le_refl 1)
    next hlt =>
      have hlow (a : Int) (ha : x.place? = some a) : 0 ≤ a := by
        rw [lt_eq_decide ha (place?_zero false), decide_eq_true_eq] at hzero
        exact Int.not_lt.1 hzero
      have hhigh (a : Int) (ha : x.place? = some a) : a ≤ ((1 * one : Nat) : Int) := by
        rw [lt_eq_decide (place?_ofNat hone) ha, decide_eq_true_eq] at hlt
        exact Int.not_lt.1 hlt
      have hlimit : 1 * one < limit := hone.1
      cases x with
      | nan => simp [isNaN] at hx
      | infinite s =>
          have hlow := hlow _ rfl
          have hhigh := hhigh _ rfl
          cases s <;> simp only [if_true, if_false, Bool.false_eq_true] at hlow hhigh <;> omega
      | finite s m =>
          have hlow := hlow _ (place?_finite s m)
          have hhigh := hhigh _ (place?_finite s m)
          cases s with
          | true =>
              simp only [if_true] at hlow
              exact ⟨true, m, rfl, by omega, fun _ => by omega⟩
          | false =>
              simp only [if_false, Bool.false_eq_true] at hhigh
              exact ⟨false, m, rfl, by omega, by simp⟩

end

end Binary64

namespace Duration

variable {x : Binary64} {d : Duration} {j k : Nat}

/-- A number of seconds below the longest duration is a duration. -/
theorem ofSeconds?_of_upTo (hx : x.UpTo k) (hk : k < 2 ^ 64) :
    ∃ d, ofSeconds? x = some d ∧ d.nanoseconds ≤ k * 10 ^ 9 := by
  obtain ⟨s, m, rfl, hm, hs⟩ := hx
  have hround : Binary64.roundHalfEven (m.units * perSecond) Binary64.one ≤ k * 10 ^ 9 := by
    refine Binary64.roundHalfEven_le_of_le ?_
    rw [← Nat.mul_assoc, Nat.mul_comm Binary64.one]
    exact Nat.mul_le_mul_right _ hm
  have hsign : ¬ (s = true ∧ m.units ≠ 0) := fun h => h.2 (hs h.1)
  rw [ofSeconds?, if_neg hsign]
  generalize Binary64.roundHalfEven (m.units * perSecond) Binary64.one = n at hround
  have hlimit : n < 2 ^ 64 * 10 ^ 9 := by omega
  exact ⟨⟨n, hlimit⟩, dif_pos hlimit, hround⟩

/-- A duration in seconds is at most a second more than its whole seconds. -/
theorem toSeconds_upTo (hd : d.seconds ≤ j) (hj : Binary64.Short j) (hk : Binary64.Short k)
    (h : j + 1 ≤ k) : d.toSeconds.UpTo k := by
  have hwhole : (Binary64.ofNat d.seconds).UpTo j := Binary64.upTo_ofNat hj hd
  have hpart : (Binary64.ofNat (d.nanoseconds % perSecond) / Binary64.ofNat perSecond).UpTo 1 := by
    have hsecond : Binary64.Short perSecond := Binary64.short_of_lt (by decide)
    have hrest : d.nanoseconds % perSecond ≤ perSecond := Nat.le_of_lt (Nat.mod_lt _ (by decide))
    exact (Binary64.upTo_ofNat hsecond hrest).div_ofNat hsecond (by decide)
      (Binary64.short_of_lt (by decide)) (Nat.le_of_eq (Nat.one_mul _).symm)
  exact hwhole.add hpart hk h

end Duration

end StoreClient
