import StoreClient.Proofs.Binary64.Reading

/-!
# Rounding errors

A rounded quotient is one of the two numbers of at most 53 significant bits next to the quotient:
none of these numbers lies between the two. This weak form of rounding is all that is asked of a
formula with several roundings, and it bounds the relative error by one part in `2 ^ 52`.

## Main definitions

* `Binary64.Narrow` — a number of at most 53 significant bits.
* `Binary64.Beside` — no narrow number lies between a number and a quotient.
* `Binary64.Close` — two numbers differ by at most one part in `2 ^ 52`.
-/

namespace StoreClient

namespace Binary64

/-! ## Numbers of at most 53 significant bits -/

/-- A number of at most 53 significant bits. -/
def Narrow (n : Nat) : Prop :=
  ∃ significand shift, significand < 2 ^ 53 ∧ n = significand * 2 ^ shift

section

variable {n m d k : Nat}

theorem Magnitude.narrow (m : Magnitude) : Narrow m.units := m.representable.2

theorem narrow_roundUnits (n d : Nat) : Narrow (roundUnits n d) := exists_significand_roundUnits n d

theorem narrow_mul_two_pow (h : k ≤ 2 ^ 53) (shift : Nat) : Narrow (k * 2 ^ shift) := by
  by_cases hlt : k < 2 ^ 53
  · exact ⟨k, shift, hlt, rfl⟩
  · -- one bit more, but the last one is not needed
    have hk : k = 2 ^ 52 * 2 ^ 1 := by omega
    refine ⟨2 ^ 52, 1 + shift, by decide, ?_⟩
    rw [hk, Nat.mul_assoc, ← Nat.pow_add]

theorem two_pow_log2_le (h : 2 ^ k ≤ n) : k ≤ n.log2 := by
  have hnonzero : n ≠ 0 := by
    have := Nat.two_pow_pos k
    omega
  exact (Nat.le_log2 hnonzero).2 h

/-- From 53 bits on, the gap is the 53rd bit. -/
theorem mul_gap_eq (h : 2 ^ 52 ≤ n) : 2 ^ 52 * gap n = 2 ^ n.log2 := by
  have hlog := two_pow_log2_le h
  rw [gap, ← Nat.pow_add]
  congr 1
  omega

theorem mul_gap_le (h : 2 ^ 52 ≤ n) : 2 ^ 52 * gap n ≤ n := by
  have hnonzero : n ≠ 0 := by omega
  rw [mul_gap_eq h]
  exact Nat.log2_self_le hnonzero

/-- A narrow number is a multiple of the gap of any number that is not greater. -/
theorem Narrow.gap_dvd (hm : Narrow m) (hn : n ≤ m) : gap n ∣ m := by
  obtain ⟨significand, shift, hsignificand, rfl⟩ := hm
  by_cases hzero : n.log2 - 52 ≤ shift
  · rw [mul_two_pow_eq_mul_gap significand hzero]
    exact Nat.dvd_mul_left _ _
  · -- the number would have more bits than it has
    exfalso
    obtain ⟨hsmall, hlarge⟩ := le_of_lt_log2 hsignificand (Nat.lt_of_not_le hzero)
    omega

/-- Between a narrow number and the next lies its gap. -/
theorem Narrow.add_gap_le (hn : Narrow n) (hm : Narrow m) (h : n < m) : n + gap n ≤ m := by
  obtain ⟨a, ha⟩ := hn.gap_dvd (Nat.le_refl n)
  obtain ⟨b, hb⟩ := hm.gap_dvd (Nat.le_of_lt h)
  have hlt : a < b := by
    rw [ha, hb] at h
    exact Nat.lt_of_mul_lt_mul_left h
  calc n + gap n = gap n * (a + 1) := by rw [Nat.mul_add_one, ← ha]
    _ ≤ gap n * b := Nat.mul_le_mul_left _ hlt
    _ = m := hb.symm

/-- The number after a narrow one is narrow. -/
theorem Narrow.add_gap (hn : Narrow n) : Narrow (n + gap n) := by
  obtain ⟨a, ha⟩ := hn.gap_dvd (Nat.le_refl n)
  have hlt : gap n * a < gap n * 2 ^ 53 := by
    rw [← ha, Nat.mul_comm]
    exact lt_mul_gap n
  have hbits : a < 2 ^ 53 := Nat.lt_of_mul_lt_mul_left hlt
  have hsum : n + gap n = (a + 1) * gap n := by rw [Nat.add_one_mul, Nat.mul_comm, ← ha]
  rw [hsum]
  exact narrow_mul_two_pow hbits _

theorem Narrow.roundUnits_le (hm : Narrow m) (h : n ≤ d * m) : roundUnits n d ≤ m := by
  obtain ⟨significand, shift, hsignificand, rfl⟩ := hm
  exact roundUnits_le_of_le hsignificand h

theorem Narrow.le_roundUnits (hm : Narrow m) (hd : 0 < d) (h : d * m ≤ n) :
    m ≤ roundUnits n d := by
  obtain ⟨significand, shift, hsignificand, rfl⟩ := hm
  exact le_roundUnits_of_le hsignificand hd h

theorem Narrow.roundUnits_eq (hm : Narrow m) : roundUnits m 1 = m := by
  apply Nat.le_antisymm
  · exact hm.roundUnits_le (Nat.le_of_eq (Nat.one_mul m).symm)
  · exact hm.le_roundUnits Nat.one_pos (Nat.le_of_eq (Nat.one_mul m))

end

/-! ## Neighbours of a quotient -/

/-- No narrow number lies between a number and the quotient `n / d`. -/
structure Beside (x n d : Nat) : Prop where
  /-- The number is at least every narrow number that the quotient reaches. -/
  le : ∀ m, Narrow m → d * m ≤ n → m ≤ x
  /-- The number is at most every narrow number that the quotient does not exceed. -/
  ge : ∀ m, Narrow m → n ≤ d * m → x ≤ m

/-- Two numbers differ by at most one part in `2 ^ 52`. -/
structure Close (a b : Nat) : Prop where
  /-- The first is not much greater. -/
  le : 2 ^ 52 * a ≤ 2 ^ 52 * b + b
  /-- The first is not much less. -/
  ge : 2 ^ 52 * b ≤ 2 ^ 52 * a + b

section

variable {a b k n d x m : Nat}

theorem beside_roundUnits (hd : 0 < d) (n : Nat) : Beside (roundUnits n d) n d where
  le _ hm h := hm.le_roundUnits hd h
  ge _ hm h := hm.roundUnits_le h

/-- What lies beside a quotient of 53 bits or more is close to it. -/
theorem Beside.close (hx : Beside x n d) (hd : 0 < d) (h : d * 2 ^ 52 ≤ n) : Close (d * x) n := by
  have hquotient : 2 ^ 52 ≤ n / d := (Nat.le_div_iff_mul_le hd).2 (by rwa [Nat.mul_comm])
  have hgap := mul_gap_le hquotient
  have hbits : n / d / gap (n / d) < 2 ^ 53 :=
    Nat.div_lt_of_lt_mul (by rw [Nat.mul_comm]; exact lt_mul_gap _)
  have hpos := gap_pos (n / d)
  generalize hg : gap (n / d) = g at hgap hbits hpos
  have hshift (j : Nat) (hj : j ≤ 2 ^ 53) : Narrow (j * g) := by
    rw [← hg]
    exact narrow_mul_two_pow hj _
  -- the multiples of the gap on either side of the quotient
  generalize hj : n / d / g = j at hbits
  have hbelow : d * (j * g) ≤ n := by
    calc d * (j * g) ≤ d * (n / d) := Nat.mul_le_mul_left d (hj ▸ Nat.div_mul_le_self _ g)
      _ ≤ n := Nat.mul_div_le n d
  have habove : n ≤ d * ((j + 1) * g) := by
    have hlt : n < d * g * (n / (d * g) + 1) :=
      Nat.lt_mul_div_succ n (Nat.mul_pos hd hpos)
    rw [← Nat.div_div_eq_div_mul, hj, Nat.mul_assoc, Nat.mul_comm g] at hlt
    exact Nat.le_of_lt hlt
  have hlow := Nat.mul_le_mul_left d (hx.le _ (hshift j (Nat.le_of_lt hbits)) hbelow)
  have hhigh := Nat.mul_le_mul_left d (hx.ge _ (hshift (j + 1) hbits) habove)
  have hsplit : d * ((j + 1) * g) = d * (j * g) + d * g := by
    rw [Nat.add_one_mul, Nat.mul_add]
  have hwidth : 2 ^ 52 * (d * g) ≤ n := by
    calc 2 ^ 52 * (d * g) = d * (2 ^ 52 * g) := Nat.mul_left_comm _ _ _
      _ ≤ d * (n / d) := Nat.mul_le_mul_left d hgap
      _ ≤ n := Nat.mul_div_le n d
  constructor <;> omega

theorem close_roundUnits (hd : 0 < d) (h : d * 2 ^ 52 ≤ n) : Close (d * roundUnits n d) n :=
  (beside_roundUnits hd n).close hd h

theorem Close.mul_left (h : Close a b) (k : Nat) : Close (k * a) (k * b) := by
  have hle := Nat.mul_le_mul_left k h.le
  have hge := Nat.mul_le_mul_left k h.ge
  rw [Nat.mul_add, Nat.mul_left_comm, Nat.mul_left_comm k] at hle
  rw [Nat.mul_add, Nat.mul_left_comm, Nat.mul_left_comm k] at hge
  exact ⟨hle, hge⟩

/-- What is less than half away from a natural number is rounded to it. -/
theorem roundHalfEven_eq (hlow : 2 * (d * m) < 2 * n + d) (hhigh : 2 * n < 2 * (d * m) + d) :
    roundHalfEven n d = m := by
  have hdivision := Nat.div_add_mod n d
  have hpos : 0 < d := by omega
  have hrest := Nat.mod_lt n hpos
  have hsucc := Nat.mul_add_one d
  -- the number is one of the two around the quotient
  have hbefore : n / d < m + 1 := by
    apply Nat.lt_of_mul_lt_mul_left (a := d)
    rw [hsucc]
    omega
  have hafter : m < n / d + 2 := by
    apply Nat.lt_of_mul_lt_mul_left (a := d)
    rw [hsucc, hsucc]
    omega
  rcases Nat.lt_or_ge (n / d) m with hlt | hge
  · obtain rfl : m = n / d + 1 := by omega
    rw [hsucc] at hlow
    have hnear : ¬ 2 * (n % d) < d := by omega
    have hfar : d < 2 * (n % d) := by omega
    simp only [roundHalfEven, if_neg hnear, if_pos hfar]
  · obtain rfl : m = n / d := by omega
    have hnear : 2 * (n % d) < d := by omega
    simp only [roundHalfEven, if_pos hnear]

end

/-! ## Products -/

theorem narrow_one : Narrow one := ⟨1, places, by decide, by rw [one, Nat.one_mul]⟩

theorem units_one_pos : 0 < one := Nat.two_pow_pos places

/-- A number times another above one is rounded to at least the number that follows it. -/
theorem add_gap_le_roundUnits_mul {x m : Nat} (hx : Narrow x) (hlarge : 2 ^ 52 ≤ x)
    (hm : Narrow m) (h : one < m) : x + gap x ≤ roundUnits (x * m) one := by
  have hone : 2 ^ 52 * gap one = one := by
    have hlog : 2 ^ 52 ≤ one := by
      rw [one]
      exact Nat.pow_le_pow_right (by decide) (by decide)
    rw [mul_gap_eq hlog, one, Nat.log2_two_pow]
  have hm := Nat.mul_le_mul_left x (narrow_one.add_gap_le hm h)
  refine hx.add_gap.le_roundUnits units_one_pos (Nat.le_trans ?_ hm)
  rw [Nat.mul_add, Nat.mul_add, Nat.mul_comm one x]
  refine Nat.add_le_add_left ?_ _
  calc one * gap x = 2 ^ 52 * gap one * gap x := by rw [hone]
    _ = 2 ^ 52 * gap x * gap one := Nat.mul_right_comm _ _ _
    _ ≤ x * gap one := Nat.mul_le_mul_right _ (mul_gap_le hlarge)

end Binary64

end StoreClient
