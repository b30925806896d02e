import StoreClient.Proofs.Binary64.Neighbours

/-!
# Order and accuracy of rounding

Rounding keeps the order of quotients, and it moves a quotient by at most half of the distance
between the numbers around it, which is one part in `2 ^ 53`. A formula with several roundings adds
such parts up. They are counted in parts of `2 ^ 60`, so that an error of an error costs no more
than one part.

## Main definitions

* `Binary64.size` — the units of a finite number without its sign.
* `Binary64.Within` — two numbers differ by at most so many parts in `2 ^ 60`.
-/

namespace StoreClient.Binary64

/-! ## Order -/

section

variable {n n' d m : Nat}

theorem roundHalfEven_mono (h : n ≤ n') (d : Nat) :
    roundHalfEven n d ≤ roundHalfEven n' d := by
  have hquotient : n / d ≤ n' / d := Nat.div_le_div_right h
  by_cases heq : n / d = n' / d
  · -- the same quotient, so the rests are compared
    have hrest : n % d ≤ n' % d := by
      have hbefore := Nat.div_add_mod n d
      have hafter := Nat.div_add_mod n' d
      rw [heq] at hbefore
      omega
    simp only [roundHalfEven, heq]
    generalize n' / d = q
    generalize n % d = r at hrest
    generalize n' % d = r' at hrest
    grind
  · calc roundHalfEven n d ≤ n / d + 1 := roundHalfEven_le n d
      _ ≤ n' / d := by omega
      _ ≤ roundHalfEven n' d := le_roundHalfEven n' d

/-- Rounding keeps the order. Where the gap changes, a power of two lies between. -/
theorem roundUnits_mono (hd : 0 < d) (h : n ≤ n') : roundUnits n d ≤ roundUnits n' d := by
  have hquotient : n / d ≤ n' / d := Nat.div_le_div_right h
  by_cases hgap : gap (n / d) = gap (n' / d)
  · simp only [roundUnits, hgap]
    exact Nat.mul_le_mul_right _ (roundHalfEven_mono h _)
  · have hnonzero : n' / d ≠ 0 := by
      intro hzero
      rw [hzero] at hquotient hgap
      exact hgap (by rw [Nat.le_zero.1 hquotient])
    have hpower : Narrow (1 * 2 ^ (n' / d).log2) := narrow_mul_two_pow (by decide) _
    rw [Nat.one_mul] at hpower
    have hbelow : n / d < 2 ^ (n' / d).log2 := by
      rcases Nat.lt_or_ge (n / d) (2 ^ (n' / d).log2) with hlt | hge
      · exact hlt
      · have hpositive := Nat.two_pow_pos (n' / d).log2
        have hlow := two_pow_log2_le hge
        have hhigh : (n / d).log2 < (n' / d).log2 + 1 :=
          (Nat.log2_lt (by omega)).2 (Nat.lt_of_le_of_lt hquotient Nat.lt_log2_self)
        have hlog : (n / d).log2 = (n' / d).log2 := by omega
        exact absurd (by rw [gap, gap, hlog]) hgap
    have habove : 2 ^ (n' / d).log2 ≤ n' / d := Nat.log2_self_le hnonzero
    calc roundUnits n d ≤ 2 ^ (n' / d).log2 := by
          refine hpower.roundUnits_le (Nat.le_of_lt ?_)
          rwa [Nat.mul_comm, ← Nat.div_lt_iff_lt_mul hd]
      _ ≤ roundUnits n' d := by
          refine hpower.le_roundUnits hd ?_
          rwa [Nat.mul_comm, ← Nat.le_div_iff_mul_le hd]

end

/-! ## Size -/

/-- The units of a finite number without its sign. -/
def size : Binary64 → Nat
  | .finite _ m => m.units
  | .nan | .infinite _ => 0

@[simp] theorem size_finite (negative : Bool) (m : Magnitude) :
    (Binary64.finite negative m).size = m.units := rfl

@[simp] theorem size_zero (negative : Bool) : (zero negative).size = 0 := rfl

theorem size_ofNat {k : Nat} (hk : Short k) : (ofNat k).size = k * one := by
  rw [ofNat_eq hk, size_finite]

theorem short_one : Short 1 := short_of_lt (by decide)

theorem one_lt_limit : one < limit := by
  have hlimit := short_one.1
  rwa [Nat.one_mul] at hlimit

/-- What is brought between zero and one keeps its place if it lies there. -/
theorem size_clamp {x : Binary64} {p : Int} (hp : x.place? = some p) :
    (clamp (zero false) (ofNat 1) x).size = (min p one).toNat := by
  have hone := place?_ofNat short_one
  have hlimit := one_lt_limit
  rw [Nat.one_mul] at hone
  rw [clamp, lt_eq_decide hp (place?_zero false), lt_eq_decide hone hp]
  by_cases hlow : p < 0
  · rw [if_pos (decide_eq_true hlow), size_zero]
    omega
  · rw [if_neg (mt of_decide_eq_true hlow)]
    by_cases hhigh : (one : Int) < p
    · rw [if_pos (decide_eq_true hhigh), size_ofNat short_one]
      omega
    · rw [if_neg (mt of_decide_eq_true hhigh)]
      cases x with
      | nan => exact absurd hp (by simp)
      | infinite negative =>
          obtain rfl := Option.some.inj hp
          cases negative <;> simp only [if_true, if_false, Bool.false_eq_true] at hlow hhigh <;>
            omega
      | finite negative m =>
          obtain rfl := Option.some.inj hp
          rw [size_finite]
          cases negative <;>
            simp only [if_true, if_false, Bool.false_eq_true] at hlow hhigh ⊢ <;> omega

/-! ## Accuracy -/

/-- Two numbers differ by at most `k` parts in `2 ^ 60` of the second. -/
structure Within (k a b : Nat) : Prop where
  /-- The first is not much greater. -/
  le : 2 ^ 60 * a ≤ 2 ^ 60 * b + k * b
  /-- The first is not much less. -/
  ge : 2 ^ 60 * b ≤ 2 ^ 60 * a + k * b

section

variable {a b c j k n d m : Nat}

theorem within_refl (k a : Nat) : Within k a a := ⟨Nat.le_add_right _ _, Nat.le_add_right _ _⟩

/-- Errors of errors add up to less than one part. -/
theorem Within.trans (h : Within j a b) (h' : Within k b c) (hsmall : j * k ≤ 2 ^ 60) :
    Within (j + k + 1) a c := by
  have hle := h.le
  have hge := h.ge
  have hle' := h'.le
  have hge' := h'.ge
  have herror : 2 ^ 60 * (j * b) ≤ 2 ^ 60 * (j * c) + 2 ^ 60 * c := by
    calc 2 ^ 60 * (j * b) = j * (2 ^ 60 * b) := Nat.mul_left_comm _ _ _
      _ ≤ j * (2 ^ 60 * c + k * c) := Nat.mul_le_mul_left j hle'
      _ = 2 ^ 60 * (j * c) + j * k * c := by
          rw [Nat.mul_add, Nat.mul_left_comm, Nat.mul_assoc]
      _ ≤ 2 ^ 60 * (j * c) + 2 ^ 60 * c :=
          Nat.add_le_add_left (Nat.mul_le_mul_right c hsmall) _
  constructor
  all_goals
    rw [Nat.add_mul, Nat.add_mul, Nat.one_mul]
    generalize j * b = jb at *
    generalize j * c = jc at *
    generalize k * c = kc at *
    omega

theorem Within.add {a' b' : Nat} (h : Within k a b) (h' : Within k a' b') :
    Within k (a + a') (b + b') := by
  have hle := Nat.add_le_add h.le h'.le
  have hge := Nat.add_le_add h.ge h'.ge
  constructor
  all_goals
    rw [Nat.mul_add k]
    generalize k * b = kb at *
    generalize k * b' = kb' at *
    omega

theorem Within.mul_left (h : Within k a b) (c : Nat) : Within k (c * a) (c * b) := by
  have hle := Nat.mul_le_mul_left c h.le
  have hge := Nat.mul_le_mul_left c h.ge
  simp only [Nat.mul_add, Nat.mul_left_comm c] at hle hge
  exact ⟨hle, hge⟩

theorem Within.of_mul_left (hc : 0 < c) (h : Within k (c * a) (c * b)) : Within k a b := by
  have hle := h.le
  have hge := h.ge
  simp only [Nat.mul_left_comm _ c, ← Nat.mul_add] at hle hge
  exact ⟨Nat.le_of_mul_le_mul_left hle hc, Nat.le_of_mul_le_mul_left hge hc⟩

/-- A rounded quotient is at most half away from the quotient. -/
theorem roundHalfEven_half (hd : 0 < d) (n : Nat) :
    2 * (d * roundHalfEven n d) ≤ 2 * n + d ∧ 2 * n ≤ 2 * (d * roundHalfEven n d) + d := by
  have hdivision := Nat.div_add_mod n d
  have hrest := Nat.mod_lt n hd
  have hsucc := Nat.mul_add_one d (n / d)
  simp only [roundHalfEven]
  generalize n / d = q at *
  split
  · omega
  · split
    · omega
    · split <;> omega

/-- What is less than half above a natural number is rounded to at most that number. -/
theorem roundHalfEven_le_of_lt (hd : 0 < d) (h : 2 * n < d * (2 * m + 1)) :
    roundHalfEven n d ≤ m := by
  have hhalf := (roundHalfEven_half hd n).1
  have hlt : d * roundHalfEven n d < d * (m + 1) := by
    have hodd : d * (2 * m + 1) = 2 * (d * m) + d := by
      rw [Nat.mul_add_one, Nat.mul_left_comm]
    rw [Nat.mul_add_one]
    omega
  exact Nat.le_of_lt_succ (Nat.lt_of_mul_lt_mul_left hlt)

/-- A quotient of 53 bits or more is rounded by at most one part in `2 ^ 53`. -/
theorem within_roundUnits (hd : 0 < d) (h : d * 2 ^ 52 ≤ n) :
    Within 128 (d * roundUnits n d) n := by
  have hquotient : 2 ^ 52 ≤ n / d := (Nat.le_div_iff_mul_le hd).2 (by rwa [Nat.mul_comm])
  have hwidth : 2 ^ 52 * (d * gap (n / d)) ≤ n := by
    calc 2 ^ 52 * (d * gap (n / d)) = d * (2 ^ 52 * gap (n / d)) := Nat.mul_left_comm _ _ _
      _ ≤ d * (n / d) := Nat.mul_le_mul_left d (mul_gap_le hquotient)
      _ ≤ n := Nat.mul_div_le n d
  obtain ⟨hhigh, hlow⟩ := roundHalfEven_half (Nat.mul_pos hd (gap_pos (n / d))) n
  have hround : d * roundUnits n d =
      d * gap (n / d) * roundHalfEven n (d * gap (n / d)) := by
    rw [roundUnits, Nat.mul_assoc, Nat.mul_comm (gap (n / d))]
  rw [hround]
  constructor <;> omega

theorem le_one_of_le (h : n ≤ 2 ^ 100) : n ≤ one :=
  Nat.le_trans h (Nat.pow_le_pow_right (by decide) (by decide))

/-- A quotient of natural numbers is rounded by at most one part in `2 ^ 53`. -/
theorem within_ratio (hd : 0 < d) (hsmall : d * 2 ^ 52 ≤ one) (n : Nat) :
    Within 128 (d * roundUnits (n * one) d) (n * one) := by
  rcases Nat.eq_zero_or_pos n with rfl | hpos
  · rw [Nat.zero_mul, roundUnits_zero, Nat.mul_zero]
    exact within_refl 128 0
  · exact within_roundUnits hd (Nat.le_trans hsmall (Nat.le_mul_of_pos_left one hpos))

end

end StoreClient.Binary64
