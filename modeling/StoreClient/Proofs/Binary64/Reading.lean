import StoreClient.Binary64.Layout
import StoreClient.Proofs.Binary64.Bounds

/-!
# Decimals that read back

A decimal is a quotient of natural numbers, and the binary number nearest to it depends on that
quotient alone: neither the shortcuts for very large and very small decimals nor the way in which
the quotient is written make a difference. So the shortest decimal of a number, with or without
zeros at its end, reads back as that number.

## Main definitions

* `Decimal.numerator`, `Decimal.denominator` — a decimal as a quotient.
* `Decimal.Same` — two decimals are the same quotient.
* `Decimal.ReadsAs` — a magnitude is nearest to a decimal.
-/

namespace StoreClient

namespace Binary64

variable {n d n' d' c : Nat} {m : Magnitude} {negative : Bool}

/-! ## Rounding of quotients -/

theorem roundHalfEven_mul (hc : 0 < c) (n d : Nat) :
    roundHalfEven (n * c) (d * c) = roundHalfEven n d := by
  have hquotient : n * c / (d * c) = n / d := Nat.mul_div_mul_right n d hc
  have hrest : n * c % (d * c) = n % d * c := Nat.mul_mod_mul_right c n d
  have hbelow : 2 * (n % d * c) < d * c ↔ 2 * (n % d) < d := by
    rw [← Nat.mul_assoc]
    exact Nat.mul_lt_mul_right hc
  have habove : d * c < 2 * (n % d * c) ↔ d < 2 * (n % d) := by
    rw [← Nat.mul_assoc]
    exact Nat.mul_lt_mul_right hc
  simp only [roundHalfEven, hquotient, hrest, hbelow, habove]

theorem roundUnits_mul (hc : 0 < c) (n d : Nat) : roundUnits (n * c) (d * c) = roundUnits n d := by
  have hquotient : n * c / (d * c) = n / d := Nat.mul_div_mul_right n d hc
  simp only [roundUnits, hquotient]
  rw [Nat.mul_right_comm, roundHalfEven_mul hc]

/-- Equal quotients are rounded to the same number. -/
theorem roundUnits_congr (hd : 0 < d) (hd' : 0 < d') (h : n * d' = n' * d) :
    roundUnits n d = roundUnits n' d' := by
  calc roundUnits n d = roundUnits (n * d') (d * d') := (roundUnits_mul hd' n d).symm
    _ = roundUnits (n' * d) (d' * d) := by rw [h, Nat.mul_comm d]
    _ = roundUnits n' d' := roundUnits_mul hd n' d'

/-- A representable number of units is itself. -/
theorem roundUnits_of_representable (h : Representable n) : roundUnits n 1 = n := by
  obtain ⟨-, significand, shift, hsignificand, rfl⟩ := h
  apply Nat.le_antisymm
  · exact roundUnits_le_of_le hsignificand (Nat.le_of_eq (Nat.one_mul _).symm)
  · exact le_roundUnits_of_le hsignificand Nat.one_pos (Nat.le_of_eq (Nat.one_mul _))

/-- Less than half a unit is nothing. -/
theorem roundUnits_eq_zero (h : 2 * n < d) : roundUnits n d = 0 := by
  have hquotient : n / d = 0 := Nat.div_eq_of_lt (by omega)
  have hrest : n % d = n := Nat.mod_eq_of_lt (by omega)
  have hgap : gap 0 = 1 := by decide
  simp only [roundUnits, hquotient, hgap, Nat.mul_one, roundHalfEven, hrest, if_pos h]

theorem limit_le_roundUnits (hd : 0 < d) (h : d * limit ≤ n) : limit ≤ roundUnits n d := by
  have hle : d * (1 * 2 ^ width) ≤ n := by
    rw [Nat.one_mul]
    exact h
  have hround := le_roundUnits_of_le (by decide) hd hle
  rwa [Nat.one_mul] at hround

theorem ofUnits_eq_infinite (h : limit ≤ roundUnits n d) :
    ofUnits negative n d = .infinite negative := by
  rw [ofUnits, dif_neg (Nat.not_lt.2 h)]

theorem ofUnits_eq_finite_iff :
    ofUnits negative n d = .finite negative m ↔ roundUnits n d = m.units := by
  rw [ofUnits]
  split
  next h =>
    constructor
    · intro heq
      cases heq
      rfl
    · intro heq
      exact congrArg (Binary64.finite negative) (Magnitude.eq_of_units_eq heq)
  next h =>
    constructor
    · intro heq
      contradiction
    · intro heq
      exact absurd (heq ▸ m.representable.1) h

end Binary64

/-! ## Decimals as quotients -/

namespace Decimal

open Binary64

/-- The numerator of a decimal. -/
def numerator (d : Decimal) : Nat := d.digits * 10 ^ d.exponent.toNat

/-- The denominator of a decimal. -/
def denominator (d : Decimal) : Nat := 10 ^ (-d.exponent).toNat

theorem denominator_pos (d : Decimal) : 0 < d.denominator := Nat.pow_pos (by decide)

/-- Two decimals are the same quotient. -/
def Same (d d' : Decimal) : Prop := d.numerator * d'.denominator = d'.numerator * d.denominator

/-- Zeros among the digits may be moved to the exponent. -/
theorem same_shift (digits zeros : Nat) (exponent : Int) :
    Same ⟨digits * 10 ^ zeros, exponent⟩ ⟨digits, exponent + zeros⟩ := by
  have hpowers : zeros + exponent.toNat + (-(exponent + zeros)).toNat =
      (exponent + zeros).toNat + (-exponent).toNat := by omega
  simp only [Same, numerator, denominator]
  rw [Nat.mul_assoc digits, Nat.mul_assoc digits, Nat.mul_assoc digits, ← Nat.pow_add,
    ← Nat.pow_add, ← Nat.pow_add, hpowers]

theorem dropZeros_eq (digits : Nat) :
    digits = (dropZeros digits).1 * 10 ^ (dropZeros digits).2 := by
  fun_induction dropZeros digits with
  | case1 digits h ds zeros hdrop ih =>
      rw [hdrop] at ih
      have hdigits : digits = digits / 10 * 10 := by omega
      calc digits = digits / 10 * 10 := hdigits
        _ = ds * 10 ^ zeros * 10 := by rw [← ih]
        _ = ds * 10 ^ (zeros + 1) := by rw [Nat.mul_assoc, Nat.pow_succ]
  | case2 => rw [Nat.pow_zero, Nat.mul_one]

/-- Trimming does not change the quotient. -/
theorem same_trim (d : Decimal) : Same d d.trim := by
  have hshift := same_shift (dropZeros d.digits).1 (dropZeros d.digits).2 d.exponent
  rw [← dropZeros_eq] at hshift
  exact hshift

/-- A magnitude is nearest to a decimal. -/
def ReadsAs (d : Decimal) (m : Magnitude) : Prop :=
  roundUnits (d.numerator * one) d.denominator = m.units

variable {d d' : Decimal} {m : Magnitude} {negative : Bool}

theorem ReadsAs.of_same (h : d.ReadsAs m) (hsame : Same d d') : d'.ReadsAs m := by
  rw [ReadsAs, ← h]
  refine roundUnits_congr d'.denominator_pos d.denominator_pos ?_
  calc d'.numerator * one * d.denominator = d'.numerator * d.denominator * one :=
        Nat.mul_right_comm _ _ _
    _ = d.numerator * d'.denominator * one := by rw [hsame]
    _ = d.numerator * one * d'.denominator := Nat.mul_right_comm _ _ _

theorem ReadsAs.digits_ne_zero (h : d.ReadsAs m) (hm : m.units ≠ 0) : d.digits ≠ 0 := by
  intro hzero
  apply hm
  rw [← h, numerator, hzero, Nat.zero_mul, Nat.zero_mul, roundUnits_zero]

end Decimal

namespace Binary64

/-! ## Shortcuts -/

theorem two_pow_le_ten_pow {a b : Nat} (h : a ≤ 3 * b) : 2 ^ a ≤ 10 ^ b := by
  calc 2 ^ a ≤ 2 ^ (3 * b) := Nat.pow_le_pow_right (by decide) h
    _ = 8 ^ b := Nat.pow_mul 2 3 b
    _ ≤ 10 ^ b := Nat.pow_le_pow_left (by decide) b

/-- Decimals above `10 ^ 400` exceed every finite number. -/
theorem limit_le_of_exponent {d : Decimal} (hdigits : d.digits ≠ 0) (h : 400 < d.exponent) :
    limit ≤ roundUnits (d.numerator * one) d.denominator := by
  have hdenominator : d.denominator = 1 := by
    rw [Decimal.denominator, Int.toNat_of_nonpos (by omega), Nat.pow_zero]
  have hlarge (a : Nat) (ha : a ≤ 1024) : 2 ^ (a + places) ≤ d.numerator * one := by
    rw [Nat.pow_add, one, Decimal.numerator]
    refine Nat.mul_le_mul_right _ ?_
    calc 2 ^ a ≤ 10 ^ d.exponent.toNat := two_pow_le_ten_pow (by omega)
      _ ≤ d.digits * 10 ^ d.exponent.toNat :=
          Nat.le_mul_of_pos_left _ (Nat.pos_of_ne_zero hdigits)
  refine limit_le_roundUnits d.denominator_pos ?_
  rw [hdenominator, Nat.one_mul, limit, width]
  exact hlarge 1024 (Nat.le_refl _)

/-- Decimals below `10 ^ -400` are nearest to zero. -/
theorem roundUnits_of_exponent {d : Decimal} (h : d.exponent + d.digits.log2 + 1 < -400) :
    roundUnits (d.numerator * one) d.denominator = 0 := by
  have hnumerator : d.numerator = d.digits := by
    rw [Decimal.numerator, Int.toNat_of_nonpos (by omega), Nat.pow_zero, Nat.mul_one]
  have hdigits : d.digits < 2 ^ (d.digits.log2 + 1) := Nat.lt_log2_self
  apply roundUnits_eq_zero
  rw [hnumerator, Decimal.denominator]
  generalize d.digits.log2 = l at h hdigits
  calc 2 * (d.digits * one) < 2 * (2 ^ (l + 1) * one) :=
        Nat.mul_lt_mul_of_pos_left
          (Nat.mul_lt_mul_of_pos_right hdigits (Nat.two_pow_pos places)) (by decide)
    _ = 2 ^ (1 + (l + 1 + places)) := by
        rw [one, ← Nat.pow_add, Nat.pow_add 2 1, Nat.pow_one]
    _ ≤ 10 ^ (-d.exponent).toNat := by
        apply two_pow_le_ten_pow
        rw [places]
        omega

/-- The shortcuts make no difference. -/
theorem ofDecimal_eq_ofRatio (negative : Bool) (d : Decimal) :
    ofDecimal negative d = ofRatio negative d.numerator d.denominator := by
  rw [ofDecimal, ofRatio]
  split
  next hzero =>
    have hround : roundUnits (d.numerator * one) d.denominator = 0 := by
      rw [Decimal.numerator, hzero, Nat.zero_mul, Nat.zero_mul, roundUnits_zero]
    exact (ofUnits_eq_finite_iff.2 hround).symm
  next hdigits =>
    split
    next hlarge =>
      exact (ofUnits_eq_infinite (limit_le_of_exponent hdigits hlarge)).symm
    next hlarge =>
      split
      next hsmall => exact (ofUnits_eq_finite_iff.2 (roundUnits_of_exponent hsmall)).symm
      next hsmall =>
        split
        next hnonneg =>
          have hdenominator : d.denominator = 1 := by
            rw [Decimal.denominator, Int.toNat_of_nonpos (by omega), Nat.pow_zero]
          rw [hdenominator, Decimal.numerator, ofRatio]
        next hneg =>
          have hnumerator : d.numerator = d.digits := by
            rw [Decimal.numerator, Int.toNat_of_nonpos (by omega), Nat.pow_zero, Nat.mul_one]
          rw [hnumerator, Decimal.denominator, ofRatio]

/-- A finite number is read from the decimals that its magnitude is nearest to. -/
theorem ofDecimal_eq_finite_iff {negative : Bool} {d : Decimal} {m : Magnitude} :
    ofDecimal negative d = .finite negative m ↔ d.ReadsAs m := by
  rw [ofDecimal_eq_ofRatio, ofRatio]
  exact ofUnits_eq_finite_iff

/-! ## The shortest decimal -/

namespace Magnitude

variable (m : Magnitude)

theorem readsAs_exact : m.exact.ReadsAs m := by
  have hexponent : (-(-(places : Int))).toNat = places := by omega
  have hnone : (-(places : Int)).toNat = 0 := by omega
  have hpowers : 5 ^ places * one = 10 ^ places := by
    rw [one, ← Nat.mul_pow]
  rw [Decimal.ReadsAs, Decimal.numerator, Decimal.denominator, exact, hexponent, hnone,
    Nat.pow_zero, Nat.mul_one, Nat.mul_assoc, hpowers]
  calc roundUnits (m.units * 10 ^ places) (10 ^ places) = roundUnits m.units 1 := by
        refine roundUnits_congr (Nat.pow_pos (by decide)) Nat.one_pos ?_
        rw [Nat.mul_one]
    _ = m.units := roundUnits_of_representable m.representable

theorem readsAs_of_isReadFrom {m : Magnitude} {d : Decimal} (h : m.isReadFrom d = true) :
    d.ReadsAs m := by
  rw [isReadFrom, beq_iff_eq] at h
  exact ofDecimal_eq_finite_iff.1 h

/-- What the search finds reads back. -/
theorem readsAs_search : m.search.ReadsAs m := by
  rw [search]
  cases hfound : (List.range 17).findSome? fun (extra : Nat) =>
      (m.neighbours (m.leadingExponent - extra)).find? m.isReadFrom with
  | none => exact m.readsAs_exact
  | some d =>
      obtain ⟨extra, -, hd⟩ := List.exists_of_findSome?_eq_some hfound
      exact readsAs_of_isReadFrom (List.find?_some hd)

/-- The shortest decimal of a number reads back. -/
theorem readsAs_shortest : m.shortest.ReadsAs m := by
  rw [shortest]
  split
  next hzero =>
    rw [Decimal.ReadsAs, Decimal.numerator, Nat.zero_mul, Nat.zero_mul, roundUnits_zero, hzero]
  next => exact m.readsAs_search.of_same (Decimal.same_trim _)

end Magnitude

end Binary64

end StoreClient
