import Mathlib.Algebra.Order.Field.Rat
import Mathlib.Algebra.Order.Ring.Cast
import StoreClient.Proofs.Binary64.Bounds

/-!
# Values

A finite number is a rational one, and finite numbers are compared as these. The infinities lie
beyond every finite number, and not-a-number is neither above nor below anything.

## Main definitions

* `Binary64.value?` — the rational number that a finite number is.
-/

namespace StoreClient.Binary64

/-- The rational number that a finite number is; both zeros are zero. -/
def value? : Binary64 → Option ℚ
  | .finite negative m => some (((if negative then -(m.units : Int) else m.units : Int) : ℚ) / one)
  | .nan | .infinite _ => none

variable {x y : Binary64} {p q : ℚ}

/-- The value of a finite number is its place in the order, in units. -/
theorem exists_place_of_value (h : x.value? = some p) :
    ∃ a : Int, x.place? = some a ∧ p = (a : ℚ) / one := by
  cases x with
  | nan | infinite => simp [value?] at h
  | finite negative m => exact ⟨_, rfl, (Option.some.inj h).symm⟩

theorem value?_of_place {a : Int} (hfinite : x.isFinite = true) (h : x.place? = some a) :
    x.value? = some ((a : ℚ) / one) := by
  cases x with
  | nan | infinite => contradiction
  | finite negative m =>
      obtain rfl := Option.some.inj h
      rfl

theorem value?_zero (negative : Bool) : (zero negative).value? = some 0 := by
  rw [value?_of_place rfl (place?_zero negative), Int.cast_zero, zero_div]

theorem value?_ofNat {k : Nat} (hk : Short k) : (ofNat k).value? = some (k : ℚ) := by
  have hfinite : (ofNat k).isFinite = true := by
    rw [ofNat_eq hk]
    rfl
  have hone : ((one : Nat) : ℚ) ≠ 0 := Nat.cast_ne_zero.2 (Nat.two_pow_pos places).ne'
  rw [value?_of_place hfinite (place?_ofNat hk), Int.cast_natCast, Nat.cast_mul,
    mul_div_cancel_right₀ _ hone]

theorem exists_value_of_isFinite (h : x.isFinite = true) : ∃ p, x.value? = some p := by
  cases x with
  | nan | infinite => simp [isFinite] at h
  | finite => exact ⟨_, rfl⟩

theorem isFinite_of_value (h : x.value? = some p) : x.isFinite = true := by
  cases x with
  | nan | infinite => simp [value?] at h
  | finite => rfl

/-! ## Order -/

/-- Finite numbers are compared by their values. -/
theorem lt_iff_of_values (hx : x.value? = some p) (hy : y.value? = some q) :
    x.lt y = true ↔ p < q := by
  obtain ⟨a, ha, rfl⟩ := exists_place_of_value hx
  obtain ⟨b, hb, rfl⟩ := exists_place_of_value hy
  have hone : (0 : ℚ) < (one : Nat) := Nat.cast_pos.2 (Nat.two_pow_pos places)
  rw [lt_eq_decide ha hb, decide_eq_true_eq, div_lt_div_iff_of_pos_right hone, Int.cast_lt]

theorem le_iff_of_values (hx : x.value? = some p) (hy : y.value? = some q) :
    x.le y = true ↔ p ≤ q := by
  obtain ⟨a, ha, rfl⟩ := exists_place_of_value hx
  obtain ⟨b, hb, rfl⟩ := exists_place_of_value hy
  have hone : (0 : ℚ) < (one : Nat) := Nat.cast_pos.2 (Nat.two_pow_pos places)
  rw [le, ha, hb, decide_eq_true_eq, div_le_div_iff_of_pos_right hone, Int.cast_le]

/-- The numbers from zero up to one, but not one. -/
theorem unit_interval_iff : ((zero false).le x = true ∧ x.lt (ofNat 1) = true) ↔
    ∃ p, x.value? = some p ∧ 0 ≤ p ∧ p < 1 := by
  have hzero : (zero false).value? = some 0 := value?_zero false
  have hone : (ofNat 1).value? = some 1 := value?_ofNat (short_of_lt (by decide))
  constructor
  · rintro ⟨hle, hlt⟩
    obtain ⟨p, hp⟩ := exists_value_of_isFinite
      (isFinite_of_between rfl (isFinite_of_value hone) hle hlt)
    exact ⟨p, hp, (le_iff_of_values hzero hp).1 hle, (lt_iff_of_values hp hone).1 hlt⟩
  · rintro ⟨p, hp, hle, hlt⟩
    exact ⟨(le_iff_of_values hzero hp).2 hle, (lt_iff_of_values hp hone).2 hlt⟩

/-- The finite numbers above one. -/
theorem above_one_iff : (x.isFinite = true ∧ (ofNat 1).lt x = true) ↔
    ∃ p, x.value? = some p ∧ 1 < p := by
  have hone : (ofNat 1).value? = some 1 := value?_ofNat (short_of_lt (by decide))
  constructor
  · rintro ⟨hfinite, hlt⟩
    obtain ⟨p, hp⟩ := exists_value_of_isFinite hfinite
    exact ⟨p, hp, (lt_iff_of_values hone hp).1 hlt⟩
  · rintro ⟨p, hp, hlt⟩
    exact ⟨isFinite_of_value hp, (lt_iff_of_values hone hp).2 hlt⟩

/-- A number from zero up to one need not be brought there. -/
theorem clamp_eq_self (hle : (zero false).le x = true) (hlt : x.lt (ofNat 1) = true) :
    clamp (zero false) (ofNat 1) x = x := by
  obtain ⟨p, hp, hzero, hone⟩ := unit_interval_iff.1 ⟨hle, hlt⟩
  have hlow : ¬ x.lt (zero false) = true := by
    rw [lt_iff_of_values hp (value?_zero false)]
    exact not_lt.2 hzero
  have hhigh : ¬ (ofNat 1).lt x = true := by
    rw [lt_iff_of_values (value?_ofNat (short_of_lt (by decide))) hp, Nat.cast_one]
    exact not_lt.2 hone.le
  rw [clamp, if_neg hlow, if_neg hhigh]

end StoreClient.Binary64
