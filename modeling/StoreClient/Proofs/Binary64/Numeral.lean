import StoreClient.Text.Digit
import StoreClient.Proofs.Binary64.Reading

/-!
# Numbers in digits

A number that is written for a document has digits before and after a point and no power of ten, and
these digits read back as the number, wherever the point of its shortest decimal lies.

## Main definitions

* `Decimal.IsWhole` — the digits of a natural number, without superfluous zeros.
* `Decimal.IsNumeral` — the digits of a number around a point.
-/

namespace StoreClient

namespace Decimal

open Text Binary64

/-! ## Digits of natural numbers -/

theorem foldl_value (n : Nat) (ds : List Char) :
    ds.foldl (fun n c => 10 * n + (c.toNat - '0'.toNat)) n = n * 10 ^ ds.length + value ds := by
  induction ds generalizing n with
  | nil => simp [value]
  | cons c ds ih =>
      have hvalue : value (c :: ds) = (c.toNat - '0'.toNat) * 10 ^ ds.length + value ds := by
        rw [value, List.foldl_cons, ih]
        simp
      rw [List.foldl_cons, ih, hvalue, List.length_cons, Nat.add_mul, Nat.pow_succ',
        Nat.mul_comm 10, Nat.mul_assoc, Nat.add_assoc]

theorem value_append (a b : List Char) : value (a ++ b) = value a * 10 ^ b.length + value b := by
  rw [value, List.foldl_append, foldl_value]
  rfl

theorem value_zeros (n : Nat) : value (List.replicate n '0') = 0 := by
  induction n with
  | zero => rfl
  | succ n ih =>
      rw [List.replicate_succ', value_append, ih]
      rfl

theorem value_digitChar {d : Nat} (h : d < 10) : value [digitChar d] = d := by
  revert d
  decide

theorem isDigit_digitChar {d : Nat} (h : d < 10) : isDigit 10 (digitChar d) = true := by
  revert d
  decide

theorem digitChar_ne_zero {d : Nat} (h : d < 10) (hpos : d ≠ 0) : digitChar d ≠ '0' := by
  revert d
  decide

/-- The digits of a number denote it. -/
theorem value_digitChars (n : Nat) : value (digitChars n) = n := by
  fun_induction digitChars n with
  | case1 n h => exact value_digitChar h
  | case2 n h ih =>
      rw [value_append, ih, value_digitChar (Nat.mod_lt _ (by decide))]
      simp only [List.length_singleton]
      omega

theorem digitChars_ne_nil (n : Nat) : digitChars n ≠ [] := by
  unfold digitChars
  split <;> simp

theorem isDigit_of_mem_digitChars {n : Nat} : ∀ c ∈ digitChars n, isDigit 10 c = true := by
  fun_induction digitChars n with
  | case1 n h =>
      intro c hc
      obtain rfl := List.mem_singleton.1 hc
      exact isDigit_digitChar h
  | case2 n h ih =>
      intro c hc
      rcases List.mem_append.1 hc with hc | hc
      · exact ih c hc
      · obtain rfl := List.mem_singleton.1 hc
        exact isDigit_digitChar (Nat.mod_lt _ (by decide))

theorem head?_digitChars {n : Nat} (hpos : n ≠ 0) : (digitChars n).head? ≠ some '0' := by
  fun_induction digitChars n with
  | case1 n h =>
      rw [List.head?_cons]
      exact fun heq => digitChar_ne_zero h hpos (Option.some.inj heq)
  | case2 n h ih =>
      have hfront := ih (by omega)
      cases hds : digitChars (n / 10) with
      | nil => exact absurd hds (digitChars_ne_nil _)
      | cons c cs =>
          rw [hds] at hfront
          exact hfront

/-- The digits of a natural number, without superfluous zeros at their front. -/
structure IsWhole (ds : List Char) : Prop where
  /-- There are digits only. -/
  digits : ∀ c ∈ ds, isDigit 10 c = true
  /-- There are some. -/
  nonempty : ds ≠ []
  /-- A zero stands alone. -/
  front : ds = ['0'] ∨ ds.head? ≠ some '0'

theorem isWhole_zero : IsWhole ['0'] := by
  refine ⟨?_, by simp, .inl rfl⟩
  intro c hc
  obtain rfl := List.mem_singleton.1 hc
  rfl

theorem isWhole_digitChars (n : Nat) : IsWhole (digitChars n) := by
  refine ⟨isDigit_of_mem_digitChars, digitChars_ne_nil n, ?_⟩
  by_cases h : n = 0
  · subst h
    left
    rw [digitChars]
    rfl
  · exact .inr (head?_digitChars h)

/-! ## Digits around a point -/

/-- A text is the digits of a number before and after a point, and it reads back as a magnitude. -/
structure IsNumeral (cs whole fraction : List Char) (m : Magnitude) : Prop where
  /-- The digits stand around a point. -/
  eq : cs = whole ++ '.' :: fraction
  /-- There are some before the point. -/
  isWhole : IsWhole whole
  /-- There are some after the point. -/
  nonempty : fraction ≠ []
  /-- There are digits only after the point. -/
  digits : ∀ c ∈ fraction, isDigit 10 c = true
  /-- They read back. -/
  readsAs : (ofParts whole fraction 0).ReadsAs m

theorem Same.symm {d d' : Decimal} (h : Same d d') : Same d' d := Eq.symm h

theorem isDigit_of_mem_zeros {n : Nat} : ∀ c ∈ Layout.zeros n, isDigit 10 c = true := by
  intro c hc
  rw [List.eq_of_mem_replicate hc]
  rfl

variable {d : Decimal} {m : Magnitude}

/-- Digits that denote the same number with as many of them after the point as the exponent tells
are the decimal itself. -/
theorem ofParts_eq {whole fraction : List Char} (hvalue : value (whole ++ fraction) = d.digits)
    (hexponent : d.exponent = -fraction.length) : ofParts whole fraction 0 = d := by
  obtain ⟨digits, exponent⟩ := d
  simp only [ofParts, hvalue, Decimal.mk.injEq, true_and]
  exact (Int.zero_sub _).trans hexponent.symm

/-! ### Places of the point -/

section

variable {ds : List Char} {n : Nat}

/-- All digits stand after the point, behind zeros. -/
theorem isNumeral_behind (hds : IsWhole ds) (hvalue : value ds = d.digits) (h : d.ReadsAs m)
    (hexponent : d.exponent = -((n : Int) + ds.length)) :
    IsNumeral ('0' :: '.' :: (Layout.zeros n ++ ds)) ['0'] (Layout.zeros n ++ ds) m := by
  have hfront : ['0'] ++ Layout.zeros n = Layout.zeros (n + 1) := rfl
  have hzeros : value (['0'] ++ (Layout.zeros n ++ ds)) = d.digits := by
    rw [← List.append_assoc, hfront, value_append, Layout.zeros, value_zeros, hvalue,
      Nat.zero_mul, Nat.zero_add]
  have hlength : d.exponent = -(Layout.zeros n ++ ds).length := by
    rw [List.length_append, Layout.zeros, List.length_replicate]
    omega
  refine ⟨rfl, isWhole_zero, ?_, ?_, ?_⟩
  · simp [hds.nonempty]
  · intro c hc
    rcases List.mem_append.1 hc with hc | hc
    · exact isDigit_of_mem_zeros c hc
    · exact hds.digits c hc
  · rw [ofParts_eq hzeros hlength]
    exact h

/-- The point stands among the digits. -/
theorem isNumeral_inside (hds : IsWhole ds) (hhead : ds.head? ≠ some '0')
    (hvalue : value ds = d.digits) (h : d.ReadsAs m) (hpos : 0 < n) (hlt : n < ds.length)
    (hexponent : d.exponent = (n : Int) - ds.length) :
    IsNumeral (ds.take n ++ '.' :: ds.drop n) (ds.take n) (ds.drop n) m := by
  have hjoined : value (ds.take n ++ ds.drop n) = d.digits := by
    rw [List.take_append_drop, hvalue]
  have hlength : d.exponent = -(ds.drop n).length := by
    rw [List.length_drop]
    omega
  refine ⟨rfl, ⟨fun c hc => hds.digits c (List.mem_of_mem_take hc), ?_, .inr ?_⟩, ?_, ?_, ?_⟩
  · intro hnil
    rcases List.take_eq_nil_iff.1 hnil with hzero | hzero
    · omega
    · exact hds.nonempty hzero
  · rw [List.head?_take, if_neg (by omega)]
    exact hhead
  · intro hnil
    have hle := List.drop_eq_nil_iff.1 hnil
    omega
  · exact fun c hc => hds.digits c (List.mem_of_mem_drop hc)
  · rw [ofParts_eq hjoined hlength]
    exact h

/-- Zeros fill up the places before the point, and one stands after it. -/
theorem isNumeral_before (hds : IsWhole ds) (hhead : ds.head? ≠ some '0')
    (hvalue : value ds = d.digits) (h : d.ReadsAs m) (hexponent : d.exponent = n) :
    IsNumeral (ds ++ Layout.zeros n ++ ['.', '0']) (ds ++ Layout.zeros n) ['0'] m := by
  have hzeros : Layout.zeros n ++ ['0'] = Layout.zeros (n + 1) := List.replicate_succ'.symm
  have hfilled : value (ds ++ Layout.zeros n ++ ['0']) = d.digits * 10 ^ (n + 1) := by
    rw [List.append_assoc, hzeros, value_append, hvalue, Layout.zeros, value_zeros,
      List.length_replicate, Nat.add_zero]
  have hsame : Same (ofParts (ds ++ Layout.zeros n) ['0'] 0) d := by
    have hshift := same_shift d.digits (n + 1) (-1)
    have hplace : -1 + ((n + 1 : Nat) : Int) = d.exponent := by omega
    rw [hplace] at hshift
    rw [ofParts, hfilled]
    exact hshift
  refine ⟨rfl, ⟨?_, by simp [hds.nonempty], .inr ?_⟩, by simp, isWhole_zero.digits, ?_⟩
  · intro c hc
    rcases List.mem_append.1 hc with hc | hc
    · exact hds.digits c hc
    · exact isDigit_of_mem_zeros c hc
  · cases ds with
    | nil => exact absurd rfl hds.nonempty
    | cons c cs => exact hhead
  · exact h.of_same hsame.symm

end

/-- The digits of a decimal with its point in the place that its exponent gives, filled up with
zeros, read back as it does. -/
theorem exists_isNumeral_positionally (h : d.ReadsAs m) (hdigits : d.digits ≠ 0) :
    ∃ whole fraction, IsNumeral (Layout.document.positionally (digitChars d.digits)
      (d.exponent + (digitChars d.digits).length)) whole fraction m := by
  have hvalue := value_digitChars d.digits
  have hds := isWhole_digitChars d.digits
  have hhead := head?_digitChars hdigits
  generalize digitChars d.digits = ds at hvalue hds hhead
  generalize hpoint : d.exponent + ds.length = point
  rw [Layout.positionally]
  by_cases hbehind : point ≤ 0
  · rw [if_pos hbehind]
    exact ⟨_, _, isNumeral_behind hds hvalue h (by omega)⟩
  · rw [if_neg hbehind]
    by_cases hinside : point < ds.length
    · rw [if_pos hinside]
      exact ⟨_, _, isNumeral_inside hds hhead hvalue h (by omega) (by omega) (by omega)⟩
    · rw [if_neg hinside]
      exact ⟨_, _, isNumeral_before hds hhead hvalue h (by omega)⟩

/-- **What is written reads back.** A magnitude in a document is written in digits around a point
that it is nearest to. -/
theorem exists_isNumeral (m : Magnitude) :
    ∃ whole fraction, IsNumeral (Layout.document.magnitude m) whole fraction m := by
  rw [Layout.magnitude]
  by_cases hzero : m.units = 0
  · rw [if_pos hzero]
    refine ⟨['0'], ['0'], rfl, isWhole_zero, by simp, isWhole_zero.digits, ?_⟩
    have hdigits : value (['0'] ++ ['0']) = 0 := rfl
    rw [ReadsAs, numerator, ofParts, hdigits, Nat.zero_mul, Nat.zero_mul, roundUnits_zero, hzero]
  · rw [if_neg hzero]
    have hreads := m.readsAs_shortest
    have hpoint (n : Int) : n - 1 + 1 = n := by omega
    simp only [Layout.document, if_true, hpoint]
    exact exists_isNumeral_positionally hreads (hreads.digits_ne_zero hzero)

end Decimal

end StoreClient
