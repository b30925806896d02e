import StoreClient.Binary64.Basic

/-!
# Rounding and arithmetic

Every operation computes its exact result as a quotient of natural numbers and rounds it once, to
the nearest representable number and from the middle to the one with an even significand. A result
at or beyond `2 ^ 1024` after rounding is infinite.
-/

namespace StoreClient.Binary64

/-- The quotient `n / d` rounded to the nearest natural number, a half to the even neighbour. -/
def roundHalfEven (n d : Nat) : Nat :=
  let q := n / d
  let r := n % d
  if 2 * r < d then q
  else if d < 2 * r then q + 1
  else if q % 2 = 0 then q else q + 1

theorem roundHalfEven_le (n d : Nat) : roundHalfEven n d ≤ n / d + 1 := by
  simp only [roundHalfEven]
  split
  · omega
  · split
    · omega
    · split <;> omega

/-- The distance between representable numbers of about `n` units. -/
def gap (n : Nat) : Nat := 2 ^ (n.log2 - 52)

theorem gap_pos (n : Nat) : 0 < gap n := Nat.two_pow_pos _

theorem lt_mul_gap (n : Nat) : n < 2 ^ 53 * gap n := by
  have h : n < 2 ^ (n.log2 + 1) := Nat.lt_log2_self
  have h₂ : 2 ^ (n.log2 + 1) ≤ 2 ^ (53 + (n.log2 - 52)) :=
    Nat.pow_le_pow_right (by omega) (by omega)
  rw [gap, ← Nat.pow_add]
  omega

/-- The number of units nearest to the quotient `n / d` of units, without a bound on its size. -/
def roundUnits (n d : Nat) : Nat :=
  let g := gap (n / d)
  roundHalfEven n (d * g) * g

theorem exists_significand_roundUnits (n d : Nat) :
    ∃ significand shift, significand < 2 ^ 53 ∧ roundUnits n d = significand * 2 ^ shift := by
  have hq : n / (d * gap (n / d)) < 2 ^ 53 := by
    rw [← Nat.div_div_eq_div_mul]
    exact Nat.div_lt_of_lt_mul (by rw [Nat.mul_comm]; exact lt_mul_gap _)
  have hr := roundHalfEven_le n (d * gap (n / d))
  by_cases h : roundHalfEven n (d * gap (n / d)) < 2 ^ 53
  · exact ⟨_, _, h, rfl⟩
  -- rounding up to the next power of two gains a bit, and the significand halves
  · refine ⟨2 ^ 52, (n / d).log2 - 52 + 1, by omega, ?_⟩
    have he : roundHalfEven n (d * gap (n / d)) = 2 ^ 53 := by omega
    simp only [roundUnits]
    rw [he, gap, ← Nat.pow_add, ← Nat.pow_add]
    congr 1
    omega

/-- The number nearest to the quotient `n / d` of units. -/
def ofUnits (negative : Bool) (n d : Nat) : Binary64 :=
  if h : roundUnits n d < limit then
    .finite negative ⟨roundUnits n d, h, exists_significand_roundUnits n d⟩
  else .infinite negative

/-- The number nearest to `n / d`. -/
def ofRatio (negative : Bool) (n d : Nat) : Binary64 := ofUnits negative (n * one) d

/-- The number nearest to a natural number. -/
def ofNat (n : Nat) : Binary64 := ofRatio false n 1

/-- The number nearest to an integer. -/
def ofInt (i : Int) : Binary64 := ofRatio (i < 0) i.natAbs 1

/-- The number nearest to the sum. A sum of exact value zero is positive unless both terms are
negative. -/
def add : Binary64 → Binary64 → Binary64
  | .nan, _ => .nan
  | _, .nan => .nan
  | .infinite s, .infinite t => if s = t then .infinite s else .nan
  | .infinite s, .finite _ _ => .infinite s
  | .finite _ _, .infinite t => .infinite t
  | .finite s a, .finite t b =>
    if s = t then ofUnits s (a.units + b.units) 1
    else if a.units = b.units then zero false
    else if a.units < b.units then ofUnits t (b.units - a.units) 1
    else ofUnits s (a.units - b.units) 1

/-- The number nearest to the product. -/
def mul : Binary64 → Binary64 → Binary64
  | .nan, _ => .nan
  | _, .nan => .nan
  | .infinite s, .infinite t => .infinite (s != t)
  | .infinite s, .finite t b => if b.units = 0 then .nan else .infinite (s != t)
  | .finite s a, .infinite t => if a.units = 0 then .nan else .infinite (s != t)
  | .finite s a, .finite t b => ofUnits (s != t) (a.units * b.units) one

/-- The number nearest to the quotient. -/
def div : Binary64 → Binary64 → Binary64
  | .nan, _ => .nan
  | _, .nan => .nan
  | .infinite _, .infinite _ => .nan
  | .infinite s, .finite t _ => .infinite (s != t)
  | .finite s _, .infinite t => zero (s != t)
  | .finite s a, .finite t b =>
    if b.units = 0 then if a.units = 0 then .nan else .infinite (s != t)
    else ofUnits (s != t) (a.units * one) b.units

instance : Add Binary64 := ⟨add⟩

instance : Mul Binary64 := ⟨mul⟩

instance : Div Binary64 := ⟨div⟩

end StoreClient.Binary64
