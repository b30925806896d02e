import StoreClient.Text.Digit
import StoreClient.Text.Reader

/-!
# What readers take

A reader of a single character takes that character or declines; a reader of a run takes the
characters up to the first one that fails its test.

## Main definitions

* `Ended` — a run of characters is not continued.
-/

namespace StoreClient.Text

variable {test : Char → Bool} {c expected : Char} {cs ds rest : List Char}

/-! ## Runs -/

/-- A text does not begin with a character of the class. -/
def Ended (test : Char → Bool) (rest : List Char) : Prop :=
  ∀ c, rest.head? = some c → test c = false

theorem ended_nil : Ended test [] := by simp [Ended]

theorem ended_cons (hc : test c = false) : Ended test (c :: rest) := by simp [Ended, hc]

theorem Ended.mono {wider : Char → Bool} (h : Ended wider rest)
    (hsub : ∀ c, test c = true → wider c = true) : Ended test rest := by
  intro c hc
  cases htest : test c with
  | false => rfl
  | true =>
      have hwider : wider c = false := h c hc
      rw [hsub c htest] at hwider
      contradiction

theorem ended_dropWhile (cs : List Char) : Ended test (cs.dropWhile test) := by
  intro c hc
  have hhead := List.head?_dropWhile_not test cs
  rwa [hc] at hhead

theorem takeWhile_append_of_ended (hds : ∀ d ∈ ds, test d = true) (h : Ended test rest) :
    (ds ++ rest).takeWhile test = ds := by
  rw [List.takeWhile_append_of_pos hds]
  cases rest with
  | nil => simp
  | cons c rest => simp [h c rfl]

theorem dropWhile_append_of_ended (hds : ∀ d ∈ ds, test d = true) (h : Ended test rest) :
    (ds ++ rest).dropWhile test = rest := by
  rw [List.dropWhile_append_of_pos hds]
  cases rest with
  | nil => rfl
  | cons c rest => simp [h c rfl]

/-- A run ends before the first character that fails the test. -/
theorem run?_append (hds : ∀ d ∈ ds, test d = true) (hne : ds ≠ []) (hc : test c = false) :
    run? test (ds ++ c :: rest) = some (ds, c :: rest) := by
  have h : Ended test (c :: rest) := ended_cons hc
  rw [run?, takeWhile_append_of_ended hds h, dropWhile_append_of_ended hds h]
  cases ds with
  | nil => exact absurd rfl hne
  | cons => rfl

/-- Where runs of characters and other items are read in turn, the first character of a run may as
well be read apart. -/
theorem many_run?_cons {other : Reader (List Char)} (hc : test c = true) (cs : List Char) :
    let part : Reader (List Char) := fun cs => run? test cs <|> other cs
    (many part (c :: cs)).1.flatten = c :: (many part cs).1.flatten ∧
      (many part (c :: cs)).2 = (many part cs).2 := by
  intro part
  have hfirst : part (c :: cs) = some (c :: cs.takeWhile test, cs.dropWhile test) := by
    simp [part, run?, hc]
  have hle : (cs.dropWhile test).length ≤ cs.length := (List.dropWhile_suffix test).length_le
  have hsplit : cs.takeWhile test ++ cs.dropWhile test = cs := List.takeWhile_append_dropWhile
  rw [many_of_eq_some hfirst (Nat.lt_succ_of_le hle)]
  cases hrun : cs.takeWhile test with
  | nil =>
      rw [hrun, List.nil_append] at hsplit
      rw [hsplit]
      exact ⟨rfl, rfl⟩
  | cons d ds =>
      have hpart : part cs = some (d :: ds, cs.dropWhile test) := by simp [part, run?, hrun]
      have hshorter : (cs.dropWhile test).length < cs.length := by
        have hlength := congrArg List.length hsplit
        rw [hrun, List.length_append, List.length_cons] at hlength
        omega
      rw [many_of_eq_some hpart hshorter]
      exact ⟨rfl, rfl⟩

/-! ## Characters and words -/

theorem char?_eq_some_iff : char? expected cs = some rest ↔ cs = expected :: rest := by
  cases cs with
  | nil => simp [char?]
  | cons c cs =>
      by_cases h : c = expected <;> simp [char?, h]

theorem char?_self (c : Char) (cs : List Char) : char? c (c :: cs) = some cs := if_pos rfl

theorem char?_of_ne (h : c ≠ expected) : char? expected (c :: rest) = none := if_neg h

theorem word?_of_ne {more : List Char} (h : c ≠ expected) :
    word? (expected :: more) (c :: rest) = none := by
  rw [word?, char?_of_ne h]
  rfl

/-! ## What need not be there -/

theorem optional_of_eq_none {α : Type} {item : Reader α} (h : item cs = none) :
    optional item cs = (none, cs) := by
  rw [optional, h]

theorem optional_of_eq_some {α : Type} {item : Reader α} {a : α} (h : item cs = some (a, rest)) :
    optional item cs = (some a, rest) := by
  rw [optional, h]

/-! ## Digits -/

/-- Digits of a radix are digits of every greater one. -/
theorem isDigit_mono {radix greater : Nat} (h : radix ≤ greater) (hc : isDigit radix c = true) :
    isDigit greater c = true := by
  simp only [isDigit, digit?, Option.isSome_ite] at hc ⊢
  by_cases hdecimal : '0' ≤ c ∧ c ≤ '9'
  · rw [if_pos hdecimal] at hc ⊢
    omega
  · rw [if_neg hdecimal] at hc ⊢
    by_cases hlower : 'a' ≤ c ∧ c ≤ 'f'
    · rw [if_pos hlower] at hc ⊢
      omega
    · rw [if_neg hlower] at hc ⊢
      by_cases hupper : 'A' ≤ c ∧ c ≤ 'F'
      · rw [if_pos hupper] at hc ⊢
        omega
      · rw [if_neg hupper] at hc
        omega

/-- Where no hexadecimal digit follows, no decimal one does. -/
theorem Ended.decimal (h : Ended (isDigit 16) rest) : Ended (isDigit 10) rest :=
  h.mono fun _ hc => isDigit_mono (by decide) hc

/-- A digit is none of the characters that begin other things. -/
theorem ne_of_isDigit (hc : isDigit 10 c = true) {other : Char}
    (hother : isDigit 10 other = false) : c ≠ other := by
  rintro rfl
  rw [hc] at hother
  contradiction

end StoreClient.Text
