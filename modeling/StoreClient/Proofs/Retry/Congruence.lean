import StoreClient.Retry.Loop

/-!
# Relations between retried calls

Outside its attempts and its waits a retried call does little: it notes events and comes to an end.
A relation between procedures that holds of equal ends and survives the noting of an event is
therefore carried through a whole call by its attempts and its waits.

## Main definitions

* `Congruence` — a relation between procedures that holds of equal ends and survives events.
-/

namespace StoreClient.Retry

variable {τ ρ ε α : Type}

/-- A relation between procedures, for a caller who has given up or not, that holds of equal ends
and survives the noting of an event. -/
structure Congruence (R : Bool → Procedure τ ρ ε α → Procedure τ ρ ε α → Prop) : Prop where
  /-- It holds of equal ends. -/
  finish : ∀ (cancelled : Bool) (ending : Ending (RetryError ε) α),
    R cancelled (.finish ending) (.finish ending)
  /-- It survives an event that both procedures note. -/
  report : ∀ (cancelled : Bool) (event : Event) (p q : Procedure τ ρ ε α),
    R cancelled p q → R cancelled (.report event p) (.report event q)

namespace Congruence

variable {R : Bool → Procedure τ ρ ε α → Procedure τ ρ ε α → Prop} (hR : Congruence R)

include hR

theorem rel_succeed (cancelled : Bool) (made : Nat) (value : α) :
    R cancelled (succeed made value) (succeed made value) := by
  simp only [succeed]
  split
  · exact hR.report _ _ _ _ (hR.finish _ _)
  · exact hR.finish _ _

theorem rel_fail (cancelled gaveUp : Bool) (error : RetryError ε) :
    R cancelled (fail gaveUp error) (fail gaveUp error) := by
  simp only [fail]
  split
  · exact hR.finish _ _
  · exact hR.report _ _ _ _ (hR.finish _ _)

variable [Reported ε] {policy : Policy}

theorem rel_exhaust (cancelled : Bool) (made : Nat) (last : ε) :
    R cancelled (exhaust policy made last) (exhaust policy made last) :=
  hR.report _ _ _ _ (hR.finish _ _)

/-- A relation that survives the same draw and the same wait survives the wait between attempts. -/
theorem rel_backOff
    (hdraw : ∀ bound p q, (∀ n, R false (p n) (q n)) → R false (.draw bound p) (.draw bound q))
    (hwait : ∀ pause p q, (∀ cancelled, R cancelled (p cancelled) (q cancelled)) →
      R false (.wait pause p) (.wait pause q))
    (made : Nat) (backoff : Backoff) (e : ε) (p q : Procedure τ ρ ε α) (h : R false p q) :
    R false (backOff policy made backoff e p) (backOff policy made backoff e q) := by
  refine hdraw _ _ _ fun n => hR.report _ _ _ _ (hwait _ _ _ fun cancelled => ?_)
  cases cancelled with
  | true => exact hR.finish _ _
  | false => exact h

variable {attempt attempt' : Attempt τ ρ ε α}
  (hattempt : ∀ next next', (∀ cancelled judgement,
      R cancelled (next cancelled judgement) (next' cancelled judgement)) →
    R false (attempt next) (attempt' next'))
  (hbackOff : ∀ made backoff e p q, R false p q →
    R false (backOff policy made backoff e p) (backOff policy made backoff e q))

include hattempt hbackOff

theorem rel_attempts (room : Nat) (backoff : Backoff) :
    R false (attempts policy attempt room backoff) (attempts policy attempt' room backoff) := by
  induction room generalizing backoff with
  | zero => exact hR.finish _ _
  | succ room ih =>
      refine hR.report _ _ _ _ (hattempt _ _ fun cancelled judgement => ?_)
      cases judgement with
      | success value => exact hR.rel_succeed _ _ _
      | fatal error => exact hR.rel_fail _ _ _
      | conflict e =>
          refine hR.report _ _ _ _ ?_
          cases cancelled with
          | true => exact hR.finish _ _
          | false =>
              simp only [Bool.false_eq_true, if_false]
              split
              · exact hR.rel_exhaust _ _ _
              · exact hbackOff _ _ _ _ _ (ih _)

/-- A relation holds of retried calls if it survives their attempts and their waits. -/
theorem rel_retry (cancelled : Bool) :
    R cancelled (retry policy cancelled attempt) (retry policy cancelled attempt') := by
  simp only [retry]
  split
  · exact hR.finish _ _
  · cases cancelled with
    | true => exact hR.finish _ _
    | false => exact hR.rel_attempts hattempt hbackOff _ _

end Congruence

end StoreClient.Retry
