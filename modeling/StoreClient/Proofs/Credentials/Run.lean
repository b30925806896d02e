import Mathlib.Data.List.Induction
import StoreClient.Proofs.Credentials.Change

/-!
# Runs of a cache

A run is a sequence of actions that happen one after the other, in any order that the cache allows.
Whatever a single change keeps, a run keeps.
-/

namespace StoreClient.Credentials

namespace Cache

variable {c d : Cache} {as : List Action} {i : Nat}

/-- What a sequence of actions makes of a cache; none if one of them cannot happen. -/
def run (c : Cache) (as : List Action) : Option Cache := as.foldlM act c

@[simp] theorem run_nil (c : Cache) : c.run [] = some c := rfl

theorem run_concat (c : Cache) (as : List Action) (a : Action) :
    c.run (as ++ [a]) = (c.run as).bind (·.act a) := by
  simp [run, List.foldlM_append]

/-- A run is its first actions, then the others. -/
theorem run_append_eq_some {bs : List Action} :
    c.run (as ++ bs) = some d ↔ ∃ e, c.run as = some e ∧ e.run bs = some d := by
  simp [run, List.foldlM_append, Option.bind_eq_some_iff]

/-- A run is its first actions, then the last one. -/
theorem run_concat_eq_some {a : Action} :
    c.run (as ++ [a]) = some d ↔ ∃ e, c.run as = some e ∧ e.act a = some d := by
  simp [run_concat, Option.bind_eq_some_iff]

/-- **Induction along a run.** What holds before any action, and of a run with one more action if it
holds of the run, holds of every run. -/
theorem run_induction {P : List Action → Cache → Prop} (start : P [] c)
    (step : ∀ as a d d', c.run as = some d → P as d → Change d a d' → P (as ++ [a]) d') :
    ∀ as d, c.run as = some d → P as d := by
  intro as
  induction as using List.reverseRecOn with
  | nil =>
      intro d h
      simp only [run_nil, Option.some.injEq] at h
      exact h ▸ start
  | append_singleton as a ih =>
      intro d' h
      obtain ⟨d, hd, ha⟩ := run_concat_eq_some.1 h
      exact step as a d d' hd (ih d hd) (.of_act ha)

/-- An invariant of all changes holds at the end of every run from where it holds. -/
theorem invariant_of_run {P : Cache → Prop} (step : ∀ a d d', P d → Change d a d' → P d')
    (h : c.run as = some d) (start : P c) : P d :=
  run_induction (P := fun _ d => P d) start (fun _ a d d' _ => step a d d') as d h

end Cache

/-- Whether a call in this phase does not come to the lock any more. -/
def Phase.Past (p : Phase) : Prop :=
  (∃ since, p = .issuing since) ∨ ∃ result, p = .done result

theorem Call.not_past {call : Call} {access : Access} (h : call.access? = some access) :
    ¬ call.phase.Past := by
  rintro (⟨since, hp⟩ | ⟨result, hp⟩) <;> simp [Call.access?, hp] at h

namespace Change

open Cache

variable {c c' : Cache} {a : Action} {i : Nat}

/-- The settings do not change. -/
theorem settings_eq (h : Change c a c') : c'.settings = c.settings := by
  cases h <;> rfl

theorem lifetime_eq (h : Change c a c') (key : Key) : c'.lifetime key = c.lifetime key := by
  simp only [Cache.lifetime, h.settings_eq]

/-- Time does not go back. -/
theorem now_le (h : Change c a c') : c.now.nanoseconds ≤ c'.now.nanoseconds := by
  cases h with
  | advance reach =>
      have := Instant.nanoseconds_of_add?_eq_some reach
      simp only
      omega
  | _ => exact Int.le_refl _

/-- A call keeps asking for the same. -/
theorem request?_eq_some {request : Request} (h : Change c a c')
    (hr : c.request? i = some request) : c'.request? i = some request := by
  cases h with
  | start =>
      rw [request?_start]
      split
      · rename_i hlt
        simp [request?, hlt] at hr
      · exact hr
  | cancel => simpa using hr
  | advance => exact hr
  | queue | miss | ask | finish => simpa using hr

/-- A call that is past the lock stays in its phase until it ends. -/
theorem past {p : Phase} (h : Change c a c') (hi : c.phase? i = some p) (hp : p.Past) :
    c'.phase? i = some p ∨ ∃ call result events records, c.calls[i]? = some call ∧
      Outcome c i a call result events records ∧ c' = c.ended i result events records := by
  have hother {j : Nat} {call : Call} {access : Access} (at_j : c.calls[j]? = some call)
      (turn : call.access? = some access) : j ≠ i := by
    rintro rfl
    obtain rfl := Option.some.inj (hi.symm.trans (phase?_of_getElem? at_j))
    exact Call.not_past turn hp
  cases h with
  | start =>
      have hne : i ≠ c.calls.length := Nat.ne_of_lt (lt_length_of_phase?_eq_some hi)
      exact .inl (by rw [phase?_start, if_neg hne, hi])
  | cancel => exact .inl (by rw [phase?_cancel, hi])
  | advance => exact .inl hi
  | queue at_j _ turn => exact .inl (by rw [phase?_moved, if_neg (hother at_j turn), hi])
  | miss at_j admitted | ask at_j admitted =>
      exact .inl (by rw [phase?_moved, if_neg (hother at_j admitted.access), hi])
  | @finish _ j call result events records at_j outcome =>
      by_cases hj : j = i
      · subst hj
        exact .inr ⟨call, result, events, records, at_j, outcome, rfl⟩
      · exact .inl (by rw [phase?_ended, if_neg hj, hi])

/-- A call that is over has been over before or has just ended. -/
theorem done_before {result : Result} (h : Change c a c')
    (hi : c'.phase? i = some (.done result)) :
    c.phase? i = some (.done result) ∨ ∃ call events records, c.calls[i]? = some call ∧
      Outcome c i a call result events records ∧ c' = c.ended i result events records := by
  cases h with
  | start =>
      rcases phase?_start_eq_some hi with ⟨-, hready⟩ | hi
      · simp at hready
      · exact .inl hi
  | cancel => exact .inl (by rwa [phase?_cancel] at hi)
  | advance => exact .inl hi
  | queue | miss | ask =>
      rcases phase?_moved_eq_some hi with ⟨-, hother⟩ | ⟨-, hi⟩
      · simp at hother
      · exact .inl hi
  | @finish _ j call _ events records at_j outcome =>
      rcases phase?_ended_eq_some hi with ⟨rfl, hdone⟩ | ⟨-, hi⟩
      · obtain rfl := Phase.done.inj hdone
        exact .inr ⟨call, events, records, at_j, outcome, rfl⟩
      · exact .inl hi

end Change

/-- An action ends a call with a result. -/
structure Ends (c : Cache) (a : Action) (c' : Cache) (i : Nat) (result : Result) : Prop where
  happens : c.act a = some c'
  before : c.phase? i ≠ some (.done result)
  after : c'.phase? i = some (.done result)

theorem Ends.outcome {c c' : Cache} {a : Action} {i : Nat} {result : Result}
    (h : Ends c a c' i result) : ∃ call events records, c.calls[i]? = some call ∧
      Outcome c i a call result events records ∧ c' = c.ended i result events records :=
  ((Change.of_act h.happens).done_before h.after).resolve_left h.before

end StoreClient.Credentials
