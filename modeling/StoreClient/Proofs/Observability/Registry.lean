import StoreClient.Observability.Metrics
import StoreClient.Proofs.Binary64.Bounds

/-!
# Registries

A measurement moves its own series and no other. A counter has its series for itself, so it goes up
by the number of its measurements; a gauge stands at its last measurement.

## Main definitions

* `Measurement.isCount` — whether a measurement counts something.
* `entriesSeries` — the series of the gauge.
-/

namespace StoreClient.Observability

namespace Measurement

/-- Whether a measurement counts something and does not set a gauge. -/
def isCount : Measurement → Bool
  | .cacheEntries _ => false
  | _ => true

variable {m : Measurement}

/-- A counter has its series for itself. -/
theorem series_eq_iff (h : m.isCount = true) (other : Measurement) :
    other.series = m.series ↔ other = m := by
  cases m <;> cases other <;> simp_all [series, isCount]

theorem update_of_isCount (h : m.isCount = true) (n : Nat) : m.update n = n + 1 := by
  cases m <;> simp_all [update, isCount]

end Measurement

/-- The series of the number of records. -/
def entriesSeries : Series := (Measurement.cacheEntries 0).series

/-- A number of at most 53 bits is shown as it is. -/
theorem shown_entriesSeries {n : Nat} (h : n < 2 ^ 53) : entriesSeries.shown n = n := by
  have hle : Binary64.roundUnits n 1 ≤ n * 2 ^ 0 := Binary64.roundUnits_le_of_le h (by omega)
  have hge : n * 2 ^ 0 ≤ Binary64.roundUnits n 1 :=
    Binary64.le_roundUnits_of_le h Nat.one_pos (by omega)
  have hgauge : entriesSeries.isGauge = true := by decide
  rw [Series.shown, if_pos hgauge]
  omega

namespace Registry

theorem lookup_cons_eq (s t : Series) (n : Nat) (rest : Registry) :
    List.lookup s ((t, n) :: rest) = if s = t then some n else rest.lookup s := by
  by_cases h : s = t <;> simp [List.lookup_cons, h, beq_eq_false_iff_ne.2]

/-- A measurement gives its own series a new value and leaves all others alone. -/
theorem lookup_record (r : Registry) (m : Measurement) (s : Series) :
    (r.record m).lookup s =
      if s = m.series then some (m.update (r.value s)) else r.lookup s := by
  induction r with
  | nil => simp [record, value, lookup_cons_eq]
  | cons e rest ih =>
      obtain ⟨t, n⟩ := e
      by_cases ht : t = m.series
      · by_cases h : s = m.series <;> simp [record, value, lookup_cons_eq, ht, h]
      · by_cases hs : s = t
        · simp [record, ht, hs]
        · simp only [record, ht, if_false, lookup_cons_eq, hs, value] at ih ⊢
          exact ih

/-- A counter goes up by the number of its measurements. -/
theorem value_foldl_record {m : Measurement} (h : m.isCount = true) (ms : List Measurement)
    (registry : Registry) :
    Registry.value (ms.foldl record registry) m.series =
      registry.value m.series + ms.count m := by
  induction ms generalizing registry with
  | nil => rfl
  | cons other ms ih =>
      rw [List.foldl_cons, ih]
      by_cases hm : other = m
      · subst hm
        rw [value_record_self, Measurement.update_of_isCount h, List.count_cons_self]
        omega
      · have hseries : m.series ≠ other.series :=
          fun heq => hm ((Measurement.series_eq_iff h other).1 heq.symm)
        rw [value_record_of_ne _ hseries, List.count_cons_of_ne hm]

/-- Counters leave the gauge alone. -/
theorem lookup_entriesSeries_foldl {ms : List Measurement} (h : ∀ m ∈ ms, m.isCount = true)
    (registry : Registry) :
    List.lookup entriesSeries (ms.foldl record registry) = registry.lookup entriesSeries := by
  induction ms generalizing registry with
  | nil => rfl
  | cons m ms ih =>
      have hseries : entriesSeries ≠ m.series := fun heq => by
        have hentries := (Measurement.series_eq_iff (h m (by simp)) (.cacheEntries 0)).1 heq
        simp [← hentries, Measurement.isCount] at h
      rw [List.foldl_cons, ih fun m hm => h m (by simp [hm]), lookup_record, if_neg hseries]

@[simp] theorem lookup_entriesSeries_record (registry : Registry) (n : Nat) :
    (registry.record (.cacheEntries n)).lookup entriesSeries = some n := by
  exact (lookup_record registry (.cacheEntries n) entriesSeries).trans (if_pos rfl)

theorem mem_shown {registry : Registry} {s : Series} {n : Nat}
    (h : registry.lookup s = some n) : (s.text, s.shown n) ∈ registry.shown := by
  obtain ⟨before, after, rfl, -⟩ := List.lookup_eq_some_iff.1 h
  simp [shown]

end Registry

end StoreClient.Observability
