import StoreClient.Binary64.Rounding

/-!
# Metrics

A measurement updates one series: a counter goes up by one, a gauge takes a new value. The registry
holds the series that were touched. It is shown as a list of texts and integers of 64 bits, to which
the value of a gauge comes by way of a floating-point number.
-/

namespace StoreClient.Observability

/-- A named sequence of values, told apart from others of its name by one label. -/
structure Series where
  /-- The name of the metric. -/
  name : String
  /-- The label and its value, if the metric has one. -/
  label : Option (String × String) := none
deriving DecidableEq, Repr

/-- The name of a series with its label in braces. -/
def Series.text (s : Series) : String :=
  match s.label with
  | none => s.name
  | some (label, value) => s!"{s.name}\x7b{label}={value}\x7d"

/-- Something that the client counts or gauges. -/
inductive Measurement where
  /-- A token was served from the cache. -/
  | cacheHit
  /-- A lookup found no fresh token. -/
  | cacheMiss
  /-- An issuance came to this outcome. -/
  | issuance (outcome : String)
  /-- The cache holds this many records. -/
  | cacheEntries (n : Nat)
  /-- An attempt of this operation started. -/
  | attempt (operation : String)
  /-- An attempt of this operation met a conflict. -/
  | conflict (operation : String)
  /-- A call of this operation ran out of attempts. -/
  | retriesExhausted (operation : String)
  /-- A call of this operation ended in an error that is no conflict. -/
  | fatal (operation : String)
deriving DecidableEq, Repr

namespace Measurement

/-- The series that a measurement updates. -/
def series : Measurement → Series
  | .cacheHit => { name := "dsql_token_cache_hits_total" }
  | .cacheMiss => { name := "dsql_token_cache_misses_total" }
  | .issuance outcome => { name := "dsql_token_issuance_total", label := some ("outcome", outcome) }
  | .cacheEntries _ => { name := "dsql_token_cache_entries" }
  | .attempt op => { name := "dsql_occ_attempts_total", label := some ("operation", op) }
  | .conflict op => { name := "dsql_occ_conflicts_total", label := some ("operation", op) }
  | .retriesExhausted op =>
    { name := "dsql_occ_retries_exhausted_total", label := some ("operation", op) }
  | .fatal op => { name := "dsql_occ_fatal_total", label := some ("operation", op) }

/-- The value of the series after the measurement: a gauge forgets what it was. -/
def update (m : Measurement) (old : Nat) : Nat :=
  match m with
  | .cacheEntries n => n
  | _ => old + 1

end Measurement

/-- Whether a series is a gauge. -/
def Series.isGauge (s : Series) : Bool := s = (Measurement.cacheEntries 0).series

/-- The value that is shown for a value of a series. A gauge is rounded to 53 significant bits, and
at most the greatest signed integer of 64 bits is shown. -/
def Series.shown (s : Series) (n : Nat) : Nat :=
  if s.isGauge then min (Binary64.roundUnits n 1) (2 ^ 63 - 1) else n

/-- The series that were touched, in order of their first measurement. -/
abbrev Registry := List (Series × Nat)

namespace Registry

/-- The value of a series; zero if it was never touched. -/
def value (r : Registry) (s : Series) : Nat := (r.lookup s).getD 0

/-- The registry after a measurement. -/
def record (r : Registry) (m : Measurement) : Registry :=
  match r with
  | [] => [(m.series, m.update 0)]
  | (s, n) :: rest =>
    if s = m.series then (s, m.update n) :: rest else (s, n) :: record rest m

/-- A measurement updates its own series. -/
theorem value_record_self (r : Registry) (m : Measurement) :
    value (r.record m) m.series = m.update (r.value m.series) := by
  induction r with
  | nil => simp [record, value]
  | cons e rest ih =>
    obtain ⟨s, n⟩ := e
    by_cases h : s = m.series
    · simp [record, value, h]
    · have h' : (m.series == s) = false := by simpa using Ne.symm h
      simpa [record, value, h, List.lookup_cons, h'] using ih

/-- A measurement leaves all other series alone. -/
theorem value_record_of_ne (r : Registry) {m : Measurement} {s : Series} (h : s ≠ m.series) :
    value (r.record m) s = r.value s := by
  induction r with
  | nil =>
    have h' : (s == m.series) = false := by simpa using h
    simp [record, value, List.lookup_cons, h']
  | cons e rest ih =>
    obtain ⟨t, n⟩ := e
    by_cases ht : t = m.series
    · have h' : (s == m.series) = false := by simpa using h
      simp [record, value, ht, List.lookup_cons, h']
    · simp only [value, record, ht, if_false, List.lookup_cons] at ih ⊢
      split <;> simp_all

/-- The registry after a sequence of measurements. -/
def ofMeasurements (ms : List Measurement) : Registry := ms.foldl record []

/-- The series that were touched, as they are shown. -/
def shown (r : Registry) : List (String × Nat) := r.map fun (s, n) => (s.text, s.shown n)

end Registry

end StoreClient.Observability
