import StoreClient.Config.Validation
import StoreClient.Proofs.Binary64.Bounds

/-!
# What validation reports

A configuration is usable if it meets seven constraints. Validation reports those that it violates,
in order and each with the values at fault, with one exception: the retry settings are checked as a
policy, which knows its first fault only. A fault of theirs is reported only if the settings before
it are in order.

## Main definitions

* `Constraint.Met` — what a configuration must meet.
* `Constraint.problem` — the report of a violation.
* `Constraint.Reported` — a violation that is not hidden by another one.
-/

namespace StoreClient

/-- What a configuration must meet to be usable. -/
inductive Constraint where
  /-- The refresh buffer is a part of a lifetime. -/
  | refreshBuffer
  /-- Tokens have a lifetime. -/
  | tokenDuration
  /-- The first wait is a wait. -/
  | initialWait
  /-- The greatest wait is not below the first. -/
  | maxWait
  /-- Waits grow. -/
  | multiplier
  /-- There is such a log level. -/
  | logLevel
  /-- Metrics that are served can be served there. -/
  | metricsAddress
deriving DecidableEq, Repr

namespace Constraint

/-- All constraints, in the order in which they are reported. -/
def all : List Constraint :=
  [.refreshBuffer, .tokenDuration, .initialWait, .maxWait, .multiplier, .logLevel, .metricsAddress]

theorem mem_all (k : Constraint) : k ∈ all := by
  cases k <;> decide

/-- A configuration meets a constraint. -/
def Met (c : Config) : Constraint → Prop
  | .refreshBuffer => (Binary64.zero false).le c.tokenCache.refreshBuffer ∧
      c.tokenCache.refreshBuffer.lt (.ofNat 1)
  | .tokenDuration => 0 < c.tokenCache.defaultTokenDurationSecs
  | .initialWait => 0 < c.occRetry.initialWaitMs
  | .maxWait => c.occRetry.initialWaitMs ≤ c.occRetry.maxWaitMs
  | .multiplier => c.occRetry.multiplier.isFinite ∧ (Binary64.ofNat 1).lt c.occRetry.multiplier
  | .logLevel => c.observability.logLevel.map Char.toLower ∈
      ["trace", "debug", "info", "warn", "error"]
  | .metricsAddress => c.observability.metricsEnabled →
      (Net.SocketAddress.ofText? c.observability.metricsAddress).isSome

instance (c : Config) (k : Constraint) : Decidable (k.Met c) :=
  match k with
  | .refreshBuffer | .multiplier => inferInstanceAs (Decidable (_ ∧ _))
  | .tokenDuration | .initialWait => inferInstanceAs (Decidable (_ < _))
  | .maxWait => inferInstanceAs (Decidable (_ ≤ _))
  | .logLevel => inferInstanceAs (Decidable (_ ∈ _))
  | .metricsAddress => inferInstanceAs (Decidable (_ → _))

/-- The report of a violation, with the values at fault. -/
def problem (c : Config) : Constraint → Problem
  | .refreshBuffer => .refreshBuffer c.tokenCache.refreshBuffer
  | .tokenDuration => .tokenDuration
  | .initialWait => .retryPolicy .zeroInitialWait
  | .maxWait => .retryPolicy (.maxBelowInitial (.ofMilliseconds c.occRetry.maxWaitMs)
      (.ofMilliseconds c.occRetry.initialWaitMs))
  | .multiplier => .retryPolicy (.multiplierNotAboveOne c.occRetry.multiplier)
  | .logLevel => .logLevel c.observability.logLevel
  | .metricsAddress => .metricsAddress c.observability.metricsAddress

/-- A report tells which constraint is violated. -/
theorem problem_injective {c : Config} {k other : Constraint}
    (h : k.problem c = other.problem c) : k = other := by
  cases k <;> cases other <;> simp [problem] at h ⊢

/-- The constraints whose violation hides that of another one. -/
def hiders : Constraint → List Constraint
  | .maxWait => [.initialWait]
  | .multiplier => [.initialWait, .maxWait]
  | _ => []

/-- A constraint is violated, and no other violation hides this. -/
def Reported (c : Config) (k : Constraint) : Prop := ¬ k.Met c ∧ ∀ other ∈ k.hiders, other.Met c

instance (c : Config) (k : Constraint) : Decidable (k.Reported c) :=
  inferInstanceAs (Decidable (_ ∧ _))

/-- What there is to report of a constraint. -/
def reports (c : Config) (k : Constraint) : List Problem :=
  if k.Reported c then [k.problem c] else []

variable {c : Config} {k : Constraint}

theorem reports_of_reported (h : k.Reported c) : k.reports c = [k.problem c] := if_pos h

theorem reports_of_not_reported (h : ¬ k.Reported c) : k.reports c = [] := if_neg h

/-- Where nothing hides a violation, the test of the constraint decides. -/
theorem reports_of_test {test : Prop} [Decidable test] (hhiders : k.hiders = [])
    (htest : k.Met c ↔ test) : k.reports c = if test then [] else [k.problem c] := by
  have hreported : k.Reported c ↔ ¬ test := by
    simp [Reported, hhiders, htest]
  by_cases h : test
  · rw [reports_of_not_reported (by simp [hreported, h]), if_pos h]
  · rw [reports_of_reported (hreported.2 h), if_neg h]

/-! ## Section by section -/

variable (c : Config)

theorem problems_tokenCache :
    c.tokenCache.problems = refreshBuffer.reports c ++ tokenDuration.reports c := by
  have hbuffer : refreshBuffer.Met c ↔
      ((Binary64.zero false).le c.tokenCache.refreshBuffer &&
        c.tokenCache.refreshBuffer.lt (.ofNat 1)) = true := by
    rw [Bool.and_eq_true]
    exact Iff.rfl
  have hduration : tokenDuration.Met c ↔ ¬ c.tokenCache.defaultTokenDurationSecs = 0 :=
    UInt64.pos_iff_ne_zero
  rw [reports_of_test rfl hbuffer, reports_of_test rfl hduration, ite_not]
  rfl

theorem met_initialWait_iff :
    initialWait.Met c ↔ ¬ (Duration.ofMilliseconds c.occRetry.initialWaitMs).isZero = true := by
  show (0 : UInt64) < c.occRetry.initialWaitMs ↔
    ¬ (c.occRetry.initialWaitMs.toNat * 10 ^ 6 == 0) = true
  rw [UInt64.lt_iff_toNat_lt, UInt64.toNat_zero, beq_iff_eq]
  omega

theorem met_maxWait_iff :
    maxWait.Met c ↔ ¬ Duration.ofMilliseconds c.occRetry.maxWaitMs <
      Duration.ofMilliseconds c.occRetry.initialWaitMs := by
  show c.occRetry.initialWaitMs.toNat ≤ c.occRetry.maxWaitMs.toNat ↔
    ¬ c.occRetry.maxWaitMs.toNat * 10 ^ 6 < c.occRetry.initialWaitMs.toNat * 10 ^ 6
  omega

theorem met_multiplier_iff :
    multiplier.Met c ↔ ¬ (!c.occRetry.multiplier.isFinite ||
      c.occRetry.multiplier.le (.ofNat 1)) = true := by
  simp only [Met]
  cases hmultiplier : c.occRetry.multiplier with
  | nan | infinite => simp [Binary64.isFinite]
  | finite negative magnitude =>
      rw [Binary64.lt_eq_not_le (by decide +kernel) rfl]
      simp [Binary64.isFinite]

/-- A policy knows its first fault only. -/
theorem problems_occRetry :
    c.occRetry.problems = initialWait.reports c ++ maxWait.reports c ++ multiplier.reports c := by
  have hfault : c.occRetry.policy.fault? =
      if initialWait.Met c then
        if maxWait.Met c then
          if multiplier.Met c then none
          else some (.multiplierNotAboveOne c.occRetry.multiplier)
        else some (.maxBelowInitial (.ofMilliseconds c.occRetry.maxWaitMs)
          (.ofMilliseconds c.occRetry.initialWaitMs))
      else some .zeroInitialWait := by
    simp only [met_initialWait_iff, met_maxWait_iff, met_multiplier_iff, ite_not]
    rfl
  rw [RetrySection.problems, hfault]
  by_cases hinitial : initialWait.Met c <;> by_cases hmax : maxWait.Met c <;>
    by_cases hmultiplier : multiplier.Met c <;>
    simp [reports, Reported, hiders, problem, hinitial, hmax, hmultiplier]

theorem problems_observability :
    c.observability.problems = logLevel.reports c ++ metricsAddress.reports c := by
  have hlevel : logLevel.Met c ↔
      (Observability.Level.ofName? c.observability.logLevel).isSome = true := by
    have hnames : ["trace", "debug", "info", "warn", "error"] =
        (Observability.Level.all.map Observability.Level.name).reverse := rfl
    simp only [Met, hnames, List.mem_reverse, List.mem_map, Observability.Level.ofName?,
      List.find?_isSome, beq_iff_eq]
  have haddress : metricsAddress.Met c ↔ ¬ (c.observability.metricsEnabled &&
      (Net.SocketAddress.ofText? c.observability.metricsAddress).isNone) = true := by
    simp [Met, Option.isSome_iff_ne_none]
  rw [reports_of_test rfl hlevel, reports_of_test rfl haddress, ite_not]
  rfl

end Constraint

/-! ## All sections -/

/-- Validation reports constraint by constraint. -/
theorem Config.problems_eq (c : Config) :
    c.problems = Constraint.all.flatMap (Constraint.reports c) := by
  rw [Config.problems, Constraint.problems_tokenCache, Constraint.problems_occRetry,
    Constraint.problems_observability]
  simp [Constraint.all]

/-- A problem is the report of a violation that no other one hides. -/
theorem Config.mem_problems (c : Config) (p : Problem) :
    p ∈ c.problems ↔ ∃ k : Constraint, k.Reported c ∧ p = k.problem c := by
  rw [Config.problems_eq, List.mem_flatMap]
  constructor
  · rintro ⟨k, -, hp⟩
    by_cases hk : k.Reported c
    · rw [Constraint.reports_of_reported hk] at hp
      exact ⟨k, hk, List.mem_singleton.1 hp⟩
    · rw [Constraint.reports_of_not_reported hk] at hp
      contradiction
  · rintro ⟨k, hk, rfl⟩
    refine ⟨k, k.mem_all, ?_⟩
    rw [Constraint.reports_of_reported hk]
    exact List.mem_singleton_self _

/-- A configuration is accepted if and only if it meets every constraint. -/
theorem Config.problems_eq_nil_iff (c : Config) :
    c.problems = [] ↔ ∀ k : Constraint, k.Met c := by
  constructor
  · intro hnone
    have hmet (k : Constraint) (hhiders : ∀ other ∈ k.hiders, other.Met c) : k.Met c := by
      refine Decidable.byContradiction fun hviolated => ?_
      have hmem : k.problem c ∈ c.problems := (c.mem_problems _).2 ⟨k, ⟨hviolated, hhiders⟩, rfl⟩
      rw [hnone] at hmem
      contradiction
    have hinitial := hmet .initialWait (by simp [Constraint.hiders])
    have hmax := hmet .maxWait (by simp [Constraint.hiders, hinitial])
    intro k
    cases k with
    | initialWait => exact hinitial
    | maxWait => exact hmax
    | multiplier => exact hmet .multiplier (by simp [Constraint.hiders, hinitial, hmax])
    | refreshBuffer | tokenDuration | logLevel | metricsAddress =>
        exact hmet _ (by simp [Constraint.hiders])
  · intro hmet
    rw [List.eq_nil_iff_forall_not_mem]
    intro p hp
    obtain ⟨k, hk, -⟩ := (c.mem_problems p).1 hp
    exact hk.1 (hmet k)

/-- **What validation reports.** A constraint is reported, with the values at fault, if and only if
the configuration violates it and meets those whose violation would hide it: a fault of the retry
settings is reported alone. -/
theorem Constraint.problem_mem_problems_iff (c : Config) (k : Constraint) :
    k.problem c ∈ c.problems ↔ ¬ k.Met c ∧ ∀ other ∈ k.hiders, other.Met c := by
  rw [Config.mem_problems]
  constructor
  · rintro ⟨other, hother, heq⟩
    rw [problem_injective heq]
    exact hother
  · intro hk
    exact ⟨k, hk, rfl⟩

/-- Waits that do not grow are not reported where the first wait is no wait. -/
theorem Constraint.problem_hidden :
    let c : Config := { occRetry := { initialWaitMs := 0, multiplier := .ofRatio false 1 2 } }
    ¬ multiplier.Met c ∧ multiplier.problem c ∉ c.problems ∧
      c.problems = [.retryPolicy .zeroInitialWait] := by
  decide +kernel

end StoreClient
