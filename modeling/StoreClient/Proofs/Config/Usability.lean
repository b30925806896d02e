import StoreClient.Proofs.Binary64.Value
import StoreClient.Proofs.Config.Problems
import StoreClient.Proofs.Credentials.Reuse
import StoreClient.Proofs.Net.SocketAddress
import StoreClient.Proofs.Retry.Counters

/-!
# Usable configurations

A configuration is usable if its numbers lie in their ranges, its log level has a name and its
metrics can be served where they are wanted. Validation accepts exactly the usable configurations.
The rest of the library checks its settings once more, when a call is retried and when a cache is
made, and these checks agree with validation: no call under an accepted configuration is refused,
and no setting of an accepted cache is replaced.

## Main definitions

* `Config.Usable` — what a configuration has to be, in numbers and texts.
* `Config.Honoured` — calls and caches take the settings as they are.
* `Config.RefusedAsReported` — calls are refused for what validation reports.
-/

namespace StoreClient

open Retry Credentials Net

/-- Texts that are the same but for the case of the letters from a to z. -/
def SameInAnyCase (s t : String) : Prop := s.map Char.toLower = t.map Char.toLower

/-- A configuration that can be used. -/
structure Config.Usable (c : Config) : Prop where
  /-- The refresh buffer is a number between zero and one, but not one. -/
  refreshBuffer : ∃ part, c.tokenCache.refreshBuffer.value? = some part ∧ 0 ≤ part ∧ part < 1
  /-- Tokens have a lifetime. -/
  tokenDuration : 0 < c.tokenCache.defaultTokenDurationSecs.toNat
  /-- The first wait is a wait. -/
  initialWait : 0 < c.occRetry.initialWaitMs.toNat
  /-- The greatest wait is not below the first. -/
  maxWait : c.occRetry.initialWaitMs.toNat ≤ c.occRetry.maxWaitMs.toNat
  /-- The multiplier is a number above one. -/
  multiplier : ∃ factor, c.occRetry.multiplier.value? = some factor ∧ 1 < factor
  /-- The log level has one of five names. -/
  logLevel : ∃ name ∈ ["trace", "debug", "info", "warn", "error"],
    SameInAnyCase c.observability.logLevel name
  /-- Metrics that are served have an address. -/
  metricsAddress : c.observability.metricsEnabled = true →
    ∃ address, SocketAddress.Spells c.observability.metricsAddress.toList address

/-- The settings of a configuration are used as they are. -/
structure Config.Honoured (c : Config) : Prop where
  /-- No call that runs work in transactions is refused. -/
  transaction : ∀ {σ τ ρ ε α : Type} [Reported ρ] [Reported ε] (convert : ρ → ε)
    (cancelled : Bool) (s : Surroundings σ τ ρ ε α) (x : σ) (reason : String),
    ((transaction c.occRetry.policy convert cancelled).run s x).ending ≠
      .error (.invalidPolicy reason)
  /-- No call that runs a statement is refused. -/
  statement : ∀ {σ τ ρ : Type} [Reported ρ] (cancelled : Bool) (text : String)
    (s : Surroundings σ τ ρ ρ Unit) (x : σ) (reason : String),
    ((statement c.occRetry.policy cancelled text).run s x).ending ≠ .error (.invalidPolicy reason)
  /-- A cache has the refresh buffer and the lifetime of the configuration, whatever happens to
  it. -/
  settings : ∀ as d, (Cache.ofSettings c.tokenCache.settings).run as = some d →
    d.settings.refreshBuffer = c.tokenCache.refreshBuffer ∧
      d.settings.defaultDuration.nanoseconds =
        c.tokenCache.defaultTokenDurationSecs.toNat * 10 ^ 9
  /-- Nothing of the refresh buffer is cut off where records are checked. -/
  fraction : Record.fraction c.tokenCache.refreshBuffer = c.tokenCache.refreshBuffer

/-- Calls are refused for exactly what validation reports of the retry settings. -/
structure Config.RefusedAsReported (c : Config) : Prop where
  /-- Calls that run work in transactions. -/
  transaction : ∀ {σ τ ρ ε α : Type} [Reported ρ] [Reported ε] (convert : ρ → ε)
    (cancelled : Bool) (s : Surroundings σ τ ρ ε α) (x : σ) (reason : String),
    ((transaction c.occRetry.policy convert cancelled).run s x).ending =
        .error (.invalidPolicy reason) ↔
      ∃ fault, .retryPolicy fault ∈ c.problems ∧ fault.message = reason
  /-- Calls that run a statement. -/
  statement : ∀ {σ τ ρ : Type} [Reported ρ] (cancelled : Bool) (text : String)
    (s : Surroundings σ τ ρ ρ Unit) (x : σ) (reason : String),
    ((statement c.occRetry.policy cancelled text).run s x).ending =
        .error (.invalidPolicy reason) ↔
      ∃ fault, .retryPolicy fault ∈ c.problems ∧ fault.message = reason

/-! ## What validation accepts -/

namespace Constraint

theorem met_logLevel_iff (c : Config) : logLevel.Met c ↔
    ∃ name ∈ ["trace", "debug", "info", "warn", "error"],
      SameInAnyCase c.observability.logLevel name := by
  have hsmall : ∀ name ∈ ["trace", "debug", "info", "warn", "error"],
      name.map Char.toLower = name := by
    decide +kernel
  constructor
  · intro hmem
    exact ⟨_, hmem, (hsmall _ hmem).symm⟩
  · rintro ⟨name, hname, hsame⟩
    rw [SameInAnyCase, hsmall name hname] at hsame
    rw [Met, hsame]
    exact hname

theorem met_metricsAddress_iff (c : Config) : metricsAddress.Met c ↔
    (c.observability.metricsEnabled = true →
      ∃ address, SocketAddress.Spells c.observability.metricsAddress.toList address) := by
  simp only [Met, Option.isSome_iff_exists, SocketAddress.ofText?_eq_some_iff]

end Constraint

theorem Config.usable_iff_met (c : Config) : c.Usable ↔ ∀ k : Constraint, k.Met c := by
  constructor
  · intro h k
    cases k with
    | refreshBuffer => exact Binary64.unit_interval_iff.2 h.refreshBuffer
    | tokenDuration => exact UInt64.lt_iff_toNat_lt.2 h.tokenDuration
    | initialWait => exact UInt64.lt_iff_toNat_lt.2 h.initialWait
    | maxWait => exact UInt64.le_iff_toNat_le.2 h.maxWait
    | multiplier => exact Binary64.above_one_iff.2 h.multiplier
    | logLevel => exact (Constraint.met_logLevel_iff c).2 h.logLevel
    | metricsAddress => exact (Constraint.met_metricsAddress_iff c).2 h.metricsAddress
  · intro h
    exact {
      refreshBuffer := Binary64.unit_interval_iff.1 (h .refreshBuffer)
      tokenDuration := UInt64.lt_iff_toNat_lt.1 (h .tokenDuration)
      initialWait := UInt64.lt_iff_toNat_lt.1 (h .initialWait)
      maxWait := UInt64.le_iff_toNat_le.1 (h .maxWait)
      multiplier := Binary64.above_one_iff.1 (h .multiplier)
      logLevel := (Constraint.met_logLevel_iff c).1 (h .logLevel)
      metricsAddress := (Constraint.met_metricsAddress_iff c).1 (h .metricsAddress) }

/-! ## Refused calls -/

namespace Retry

variable {τ ρ ε α : Type} [Reported ε] {policy : Policy} {convert : ρ → ε} {made : Nat}
  {backoff : Backoff} {Pass : List (Entry τ ρ ε α) → Upshot ε α → Prop}
  {t : List (Entry τ ρ ε α)} {ending : Ending (RetryError ε) α}

/-- A call that is attempted is not refused. -/
theorem Course.ne_refused
    (hpass : ∀ front upshot, Pass front upshot → upshot.Blamed convert front)
    (h : Course policy Pass made backoff t ending) (reason : String) :
    ending ≠ .error (.invalidPolicy reason) := by
  induction h with
  | full => simp
  | last _ pass closes =>
      cases closes with
      | @failed error =>
          obtain ⟨-, hfailure⟩ := hpass _ _ pass
          rintro ⟨⟩
          simp [RetryError.isFailure] at hfailure
      | crashed | succeeded | failedInVain | conflictInVain | exhausted | cutShort => simp
  | again _ _ _ _ ih => exact ih

/-- A call is refused if and only if its policy has a fault, and for that fault. -/
theorem Conduct.refused_iff {cancelled : Bool}
    (hpass : ∀ front upshot, Pass front upshot → upshot.Blamed convert front)
    (h : Conduct policy cancelled Pass t ending) (reason : String) :
    ending = .error (.invalidPolicy reason) ↔
      ∃ fault, policy.fault? = some fault ∧ fault.message = reason := by
  cases h with
  | refused invalid => simp [invalid]
  | unwanted valid => simp [valid]
  | attempted valid _ course => simp [valid, course.ne_refused hpass reason]

end Retry

theorem Config.retryPolicy_mem_problems (c : Config) (fault : PolicyFault) :
    .retryPolicy fault ∈ c.problems ↔ c.occRetry.policy.fault? = some fault := by
  have hcache : .retryPolicy fault ∉ c.tokenCache.problems := by
    simp only [TokenCacheSection.problems]
    split <;> split <;> simp
  have hobservability : .retryPolicy fault ∉ c.observability.problems := by
    simp only [ObservabilitySection.problems]
    split <;> split <;> simp
  simp [problems, hcache, hobservability, RetrySection.problems]

theorem Config.refusedAsReported (c : Config) : c.RefusedAsReported where
  transaction convert cancelled s x reason := by
    simp only [retryPolicy_mem_problems]
    exact (conduct_transaction _ convert cancelled s x).refused_iff
      (fun _ _ pass => pass.blamed) reason
  statement cancelled text s x reason := by
    simp only [retryPolicy_mem_problems]
    exact (conduct_statement _ cancelled text s x).refused_iff
      (fun _ _ pass => pass.blamed) reason

/-! ## Caches -/

/-- No refresh buffer of an accepted configuration is cut off. -/
theorem Credentials.Record.fraction_of_accepted {c : Config} (accepted : c.problems = []) :
    Record.fraction c.tokenCache.refreshBuffer = c.tokenCache.refreshBuffer := by
  obtain ⟨hzero, hone⟩ := c.problems_eq_nil_iff.1 accepted .refreshBuffer
  have hnumber : c.tokenCache.refreshBuffer.isNaN = false := by
    cases hbuffer : c.tokenCache.refreshBuffer with
    | nan => exact absurd (hbuffer ▸ hzero) (by decide)
    | infinite | finite => rfl
  rw [Record.fraction, hnumber]
  exact Binary64.clamp_eq_self hzero hone

theorem Config.honoured_of_accepted {c : Config} (accepted : c.problems = []) : c.Honoured where
  transaction convert cancelled s x reason := by
    rw [Ne, c.refusedAsReported.transaction]
    simp [accepted]
  statement cancelled text s x reason := by
    rw [Ne, c.refusedAsReported.statement]
    simp [accepted]
  settings as d h := by
    rw [settings_of_run h, usable_of_accepted accepted]
    exact ⟨rfl, rfl⟩
  fraction := Record.fraction_of_accepted accepted

/-- **Usable configurations.** Validation reports nothing of a configuration if and only if it is
usable. Calls and caches then take its settings as they are, and for every configuration a call is
refused for what validation reports of the retry settings, and for nothing else. -/
theorem Config.accepted_iff_usable (c : Config) :
    (c.problems = [] ↔ c.Usable) ∧ (c.problems = [] → c.Honoured) ∧ c.RefusedAsReported := by
  refine ⟨?_, honoured_of_accepted, c.refusedAsReported⟩
  rw [c.problems_eq_nil_iff, c.usable_iff_met]

/-- A configuration with every setting at its bound, among them the least multiplier above one, a
buffer of negative zero and an address with a gap, octets and a scope. -/
theorem Config.accepted_at_the_bounds :
    let c : Config := {
      tokenCache := { refreshBuffer := .zero true, defaultTokenDurationSecs := 1 }
      occRetry := {
        maxRetries := 4294967295
        initialWaitMs := 18446744073709551615
        maxWaitMs := 18446744073709551615
        multiplier := .ofRatio false (2 ^ 52 + 1) (2 ^ 52) }
      observability := {
        logLevel := "WaRn"
        metricsEnabled := true
        metricsAddress := "[1::10.0.0.1%7]:09090" } }
    let cache := Cache.ofSettings c.tokenCache.settings
    c.problems = [] ∧ c.Usable ∧ c.Honoured ∧ cache.settings.refreshBuffer = .zero true ∧
      cache.settings.defaultDuration.nanoseconds = 10 ^ 9 := by
  intro c cache
  obtain ⟨hiff, hhonoured, -⟩ := accepted_iff_usable c
  have accepted : c.problems = [] := by decide +kernel
  obtain ⟨hbuffer, hduration⟩ := (hhonoured accepted).settings [] cache rfl
  exact ⟨accepted, hiff.1 accepted, hhonoured accepted, hbuffer, hduration.trans (Nat.one_mul _)⟩

end StoreClient
