import StoreClient.Proofs.Credentials.Age
import StoreClient.Proofs.Credentials.SingleFlight
import StoreClient.Proofs.Credentials.Staleness

/-!
# Reuse of a new token

A token serves more than one call only if its record is fresh when it is made. It is exactly if the
window that the refresh buffer takes away is shorter than the lifetime. Then calls for a key at one
instant share one request to the issuer. Otherwise each of them makes its own, as if nothing were
stored.

Validation keeps the refresh buffer below one, but the window is rounded to nanoseconds, and a
buffer close to one makes it the whole lifetime. What the buffer leaves has to be a nanosecond and
more than rounding can add.

## Main definitions

* `AskedOnce` — no two requests for a key are made at one instant.
* `Vacant` — a call for a key would be let in at once and would have to ask.
* `SharedAtOnce` — two calls for a key that come at one instant make one request.
-/

namespace StoreClient.Credentials

open Cache

variable {c : Cache} {s : Settings} {key : Key} {since : Instant} {token : String}
  {record : Record} {lifetime window : Duration} {buffer : Binary64}

/-- The issuer is not asked for a key twice at one instant, unless the first request gave no record
or the record was forgotten. -/
def AskedOnce (key : Key) (c : Cache) : Prop :=
  ∀ newer between older i j since,
    c.journal = newer ++ ⟨j, since, .requested key⟩ ::
      (between ++ ⟨i, since, .requested key⟩ :: older) →
    Concluded (c.lifetime key) key i since between fun _ => False

/-- How many times the issuer was asked for a key. -/
def Cache.timesAsked (c : Cache) (key : Key) : Nat :=
  c.journal.countP (·.event = .requested key)

/-- Nobody is at the lock, the key has no fresh record, and the clock reaches the end of a new
one. -/
structure Vacant (key : Key) (c : Cache) : Prop where
  free : c.lock = {}
  unfresh : ∀ record, c.records.lookup key = some record →
    record.isStale c.now c.settings.refreshBuffer = .ok true
  within : ¬ (max (c.lifetime key) Record.leastLifetime).Outlasts c.now

/-- Where a key is vacant, two calls for it come one after the other at one instant, and the issuer
gives the first a token at once. Then both end with that token, and the issuer is asked once. -/
def SharedAtOnce (key : Key) (c : Cache) : Prop :=
  Vacant key c → ∀ token, token.isEmpty = false →
    let first := c.calls.length
    ∃ d d', c.run [.start (.get key), .step first, .step first, .settle first (.ok token),
        .start (.get key)] = some d ∧
      d.phase? first = some (.done (.token (.ok token))) ∧
      Ends d (.step (first + 1)) d' (first + 1) (.token (.ok token)) ∧
      d'.now = c.now ∧ d'.timesAsked key = c.timesAsked key + 1

/-! ## New records -/

namespace Record

/-- A new record is fresh when it is made if and only if its window is shorter than its lifetime. -/
theorem isStale_issuedAt_eq_false (issue : Record.issue token since lifetime = .ok record)
    (hwindow : (max lifetime leastLifetime).scale? (fraction buffer) = some window) :
    record.isStale record.issuedAt buffer = .ok false ↔ window < max lifetime leastLifetime := by
  obtain ⟨-, hissued, -⟩ := fields_of_issue issue
  rw [hissued]
  constructor
  · intro fresh
    obtain ⟨used, hused, hstale⟩ := isStale_of_issue issue fresh
    obtain rfl := Option.some.inj (hwindow.symm.trans hused)
    have hbefore := mt hstale.2 Bool.false_ne_true
    show window.nanoseconds < _
    omega
  · intro hlt
    have hlt : window.nanoseconds < (max lifetime leastLifetime).nanoseconds := hlt
    exact isStale_eq_false issue hwindow (by omega)

/-- Where the window takes the whole lifetime, a new record is stale when it is made. -/
theorem isStale_issuedAt_eq_true (issue : Record.issue token since lifetime = .ok record)
    (hsince : 0 ≤ since.nanoseconds)
    (hwindow : (max lifetime leastLifetime).scale? (fraction buffer) = some window)
    (hnot : ¬ window < max lifetime leastLifetime) :
    record.isStale record.issuedAt buffer = .ok true := by
  obtain ⟨-, hissued, hexpires⟩ := fields_of_issue issue
  obtain ⟨stale, hstale⟩ := record.exists_isStale record.issuedAt buffer
    (by rw [hissued]; exact hsince) (by rw [hexpires]; omega)
  cases stale with
  | true => exact hstale
  | false => exact absurd ((isStale_issuedAt_eq_false issue hwindow).1 hstale) hnot

theorem max_eq_self (h : leastLifetime ≤ lifetime) : max lifetime leastLifetime = lifetime := by
  have h : leastLifetime.nanoseconds ≤ lifetime.nanoseconds := h
  refine Duration.eq_of_nanoseconds_eq ?_
  rw [Duration.nanoseconds_max]
  exact Nat.max_eq_left h

/-- The window is shorter than the lifetime if the buffer leaves a nanosecond of it, and more than
rounding can add. -/
theorem window_lt (hleast : leastLifetime ≤ lifetime)
    (hmost : lifetime.nanoseconds ≤ 2 ^ 62 * 10 ^ 9)
    (hwindow : lifetime.scale? (fraction buffer) = some window)
    (hspare : Binary64.one ≤ (Binary64.one - share buffer) * lifetime.nanoseconds)
    (hshare : Binary64.one ≤ 2 ^ 50 * (Binary64.one - share buffer)) : window < lifetime := by
  have hleast : 10 ^ 6 ≤ lifetime.nanoseconds := nanoseconds_leastLifetime ▸ hleast
  obtain ⟨used, hused, hpart, -⟩ := Duration.exists_scale? hmost (upTo_fraction buffer)
  obtain rfl := Option.some.inj (hwindow.symm.trans hused)
  show window.nanoseconds < _
  rw [hpart]
  exact Duration.part_lt (by omega) (share_le_one buffer) hspare hshare

end Record

/-! ## Requests at one instant -/

namespace Cache

theorem timesAsked_moved (c : Cache) (i : Nat) (phase : Phase) (lock : Lock) (events : List Event)
    (key : Key) : (c.moved i phase lock events).timesAsked key =
      events.count (.requested key) + c.timesAsked key := by
  rw [timesAsked, journal_moved, List.countP_append, List.countP_map]
  rfl

theorem timesAsked_ended {events : List Event} (h : .requested key ∉ events) (c : Cache) (i : Nat)
    (result : Result) (records : Records) :
    (c.ended i result events records).timesAsked key = c.timesAsked key := by
  have hmoved := c.timesAsked_moved i (.done result) (c.lock.leave i) (.ended result :: events) key
  rw [List.count_cons_of_ne (by simp), List.count_eq_zero.2 h, Nat.zero_add] at hmoved
  exact hmoved

/-- No call asks the issuer when it ends. -/
theorem timesAsked_of_ends {c' : Cache} {a : Action} {result : Result} (h : Ends c a c' i result)
    (key : Key) : c'.timesAsked key = c.timesAsked key := by
  obtain ⟨call, events, records, -, outcome, rfl⟩ := h.outcome
  exact timesAsked_ended (outcome.requested_notMem key) _ _ _ _

theorem timesAsked_asking (c : Cache) (key : Key) (found : Lookup) :
    (c.asking key found).timesAsked key = c.timesAsked key + 1 := by
  have hnone := List.count_eq_zero.2 (found.requested_notMem_staleness key)
  rw [asking, timesAsked_moved, timesAsked_moved, List.count_cons_self,
    List.count_cons_of_ne (by simp), hnone, Nat.zero_add, Nat.zero_add, Nat.add_comm]
  rfl

theorem timesAsked_answered (c : Cache) (key : Key) (found : Lookup) (token : String)
    (record : Record) :
    (c.answered key found token record).timesAsked key = c.timesAsked key + 1 := by
  rw [answered, timesAsked_ended (by simp), timesAsked_asking]

end Cache

/-- Every key is vacant in an empty cache, unless its lifetime is too long for the clock. -/
theorem vacant_ofSettings
    (hwithin : ¬ (max (s.requested key) Record.leastLifetime).Outlasts .origin) :
    Vacant key (ofSettings s) := by
  refine ⟨rfl, fun record hr => by simp [ofSettings] at hr, ?_⟩
  rw [lifetime_of_run (run_nil (ofSettings s)) key]
  exact hwithin

/-- A look for a vacant key finds no fresh record. -/
theorem Vacant.exists_find (h : Vacant key c) (hc : c.SinceOrigin) :
    ∃ found, c.find key = .ok found ∧ ∀ token, found ≠ .fresh token := by
  obtain ⟨found, look⟩ := hc.exists_find key
  refine ⟨found, look, ?_⟩
  rintro token rfl
  obtain ⟨r, hr, -, hfresh⟩ := find_eq_fresh.1 look
  cases hfresh.symm.trans (h.unfresh r hr)

section

variable {as : List Action}
  (hwindow : (max (s.requested key) Record.leastLifetime).scale?
    (Record.fraction s.usable.refreshBuffer) = some window)

include hwindow

/-- Where the window is shorter than the lifetime, a cache makes fresh records. -/
theorem fresh_of_lt (h : (ofSettings s).run as = some c)
    (hlt : window < max (s.requested key) Record.leastLifetime)
    (issue : Record.issue token since (c.lifetime key) = .ok record) :
    record.isStale since c.settings.refreshBuffer = .ok false := by
  obtain ⟨-, hissued, -⟩ := Record.fields_of_issue issue
  rw [lifetime_of_run h] at issue
  rw [settings_of_run h, ← hissued]
  exact (Record.isStale_issuedAt_eq_false issue hwindow).2 hlt

/-- The first of two calls leaves a fresh record then, and the second one finds it. -/
theorem sharedAtOnce_of_lt (h : (ofSettings s).run as = some c)
    (hlt : window < max (s.requested key) Record.leastLifetime) : SharedAtOnce key c := by
  intro vacant token nonempty first
  obtain ⟨found, look, unfresh⟩ := vacant.exists_find (sinceOrigin_of_run h)
  obtain ⟨record, issue⟩ := Record.exists_issue token vacant.within
  let d := (c.answered key found token record).begun key
  have hanswered := run_answered vacant.free look unfresh nonempty issue
  have hrun := run_concat_eq_some.2 ⟨_, hanswered, act_start _ key⟩
  have hlength := c.length_calls_answered key found token record
  have at_second : d.calls[first + 1]? = some ⟨.get key, .ready, false⟩ :=
    hlength ▸ getElem?_calls_begun _ key
  obtain ⟨htoken, -, -⟩ := Record.fields_of_issue issue
  have hfresh := fresh_of_lt hwindow h hlt issue
  have hfound : d.find key = .ok (.fresh token) :=
    find_eq_fresh.2 ⟨record, c.lookup_answered key found token record, htoken, hfresh⟩
  have free : d.lock = {} := c.lock_answered key found token record
  obtain ⟨d', hend, hnow⟩ := hit_of_free at_second free hfound
  refine ⟨d, d', hrun, ?_, hend, hnow, ?_⟩
  · have hne : first ≠ (c.answered key found token record).calls.length := by omega
    rw [phase?_begun, if_neg hne, phase?_answered]
  · rw [timesAsked_of_ends hend]
    exact c.timesAsked_answered key found token record

/-- No record is stale at the instant of its request then, so none is asked for again. -/
theorem askedOnce_of_lt (h : (ofSettings s).run as = some c)
    (hlt : window < max (s.requested key) Record.leastLifetime) : AskedOnce key c := by
  intro newer between older i j since hj
  have hc := (disciplined_of_run h).spaced newer between older i j key since since hj
  change Concluded (c.lifetime key) key i since ([] ++ between) _
  refine hc.append fun token record issue stale => ?_
  cases stale.symm.trans (fresh_of_lt hwindow h hlt issue)

/-- From an empty cache, where the window takes the whole lifetime, a first call leaves a record
that a second one finds stale. -/
theorem exists_stale_answer (hnot : ¬ window < max (s.requested key) Record.leastLifetime)
    (hwithin : ¬ (max (s.requested key) Record.leastLifetime).Outlasts .origin) :
    ∃ record, (ofSettings s).run [.start (.get key), .step 0, .step 0, .settle 0 (.ok "token")] =
        some ((ofSettings s).answered key .absent "token" record) ∧
      ((ofSettings s).answered key .absent "token" record).find key = .ok .stale := by
  obtain ⟨record, issue⟩ := Record.exists_issue "token" hwithin
  have hlifetime : (ofSettings s).lifetime key = s.requested key := lifetime_of_run (run_nil _) key
  have hstale := Record.isStale_issuedAt_eq_true issue (Int.le_refl 0) hwindow hnot
  rw [(Record.fields_of_issue issue).2.1] at hstale
  refine ⟨record, run_answered rfl rfl (by simp) (by decide +kernel) (hlifetime ▸ issue), ?_⟩
  rw [find_eq_stale]
  exact ⟨record, lookup_answered _ _ _ _ _, hstale⟩

/-- A second call does not end, but misses as well. -/
theorem not_sharedAtOnce (hnot : ¬ window < max (s.requested key) Record.leastLifetime)
    (hwithin : ¬ (max (s.requested key) Record.leastLifetime).Outlasts .origin) :
    ¬ SharedAtOnce key (ofSettings s) := by
  intro hshared
  obtain ⟨record, hanswered, hstale⟩ := exists_stale_answer hwindow hnot hwithin
  obtain ⟨d, d', hrun, -, hend, -⟩ :=
    hshared (vacant_ofSettings hwithin) "token" (by decide +kernel)
  have hrun : (ofSettings s).run ([.start (.get key), .step 0, .step 0, .settle 0 (.ok "token")] ++
      [.start (.get key)]) = some d := hrun
  obtain ⟨answered, hfirst, hstart⟩ := run_concat_eq_some.1 hrun
  obtain rfl := Option.some.inj (hanswered.symm.trans hfirst)
  obtain rfl := Option.some.inj ((act_start _ key).symm.trans hstart)
  let second := ((ofSettings s).answered key .absent "token" record).begun key
  have at_second : second.calls[1]? = some ⟨.get key, .ready, false⟩ := getElem?_calls_begun _ key
  have free : second.lock = {} := (ofSettings s).lock_answered key .absent "token" record
  have hmiss := miss_of_free at_second free hstale (by simp)
  obtain rfl := Option.some.inj (hmiss.symm.trans hend.happens)
  have hmissed : second.phase? 1 = some .ready := phase?_of_getElem? at_second
  have hdone : (second.moved 1 .missed {} [.missed, .stale]).phase? 1 =
    some (.done (.token (.ok "token"))) := hend.after
  rw [phase?_moved, if_pos rfl, hmissed] at hdone
  cases hdone

/-- A second call asks as well, with nothing between but the end of the first. -/
theorem exists_not_askedOnce (hnot : ¬ window < max (s.requested key) Record.leastLifetime)
    (hwithin : ¬ (max (s.requested key) Record.leastLifetime).Outlasts .origin) :
    ∃ as c, (ofSettings s).run as = some c ∧ ¬ AskedOnce key c := by
  obtain ⟨record, hanswered, hstale⟩ := exists_stale_answer hwindow hnot hwithin
  let answered := (ofSettings s).answered key .absent "token" record
  have free : answered.lock = {} := (ofSettings s).lock_answered key .absent "token" record
  have hasking := run_asking free hstale (by simp)
  refine ⟨_, _, run_append_eq_some.2 ⟨_, hanswered, hasking⟩, ?_⟩
  intro hasked
  let first : List Event := [.ended (.token (.ok "token")), .stored key record 1, .issued]
  let second : List Event := [.stale, .missed, .stale]
  obtain ⟨time, result, hend, hcases⟩ := hasked []
    (second.map (⟨1, .origin, ·⟩) ++ first.map (⟨0, .origin, ·⟩)) [⟨0, .origin, .missed⟩] 0 1
    .origin rfl
  obtain ⟨-, rfl⟩ : time = .origin ∧ result = .token (.ok "token") := by
    simpa [first, second] using hend
  rcases hcases with ⟨error, hresult⟩ | ⟨cause, hresult⟩ | ⟨j, t, hcleared⟩ | ⟨_, _, _, _, _, _, hP⟩
  · cases hresult
  · cases hresult
  · simp [first, second] at hcleared
  · exact hP

end

/-! ## Accepted configurations -/

/-- The settings of an accepted configuration are used as they are. -/
theorem usable_of_accepted {config : Config} (accepted : config.problems = []) :
    config.tokenCache.settings.usable = config.tokenCache.settings := by
  obtain ⟨hzero, hone⟩ := config.problems_eq_nil_iff.1 accepted .refreshBuffer
  have hfinite : (Binary64.ofNat 1).isFinite = true := by decide +kernel
  exact if_pos (Binary64.isFinite_of_between rfl hfinite hzero hone)

/-- **Reuse of a new token.** Under an accepted configuration and for a lifetime of a millisecond up
to `2 ^ 62` seconds there is a refresh window. A record is fresh at its own instant if and only if
the window is shorter than the lifetime. This is also exactly when two calls at one instant always
share a request, and when no two requests for a key are ever made at one instant. And it is the case
if the refresh buffer leaves a nanosecond of the lifetime and a `2 ^ 50`th part of it. -/
theorem reused_iff_window_lt (config : Config) (accepted : config.problems = []) (key : Key)
    (hleast : Record.leastLifetime ≤ config.tokenCache.settings.requested key)
    (hmost : (config.tokenCache.settings.requested key).nanoseconds ≤ 2 ^ 62 * 10 ^ 9) :
    let s := config.tokenCache.settings
    let lifetime := s.requested key
    let spare := Binary64.one - Record.share s.refreshBuffer
    ∃ window, lifetime.scale? (Record.fraction s.refreshBuffer) = some window ∧
      (∀ token since record, Record.issue token since lifetime = .ok record →
        (record.isStale record.issuedAt s.refreshBuffer = .ok false ↔ window < lifetime)) ∧
      ((∀ as c, (ofSettings s).run as = some c → SharedAtOnce key c) ↔ window < lifetime) ∧
      ((∀ as c, (ofSettings s).run as = some c → AskedOnce key c) ↔ window < lifetime) ∧
      (Binary64.one ≤ spare * lifetime.nanoseconds → Binary64.one ≤ 2 ^ 50 * spare →
        window < lifetime) := by
  intro s lifetime spare
  have hmost : (s.requested key).nanoseconds ≤ 2 ^ 62 * 10 ^ 9 := hmost
  obtain ⟨window, hwindow, -, -⟩ :=
    Duration.exists_scale? hmost (Record.upTo_fraction s.refreshBuffer)
  have hmax : max lifetime Record.leastLifetime = lifetime := Record.max_eq_self hleast
  have husable : s.usable = s := usable_of_accepted accepted
  have hused : (max (s.requested key) Record.leastLifetime).scale?
      (Record.fraction s.usable.refreshBuffer) = some window := by
    rw [hmax, husable]
    exact hwindow
  have hwithin : ¬ (max (s.requested key) Record.leastLifetime).Outlasts .origin := by
    rw [hmax]
    show ¬ (2 ^ 63 * 10 ^ 9 : Int) ≤ 0 + (s.requested key).nanoseconds
    omega
  refine ⟨window, hwindow, ?_, ⟨?_, ?_⟩, ⟨?_, ?_⟩, Record.window_lt hleast hmost hwindow⟩
  · intro token since record issue
    have hfresh := Record.isStale_issuedAt_eq_false issue (by rw [hmax]; exact hwindow)
    rwa [hmax] at hfresh
  · intro hall
    by_contra hnot
    rw [← hmax] at hnot
    exact not_sharedAtOnce hused hnot hwithin (hall [] _ rfl)
  · intro hlt as c h
    exact sharedAtOnce_of_lt hused h (by rwa [hmax])
  · intro hall
    by_contra hnot
    rw [← hmax] at hnot
    obtain ⟨as, c, h, htwice⟩ := exists_not_askedOnce hused hnot hwithin
    exact htwice (hall as c h)
  · intro hlt as c h
    exact askedOnce_of_lt hused h (by rwa [hmax])

/-- Under the default configuration two calls at one instant share a token of fifteen minutes. -/
theorem reused_by_default :
    let key : Key := ⟨"db", "eu", "admin", .zero⟩
    ∃ d d', (ofSettings (default : Config).tokenCache.settings).run
        [.start (.get key), .step 0, .step 0, .settle 0 (.ok "token"), .start (.get key)] = some d ∧
      d.phase? 0 = some (.done (.token (.ok "token"))) ∧
      Ends d (.step 1) d' 1 (.token (.ok "token")) ∧ d'.timesAsked key = 1 := by
  intro key
  obtain ⟨window, -, -, hshared, -, hlt⟩ :=
    reused_iff_window_lt default (by decide +kernel) key (by decide) (by decide)
  have hlt := hlt (by decide +kernel) (by decide +kernel)
  have vacant : Vacant key (ofSettings (default : Config).tokenCache.settings) :=
    vacant_ofSettings (by decide)
  obtain ⟨d, d', hrun, hfirst, hend, -, hasked⟩ :=
    hshared.2 hlt [] _ rfl vacant "token" (by decide +kernel)
  exact ⟨d, d', hrun, hfirst, hend, hasked⟩

/-- The greatest refresh buffer below one takes fifteen minutes away, so the issuer is asked twice
at one instant. -/
theorem asked_twice_at_once :
    ¬ ∀ (config : Config) (key : Key), config.problems = [] →
      Record.leastLifetime ≤ config.tokenCache.settings.requested key →
      (config.tokenCache.settings.requested key).nanoseconds ≤ 2 ^ 62 * 10 ^ 9 →
      ∀ as c, (ofSettings config.tokenCache.settings).run as = some c → AskedOnce key c := by
  intro hall
  let config : Config :=
    { tokenCache := { refreshBuffer := .ofDecimal false ⟨9999999999999999, -16⟩ } }
  let key : Key := ⟨"db", "eu", "admin", .ofSeconds 900⟩
  have hwindow : (max (config.tokenCache.settings.requested key) Record.leastLifetime).scale?
      (Record.fraction config.tokenCache.settings.usable.refreshBuffer) =
      some (.ofSeconds 900) := by
    decide +kernel
  obtain ⟨as, c, h, htwice⟩ := exists_not_askedOnce hwindow (by decide) (by decide)
  exact htwice (hall config key (by decide +kernel) (by decide) (by decide) as c h)

end StoreClient.Credentials
