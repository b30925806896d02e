import StoreClient.Proofs.Config.Problems
import StoreClient.Proofs.Credentials.History

/-!
# Lifetimes and the range of the clock

A new token is stored with the end of its lifetime, and the clock need not reach that far: then the
call crashes although the issuer gave a token. Nothing else in the cache crashes. All its instants
lie behind the origin of the clock, so the point at which a record becomes stale can always be told.

Validation bounds the default lifetime from below only. A configuration that it accepts can make
every call for a token of the default lifetime crash.

## Main definitions

* `Cache.SinceOrigin` — no instant of a cache lies before the origin of the clock.
* `TokenCacheSection.Outlasts` — a token of the default lifetime would last beyond the clock.
-/

namespace StoreClient

/-- The clock ends before a time that begins at this instant. -/
def Duration.Outlasts (d : Duration) (since : Instant) : Prop :=
  2 ^ 63 * 10 ^ 9 ≤ since.nanoseconds + d.nanoseconds

instance (d : Duration) (since : Instant) : Decidable (d.Outlasts since) :=
  inferInstanceAs (Decidable (_ ≤ _))

namespace Credentials

open Cache

/-! ## The end of a new record -/

namespace Record

variable {token : String} {since : Instant} {lifetime : Duration} {cause : Crash}

/-- A record cannot be made if and only if the clock does not reach the end of its lifetime. -/
theorem issue_eq_error : Record.issue token since lifetime = .error cause ↔
    cause = .instantAboveRange ∧ (max lifetime leastLifetime).Outlasts since := by
  have hlow := since.le_nanoseconds
  simp only [Record.issue, Instant.add?, Instant.ofNanoseconds?, Duration.Outlasts]
  generalize (max lifetime leastLifetime).nanoseconds = n
  by_cases hrange : -(2 ^ 63 * 10 ^ 9) ≤ since.nanoseconds + (n : Int) ∧
      since.nanoseconds + (n : Int) < 2 ^ 63 * 10 ^ 9
  · rw [dif_pos hrange]
    simp only [reduceCtorEq, false_iff, not_and, Int.not_le]
    exact fun _ => hrange.2
  · rw [dif_neg hrange]
    simp only [Except.error.injEq, eq_comm (a := Crash.instantAboveRange), iff_self_and]
    intro _
    omega

/-- Where the clock reaches the end of its lifetime, a record can be made. -/
theorem exists_issue (token : String)
    (h : ¬ (max lifetime leastLifetime).Outlasts since) :
    ∃ r, Record.issue token since lifetime = .ok r := by
  cases hr : Record.issue token since lifetime with
  | ok r => exact ⟨r, rfl⟩
  | error cause => exact absurd (issue_eq_error.1 hr).2 h

/-! ## Looking at a record -/

/-- A refresh buffer stands for at most the whole lifetime. -/
theorem upTo_fraction (buffer : Binary64) : (fraction buffer).UpTo 1 := by
  simp only [fraction]
  split
  · have hdefault : Binary64.clamp (.zero false) (.ofNat 1) defaultRefreshBuffer =
        defaultRefreshBuffer := by decide +kernel
    rw [← hdefault]
    exact Binary64.upTo_clamp (by decide +kernel)
  next h => exact Binary64.upTo_clamp (Bool.not_eq_true _ ▸ h)

/-- A record whose window is known is stale from the window before its end on. -/
theorem isStale_eq {r : Record} {buffer : Binary64} {window : Duration}
    (hwindow : r.lifetime.scale? (fraction buffer) = some window)
    (hlow : -(2 ^ 63 * 10 ^ 9) ≤ r.expiresAt.nanoseconds - window.nanoseconds) (now : Instant) :
    r.isStale now buffer =
      .ok (decide (r.expiresAt.nanoseconds ≤ now.nanoseconds + window.nanoseconds)) := by
  have hhigh := r.expiresAt.nanoseconds_lt
  have hrange : -(2 ^ 63 * 10 ^ 9) ≤ r.expiresAt.nanoseconds - (window.nanoseconds : Int) ∧
      r.expiresAt.nanoseconds - (window.nanoseconds : Int) < 2 ^ 63 * 10 ^ 9 := by omega
  have hrefresh : r.refreshAt buffer = .ok ⟨_, hrange.1, hrange.2⟩ := by
    refine refreshAt_eq_ok.2 ⟨window, ?_, dif_pos hrange⟩
    rw [refreshWindow, hwindow]
  refine isStale_eq_ok.2 ⟨_, hrefresh, decide_eq_decide.2 ?_⟩
  show r.expiresAt.nanoseconds - window.nanoseconds ≤ now.nanoseconds ↔ _
  omega

theorem exists_isStale_of_upTo {k : Nat} (r : Record) (now : Instant) (buffer : Binary64)
    (hlifetime : r.lifetime.toSeconds.UpTo k)
    (hshort : Binary64.Short k) (hk : k < 2 ^ 64)
    (hlow : -(2 ^ 63 * 10 ^ 9) ≤ r.expiresAt.nanoseconds - k * 10 ^ 9) :
    ∃ b, r.isStale now buffer = .ok b := by
  have hproduct : (fraction buffer * r.lifetime.toSeconds).UpTo k :=
    (upTo_fraction buffer).mul hlifetime hshort (Nat.le_of_eq (Nat.one_mul k))
  obtain ⟨window, hwindow, hle⟩ := Duration.ofSeconds?_of_upTo hproduct hk
  exact ⟨_, isStale_eq hwindow (by omega) now⟩

/-- A record behind the origin of the clock can be looked at. Rounding may add to a lifetime near
the end of the clock, but then the record has as much time before its end. -/
theorem exists_isStale (r : Record) (now : Instant) (buffer : Binary64)
    (hissued : 0 ≤ r.issuedAt.nanoseconds) (hexpires : 0 ≤ r.expiresAt.nanoseconds) :
    ∃ b, r.isStale now buffer = .ok b := by
  have hlifetime : (r.lifetime.nanoseconds : Int) ≤ r.expiresAt.nanoseconds := by
    simp only [lifetime, Instant.since]
    omega
  have hhigh := r.expiresAt.nanoseconds_lt
  rcases Nat.lt_or_ge r.lifetime.nanoseconds (2 ^ 62 * 10 ^ 9) with hlt | hge
  · have hseconds : r.lifetime.seconds ≤ 1 * 2 ^ 62 := by
      simp only [Duration.seconds, Duration.perSecond]
      omega
    have hshort : Binary64.Short (1 * 2 ^ 63) :=
      Binary64.short_mul_two_pow (by decide) (by decide)
    exact r.exists_isStale_of_upTo now buffer (Duration.toSeconds_upTo hseconds
      (Binary64.short_mul_two_pow (by decide) (by decide)) hshort (by decide)) hshort (by decide)
      (by omega)
  · have hseconds : r.lifetime.seconds ≤ 1 * 2 ^ 63 := by
      simp only [Duration.seconds, Duration.perSecond]
      omega
    have hshort : Binary64.Short ((2 ^ 52 + 1) * 2 ^ 11) :=
      Binary64.short_mul_two_pow (by decide) (by decide)
    exact r.exists_isStale_of_upTo now buffer (Duration.toSeconds_upTo hseconds
      (Binary64.short_mul_two_pow (by decide) (by decide)) hshort (by decide)) hshort (by decide)
      (by omega)

end Record

/-! ## Behind the origin of the clock -/

/-- No instant of a cache lies before the origin of the clock. -/
structure Cache.SinceOrigin (c : Cache) : Prop where
  /-- The time is at the origin or later. -/
  now : 0 ≤ c.now.nanoseconds
  /-- The issuer was asked at the origin or later. -/
  asked : ∀ i since, c.phase? i = some (.issuing since) → 0 ≤ since.nanoseconds
  /-- The records begin and end at the origin or later. -/
  kept : ∀ key r, c.records.lookup key = some r →
    0 ≤ r.issuedAt.nanoseconds ∧ 0 ≤ r.expiresAt.nanoseconds

variable {c c' : Cache} {a : Action} {i : Nat}

theorem Change.sinceOrigin (h : Change c a c') (hc : c.SinceOrigin) : c'.SinceOrigin := by
  refine ⟨Int.le_trans hc.now h.now_le, ?_, ?_⟩
  · intro j since hj
    cases h with
    | start =>
        rcases phase?_start_eq_some hj with ⟨-, hready⟩ | hj
        · simp at hready
        · exact hc.asked j since hj
    | cancel => exact hc.asked j since (by simpa using hj)
    | advance => exact hc.asked j since hj
    | queue | miss =>
        rcases phase?_moved_eq_some hj with ⟨-, hother⟩ | ⟨-, hj⟩
        · simp at hother
        · exact hc.asked j since hj
    | ask =>
        rcases phase?_moved_eq_some hj with ⟨-, hnow⟩ | ⟨-, hj⟩
        · obtain rfl := Phase.issuing.inj hnow
          exact hc.now
        · exact hc.asked j since hj
    | finish =>
        rcases phase?_ended_eq_some hj with ⟨-, hdone⟩ | ⟨-, hj⟩
        · simp at hdone
        · exact hc.asked j since hj
  · intro key r hr
    cases h with
    | start | cancel | advance | queue | miss | ask => exact hc.kept key r hr
    | finish at_i outcome =>
        rcases outcome.records_eq with
          heq | ⟨-, heq⟩ | ⟨new, since, token, record, hcall, issue, -, heq⟩
        · rw [records_ended, heq] at hr
          exact hc.kept key r hr
        · rw [records_ended, heq] at hr
          simp at hr
        · rw [records_ended, heq] at hr
          by_cases hkey : key = new
          · subst hkey
            rw [Records.lookup_insert_self] at hr
            obtain rfl := Option.some.inj hr
            have hsince := hc.asked _ since (by rw [phase?_of_getElem? at_i, hcall])
            obtain ⟨-, hissued, hexpires⟩ := Record.fields_of_issue issue
            rw [hissued, hexpires]
            omega
          · rw [Records.lookup_insert_of_ne _ _ hkey] at hr
            exact hc.kept key r hr

theorem sinceOrigin_of_run {s : Settings} {as : List Action} (h : (ofSettings s).run as = some c) :
    c.SinceOrigin :=
  invariant_of_run (fun _ _ _ hd hc => hc.sinceOrigin hd) h
    ⟨Int.le_refl 0, fun i since hi => by simp at hi, fun key r hr => by simp [ofSettings] at hr⟩

/-- A look for a key does not crash. -/
theorem Cache.SinceOrigin.exists_find (h : c.SinceOrigin) (key : Key) :
    ∃ found, c.find key = .ok found := by
  cases hr : c.records.lookup key with
  | none => exact ⟨.absent, by simp [find, hr]⟩
  | some r =>
      obtain ⟨hissued, hexpires⟩ := h.kept key r hr
      obtain ⟨b, hb⟩ := r.exists_isStale c.now c.settings.refreshBuffer hissued hexpires
      cases b <;> exact ⟨_, by simp [find, hr, hb, bind, Except.bind, pure, Except.pure]; rfl⟩

/-! ## Crashes -/

/-- A call for a token crashes if the issuer crashes, or if the clock does not reach the end of the
lifetime of a new token. -/
theorem Ends.crash_cases {cause : Crash} (h : Ends c a c' i (.token (.crash cause)))
    (hc : c.SinceOrigin) :
    a = .settle i (.crash cause) ∨ ∃ key since token, c.Asking i key since ∧
      a = .settle i (.ok token) ∧ cause = .instantAboveRange ∧
      (max (c.lifetime key) Record.leastLifetime).Outlasts since := by
  obtain ⟨call, events, records, at_i, outcome, rfl⟩ := h.outcome
  cases outcome with
  | @unreadable _ _ key _ _ _ found =>
      obtain ⟨other, hother⟩ := hc.exists_find key
      rw [found] at hother
      contradiction
  | crashed => exact .inl rfl
  | @overflowed key since token _ _ issue =>
      obtain ⟨hcause, hend⟩ := Record.issue_eq_error.1 issue
      exact .inr ⟨key, since, token, ⟨request?_of_getElem? at_i, phase?_of_getElem? at_i⟩, rfl,
        hcause, hend⟩

/-- The issuer's token is stored and given to the caller if the clock reaches the end of its
lifetime. Otherwise the call crashes and nothing is stored. -/
theorem Cache.settle_ok {key : Key} {since : Instant} {token : String}
    (at_i : c.calls[i]? = some ⟨.get key, .issuing since, false⟩)
    (nonempty : token.isEmpty = false) :
    ∃ c', (¬ (max (c.lifetime key) Record.leastLifetime).Outlasts since →
        Ends c (.settle i (.ok token)) c' i (.token (.ok token)) ∧
        ∃ record, Record.issue token since (c.lifetime key) = .ok record ∧
          c'.records = c.records.insert key record) ∧
      ((max (c.lifetime key) Record.leastLifetime).Outlasts since →
        Ends c (.settle i (.ok token)) c' i (.token (.crash .instantAboveRange)) ∧
        c'.records = c.records) := by
  obtain ⟨c', hact⟩ : ∃ c', c.act (.settle i (.ok token)) = some c' :=
    ⟨c.settleCall i key since (.ok token), by simp [act, at_i]⟩
  have hbefore (result : Result) : c.phase? i ≠ some (.done result) := by
    simp [phase?_of_getElem? at_i]
  have hafter (result : Result) (events : List Event) (records : Records) :
      (c.ended i result events records).phase? i = some (.done result) := by
    rw [phase?_ended, if_pos rfl, phase?_of_getElem? at_i]
    rfl
  refine ⟨c', ?_⟩
  cases Change.of_act hact with
  | finish at_j outcome =>
      cases outcome with
      | empty hempty => simp [nonempty] at hempty
      | overflowed _ issue =>
          obtain ⟨rfl, rfl, rfl⟩ := by simpa using at_i.symm.trans at_j
          obtain ⟨rfl, hend⟩ := Record.issue_eq_error.1 issue
          exact ⟨fun hwithin => absurd hend hwithin,
            fun _ => ⟨⟨hact, hbefore _, hafter _ _ _⟩, rfl⟩⟩
      | @stored _ _ _ record _ issue =>
          obtain ⟨rfl, rfl, rfl⟩ := by simpa using at_i.symm.trans at_j
          refine ⟨fun _ => ⟨⟨hact, hbefore _, hafter _ _ _⟩, record, issue, rfl⟩, fun hend => ?_⟩
          have hnone : Record.issue token since (c.lifetime key) = .error .instantAboveRange :=
            Record.issue_eq_error.2 ⟨rfl, hend⟩
          rw [issue] at hnone
          contradiction

/-! ## Accepted configurations -/

/-- Under an accepted configuration, a token requested without a lifetime has the default one. -/
theorem lifetime_of_accepted {config : Config} (accepted : config.problems = [])
    {as : List Action} (h : (ofSettings config.tokenCache.settings).run as = some c) {key : Key}
    (default : key.duration = .zero) :
    max (c.lifetime key) Record.leastLifetime =
      .ofSeconds config.tokenCache.defaultTokenDurationSecs := by
  have hlifetime : c.lifetime key = .ofSeconds config.tokenCache.defaultTokenDurationSecs := by
    rw [lifetime, default]
    exact defaultDuration_of_run h
  have hpositive : 0 < config.tokenCache.defaultTokenDurationSecs :=
    config.problems_eq_nil_iff.1 accepted .tokenDuration
  have hleast : ¬ Duration.ofSeconds config.tokenCache.defaultTokenDurationSecs ≤
      Record.leastLifetime := by
    rw [UInt64.lt_iff_toNat_lt, UInt64.toNat_zero] at hpositive
    show ¬ config.tokenCache.defaultTokenDurationSecs.toNat * 10 ^ 9 ≤ 1 * 10 ^ 6
    omega
  rw [hlifetime]
  exact if_neg hleast

/-- **Accepted configurations and the clock.** Under an accepted configuration, a call for a token
of the default lifetime that is given one by the issuer ends with it and stores it, if and only if
the clock reaches the end of the lifetime. Otherwise it crashes and stores nothing, and it crashes
in no other case unless the issuer does. -/
theorem kept_iff_within_clock (config : Config) (accepted : config.problems = [])
    (as : List Action) (c : Cache)
    (h : (ofSettings config.tokenCache.settings).run as = some c) (i : Nat) (key : Key)
    (request : c.request? i = some (.get key)) (default : key.duration = .zero) :
    let lifetime : Duration := .ofSeconds config.tokenCache.defaultTokenDurationSecs
    (∀ since token, c.calls[i]? = some ⟨.get key, .issuing since, false⟩ →
      token.isEmpty = false → ∃ c',
        (¬ lifetime.Outlasts since → Ends c (.settle i (.ok token)) c' i (.token (.ok token)) ∧
          ∃ record, c'.records.lookup key = some record ∧ record.token = token ∧
            record.issuedAt = since ∧ record.expiresAt.nanoseconds =
              since.nanoseconds + lifetime.nanoseconds) ∧
        (lifetime.Outlasts since →
          Ends c (.settle i (.ok token)) c' i (.token (.crash .instantAboveRange)) ∧
            c'.records = c.records)) ∧
    ∀ a c' cause, Ends c a c' i (.token (.crash cause)) →
      a = .settle i (.crash cause) ∨ ∃ since token, c.Asking i key since ∧
        a = .settle i (.ok token) ∧ cause = .instantAboveRange ∧ lifetime.Outlasts since := by
  intro lifetime
  have hlifetime : max (c.lifetime key) Record.leastLifetime = lifetime :=
    lifetime_of_accepted accepted h default
  constructor
  · intro since token at_i nonempty
    obtain ⟨c', hkept, hcrashed⟩ := settle_ok at_i nonempty
    rw [hlifetime] at hkept hcrashed
    refine ⟨c', fun hwithin => ?_, hcrashed⟩
    obtain ⟨hend, record, issue, hrecords⟩ := hkept hwithin
    obtain ⟨htoken, hissued, hexpires⟩ := Record.fields_of_issue issue
    rw [hlifetime] at hexpires
    refine ⟨hend, record, ?_, htoken, hissued, hexpires⟩
    rw [hrecords, Records.lookup_insert_self]
  · intro a c' cause hend
    rcases hend.crash_cases (sinceOrigin_of_run h) with
      hissuer | ⟨other, since, token, hi, ha, hcause, houtlasts⟩
    · exact .inl hissuer
    · obtain rfl := Request.get.inj (Option.some.inj (request.symm.trans hi.1))
      rw [hlifetime] at houtlasts
      exact .inr ⟨since, token, hi, ha, hcause, houtlasts⟩

/-- Under the default configuration a token is kept for fifteen minutes. -/
theorem kept_for_fifteen_minutes :
    let key : Key := ⟨"db", "eu", "admin", .zero⟩
    ∃ c c' record,
      (ofSettings (default : Config).tokenCache.settings).run
        [.start (.get key), .step 0, .step 0] = some c ∧
      Ends c (.settle 0 (.ok "token")) c' 0 (.token (.ok "token")) ∧
      c'.records.lookup key = some record ∧ record.token = "token" ∧
      record.expiresAt.nanoseconds = 900 * 10 ^ 9 := by
  intro key
  have hrun : ((ofSettings (default : Config).tokenCache.settings).run
      [.start (.get key), .step 0, .step 0]).map (fun c => (c.request? 0, c.calls[0]?)) =
      some (some (.get key), some ⟨.get key, .issuing .origin, false⟩) := by
    decide +kernel
  obtain ⟨c, hc, hviews⟩ := Option.map_eq_some_iff.1 hrun
  obtain ⟨hrequest, at_0⟩ := Prod.mk.inj hviews
  obtain ⟨c', hkept, -⟩ := (kept_iff_within_clock default (by decide +kernel) _ c hc 0 key hrequest
    rfl).1 .origin "token" at_0 (by decide +kernel)
  obtain ⟨hend, record, hr, htoken, -, hexpires⟩ := hkept (by decide)
  exact ⟨c, c', record, hc, hend, hr, htoken, hexpires⟩

/-- The longest default lifetime is accepted, and then the first call that is given a token
crashes. -/
theorem crashed_of_longest_lifetime :
    ¬ ∀ (config : Config) (as : List Action) (c c' : Cache) (i : Nat) (key : Key) (since : Instant)
      (token : String), config.problems = [] →
      (ofSettings config.tokenCache.settings).run as = some c →
      c.calls[i]? = some ⟨.get key, .issuing since, false⟩ → key.duration = .zero →
      token.isEmpty = false → c.act (.settle i (.ok token)) = some c' →
      c'.phase? i = some (.done (.token (.ok token))) := by
  intro hall
  let config : Config := { tokenCache := { defaultTokenDurationSecs := 2 ^ 64 - 1 } }
  let key : Key := ⟨"db", "eu", "admin", .zero⟩
  have hrun : ((ofSettings config.tokenCache.settings).run
      [.start (.get key), .step 0, .step 0]).bind (fun c =>
        (c.act (.settle 0 (.ok "token"))).map fun c' => (c.calls[0]?, c'.phase? 0)) =
      some (some ⟨.get key, .issuing .origin, false⟩,
        some (.done (.token (.crash .instantAboveRange)))) := by
    decide +kernel
  obtain ⟨c, hc, hact⟩ := Option.bind_eq_some_iff.1 hrun
  obtain ⟨c', ha, hviews⟩ := Option.map_eq_some_iff.1 hact
  obtain ⟨at_0, hcrashed⟩ := Prod.mk.inj hviews
  have hok := hall config _ c c' 0 key .origin "token" (by decide +kernel) hc at_0 rfl
    (by decide +kernel) ha
  rw [hcrashed] at hok
  simp at hok

end Credentials

end StoreClient
