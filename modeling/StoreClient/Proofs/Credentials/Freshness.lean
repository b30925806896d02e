import StoreClient.Proofs.Credentials.History

/-!
# Freshness

A token from the records is still valid when a call ends with it. A token from the issuer need not
be: its lifetime begins when the issuer is asked, and nobody looks at the time again when the issuer
answers.
-/

namespace StoreClient.Credentials

open Cache

/-- A call ends with a token on record, and that token is still valid exactly if the issuer, as far
as it was asked by this call, has answered within the lifetime. -/
theorem valid_iff_answered_in_time (s : Settings) (as : List Action) (c c' : Cache) (a : Action)
    (i : Nat) (token : String) (h : (ofSettings s).run as = some c)
    (hend : Ends c a c' i (.token (.ok token))) :
    ∃ key record, c.request? i = some (.get key) ∧ c'.records.lookup key = some record ∧
      record.token = token ∧
      (c'.now < record.expiresAt ↔ ∀ since, c.Asking i key since → c'.now.nanoseconds <
        since.nanoseconds +
          ((⟨key, since, token⟩ : Issuance).lifetime s.defaultDuration).nanoseconds) := by
  obtain ⟨call, events, records, at_i, outcome, rfl⟩ := hend.outcome
  rw [← defaultDuration_of_run h]
  cases outcome with
  | @hit _ key _ admitted request found | @refreshed _ key _ admitted request found =>
      obtain ⟨record, hr, htoken, hfresh⟩ := find_eq_fresh.1 found
      refine ⟨key, record, by rw [request?_of_getElem? at_i, request], hr, htoken, ?_⟩
      constructor
      · intro _ since hi
        exact absurd hi (admitted.not_asking at_i)
      · intro _
        exact Record.lt_expiresAt_of_isStale_eq_false hfresh
  | @stored key since _ record _ issue =>
      have hi : c.Asking i key since := ⟨request?_of_getElem? at_i, phase?_of_getElem? at_i⟩
      obtain ⟨htoken, -, hexpires⟩ := Record.fields_of_issue issue
      refine ⟨key, record, hi.1, Records.lookup_insert_self _ _ _, htoken, ?_⟩
      change c.now.nanoseconds < record.expiresAt.nanoseconds ↔ _
      rw [hexpires, ← Issuance.lifetime_eq c key since token]
      constructor
      · intro hlt other hother
        obtain ⟨-, rfl⟩ := hother.eq at_i
        exact hlt
      · intro hall
        exact hall since hi

/-- An issuer that takes half the lifetime gives a valid token. -/
theorem valid_of_prompt_issuer :
    let key : Key := ⟨"db", "eu", "admin", .ofSeconds 1⟩
    let schedule : List Action :=
      [.start (.get key), .step 0, .step 0, .advance (.ofMilliseconds 500)]
    ∃ c c' record, (ofSettings {}).run schedule = some c ∧
      Ends c (.settle 0 (.ok "prompt")) c' 0 (.token (.ok "prompt")) ∧
      c'.records.lookup key = some record ∧ record.token = "prompt" ∧
      c'.now < record.expiresAt := by
  intro key schedule
  have hrun : ((ofSettings {}).run schedule).bind (fun c =>
      (c.act (.settle 0 (.ok "prompt"))).map fun c' =>
        (c.request? 0, c.phase? 0, c'.phase? 0, c'.now.nanoseconds)) =
      some (some (.get key), some (.issuing .origin), some (.done (.token (.ok "prompt"))),
        500000000) := by
    decide +kernel
  obtain ⟨c, hc, hact⟩ := Option.bind_eq_some_iff.1 hrun
  obtain ⟨c', ha, hviews⟩ := Option.map_eq_some_iff.1 hact
  simp only [Prod.mk.injEq] at hviews
  obtain ⟨hrequest, hphase, hdone, hnow⟩ := hviews
  have hend : Ends c (.settle 0 (.ok "prompt")) c' 0 (.token (.ok "prompt")) :=
    ⟨ha, by simp [hphase], hdone⟩
  obtain ⟨other, record, hother, hr, htoken, hvalid⟩ :=
    valid_iff_answered_in_time {} schedule c c' _ 0 "prompt" hc hend
  obtain rfl := Request.get.inj (Option.some.inj (hrequest.symm.trans hother))
  refine ⟨c, c', record, hc, hend, hr, htoken, hvalid.2 ?_⟩
  intro since hi
  obtain rfl := Phase.issuing.inj (Option.some.inj (hphase.symm.trans hi.2))
  rw [hnow]
  decide

/-- An issuer that takes twice the lifetime gives an expired token, and the call ends with it. -/
theorem expired_of_slow_issuer :
    ¬ ∀ (s : Settings) (as : List Action) (c c' : Cache) (a : Action) (i : Nat) (token : String)
      (key : Key) (record : Record), (ofSettings s).run as = some c →
      Ends c a c' i (.token (.ok token)) → c.request? i = some (.get key) →
      c'.records.lookup key = some record → record.token = token →
      c'.now < record.expiresAt := by
  intro hall
  let key : Key := ⟨"db", "eu", "admin", .ofSeconds 1⟩
  let schedule : List Action := [.start (.get key), .step 0, .step 0, .advance (.ofSeconds 2)]
  have hrun : ((ofSettings {}).run schedule).bind (fun c =>
      (c.act (.settle 0 (.ok "late"))).map fun c' =>
        (c.request? 0, c.phase? 0, c'.phase? 0, (c'.records.lookup key).map fun record =>
          (record.token, decide (c'.now < record.expiresAt)))) =
      some (some (.get key), some (.issuing .origin), some (.done (.token (.ok "late"))),
        some ("late", false)) := by
    decide +kernel
  obtain ⟨c, hc, hact⟩ := Option.bind_eq_some_iff.1 hrun
  obtain ⟨c', ha, hviews⟩ := Option.map_eq_some_iff.1 hact
  simp only [Prod.mk.injEq] at hviews
  obtain ⟨hrequest, hphase, hdone, hrecord⟩ := hviews
  obtain ⟨record, hr, hlate⟩ := Option.map_eq_some_iff.1 hrecord
  obtain ⟨htoken, hexpired⟩ := Prod.mk.inj hlate
  have hend : Ends c (.settle 0 (.ok "late")) c' 0 (.token (.ok "late")) :=
    ⟨ha, by simp [hphase], hdone⟩
  exact of_decide_eq_false hexpired
    (hall {} schedule c c' _ 0 "late" key record hc hend hrequest hr htoken)

end StoreClient.Credentials
