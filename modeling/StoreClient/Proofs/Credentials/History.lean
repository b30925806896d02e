import Mathlib.Data.List.Dedup
import StoreClient.Proofs.Credentials.Journal

/-!
# Records as a function of the history

The journal alone determines the records of a cache: a key has the record of the last token that the
issuer gave for it since all records were last forgotten, and no record without one. Nothing else
that happens to a cache shows in its records.

## Main definitions

* `issuances` — the tokens which the issuer gave, as read off a journal.
* `Effect` — what an action does to the records and to the issuances.
* `FollowsHistory` — the records are those of the issuances, and so is what calls are told of them.
-/

namespace StoreClient.Credentials

open Cache

/-! ## Issuances -/

/-- A token that the issuer gave. -/
structure Issuance where
  /-- The key for which the issuer was asked. -/
  key : Key
  /-- When it was asked. -/
  askedAt : Instant
  /-- The token. -/
  token : String
deriving DecidableEq

/-- For how long its token is valid: as long as the key asks for, by default as long as is set, and
in any case for a millisecond. -/
def Issuance.lifetime (x : Issuance) (default : Duration) : Duration :=
  max (if x.key.duration = .zero then default else x.key.duration) (.ofMilliseconds 1)

/-- The record of its token; none if the clock does not reach the end of the lifetime. -/
def Issuance.record? (x : Issuance) (default : Duration) : Option Record :=
  (x.askedAt.add? (x.lifetime default)).map fun expiresAt =>
    { token := x.token, issuedAt := x.askedAt, expiresAt }

/-- The tokens that the issuer gave since all records were last forgotten, the latest first. It gave
a token to whoever has asked and ends with a token. -/
def issuances : List Entry → List Issuance
  | [] => []
  | ⟨_, _, .cleared⟩ :: _ => []
  | ⟨i, _, .ended (.token (.ok token))⟩ :: older =>
    match asked? i older with
    | some (key, askedAt) => ⟨key, askedAt, token⟩ :: issuances older
    | none => issuances older
  | _ :: older => issuances older

/-- The last token that the issuer gave for a key. -/
def latest? (key : Key) (entries : List Entry) : Option Issuance :=
  (issuances entries).find? (·.key = key)

/-- The keys for which the issuer gave a token. -/
def issuedKeys (entries : List Entry) : List Key := ((issuances entries).map (·.key)).dedup

variable {c c' : Cache} {a : Action} {key : Key} {i : Nat} {since : Instant} {default : Duration}
  {entries : List Entry}

theorem mem_issuedKeys : key ∈ issuedKeys entries ↔ (latest? key entries).isSome := by
  simp [issuedKeys, latest?]

/-- An issuance lasts as long as a record that the cache makes. -/
theorem Issuance.lifetime_eq (c : Cache) (key : Key) (since : Instant) (token : String) :
    (⟨key, since, token⟩ : Issuance).lifetime c.settings.defaultDuration =
      max (c.lifetime key) Record.leastLifetime := by
  have hzero : key.duration.isZero = true ↔ key.duration = .zero := by
    obtain ⟨host, region, user, n, hn⟩ := key
    simp [Duration.isZero, Duration.zero]
  simp only [lifetime, Cache.lifetime, Record.leastLifetime, hzero]

/-- A new record is the one of its issuance. -/
theorem Record.issue_eq_ok {token : String} {record : Record} :
    Record.issue token since (c.lifetime key) = .ok record ↔
      (⟨key, since, token⟩ : Issuance).record? c.settings.defaultDuration = some record := by
  simp only [issue, Issuance.record?, Issuance.lifetime_eq]
  cases hadd : since.add? (max (c.lifetime key) leastLifetime) <;> simp

/-! ## What an action does -/

/-- What an action does to the records and to the issuances. -/
inductive Effect (default : Duration) (c : Cache) (a : Action) (c' : Cache) : Prop
  /-- Nothing. -/
  | same (records : c'.records = c.records)
      (issued : issuances c'.journal = issuances c.journal)
  /-- A call forgets all records. -/
  | forgotten {i : Nat} (step : a = .step i) (request : c.request? i = some .clear)
      (phase : c'.phase? i = some (.done .cleared)) (records : c'.records = [])
      (issued : issuances c'.journal = [])
  /-- A call that waits for the issuer is given a token, ends with it and stores its record. -/
  | stored {i : Nat} {key : Key} {since : Instant} {token : String} {record : Record}
      (settle : a = .settle i (.ok token)) (nonempty : token.isEmpty = false)
      (asking : c.Asking i key since) (phase : c'.phase? i = some (.done (.token (.ok token))))
      (record_eq : (⟨key, since, token⟩ : Issuance).record? default = some record)
      (records : c'.records = c.records.insert key record)
      (issued : issuances c'.journal = ⟨key, since, token⟩ :: issuances c.journal)

/-- A call that ends with the token it has asked for issues it. -/
theorem issuances_ended {token : String} {record : Record} {size : Nat} {records : Records}
    (hj : Journaled c) (hi : c.Asking i key since) :
    issuances (c.ended i (.token (.ok token)) [.stored key record size, .issued] records).journal =
      ⟨key, since, token⟩ :: issuances c.journal := by
  have hasked := hj.asking i key since hi
  simp [issuances, hasked]

/-- Every action has one of the listed effects. -/
theorem Change.effect (h : Change c a c') (hj : Journaled c) :
    Effect c.settings.defaultDuration c a c' := by
  cases h with
  | start | cancel | advance | queue => exact .same rfl rfl
  | @miss _ _ _ found | @ask _ _ _ found =>
      refine .same rfl ?_
      cases found <;> simp [Lookup.staleness, issuances]
  | @finish _ i call result events records at_i outcome =>
      cases outcome with
      | gaveUp =>
          refine .same rfl ?_
          cases call.phase <;> simp [Phase.abandonment, issuances]
      | unreadable | counted | crashed | failed | empty | overflowed =>
          exact .same rfl (by simp [issuances])
      | hit admitted | refreshed admitted =>
          have hnone := hj.asked?_eq_none at_i admitted
          exact .same rfl (by simp [issuances, hnone])
      | cleared admitted request =>
          refine .forgotten rfl ?_ ?_ rfl (by simp [issuances])
          · rw [request?_of_getElem? at_i, request]
          · simp [phase?_ended, phase?_of_getElem? at_i]
      | @stored key since token record nonempty issue =>
          have hi : c.Asking i key since := ⟨request?_of_getElem? at_i, phase?_of_getElem? at_i⟩
          refine .stored rfl nonempty hi ?_ (Record.issue_eq_ok.1 issue) rfl (issuances_ended hj hi)
          simp [phase?_ended, phase?_of_getElem? at_i]

/-- A token that the issuer gives is stored unless it is empty or its lifetime too long. -/
theorem Change.of_settle_ok {token : String} {record : Record} (hi : c.Asking i key since)
    (nonempty : token.isEmpty = false)
    (issue : Record.issue token since (c.lifetime key) = .ok record)
    (h : Change c (.settle i (.ok token)) c') :
    c' = c.ended i (.token (.ok token))
      [.stored key record (c.records.insert key record).length, .issued]
      (c.records.insert key record) := by
  cases h with
  | finish at_i outcome =>
      cases outcome with
      | empty hempty => exact absurd (nonempty.symm.trans hempty) (by simp)
      | overflowed _ hover =>
          obtain ⟨rfl, rfl⟩ := hi.eq at_i
          exact absurd (issue.symm.trans hover) (by simp)
      | stored _ hstored =>
          obtain ⟨rfl, rfl⟩ := hi.eq at_i
          obtain rfl := Except.ok.inj (issue.symm.trans hstored)
          rfl

/-! ## The records -/

/-- The records are those of the last issuances. -/
structure Mirrored (default : Duration) (c : Cache) : Prop where
  lookup : ∀ key, c.records.lookup key = (latest? key c.journal).bind (·.record? default)
  held : ∀ x ∈ issuances c.journal, ∃ record, x.record? default = some record
  distinct : c.records.keys.Nodup

theorem Effect.mirrored (h : Effect default c a c') (hm : Mirrored default c) :
    Mirrored default c' := by
  cases h with
  | same records issued =>
      refine ⟨?_, ?_, ?_⟩
      · intro key
        rw [latest?, issued, records]
        exact hm.lookup key
      · rw [issued]
        exact hm.held
      · rw [records]
        exact hm.distinct
  | forgotten _ _ _ records issued =>
      refine ⟨?_, ?_, ?_⟩
      · simp [latest?, issued, records]
      · simp [issued]
      · simp [records, Records.keys]
  | @stored _ key since token record _ _ _ _ record_eq records issued =>
      refine ⟨?_, ?_, ?_⟩
      · intro other
        by_cases heq : key = other
        · subst heq
          simp [latest?, issued, records, record_eq]
        · have hlatest : latest? other c'.journal = latest? other c.journal := by
            simp [latest?, issued, heq]
          rw [records, Records.lookup_insert_of_ne _ _ (Ne.symm heq), hlatest]
          exact hm.lookup other
      · rw [issued]
        intro x hx
        rcases List.mem_cons.1 hx with rfl | hx
        · exact ⟨record, record_eq⟩
        · exact hm.held x hx
      · rw [records]
        exact Records.nodup_keys_insert record hm.distinct

/-- There are as many records as keys for which the issuer gave a token. -/
theorem Mirrored.length_eq (hm : Mirrored default c) :
    c.records.length = (issuedKeys c.journal).length := by
  have hperm : c.records.keys.Perm (issuedKeys c.journal) := by
    refine (List.perm_ext_iff_of_nodup hm.distinct (List.nodup_dedup _)).2 fun key => ?_
    change key ∈ c.records.keys ↔ key ∈ issuedKeys c.journal
    rw [← Records.isSome_lookup, mem_issuedKeys, hm.lookup key]
    cases hx : latest? key c.journal with
    | none => simp
    | some x =>
        obtain ⟨record, hr⟩ := hm.held x (List.mem_of_find?_eq_some hx)
        simp [hr]
  simpa [Records.keys] using hperm.length_eq

theorem settings_of_run {s : Settings} {as : List Action} (h : (ofSettings s).run as = some c) :
    c.settings = s.usable :=
  invariant_of_run (P := fun d => d.settings = s.usable)
    (fun _ _ _ hd hc => hc.settings_eq.trans hd) h rfl

theorem defaultDuration_of_run {s : Settings} {as : List Action}
    (h : (ofSettings s).run as = some c) :
    c.settings.defaultDuration = s.defaultDuration := by
  rw [settings_of_run h, Settings.usable]
  split <;> rfl

theorem mirrored_of_run {s : Settings} {as : List Action} (h : (ofSettings s).run as = some c) :
    Mirrored c.settings.defaultDuration c := by
  refine (invariant_of_run (P := fun d => Journaled d ∧ Mirrored d.settings.defaultDuration d)
    ?_ h ?_).2
  · intro a d d' hd hc
    refine ⟨hc.journaled hd.1, ?_⟩
    rw [hc.settings_eq]
    exact (hc.effect hd.1).mirrored hd.2
  · refine ⟨journaled_of_run (run_nil _), ?_, ?_, ?_⟩
    · simp [ofSettings, latest?, issuances]
    · simp [ofSettings, issuances]
    · simp [ofSettings, Records.keys]

end StoreClient.Credentials
