import StoreClient.Proofs.Credentials.Lifetimes
import StoreClient.Proofs.Credentials.Uncontended

/-!
# The age of a served token

A record lasts at least a millisecond, also when less is asked for. So a call can be given a token
from the records for longer than the lifetime that its key asks for. How much longer depends on the
refresh buffer, which takes the last part of the millisecond away: if the lifetime and that part
make up a millisecond, no token is served beyond its lifetime, and otherwise one can be.

## Main definitions

* `Settings.requested` — the lifetime that a key asks for.
* `ServedWithin` — no token from the records is older than some age.
-/

namespace StoreClient.Credentials

open Cache

/-- The lifetime that a key asks for, the default one for zero. -/
def Settings.requested (s : Settings) (key : Key) : Duration :=
  if key.duration = .zero then s.defaultDuration else key.duration

/-- Whoever is given a token of the key without asking the issuer is given one for which the issuer
was asked less than that long ago. -/
def ServedWithin (age : Duration) (key : Key) (c : Cache) : Prop :=
  ∀ a c' i token, Ends c a c' i (.token (.ok token)) → c.request? i = some (.get key) →
    (∀ since, c.phase? i ≠ some (.issuing since)) →
    ∃ x, latest? key c.journal = some x ∧ x.token = token ∧
      c'.now.nanoseconds < x.askedAt.nanoseconds + age.nanoseconds

/-! ## Records -/

namespace Record

variable {r : Record} {token : String} {since now : Instant} {lifetime : Duration}
  {buffer : Binary64} {window : Duration}

theorem refreshWindow_eq_ok : r.refreshWindow buffer = .ok window ↔
    r.lifetime.scale? (fraction buffer) = some window := by
  rw [refreshWindow]
  cases r.lifetime.scale? (fraction buffer) <;> simp

theorem lifetime_eq_of_issue (issue : Record.issue token since lifetime = .ok r) :
    r.lifetime = max lifetime leastLifetime :=
  Duration.eq_of_nanoseconds_eq (lifetime_of_issue issue)

/-- A new record becomes stale a window before its end. -/
theorem isStale_of_issue {b : Bool} (issue : Record.issue token since lifetime = .ok r)
    (h : r.isStale now buffer = .ok b) :
    ∃ window, (max lifetime leastLifetime).scale? (fraction buffer) = some window ∧
      (b = true ↔ since.nanoseconds + (max lifetime leastLifetime).nanoseconds ≤
        now.nanoseconds + window.nanoseconds) := by
  obtain ⟨t, ht, rfl⟩ := isStale_eq_ok.1 h
  obtain ⟨window, hwindow, hsub⟩ := refreshAt_eq_ok.1 ht
  rw [refreshWindow_eq_ok, lifetime_eq_of_issue issue] at hwindow
  obtain ⟨-, -, hexpires⟩ := fields_of_issue issue
  have ht := Instant.nanoseconds_of_sub?_eq_some hsub
  refine ⟨window, hwindow, ?_⟩
  rw [decide_eq_true_eq]
  show t.nanoseconds ≤ now.nanoseconds ↔ _
  omega

/-- Before that it is fresh. -/
theorem isStale_eq_false (issue : Record.issue token since lifetime = .ok r)
    (hwindow : (max lifetime leastLifetime).scale? (fraction buffer) = some window)
    (hlt : now.nanoseconds + window.nanoseconds <
      since.nanoseconds + (max lifetime leastLifetime).nanoseconds) :
    r.isStale now buffer = .ok false := by
  obtain ⟨-, -, hexpires⟩ := fields_of_issue issue
  have hnow := now.le_nanoseconds
  rw [← lifetime_eq_of_issue issue] at hwindow
  rw [isStale_eq hwindow (by omega)]
  exact congrArg _ (decide_eq_false (by omega))

/-- Every refresh buffer takes some part of the least lifetime away. -/
theorem exists_window (buffer : Binary64) :
    ∃ window, leastLifetime.scale? (fraction buffer) = some window := by
  let r : Record := ⟨"", .origin, ⟨10 ^ 6, by decide, by decide⟩⟩
  have issue : Record.issue "" .origin .zero = .ok r := by decide
  obtain ⟨b, hb⟩ := r.exists_isStale .origin buffer (by decide) (by decide)
  obtain ⟨window, hwindow, -⟩ := isStale_of_issue issue hb
  exact ⟨window, hwindow⟩

theorem max_eq_leastLifetime (h : lifetime ≤ leastLifetime) :
    max lifetime leastLifetime = leastLifetime := if_pos h

/-- A fresh record is not older than its lifetime, if this and the window make up the least one. -/
theorem lt_of_isStale_eq_false (issue : Record.issue token since lifetime = .ok r)
    (fresh : r.isStale now buffer = .ok false)
    (hwindow : leastLifetime.scale? (fraction buffer) = some window)
    (hle : leastLifetime.nanoseconds ≤ lifetime.nanoseconds + window.nanoseconds) :
    now.nanoseconds < since.nanoseconds + lifetime.nanoseconds := by
  obtain ⟨used, hused, hstale⟩ := isStale_of_issue issue fresh
  have hnow := mt hstale.2 Bool.false_ne_true
  by_cases hleast : lifetime ≤ leastLifetime
  · rw [max_eq_leastLifetime hleast] at hused hnow
    obtain rfl := Option.some.inj (hwindow.symm.trans hused)
    omega
  · have hmax : max lifetime leastLifetime = lifetime := if_neg hleast
    rw [hmax] at hnow
    omega

end Record

/-! ## Tokens that are not too old -/

variable {c c' : Cache} {s : Settings} {key : Key} {i : Nat} {token : String}

theorem lifetime_of_run {as : List Action} (h : (ofSettings s).run as = some c) (key : Key) :
    c.lifetime key = s.requested key := by
  have hzero : key.duration.isZero = true ↔ key.duration = .zero :=
    beq_iff_eq.trans ⟨fun h => Duration.eq_of_nanoseconds_eq h, fun h => congrArg _ h⟩
  simp only [lifetime, Settings.requested, hzero, defaultDuration_of_run h]

/-- A look that finds a fresh token finds one that was issued within the lifetime, if this and the
window make up the least lifetime. -/
theorem servedWithin_of_le {window : Duration} {as : List Action}
    (h : (ofSettings s).run as = some c)
    (hwindow : Record.leastLifetime.scale? (Record.fraction s.usable.refreshBuffer) = some window)
    (hle : Record.leastLifetime.nanoseconds ≤ (s.requested key).nanoseconds + window.nanoseconds) :
    ServedWithin (s.requested key) key c := by
  intro a c' i token hend request hnot
  obtain ⟨call, events, records, at_i, outcome, rfl⟩ := hend.outcome
  have hfound : c.find key = .ok (.fresh token) := by
    cases outcome with
    | hit _ hrequest found | refreshed _ hrequest found =>
        rw [request?_of_getElem? at_i, hrequest] at request
        obtain rfl := Request.get.inj (Option.some.inj request)
        exact found
    | stored => exact absurd (phase?_of_getElem? at_i) (hnot _)
  obtain ⟨record, hr, rfl, hfresh⟩ := find_eq_fresh.1 hfound
  rw [(mirrored_of_run h).lookup key] at hr
  obtain ⟨x, hx, hrecord⟩ := Option.bind_eq_some_iff.1 hr
  have hkey : x.key = key := by
    have hfind := List.find?_some hx
    exact of_decide_eq_true hfind
  have issue : Record.issue x.token x.askedAt (c.lifetime x.key) = .ok record :=
    Record.issue_eq_ok.2 hrecord
  rw [hkey, lifetime_of_run h] at issue
  rw [settings_of_run h] at hfresh
  exact ⟨x, hx, (Record.fields_of_issue issue).1.symm,
    Record.lt_of_isStale_eq_false issue hfresh hwindow hle⟩

/-! ## A token that is as old as its lifetime -/

/-- While nobody is at the lock, whoever comes as long as a record is fresh is given its token. -/
theorem exists_served {as : List Action} {age : Duration} {t : Instant} {record : Record}
    (h : (ofSettings s).run as = some c) (free : c.lock = {}) (ht : c.now.add? age = some t)
    (hr : c.records.lookup key = some record)
    (hfresh : record.isStale t c.settings.refreshBuffer = .ok false) :
    ∃ later d d', (ofSettings s).run later = some d ∧ d.journal = c.journal ∧ d'.now = t ∧
      ∃ i, d.request? i = some (.get key) ∧ d.phase? i = some .ready ∧
        Ends d (.step i) d' i (.token (.ok record.token)) := by
  let d : Cache := { c with now := t, calls := c.calls ++ [{ request := .get key }] }
  have hadvance : c.act (.advance age) = some { c with now := t } := by
    rw [act, ht]
    rfl
  have hstart : Cache.act { c with now := t } (.start (.get key)) = some d := rfl
  have hrun := run_concat_eq_some.2 ⟨_, run_concat_eq_some.2 ⟨_, h, hadvance⟩, hstart⟩
  have at_i : d.calls[c.calls.length]? = some ⟨.get key, .ready, false⟩ := by simp [d]
  have hfound : d.find key = .ok (.fresh record.token) :=
    find_eq_fresh.2 ⟨record, hr, rfl, hfresh⟩
  obtain ⟨d', hend, hnow⟩ := hit_of_free at_i free hfound
  exact ⟨_, d, d', hrun, rfl, hnow, _, request?_of_getElem? at_i, phase?_of_getElem? at_i, hend⟩

/-- From an empty cache a token of a short lifetime can be issued at the origin of the clock. -/
theorem exists_issued (s : Settings) (key : Key)
    (hleast : s.requested key ≤ Record.leastLifetime) :
    ∃ as c record, (ofSettings s).run as = some c ∧ c.now = .origin ∧ c.lock = {} ∧
      Record.issue "token" .origin (s.requested key) = .ok record ∧
      c.records.lookup key = some record ∧
      latest? key c.journal = some ⟨key, .origin, "token"⟩ := by
  have look : (ofSettings s).find key = .ok .absent := rfl
  have hasking := run_asking rfl look (by simp)
  have hlifetime : (ofSettings s).lifetime key = s.requested key := lifetime_of_run (run_nil _) key
  have hwithin : ¬ (max (s.requested key) Record.leastLifetime).Outlasts .origin := by
    rw [Record.max_eq_leastLifetime hleast]
    decide
  obtain ⟨record, issue⟩ := Record.exists_issue "token" hwithin
  have hrun := run_answered rfl look (by simp) (by decide +kernel) (hlifetime ▸ issue)
  refine ⟨_, _, record, hrun, rfl, lock_answered _ _ _ _ _, issue, lookup_answered _ _ _ _ _, ?_⟩
  have hi : ((ofSettings s).asking key .absent).Asking 0 key .origin := ⟨rfl, rfl⟩
  have hissued : issuances ((ofSettings s).answered key .absent "token" record).journal =
      ⟨key, .origin, "token"⟩ :: issuances ((ofSettings s).asking key .absent).journal :=
    issuances_ended (journaled_of_run hasking) hi
  rw [latest?, hissued]
  simp

theorem exists_add?_origin {age : Duration} (h : age ≤ Record.leastLifetime) :
    ∃ t, Instant.origin.add? age = some t ∧ t.nanoseconds = age.nanoseconds := by
  have hage : age.nanoseconds ≤ Record.leastLifetime.nanoseconds := h
  have hleast : Record.leastLifetime.nanoseconds = 10 ^ 6 := by decide
  have hrange : -(2 ^ 63 * 10 ^ 9) ≤ (0 : Int) + age.nanoseconds ∧
      (0 : Int) + age.nanoseconds < 2 ^ 63 * 10 ^ 9 := by omega
  rw [Instant.add?, Instant.ofNanoseconds?, Instant.origin, dif_pos hrange]
  exact ⟨_, rfl, Int.zero_add _⟩

/-- If the lifetime that is asked for and the window do not make up the least lifetime, a token can
be served that is as old as the lifetime. -/
theorem exists_not_servedWithin {window : Duration}
    (hwindow : Record.leastLifetime.scale? (Record.fraction s.usable.refreshBuffer) = some window)
    (hlt : (s.requested key).nanoseconds + window.nanoseconds < Record.leastLifetime.nanoseconds) :
    ∃ as c, (ofSettings s).run as = some c ∧ ¬ ServedWithin (s.requested key) key c := by
  have hleast : s.requested key ≤ Record.leastLifetime :=
    Nat.le_of_lt (Nat.lt_of_le_of_lt (Nat.le_add_right _ _) hlt)
  have horigin : Instant.origin.nanoseconds = 0 := rfl
  obtain ⟨as, c, record, h, hnow, free, issue, hr, hlatest⟩ := exists_issued s key hleast
  obtain ⟨t, ht, hage⟩ := exists_add?_origin hleast
  have hfresh : record.isStale t c.settings.refreshBuffer = .ok false := by
    have hmax := Record.max_eq_leastLifetime hleast
    rw [settings_of_run h]
    refine Record.isStale_eq_false issue (hmax ▸ hwindow) ?_
    rw [hmax]
    omega
  rw [← hnow] at ht
  obtain ⟨later, d, d', hlater, hjournal, hnow', i, hrequest, hphase, hend⟩ :=
    exists_served h free ht hr hfresh
  refine ⟨later, d, hlater, ?_⟩
  intro hserved
  obtain ⟨x, hx, -, hyoung⟩ := hserved _ d' i _ hend hrequest (by simp [hphase])
  rw [hjournal] at hx
  obtain rfl := Option.some.inj (hlatest.symm.trans hx)
  rw [hnow'] at hyoung
  dsimp only at hyoung
  omega

/-- **The age of a served token.** No token is served from the records beyond the lifetime that its
key asks for, if and only if this lifetime and the refresh window of the least one make up the least
one. -/
theorem servedWithin_iff (s : Settings) (key : Key) :
    ∃ window,
      Record.leastLifetime.scale? (Record.fraction s.usable.refreshBuffer) = some window ∧
      ((∀ as c, (ofSettings s).run as = some c → ServedWithin (s.requested key) key c) ↔
        Record.leastLifetime.nanoseconds ≤
          (s.requested key).nanoseconds + window.nanoseconds) := by
  obtain ⟨window, hwindow⟩ := Record.exists_window s.usable.refreshBuffer
  refine ⟨window, hwindow, ?_, ?_⟩
  · intro hall
    by_contra hshort
    obtain ⟨as, c, h, hold⟩ := exists_not_servedWithin hwindow (Nat.lt_of_not_le hshort)
    exact hold (hall as c h)
  · intro hle as c h
    exact servedWithin_of_le h hwindow hle

/-- By default the least lifetime loses a fifth, so lifetimes from 800 microseconds on are kept. -/
example : Record.leastLifetime.scale? (Record.fraction (default : Settings).refreshBuffer) =
    some ⟨200 * 10 ^ 3, by decide⟩ := by
  decide +kernel

/-- A token that is asked for a nanosecond is served again after half a millisecond. -/
theorem served_long_after :
    ¬ ∀ (s : Settings) (key : Key), 0 < (s.requested key).nanoseconds →
      ∀ as c, (ofSettings s).run as = some c → ServedWithin (s.requested key) key c := by
  intro hall
  let key : Key := ⟨"db", "eu", "admin", ⟨1, by decide⟩⟩
  let schedule : List Action :=
    [.start (.get key), .step 0, .step 0, .settle 0 (.ok "token"), .advance ⟨500000, by decide⟩,
      .start (.get key)]
  have hrun : ((ofSettings {}).run schedule).bind (fun c => (c.act (.step 1)).map fun c' =>
      (c.request? 1, c.phase? 1, c'.phase? 1, latest? key c.journal, c'.now.nanoseconds)) =
      some (some (.get key), some .ready, some (.done (.token (.ok "token"))),
        some ⟨key, .origin, "token"⟩, 500000) := by
    decide +kernel
  obtain ⟨c, hc, hact⟩ := Option.bind_eq_some_iff.1 hrun
  obtain ⟨c', ha, hviews⟩ := Option.map_eq_some_iff.1 hact
  simp only [Prod.mk.injEq] at hviews
  obtain ⟨hrequest, hphase, hdone, hlatest, hnow⟩ := hviews
  have hend : Ends c (.step 1) c' 1 (.token (.ok "token")) := ⟨ha, by simp [hphase], hdone⟩
  obtain ⟨x, hx, -, hlt⟩ := hall {} key (by decide) schedule c hc _ c' 1 "token" hend hrequest
    (by simp [hphase])
  obtain rfl := Option.some.inj (hlatest.symm.trans hx)
  rw [hnow] at hlt
  revert hlt
  decide

end StoreClient.Credentials
