import StoreClient.Credentials.Cache

/-!
# Records and looks

What a new record holds, what a look for a key finds, and which keys have records.
-/

namespace StoreClient.Credentials

/-! ## Records -/

namespace Record

variable {r : Record} {token : String} {since now later : Instant} {lifetime : Duration}
  {buffer : Binary64} {b : Bool}

/-- A new record holds the token from its issue until the end of its lifetime. -/
theorem fields_of_issue (h : Record.issue token since lifetime = .ok r) :
    r.token = token ∧ r.issuedAt = since ∧
      r.expiresAt.nanoseconds =
        since.nanoseconds + (max lifetime leastLifetime).nanoseconds := by
  simp only [Record.issue] at h
  split at h
  · rename_i expiresAt hadd
    cases h
    exact ⟨rfl, rfl, Instant.nanoseconds_of_add?_eq_some hadd⟩
  · contradiction

theorem lifetime_of_issue (h : Record.issue token since lifetime = .ok r) :
    r.lifetime.nanoseconds = (max lifetime leastLifetime).nanoseconds := by
  obtain ⟨-, hsince, hexpires⟩ := fields_of_issue h
  simp only [Record.lifetime, Instant.since, hsince, hexpires]
  omega

theorem isStale_eq_ok : r.isStale now buffer = .ok b ↔
    ∃ t, r.refreshAt buffer = .ok t ∧ decide (t ≤ now) = b := by
  cases h : r.refreshAt buffer with
  | error cause => simp [isStale, h, bind, Except.bind]
  | ok t => simp [isStale, h, bind, Except.bind, pure, Except.pure]

/-- What is stale stays stale. -/
theorem isStale_of_le (h : r.isStale now buffer = .ok true)
    (hle : now.nanoseconds ≤ later.nanoseconds) : r.isStale later buffer = .ok true := by
  obtain ⟨t, ht, hnow⟩ := isStale_eq_ok.1 h
  have hnow : t.nanoseconds ≤ now.nanoseconds := of_decide_eq_true hnow
  exact isStale_eq_ok.2 ⟨t, ht, decide_eq_true (show t.nanoseconds ≤ later.nanoseconds by omega)⟩

/-- A record becomes stale at a window before its end. -/
theorem refreshAt_eq_ok {t : Instant} : r.refreshAt buffer = .ok t ↔
    ∃ window, r.refreshWindow buffer = .ok window ∧ r.expiresAt.sub? window = some t := by
  cases h : r.refreshWindow buffer with
  | error cause => simp [refreshAt, h, bind, Except.bind]
  | ok window =>
      cases hs : r.expiresAt.sub? window <;>
        simp [refreshAt, h, hs, bind, Except.bind, pure, Except.pure, throw, throwThe,
          MonadExceptOf.throw]

/-- A fresh record is not expired. -/
theorem lt_expiresAt_of_isStale_eq_false (h : r.isStale now buffer = .ok false) :
    now.nanoseconds < r.expiresAt.nanoseconds := by
  obtain ⟨t, ht, hnow⟩ := isStale_eq_ok.1 h
  obtain ⟨window, -, hsub⟩ := refreshAt_eq_ok.1 ht
  have hlt : ¬ t.nanoseconds ≤ now.nanoseconds := of_decide_eq_false hnow
  have := Instant.nanoseconds_of_sub?_eq_some hsub
  omega

end Record

/-! ## Keys -/

namespace Records

variable {rs : Records} {key : Key}

/-- The keys with a record. -/
def keys (rs : Records) : List Key := rs.map Prod.fst

theorem isSome_lookup : (rs.lookup key).isSome ↔ key ∈ rs.keys := by
  simp [keys, List.mem_map]

theorem mem_keys_insert {other : Key} {r : Record} :
    other ∈ (rs.insert key r).keys ↔ other = key ∨ other ∈ rs.keys := by
  by_cases h : other = key
  · subst h
    simp [← isSome_lookup]
  · simp [← isSome_lookup, lookup_insert_of_ne rs r h, h]

/-- A key never has two records. -/
theorem nodup_keys_insert (r : Record) (h : rs.keys.Nodup) : (rs.insert key r).keys.Nodup := by
  induction rs with
  | nil => simp [insert, keys]
  | cons e rest ih =>
      obtain ⟨k, old⟩ := e
      obtain ⟨hk, hrest⟩ := List.nodup_cons.1 h
      by_cases heq : k = key
      · simpa [insert, heq, keys] using h
      · have hnew : k ∉ (Records.insert rest key r).keys := by
          rw [mem_keys_insert]
          rintro (hkey | hin)
          · exact heq hkey
          · exact hk hin
        have hins : Records.insert ((k, old) :: rest) key r =
            (k, old) :: Records.insert rest key r := by simp [insert, heq]
        rw [hins]
        exact List.nodup_cons.2 ⟨hnew, ih hrest⟩

end Records

/-! ## Looks -/

namespace Cache

variable {c : Cache} {key : Key} {token : String} {found : Lookup} {r : Record}

/-- A look that finds a fresh token finds it in the record of its key. -/
theorem find_eq_fresh : c.find key = .ok (.fresh token) ↔
    ∃ r, c.records.lookup key = some r ∧ r.token = token ∧
      r.isStale c.now c.settings.refreshBuffer = .ok false := by
  cases hl : c.records.lookup key with
  | none => simp [find, hl]
  | some r =>
      cases hs : r.isStale c.now c.settings.refreshBuffer with
      | error cause => simp [find, hl, hs, bind, Except.bind]
      | ok b => cases b <;> simp [find, hl, hs, bind, Except.bind, pure, Except.pure]

/-- A look that finds a stale record finds it under its key. -/
theorem find_eq_stale : c.find key = .ok .stale ↔
    ∃ r, c.records.lookup key = some r ∧
      r.isStale c.now c.settings.refreshBuffer = .ok true := by
  cases hl : c.records.lookup key with
  | none => simp [find, hl]
  | some r =>
      cases hs : r.isStale c.now c.settings.refreshBuffer with
      | error cause => simp [find, hl, hs, bind, Except.bind]
      | ok b => cases b <;> simp [find, hl, hs, bind, Except.bind, pure, Except.pure]

/-- A look that finds no fresh token leaves the key without a record or with a stale one. -/
theorem isStale_of_find (h : c.find key = .ok found) (unfresh : ∀ token, found ≠ .fresh token)
    (hr : c.records.lookup key = some r) :
    r.isStale c.now c.settings.refreshBuffer = .ok true := by
  cases hs : r.isStale c.now c.settings.refreshBuffer with
  | error cause => simp [find, hr, hs, bind, Except.bind] at h
  | ok b =>
      cases b with
      | true => rfl
      | false =>
          have hfresh : c.find key = .ok (.fresh r.token) := find_eq_fresh.2 ⟨r, hr, rfl, hs⟩
          rw [h] at hfresh
          cases hfresh
          exact absurd rfl (unfresh r.token)

end Cache

end StoreClient.Credentials
