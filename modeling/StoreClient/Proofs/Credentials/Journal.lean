import StoreClient.Proofs.Credentials.Exclusion
import StoreClient.Proofs.Credentials.Records

/-!
# The journal

A change adds entries to the journal and takes none away. It adds a request to the issuer only as
the last of its entries, together with the phase in which the call waits for the answer, so the
journal tells of every call whether it has asked the issuer, for which key and when.
-/

namespace StoreClient.Credentials

open Cache

variable {c c' : Cache} {a : Action} {key : Key} {i j : Nat} {since : Instant}
  {entries more newer older : List Entry} {e : Entry}

/-! ## New entries -/

/-- An entry of a journal with new entries is an old one or one of the new ones. -/
theorem append_eq_append_cons (h : more ++ entries = newer ++ e :: older) :
    (∃ rest, newer = more ++ rest ∧ entries = rest ++ e :: older) ∨
      ∃ rest, more = newer ++ e :: rest ∧ older = rest ++ entries := by
  rcases List.append_eq_append_iff.1 h with ⟨rest, rfl, hrest⟩ | ⟨rest, rfl, hrest⟩
  · exact .inl ⟨rest, rfl, hrest⟩
  · cases rest with
    | nil => exact .inl ⟨[], by simp, by simpa using hrest.symm⟩
    | cons x xs =>
        obtain ⟨rfl, rfl⟩ := List.cons_eq_cons.1 hrest
        exact .inr ⟨xs, rfl, rfl⟩

/-- A request that a change adds to the journal, before other entries of the change. -/
structure NewRequest (c c' : Cache) (i : Nat) (key : Key) (since : Instant) (before : List Entry) :
    Prop where
  asking : c'.Asking i key since
  free : c.lock.writer = none
  now : since = c.now
  only : ∀ i since key, ⟨i, since, .requested key⟩ ∉ before
  unfresh : ∀ record, c.records.lookup key = some record →
    record.isStale c.now c.settings.refreshBuffer = .ok true

/-- A change adds entries to the journal and takes none away. A request among them is the last. -/
theorem Change.journal_eq (h : Change c a c') : ∃ new, c'.journal = new ++ c.journal ∧
    ∀ newer i key since before, new = newer ++ ⟨i, since, .requested key⟩ :: before →
      newer = [] ∧ NewRequest c c' i key since before := by
  -- only a call that asks the issuer has to be looked at; the other changes add no request
  have hvacuous {new : List Entry} (hnone : ∀ i since key, ⟨i, since, .requested key⟩ ∉ new) :
      ∀ newer i key since before, new = newer ++ ⟨i, since, .requested key⟩ :: before →
        newer = [] ∧ NewRequest c c' i key since before := by
    rintro newer i key since before rfl
    exact absurd (by simp) (hnone i since key)
  cases h with
  | start | cancel | advance | queue => exact ⟨[], rfl, hvacuous (by simp)⟩
  | miss => exact ⟨_, rfl, hvacuous (by simp [Lookup.requested_notMem_staleness])⟩
  | finish _ outcome => exact ⟨_, rfl, hvacuous (by simp [outcome.requested_notMem])⟩
  | @ask i call asked found at_i admitted request look unfresh =>
      refine ⟨_, rfl, ?_⟩
      intro newer j key since before hnew
      have honly : ∀ j since key,
          (⟨j, since, .requested key⟩ : Entry) ∉ found.staleness.map (⟨i, c.now, ·⟩) := by
        simp [found.requested_notMem_staleness]
      cases newer with
      | nil =>
          simp only [List.map_cons, List.nil_append, List.cons.injEq, Entry.mk.injEq,
            Event.requested.injEq] at hnew
          obtain ⟨⟨rfl, rfl, rfl⟩, rfl⟩ := hnew
          refine ⟨rfl, ⟨?_, ?_⟩, admitted.free, rfl, honly, fun _ => isStale_of_find look unfresh⟩
          · rw [request?_moved, request?_of_getElem? at_i, request]
          · simp [phase?_moved, phase?_of_getElem? at_i]
      | cons x xs =>
          obtain ⟨-, hbefore⟩ := List.cons_eq_cons.1 hnew
          exact absurd (by simp [hbefore]) (honly j since key)


/-! ## Requests -/

/-- The key for which the issuer is asked. -/
def Event.requested? : Event → Option Key
  | .requested key => some key
  | _ => none

theorem Event.requested?_eq_some {event : Event} (h : event.requested? = some key) :
    event = .requested key := by
  cases event with
  | requested other => exact congrArg _ (Option.some.inj h)
  | _ => contradiction

/-- The request of a call to the issuer according to a journal: its key and its time. -/
def asked? (i : Nat) (entries : List Entry) : Option (Key × Instant) :=
  entries.findSome? fun e => if e.call = i then e.event.requested?.map (·, e.time) else none

theorem mem_of_asked?_eq_some (h : asked? i entries = some (key, since)) :
    ⟨i, since, .requested key⟩ ∈ entries := by
  obtain ⟨⟨j, time, event⟩, hmem, he⟩ := List.exists_of_findSome?_eq_some h
  split at he
  · rename_i hcall
    simp only [Option.map_eq_some_iff, Prod.mk.injEq] at he
    obtain ⟨other, hother, rfl, rfl⟩ := he
    subst hcall
    rwa [← Event.requested?_eq_some hother]
  · contradiction

@[simp] theorem asked?_cons_self (i : Nat) (since : Instant) (key : Key) (entries : List Entry) :
    asked? i (⟨i, since, .requested key⟩ :: entries) = some (key, since) := by
  simp [asked?, Event.requested?]

/-- Entries without a request of a call change nothing for it. -/
theorem asked?_append (h : ∀ since key, ⟨i, since, .requested key⟩ ∉ more) :
    asked? i (more ++ entries) = asked? i entries := by
  have hnone : asked? i more = none := by
    by_contra hsome
    obtain ⟨⟨key, since⟩, hr⟩ := Option.ne_none_iff_exists'.1 hsome
    exact h since key (mem_of_asked?_eq_some hr)
  simp only [asked?, List.findSome?_append] at hnone ⊢
  rw [hnone, Option.none_or]

@[simp] theorem asked?_cons {event : Event} {time : Instant} (h : ∀ key, event ≠ .requested key) :
    asked? i (⟨j, time, event⟩ :: entries) = asked? i entries := by
  change asked? i ([⟨j, time, event⟩] ++ entries) = _
  refine asked?_append ?_
  intro since key hin
  simp only [List.mem_singleton, Entry.mk.injEq] at hin
  exact h key hin.2.2.symm

/-- A change leaves what a call has asked, or the call asks. -/
theorem Change.asked?_eq (h : Change c a c') (i : Nat) :
    asked? i c'.journal = asked? i c.journal ∨
      ∃ key, asked? i c'.journal = some (key, c.now) ∧ c'.Asking i key c.now := by
  obtain ⟨new, hnew, hreq⟩ := h.journal_eq
  rw [hnew]
  by_cases hmem : ∃ since key, ⟨i, since, .requested key⟩ ∈ new
  · obtain ⟨since, key, hmem⟩ := hmem
    obtain ⟨newer, before, hsplit⟩ := List.append_of_mem hmem
    obtain ⟨rfl, hr⟩ := hreq newer i key since before hsplit
    obtain rfl := hr.now
    refine .inr ⟨key, ?_, hr.asking⟩
    rw [hsplit]
    simp
  · exact .inl (asked?_append fun since key hin => hmem ⟨since, key, hin⟩)

/-- The journal tells what every call has asked. -/
structure Journaled (c : Cache) : Prop where
  /-- Whoever waits for the issuer has asked. -/
  asking : ∀ i key since, c.Asking i key since → asked? i c.journal = some (key, since)
  /-- Whoever has asked is past the lock. -/
  past : ∀ i key since, asked? i c.journal = some (key, since) →
    ∃ p, c.phase? i = some p ∧ p.Past

/-- A call that is let in has not asked. -/
theorem Journaled.asked?_eq_none {call : Call} {access : Access} (hj : Journaled c)
    (at_i : c.calls[i]? = some call) (admitted : Admitted c call access) :
    asked? i c.journal = none := by
  by_contra hsome
  obtain ⟨⟨key, since⟩, hr⟩ := Option.ne_none_iff_exists'.1 hsome
  obtain ⟨p, hp, hpast⟩ := hj.past i key since hr
  obtain rfl := Option.some.inj ((phase?_of_getElem? at_i).symm.trans hp)
  exact Call.not_past admitted.access hpast

theorem Change.journaled (h : Change c a c') (hj : Journaled c) : Journaled c' := by
  constructor
  · intro i key since hi
    rcases h.asked?_eq i with hsame | ⟨other, hasked, hother⟩
    · rcases h.asking_before hi with hold | ⟨rfl, -, -, found, -, -, rfl⟩
      · rw [hsame, hj.asking i key since hold]
      · simp
    · have hkey := hother.1.symm.trans hi.1
      have hsince := hother.2.symm.trans hi.2
      simp only [Option.some.injEq, Request.get.injEq, Phase.issuing.injEq] at hkey hsince
      rw [hasked, hkey, hsince]
  · intro i key since hr
    rcases h.asked?_eq i with hsame | ⟨other, -, hother⟩
    · obtain ⟨p, hp, hpast⟩ := hj.past i key since (hsame ▸ hr)
      rcases h.past hp hpast with hp | ⟨call, result, events, records, at_i, -, rfl⟩
      · exact ⟨p, hp, hpast⟩
      · refine ⟨.done result, ?_, .inr ⟨result, rfl⟩⟩
        simp [phase?_ended, phase?_of_getElem? at_i]
    · exact ⟨_, hother.2, .inl ⟨_, rfl⟩⟩

theorem journaled_of_run {s : Settings} {as : List Action} (h : (ofSettings s).run as = some c) :
    Journaled c := by
  refine invariant_of_run (fun _ _ _ hj hc => hc.journaled hj) h ⟨?_, ?_⟩
  · intro i key since hi
    simp [Asking] at hi
  · intro i key since hr
    simp [ofSettings, asked?] at hr

end StoreClient.Credentials
