import Mathlib.Data.List.Forall2
import StoreClient.Credentials.Report
import StoreClient.Proofs.Credentials.Run

/-!
# Tokens are kept secret

A cache passes tokens on and looks at nothing of them but whether they are empty. So whatever it
does it also does to tokens whose text is taken away, and two runs in which the issuer gives other
tokens cannot be told apart, except by the callers who get them.

## Main definitions

* `redact` — what is left of a token without its text.
* `Cache.redacted` — a cache whose tokens have lost their text.
* `Action.Alike` — two actions that differ at most in the text of a token.
* `Indistinct` — two caches that differ in nothing but tokens.
-/

namespace StoreClient

/-- An ending with another value. -/
def Ending.map {ε α β : Type} (f : α → β) : Ending ε α → Ending ε β
  | .ok value => .ok (f value)
  | .error e => .error e
  | .crash cause => .crash cause

namespace Ending

variable {ε α β : Type} (f : α → β)

@[simp] theorem map_ok (value : α) : (ok value : Ending ε α).map f = .ok (f value) := rfl
@[simp] theorem map_error (e : ε) : (error e : Ending ε α).map f = .error e := rfl
@[simp] theorem map_crash (cause : Crash) : (crash cause : Ending ε α).map f = .crash cause := rfl

end Ending

namespace Credentials

/-! ## Without the text of tokens -/

/-- What is left of a token without its text: whether it is empty. -/
def redact (token : String) : String := if token.isEmpty then "" else "<redacted>"

@[simp] theorem isEmpty_redact (token : String) : (redact token).isEmpty = token.isEmpty := by
  cases h : token.isEmpty <;> simp [redact, h]

theorem redact_of_ne {token : String} (h : token ≠ "") : redact token = "<redacted>" := by
  simp [redact, h]

/-- A record without the text of its token. -/
def Record.redacted (r : Record) : Record := { r with token := redact r.token }

/-- The records without the text of tokens. -/
def Records.redacted (rs : Records) : Records := rs.map fun e => (e.1, e.2.redacted)

/-- What a look finds, without the text of a token. -/
def Lookup.redacted : Lookup → Lookup
  | .fresh token => .fresh (redact token)
  | found => found

/-- A result without the text of a token. -/
def Result.redacted : Result → Result
  | .token ending => .token (ending.map redact)
  | result => result

/-- A phase without the text of a token. -/
def Phase.redacted : Phase → Phase
  | .done result => .done result.redacted
  | phase => phase

/-- A call without the text of a token. -/
def Call.redacted (call : Call) : Call := { call with phase := call.phase.redacted }

/-- An event without the text of a token. -/
def Event.redacted : Event → Event
  | .stored key record entries => .stored key record.redacted entries
  | .ended result => .ended result.redacted
  | event => event

/-- An entry of a journal without the text of a token. -/
def Entry.redacted (e : Entry) : Entry := { e with event := e.event.redacted }

/-- A cache without the text of tokens. -/
def Cache.redacted (c : Cache) : Cache :=
  { c with
    records := c.records.redacted
    calls := c.calls.map Call.redacted
    journal := c.journal.map Entry.redacted }

/-- An action without the text of a token. -/
def Action.redacted : Action → Action
  | .settle i answer => .settle i (answer.map redact)
  | a => a

/-! ## Records -/

namespace Record

@[simp] theorem isStale_redacted (r : Record) (now : Instant) (buffer : Binary64) :
    r.redacted.isStale now buffer = r.isStale now buffer := rfl

@[simp] theorem lifetime_redacted (r : Record) : r.redacted.lifetime = r.lifetime := rfl

@[simp] theorem describe_redacted (text : Instant → String) (r : Record) :
    r.redacted.describe text = r.describe text := rfl

/-- A record does not depend on the token that it is issued for. -/
theorem issue_redact (token : String) (issuedAt : Instant) (lifetime : Duration) :
    issue (redact token) issuedAt lifetime = (issue token issuedAt lifetime).map redacted := by
  simp only [issue]
  split <;> rfl

end Record

namespace Records

@[simp] theorem lookup_redacted (rs : Records) (key : Key) :
    rs.redacted.lookup key = (rs.lookup key).map Record.redacted := by
  induction rs with
  | nil => rfl
  | cons e rest ih =>
      obtain ⟨k, r⟩ := e
      simp only [redacted, List.map_cons, List.lookup_cons] at ih ⊢
      split
      · rfl
      · exact ih

@[simp] theorem redacted_insert (rs : Records) (key : Key) (r : Record) :
    (rs.insert key r).redacted = rs.redacted.insert key r.redacted := by
  induction rs with
  | nil => rfl
  | cons e rest ih =>
      obtain ⟨k, old⟩ := e
      by_cases h : k = key
      · simp [redacted, insert, h]
      · simpa [redacted, insert, h] using ih

@[simp] theorem length_redacted (rs : Records) : rs.redacted.length = rs.length := by
  simp [redacted]

end Records

@[simp] theorem Lookup.redacted_eq_stale {found : Lookup} :
    found.redacted = .stale ↔ found = .stale := by
  cases found <;> simp [redacted]

/-! ## Operations -/

namespace Cache

variable (c : Cache) (i : Nat) (key : Key) (request : Request) (access : Access)

@[simp] theorem settings_redacted : c.redacted.settings = c.settings := rfl
@[simp] theorem now_redacted : c.redacted.now = c.now := rfl
@[simp] theorem records_redacted : c.redacted.records = c.records.redacted := rfl
@[simp] theorem lock_redacted : c.redacted.lock = c.lock := rfl
@[simp] theorem calls_redacted : c.redacted.calls = c.calls.map Call.redacted := rfl
@[simp] theorem journal_redacted : c.redacted.journal = c.journal.map Entry.redacted := rfl

@[simp] theorem redacted_note (event : Event) :
    (c.note i event).redacted = c.redacted.note i event.redacted := rfl

@[simp] theorem redacted_release : (c.release i).redacted = c.redacted.release i := rfl

/-- It makes no difference whether a call changes before or after its token loses its text. -/
theorem redacted_modify {f g : Call → Call} (h : ∀ call, (f call).redacted = g call.redacted) :
    ({ c with calls := c.calls.modify i f } : Cache).redacted =
      { c.redacted with calls := c.redacted.calls.modify i g } := by
  have hcalls : (c.calls.modify i f).map Call.redacted =
      (c.calls.map Call.redacted).modify i g := by
    refine List.ext_getElem? fun j => ?_
    by_cases hij : i = j <;> simp [hij, Function.comp_def, h]
  simp [redacted, hcalls]

@[simp] theorem redacted_setPhase (phase : Phase) :
    (c.setPhase i phase).redacted = c.redacted.setPhase i phase.redacted :=
  redacted_modify c i fun _ => rfl

@[simp] theorem redacted_finish (result : Result) :
    (c.finish i result).redacted = c.redacted.finish i result.redacted := by
  simp [finish, Phase.redacted, Event.redacted]

@[simp] theorem redacted_finishToken (ending : Ending TokenError String) :
    (c.finishToken i ending).redacted = c.redacted.finishToken i (ending.map redact) := by
  simp [finishToken, Result.redacted]

@[simp] theorem redacted_noteLookup (found : Lookup) :
    (c.noteLookup i found).redacted = c.redacted.noteLookup i found.redacted := by
  simp only [noteLookup, Lookup.redacted_eq_stale]
  split <;> rfl

/-- A look for a key finds the same, whatever the tokens are. -/
theorem find_redacted : c.redacted.find key = (c.find key).map Lookup.redacted := by
  simp only [find, records_redacted, Records.lookup_redacted]
  cases c.records.lookup key with
  | none => rfl
  | some r =>
      simp only [Option.map_some, Record.isStale_redacted, now_redacted, settings_redacted]
      cases r.isStale c.now c.settings.refreshBuffer with
      | error cause => rfl
      | ok stale => cases stale <;> rfl

@[simp] theorem redacted_lookUp : (c.lookUp i key).redacted = c.redacted.lookUp i key := by
  simp only [lookUp, find_redacted]
  cases c.find key with
  | error cause => simp [Except.map]
  | ok found =>
      cases found <;> simp [Except.map, Lookup.redacted, Event.redacted, Phase.redacted]

@[simp] theorem redacted_lookAgain : (c.lookAgain i key).redacted = c.redacted.lookAgain i key := by
  simp only [lookAgain, find_redacted]
  cases c.find key with
  | error cause => simp [Except.map]
  | ok found =>
      cases found <;> simp [Except.map, Lookup.redacted, Event.redacted, Phase.redacted]

@[simp] theorem redacted_proceed :
    (c.proceed i request access).redacted = c.redacted.proceed i request access := by
  cases request with
  | get key => cases access <;> simp [proceed]
  | clear =>
      simp only [proceed, wipe, redacted_finish, redacted_note, Result.redacted, Event.redacted]
      rfl
  | size => simp [proceed, Result.redacted]

theorem redacted_enter? : (c.enter? i request access).map redacted =
    c.redacted.enter? i request access := by
  have hproceed := redacted_proceed { c with lock := c.lock.enter i access } i request access
  by_cases h : c.lock.admits i = true
  · simp only [enter?, lock_redacted, h, if_true, Option.map_some]
    exact congrArg some hproceed
  · simp [enter?, h]

@[simp] theorem redacted_approach :
    (c.approach i request access).redacted = c.redacted.approach i request access := by
  simp only [approach]
  generalize hd : ({ c with lock := c.lock.join i access } : Cache).setPhase i (.waiting access) = d
  have hqueued : ({ c.redacted with lock := c.redacted.lock.join i access } : Cache).setPhase i
      (.waiting access) = d.redacted := by
    rw [← hd, redacted_setPhase]
    rfl
  rw [hqueued, ← redacted_enter?]
  cases d.enter? i request access <;> rfl

@[simp] theorem redacted_giveUp (phase : Phase) :
    (c.giveUp i phase).redacted = c.redacted.giveUp i phase.redacted := by
  cases phase <;> simp [giveUp, Phase.redacted, Event.redacted]

theorem redacted_stepCall (call : Call) :
    (c.stepCall i call).map redacted = c.redacted.stepCall i call.redacted := by
  obtain ⟨request, phase, cancelled⟩ := call
  cases cancelled <;> cases phase <;>
    simp [stepCall, Call.redacted, Phase.redacted, redacted_enter?]

@[simp] theorem redacted_store (since : Instant) (token : String) :
    (c.store i key since token).redacted = c.redacted.store i key since (redact token) := by
  have hlifetime : c.redacted.lifetime key = c.lifetime key := rfl
  simp only [store, hlifetime, Record.issue_redact]
  cases Record.issue token since (c.lifetime key) with
  | error cause => simp [Except.map]
  | ok record =>
      have hinserted : ({ c with records := c.records.insert key record } : Cache).redacted =
          { c.redacted with records := c.redacted.records.insert key record.redacted } := by
        simp [redacted]
      have hlength : (c.records.redacted.insert key record.redacted).length =
          (c.records.insert key record).length := by
        rw [← Records.redacted_insert, Records.length_redacted]
      simp [Except.map, Event.redacted, hinserted, hlength]

@[simp] theorem redacted_settleCall (since : Instant) (answer : Ending String String) :
    (c.settleCall i key since answer).redacted =
      c.redacted.settleCall i key since (answer.map redact) := by
  cases answer with
  | ok token =>
      simp only [settleCall, Ending.map_ok, isEmpty_redact]
      split <;> simp [Event.redacted]
  | error source => simp [settleCall, Event.redacted]
  | crash cause => simp [settleCall]

/-- **Tokens are not looked at.** An action does the same to tokens that have lost their text. -/
theorem act_redacted (a : Action) : c.redacted.act a.redacted = (c.act a).map redacted := by
  cases a with
  | start request => simp [act, Action.redacted, redacted, Call.redacted, Phase.redacted]
  | cancel i =>
      simp only [act, Action.redacted, calls_redacted, List.getElem?_map]
      cases c.calls[i]? with
      | none => rfl
      | some call =>
          have hcancelled := redacted_modify c i (f := ({ · with cancelled := true }))
            (g := ({ · with cancelled := true })) fun _ => rfl
          obtain ⟨request, phase, cancelled⟩ := call
          cases request with
          | get key => exact congrArg some hcancelled.symm
          | clear => rfl
          | size => rfl
  | advance d =>
      simp only [act, Action.redacted, now_redacted, Option.map_map]
      rfl
  | step i =>
      simp only [act, Action.redacted, calls_redacted, List.getElem?_map]
      cases c.calls[i]? with
      | none => rfl
      | some call => exact (redacted_stepCall c i call).symm
  | settle i answer =>
      simp only [act, Action.redacted, calls_redacted, List.getElem?_map]
      cases c.calls[i]? with
      | none => rfl
      | some call =>
          obtain ⟨request, phase, cancelled⟩ := call
          cases request <;> cases phase <;> cases cancelled <;>
            simp [Call.redacted, Phase.redacted]

theorem run_redacted (as : List Action) :
    c.redacted.run (as.map Action.redacted) = (c.run as).map redacted := by
  induction as using List.reverseRecOn with
  | nil => rfl
  | append_singleton as a ih =>
      rw [List.map_append, List.map_singleton, run_concat, run_concat, ih]
      cases c.run as with
      | none => rfl
      | some d => exact d.act_redacted a

end Cache

/-! ## What can be seen of a cache -/

@[simp] theorem Event.logLine?_redacted (event : Event) :
    event.redacted.logLine? = event.logLine? := by
  cases event <;> simp [logLine?, redacted]

@[simp] theorem Event.measurement?_redacted (event : Event) :
    event.redacted.measurement? = event.measurement? := by
  cases event <;> simp [measurement?, redacted]

theorem Entry.logLine?_redacted (calls : List Call) (e : Entry) :
    e.redacted.logLine? (calls.map Call.redacted) = e.logLine? calls := by
  have hspan : Call.span? ∘ Call.redacted = Call.span? := rfl
  simp only [logLine?, redacted, Event.logLine?_redacted, List.getElem?_map, Option.bind_map, hspan]

theorem Cache.log_redacted (c : Cache) : c.redacted.log = c.log := by
  simp [log, logLines, ← List.map_reverse, List.filterMap_map, Entry.logLine?_redacted]

theorem measurements_redacted (journal : List Entry) :
    measurements (journal.map Entry.redacted) = measurements journal := by
  simp [measurements, ← List.map_reverse, List.filterMap_map, Function.comp_def, Entry.redacted]

theorem Cache.describe_redacted (c : Cache) : c.redacted.describe = c.describe := rfl

/-- What diagnostics show of records. -/
def Records.described (text : Instant → String) (rs : Records) : List (Key × String) :=
  rs.map fun e => (e.1, e.2.describe text)

theorem Records.described_redacted (text : Instant → String) (rs : Records) :
    rs.redacted.described text = rs.described text := by
  simp only [described, redacted, List.map_map, Function.comp_def, Record.describe_redacted]

/-! ## Caches that cannot be told apart -/

/-- Two results that are the same, unless both are tokens. -/
inductive Result.Alike : Result → Result → Prop
  /-- They are the same. -/
  | same (result : Result) : Alike result result
  /-- Both are tokens. -/
  | token (token token' : String) : Alike (.token (.ok token)) (.token (.ok token'))

/-- Two phases that are the same but for the text of a token. -/
inductive Phase.Alike : Phase → Phase → Prop
  /-- They are the same. -/
  | same (phase : Phase) : Alike phase phase
  /-- The call is over. -/
  | done {result result' : Result} (alike : result.Alike result') :
      Alike (.done result) (.done result')

/-- Two events that are the same but for the text of a token. -/
inductive Event.Alike : Event → Event → Prop
  /-- They are the same. -/
  | same (event : Event) : Alike event event
  /-- A record is stored. -/
  | stored (key : Key) (token token' : String) (issuedAt expiresAt : Instant) (entries : Nat) :
      Alike (.stored key ⟨token, issuedAt, expiresAt⟩ entries)
        (.stored key ⟨token', issuedAt, expiresAt⟩ entries)
  /-- A call is over. -/
  | ended {result result' : Result} (alike : result.Alike result') :
      Alike (.ended result) (.ended result')

/-- Two entries that are the same but for the text of a token. -/
structure Entry.Alike (e e' : Entry) : Prop where
  /-- They tell of the same call. -/
  call : e.call = e'.call
  /-- They are of the same time. -/
  time : e.time = e'.time
  /-- Their events are the same but for the text of a token. -/
  event : e.event.Alike e'.event

/-- Two calls that are the same but for the text of a token. -/
structure Call.Alike (call call' : Call) : Prop where
  /-- They ask for the same. -/
  request : call.request = call'.request
  /-- They have come as far. -/
  phase : call.phase.Alike call'.phase
  /-- Both their callers have given up, or neither. -/
  cancelled : call.cancelled = call'.cancelled

namespace Result.Alike

variable {result result' other : Result}

theorem symm (h : result.Alike result') : result'.Alike result := by
  cases h with
  | same => exact .same _
  | token => exact .token _ _

theorem trans (h : result.Alike result') (h' : result'.Alike other) : result.Alike other := by
  cases h with
  | same => exact h'
  | token => cases h' <;> exact .token _ _

end Result.Alike

theorem Result.alike_redacted (result : Result) : result.Alike result.redacted := by
  cases result with
  | token ending =>
      cases ending with
      | ok token => exact .token _ _
      | error | crash => exact .same _
  | cleared | size => exact .same _

namespace Phase

variable {p q r : Phase}

theorem Alike.symm (h : p.Alike q) : q.Alike p := by
  cases h with
  | same => exact .same _
  | done alike => exact .done alike.symm

theorem Alike.trans (h : p.Alike q) (h' : q.Alike r) : p.Alike r := by
  cases h with
  | same => exact h'
  | done alike =>
      cases h' with
      | same => exact .done alike
      | done alike' => exact .done (alike.trans alike')

theorem alike_redacted (p : Phase) : p.Alike p.redacted := by
  cases p with
  | done result => exact .done result.alike_redacted
  | _ => exact .same _

theorem alike_of_redacted (h : p.redacted = q.redacted) : p.Alike q :=
  p.alike_redacted.trans (h ▸ q.alike_redacted.symm)

end Phase

namespace Event

variable {e e' e'' : Event}

theorem Alike.symm (h : e.Alike e') : e'.Alike e := by
  cases h with
  | same => exact .same _
  | stored => exact .stored _ _ _ _ _ _
  | ended alike => exact .ended alike.symm

theorem Alike.trans (h : e.Alike e') (h' : e'.Alike e'') : e.Alike e'' := by
  cases h with
  | same => exact h'
  | stored => cases h' <;> exact .stored _ _ _ _ _ _
  | ended alike =>
      cases h' with
      | same => exact .ended alike
      | ended alike' => exact .ended (alike.trans alike')

theorem alike_redacted (e : Event) : e.Alike e.redacted := by
  cases e with
  | stored => exact .stored _ _ _ _ _ _
  | ended result => exact .ended result.alike_redacted
  | _ => exact .same _

theorem alike_of_redacted (h : e.redacted = e'.redacted) : e.Alike e' :=
  e.alike_redacted.trans (h ▸ e'.alike_redacted.symm)

end Event

theorem Entry.alike_of_redacted {e e' : Entry} (h : e.redacted = e'.redacted) : e.Alike e' := by
  simp only [redacted, Entry.mk.injEq] at h
  exact ⟨h.1, h.2.1, Event.alike_of_redacted h.2.2⟩

theorem Call.alike_of_redacted {call call' : Call} (h : call.redacted = call'.redacted) :
    call.Alike call' := by
  simp only [redacted, Call.mk.injEq] at h
  exact ⟨h.1, Phase.alike_of_redacted h.2.1, h.2.2⟩

/-- Two caches that differ in nothing but the text of tokens. -/
structure Indistinct (c d : Cache) : Prop where
  /-- The same is logged, in the same spans and with the same fields. -/
  log : c.log = d.log
  /-- The same is measured in the same order, under the same labels. -/
  measurements : measurements c.journal = measurements d.journal
  /-- The metrics have the same values. -/
  metrics : c.metrics = d.metrics
  /-- The same happens to the same calls, in the same order and at the same times: the same calls
  hit, and the same calls ask the issuer for the same keys. -/
  journal : List.Forall₂ Entry.Alike c.journal d.journal
  /-- Every call has come as far, and to the same result unless to a token. -/
  calls : List.Forall₂ Call.Alike c.calls d.calls
  /-- The same calls are inside the lock and before it. -/
  lock : c.lock = d.lock
  /-- The same is shown of the caches for diagnostics. -/
  describe : c.describe = d.describe
  /-- There are as many records, under the same keys, and the same is shown of them. -/
  records : ∀ text, c.records.described text = d.records.described text

/-- Lists with the same images consist of entries with the same images, one by one. -/
theorem forall₂_of_map_eq {ι κ : Type} {f : ι → κ} {R : ι → ι → Prop} {xs ys : List ι}
    (hR : ∀ {x y}, f x = f y → R x y) (h : xs.map f = ys.map f) : List.Forall₂ R xs ys := by
  rw [← List.forall₂_eq_eq_eq, List.forall₂_map_left_iff, List.forall₂_map_right_iff] at h
  exact h.imp fun _ _ => hR

theorem indistinct_of_redacted {c d : Cache} (h : c.redacted = d.redacted) : Indistinct c d := by
  have hjournal : c.journal.map Entry.redacted = d.journal.map Entry.redacted :=
    congrArg (·.journal) h
  have hmeasured : measurements c.journal = measurements d.journal := by
    rw [← measurements_redacted, hjournal, measurements_redacted]
  refine ⟨?_, hmeasured, ?_, forall₂_of_map_eq Entry.alike_of_redacted hjournal,
    forall₂_of_map_eq Call.alike_of_redacted (congrArg (·.calls) h), congrArg (·.lock) h, ?_, ?_⟩
  · rw [← c.log_redacted, h, d.log_redacted]
  · rw [Cache.metrics, hmeasured, Cache.metrics]
  · exact c.describe_redacted.symm.trans ((congrArg Cache.describe h).trans d.describe_redacted)
  · intro text
    rw [← Records.described_redacted, ← d.records.described_redacted, ← Cache.records_redacted, h,
      Cache.records_redacted]

/-- Two actions that differ at most in the text of a token that the issuer gives. -/
inductive Action.Alike : Action → Action → Prop
  /-- They are the same. -/
  | same (a : Action) : Alike a a
  /-- The issuer gives a token. -/
  | token (i : Nat) {token token' : String} (nonempty : token ≠ "") (nonempty' : token' ≠ "") :
      Alike (.settle i (.ok token)) (.settle i (.ok token'))

theorem Action.Alike.redacted_eq {a b : Action} (h : a.Alike b) : a.redacted = b.redacted := by
  cases h with
  | same => rfl
  | token i nonempty nonempty' =>
      simp [Action.redacted, redact_of_ne nonempty, redact_of_ne nonempty']

theorem Action.map_redacted_eq {as bs : List Action} (h : List.Forall₂ Alike as bs) :
    as.map redacted = bs.map redacted := by
  induction h with
  | nil => rfl
  | cons hab _ ih => rw [List.map_cons, List.map_cons, hab.redacted_eq, ih]

/-- **Secrecy.** Runs in which the same happens, except that the issuer gives other tokens, make
caches that cannot be told apart by anything but the tokens that callers get. -/
theorem indistinct_of_run (s : Settings) (as bs : List Action)
    (alike : List.Forall₂ Action.Alike as bs) (c : Cache)
    (h : (Cache.ofSettings s).run as = some c) :
    ∃ d, (Cache.ofSettings s).run bs = some d ∧ Indistinct c d := by
  have hruns : ((Cache.ofSettings s).run as).map Cache.redacted =
      ((Cache.ofSettings s).run bs).map Cache.redacted := by
    rw [← Cache.run_redacted, ← Cache.run_redacted, Action.map_redacted_eq alike]
  rw [h, Option.map_some, eq_comm, Option.map_eq_some_iff] at hruns
  obtain ⟨d, hd, hredacted⟩ := hruns
  exact ⟨d, hd, indistinct_of_redacted hredacted.symm⟩

/-- The issuer gives a short token in one run and a longer one in the other. A second caller is
served from the cache in both and gets the token, and nothing else tells the runs apart. -/
theorem indistinct_but_tokens :
    let key : Key := ⟨"db", "eu", "admin", .ofSeconds 900⟩
    let schedule (token : String) : List Action := [.start (.get key), .step 0, .step 0,
      .settle 0 (.ok token), .start (.get key), .step 1]
    ∃ c d, (Cache.ofSettings {}).run (schedule "moon") = some c ∧
      (Cache.ofSettings {}).run (schedule "midsummer") = some d ∧ Indistinct c d ∧
      c.phase? 1 = some (.done (.token (.ok "moon"))) ∧
      d.phase? 1 = some (.done (.token (.ok "midsummer"))) := by
  intro key schedule
  have hviews (token : String) (h : token = "moon" ∨ token = "midsummer") :
      ((Cache.ofSettings {}).run (schedule token)).map (·.phase? 1) =
        some (some (.done (.token (.ok token)))) := by
    rcases h with rfl | rfl <;> decide +kernel
  have halike : List.Forall₂ Action.Alike (schedule "moon") (schedule "midsummer") :=
    .cons (.same _) (.cons (.same _) (.cons (.same _) (.cons (.token 0 (by simp) (by simp))
      (.cons (.same _) (.cons (.same _) .nil)))))
  obtain ⟨c, hc, hmoon⟩ := Option.map_eq_some_iff.1 (hviews "moon" (.inl rfl))
  obtain ⟨d, hd, hindistinct⟩ := indistinct_of_run {} _ _ halike c hc
  have hmidsummer := hviews "midsummer" (.inr rfl)
  rw [hd, Option.map_some, Option.some.injEq] at hmidsummer
  exact ⟨c, d, hc, hd, hindistinct, hmoon, hmidsummer⟩

end Credentials

end StoreClient
