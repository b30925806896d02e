import StoreClient.Config.Decoding

/-!
# Settings of a configuration

A configuration has ten settings, each under a key of one of three sections. Every setting accepts
some values and reports the others, and taking it leaves the other settings alone. The entries of a
section can be taken one by one, and those of other names do not count.

## Main definitions

* `Setting` — a setting, with its section, its key and its kind.
* `SettingKind.Accepts`, `SettingKind.taken`, `SettingKind.error` — the values that a setting
  accepts, what they are taken for, and the report of the others.
* `Setting.value` — what a setting is in a configuration.
* `Setting.ofNames?` — the setting under a key of a section.
* `Setting.Lawful` — what it means to take a setting.
-/

namespace StoreClient

/-- What a setting may be. -/
inductive SettingKind where
  /-- A floating-point number. -/
  | float
  /-- A natural number of 32 bits. -/
  | uint32
  /-- A natural number of 64 bits. -/
  | uint64
  /-- A text. -/
  | string
  /-- A truth value. -/
  | boolean
  /-- The name of a log format. -/
  | format
deriving DecidableEq, Repr

namespace SettingKind

/-- A value that a setting can be. Integers are numbers, but other numbers are no integers. -/
def Accepts : SettingKind → Toml.Value → Prop
  | .float, .float _ | .float, .integer _ => True
  | .uint32, .integer n => 0 ≤ n ∧ n < 2 ^ 32
  | .uint64, .integer n => 0 ≤ n ∧ n < 2 ^ 64
  | .string, .string _ => True
  | .boolean, .boolean _ => True
  | .format, .string name => name = "pretty" ∨ name = "json"
  | _, _ => False

/-- What a value is taken for: an integer as a floating-point number where such a one is wanted. -/
def taken : SettingKind → Toml.Value → Toml.Value
  | .float, .integer n => .float (.ofInt n)
  | _, v => v

/-- The report of a value that is not accepted. -/
def error : SettingKind → Toml.Value → DecodeError
  | .float, v => .wrongKind v .float
  | .uint32, .integer n => .outOfRange n .uint32
  | .uint32, v => .wrongKind v .uint32
  | .uint64, .integer n => .outOfRange n .uint64
  | .uint64, v => .wrongKind v .uint64
  | .string, v => .wrongKind v .string
  | .boolean, v => .wrongKind v .boolean
  | .format, .string name => .unknownFormat name
  | .format, _ => .noFormat

instance (kind : SettingKind) (v : Toml.Value) : Decidable (kind.Accepts v) := by
  unfold Accepts
  split <;> infer_instance

end SettingKind

/-- A setting. -/
inductive Setting where
  /-- The refresh buffer of the token cache. -/
  | refreshBuffer
  /-- The lifetime of tokens requested without one. -/
  | tokenDuration
  /-- The number of attempts after the first. -/
  | maxRetries
  /-- The first wait. -/
  | initialWait
  /-- The greatest wait. -/
  | maxWait
  /-- The factor from one wait to the next. -/
  | multiplier
  /-- The least grave level that is logged. -/
  | logLevel
  /-- The layout of log lines. -/
  | logFormat
  /-- Whether metrics are served. -/
  | metricsEnabled
  /-- Where metrics are served. -/
  | metricsAddress
deriving DecidableEq, Repr

namespace Setting

/-- The name of the section that a setting belongs to. -/
def sectionName : Setting → String
  | .refreshBuffer | .tokenDuration => "token_cache"
  | .maxRetries | .initialWait | .maxWait | .multiplier => "occ_retry"
  | .logLevel | .logFormat | .metricsEnabled | .metricsAddress => "observability"

/-- The key of a setting in its section. -/
def key : Setting → String
  | .refreshBuffer => "refresh_buffer"
  | .tokenDuration => "default_token_duration_secs"
  | .maxRetries => "max_retries"
  | .initialWait => "initial_wait_ms"
  | .maxWait => "max_wait_ms"
  | .multiplier => "multiplier"
  | .logLevel => "log_level"
  | .logFormat => "log_format"
  | .metricsEnabled => "metrics_enabled"
  | .metricsAddress => "metrics_address"

/-- What a setting may be. -/
def kind : Setting → SettingKind
  | .refreshBuffer | .multiplier => .float
  | .maxRetries => .uint32
  | .tokenDuration | .initialWait | .maxWait => .uint64
  | .logLevel | .metricsAddress => .string
  | .metricsEnabled => .boolean
  | .logFormat => .format

/-- What a setting is in a configuration. -/
def value (c : Config) : Setting → Toml.Value
  | .refreshBuffer => .float c.tokenCache.refreshBuffer
  | .tokenDuration => .integer c.tokenCache.defaultTokenDurationSecs.toNat
  | .maxRetries => .integer c.occRetry.maxRetries.toNat
  | .initialWait => .integer c.occRetry.initialWaitMs.toNat
  | .maxWait => .integer c.occRetry.maxWaitMs.toNat
  | .multiplier => .float c.occRetry.multiplier
  | .logLevel => .string c.observability.logLevel
  | .logFormat => .string c.observability.logFormat.name
  | .metricsEnabled => .boolean c.observability.metricsEnabled
  | .metricsAddress => .string c.observability.metricsAddress

/-- A configuration is its settings. -/
theorem config_ext {c c' : Config} (h : ∀ k : Setting, k.value c = k.value c') : c = c' := by
  have hname : ∀ f g : LogFormat, f.name = g.name → f = g := by
    intro f g
    cases f <;> cases g <;> simp [LogFormat.name]
  have hbuffer := h .refreshBuffer
  have hduration := h .tokenDuration
  have hretries := h .maxRetries
  have hinitial := h .initialWait
  have hmax := h .maxWait
  have hmultiplier := h .multiplier
  have hlevel := h .logLevel
  have hformat := h .logFormat
  have henabled := h .metricsEnabled
  have haddress := h .metricsAddress
  obtain ⟨⟨_, _⟩, ⟨_, _, _, _⟩, ⟨_, _, _, _⟩⟩ := c
  obtain ⟨⟨_, _⟩, ⟨_, _, _, _⟩, ⟨_, _, _, _⟩⟩ := c'
  simp only [value, Toml.Value.float.injEq, Toml.Value.integer.injEq, Toml.Value.string.injEq,
    Toml.Value.boolean.injEq, Int.natCast_inj, UInt64.toNat_inj, UInt32.toNat_inj] at *
  obtain rfl := hname _ _ hformat
  subst_vars
  rfl

/-- No two settings share section and key. -/
theorem eq_of_names {j k : Setting} (hsection : j.sectionName = k.sectionName)
    (hkey : j.key = k.key) : j = k := by
  revert hsection hkey
  cases j <;> cases k <;> simp [sectionName, key]

theorem sectionName_mem (k : Setting) :
    k.sectionName ∈ ["token_cache", "occ_retry", "observability"] := by
  cases k <;> simp [sectionName]

/-- All settings. -/
def all : List Setting :=
  [.refreshBuffer, .tokenDuration, .maxRetries, .initialWait, .maxWait, .multiplier, .logLevel,
    .logFormat, .metricsEnabled, .metricsAddress]

theorem mem_all (k : Setting) : k ∈ all := by
  cases k <;> decide

/-- The setting under a key of a section. -/
def ofNames? (name key : String) : Option Setting :=
  all.find? fun k => k.sectionName = name ∧ k.key = key

theorem ofNames?_eq_some_iff {name key : String} {k : Setting} :
    ofNames? name key = some k ↔ k.sectionName = name ∧ k.key = key := by
  have hnames {j : Setting} (hj : ofNames? name key = some j) :
      j.sectionName = name ∧ j.key = key := by
    have hfound := List.find?_some hj
    exact of_decide_eq_true hfound
  constructor
  · exact hnames
  · intro h
    have hsome : (ofNames? name key).isSome := by
      rw [ofNames?, List.find?_isSome]
      exact ⟨k, mem_all k, decide_eq_true h⟩
    obtain ⟨j, hj⟩ := Option.isSome_iff_exists.1 hsome
    rw [hj, eq_of_names ((hnames hj).1.trans h.1.symm) ((hnames hj).2.trans h.2.symm)]

theorem ofNames?_eq_none_iff {name key : String} :
    ofNames? name key = none ↔ ∀ k : Setting, k.sectionName = name → k.key ≠ key := by
  rw [ofNames?, List.find?_eq_none]
  constructor
  · intro h k hname hkey
    exact h k (mem_all k) (decide_eq_true ⟨hname, hkey⟩)
  · intro h k _ hk
    obtain ⟨hname, hkey⟩ := of_decide_eq_true hk
    exact h k hname hkey

end Setting

/-! ## One value -/

/-- A reader of values accepts those of a kind, gives each for what it is taken for, and reports the
others. Tables that stand for a log format are left out. -/
structure SettingKind.DecodedBy {α : Type} (kind : SettingKind)
    (decode : Toml.Value → Except DecodeError α) (write : α → Toml.Value) : Prop where
  /-- What is accepted. -/
  accepted : ∀ {v}, kind.Accepts v → ∃ a, decode v = .ok a ∧ write a = kind.taken v
  /-- What is not. -/
  rejected : ∀ {v}, ¬ kind.Accepts v → (kind = .format → ∀ t, v ≠ .table t) →
    decode v = .error (kind.error v)

namespace Config

open SettingKind

theorem float_decodedBy : DecodedBy .float decodeFloat .float where
  accepted {v} h := by
    cases v with
    | float x => exact ⟨x, rfl, rfl⟩
    | integer n => exact ⟨.ofInt n, rfl, rfl⟩
    | _ => exact h.elim
  rejected {v} h _ := by
    cases v with
    | float | integer => exact absurd trivial h
    | _ => rfl

theorem string_decodedBy : DecodedBy .string decodeString .string where
  accepted {v} h := by
    cases v with
    | string s => exact ⟨s, rfl, rfl⟩
    | _ => exact h.elim
  rejected {v} h _ := by
    cases v with
    | string => exact absurd trivial h
    | _ => rfl

theorem boolean_decodedBy : DecodedBy .boolean decodeBoolean .boolean where
  accepted {v} h := by
    cases v with
    | boolean b => exact ⟨b, rfl, rfl⟩
    | _ => exact h.elim
  rejected {v} h _ := by
    cases v with
    | boolean => exact absurd trivial h
    | _ => rfl

theorem decodeNat_integer {bound : Nat} {wanted : Wanted} {n : Int} :
    decodeNat bound wanted (.integer n) =
      if 0 ≤ n ∧ n < bound then .ok n.toNat else .error (.outOfRange n wanted) := rfl

theorem uint32_decodedBy : DecodedBy .uint32 decodeUInt32 fun n => .integer n.toNat where
  accepted {v} h := by
    cases v with
    | integer n =>
        obtain ⟨hnonneg, hlt⟩ : 0 ≤ n ∧ n < ((2 ^ 32 : Nat) : Int) := h
        refine ⟨.ofNat n.toNat, ?_, ?_⟩
        · rw [decodeUInt32, decodeNat_integer, if_pos ⟨hnonneg, hlt⟩]
          rfl
        · have hsize : n.toNat < UInt32.size := by
            rw [UInt32.size]
            omega
          rw [UInt32.toNat_ofNat_of_lt' hsize, Int.toNat_of_nonneg hnonneg]
          rfl
    | _ => exact h.elim
  rejected {v} h _ := by
    cases v with
    | integer n =>
        have h : ¬ (0 ≤ n ∧ n < ((2 ^ 32 : Nat) : Int)) := h
        rw [decodeUInt32, decodeNat_integer, if_neg h]
        rfl
    | _ => rfl

theorem uint64_decodedBy : DecodedBy .uint64 decodeUInt64 fun n => .integer n.toNat where
  accepted {v} h := by
    cases v with
    | integer n =>
        obtain ⟨hnonneg, hlt⟩ : 0 ≤ n ∧ n < ((2 ^ 64 : Nat) : Int) := h
        refine ⟨.ofNat n.toNat, ?_, ?_⟩
        · rw [decodeUInt64, decodeNat_integer, if_pos ⟨hnonneg, hlt⟩]
          rfl
        · have hsize : n.toNat < UInt64.size := by
            rw [UInt64.size]
            omega
          rw [UInt64.toNat_ofNat_of_lt' hsize, Int.toNat_of_nonneg hnonneg]
          rfl
    | _ => exact h.elim
  rejected {v} h _ := by
    cases v with
    | integer n =>
        have h : ¬ (0 ≤ n ∧ n < ((2 ^ 64 : Nat) : Int)) := h
        rw [decodeUInt64, decodeNat_integer, if_neg h]
        rfl
    | _ => rfl

theorem format_decodedBy : DecodedBy .format decodeFormat fun f => .string f.name where
  accepted {v} h := by
    cases v with
    | string name =>
        rcases h with rfl | rfl
        · exact ⟨.pretty, rfl, rfl⟩
        · exact ⟨.json, rfl, rfl⟩
    | _ => exact h.elim
  rejected {v} h htable := by
    cases v with
    | string name =>
        have hname : LogFormat.ofName? name = none := by
          rw [LogFormat.ofName?, List.find?_eq_none]
          intro f _ hf
          cases f
          · exact h (.inl (beq_iff_eq.1 hf).symm)
          · exact h (.inr (beq_iff_eq.1 hf).symm)
        rw [decodeFormat, decodeFormatName, hname]
        rfl
    | table t => exact absurd rfl (htable rfl t)
    | _ => rfl

end Config

/-! ## One section -/

/-- A section of that name is a part of the configuration, which its settings change one by one. -/
structure Config.SectionAt {σ : Type} (name : String) (get : Config → σ)
    (update : Config → σ → Config) (set : σ → String → Toml.Value → Except DecodeError σ) :
    Prop where
  /-- What is put in place is there. -/
  get_update : ∀ c s, get (update c s) = s
  /-- What is there may be put in place. -/
  update_get : ∀ c, update c (get c) = c
  /-- The last that is put in place counts. -/
  update_update : ∀ c s s', update (update c s) s' = update c s'
  /-- A table of that name changes the part. -/
  setSection_eq : ∀ c entries,
    setSection c name (.table entries) = (setAll set (get c) entries).map (update c)

namespace Config

theorem tokenCache_sectionAt : SectionAt "token_cache" Config.tokenCache
    (fun c s => { c with tokenCache := s }) setTokenCache :=
  ⟨fun _ _ => rfl, fun _ => rfl, fun _ _ _ => rfl, fun _ _ => rfl⟩

theorem occRetry_sectionAt : SectionAt "occ_retry" Config.occRetry
    (fun c s => { c with occRetry := s }) setRetry :=
  ⟨fun _ _ => rfl, fun _ => rfl, fun _ _ _ => rfl, fun _ _ => rfl⟩

theorem observability_sectionAt : SectionAt "observability" Config.observability
    (fun c s => { c with observability := s }) setObservability :=
  ⟨fun _ _ => rfl, fun _ => rfl, fun _ _ _ => rfl, fun _ _ => rfl⟩

variable {σ : Type} {name : String} {get : Config → σ} {update : Config → σ → Config}
  {set : σ → String → Toml.Value → Except DecodeError σ}

theorem SectionAt.setSection_singleton (h : SectionAt name get update set) (c : Config)
    (e : String × Toml.Value) :
    setSection c name (.table [e]) = (set (get c) e.1 e.2).map (update c) := by
  rw [h.setSection_eq, setAll, List.foldlM_cons]
  exact congrArg (Except.map (update c)) (bind_pure _)

/-- The entries of a section may as well stand in tables of their own. -/
theorem SectionAt.setSection_eq_foldlM (h : SectionAt name get update set) (c : Config)
    (entries : Toml.Table) :
    setSection c name (.table entries) =
      entries.foldlM (fun c e => setSection c name (.table [e])) c := by
  induction entries generalizing c with
  | nil =>
      rw [h.setSection_eq]
      exact congrArg Except.ok (h.update_get c)
  | cons e entries ih =>
      obtain ⟨key, v⟩ := e
      have hcons : setAll set (get c) ((key, v) :: entries) =
          (set (get c) key v).bind fun s => setAll set s entries := rfl
      rw [List.foldlM_cons, h.setSection_singleton, h.setSection_eq, hcons]
      cases set (get c) key v with
      | error err => rfl
      | ok s =>
          have hrest := ih (update c s)
          rw [h.setSection_eq, h.get_update] at hrest
          show (setAll set s entries).map (update c) = _
          refine Eq.trans (congrArg (fun f => (setAll set s entries).map f) ?_) hrest
          exact funext fun s' => (h.update_update c s s').symm

theorem SectionAt.setSection_of_unchanged (h : SectionAt name get update set) {c : Config}
    {key : String} {v : Toml.Value} (hset : set (get c) key v = .ok (get c)) :
    setSection c name (.table [(key, v)]) = .ok c := by
  rw [h.setSection_singleton, hset]
  exact congrArg Except.ok (h.update_get c)

end Config

/-! ## One setting -/

namespace Setting

/-- Takes one setting. -/
def put (c : Config) (k : Setting) (v : Toml.Value) : Except DecodeError Config :=
  Config.setSection c k.sectionName (.table [(k.key, v)])

/-- A setting takes what it accepts and leaves the other settings alone; what it does not accept it
reports. -/
structure Lawful (k : Setting) : Prop where
  /-- What is accepted. -/
  accepted : ∀ c {v}, k.kind.Accepts v → ∃ c', put c k v = .ok c' ∧
    ∀ j : Setting, j.value c' = if j = k then k.kind.taken v else j.value c
  /-- What is not. -/
  rejected : ∀ c {v}, ¬ k.kind.Accepts v → (k = .logFormat → ∀ t, v ≠ .table t) →
    put c k v = .error (k.kind.error v)

/-- A setting is lawful if its value is read by a reader of its kind and then put in its place in
its section. -/
theorem lawful_of_decodedBy {α σ : Type} {k : Setting} {decode : Toml.Value → Except DecodeError α}
    {write : α → Toml.Value} {get : Config → σ} {update : Config → σ → Config}
    {set : σ → String → Toml.Value → Except DecodeError σ} {place : σ → α → σ}
    (hdecode : k.kind.DecodedBy decode write)
    (hsection : Config.SectionAt k.sectionName get update set)
    (hset : ∀ s v, set s k.key v = (decode v).map (place s))
    (hvalue : ∀ c a (j : Setting),
      j.value (update c (place (get c) a)) = if j = k then write a else j.value c)
    (hkind : k.kind = .format → k = .logFormat) : k.Lawful where
  accepted c v h := by
    obtain ⟨a, ha, hwrite⟩ := hdecode.accepted h
    refine ⟨update c (place (get c) a), ?_, fun j => ?_⟩
    · rw [put, hsection.setSection_singleton, hset, ha]
      rfl
    · rw [hvalue, hwrite]
  rejected c v h htable := by
    rw [put, hsection.setSection_singleton, hset, hdecode.rejected h fun hf => htable (hkind hf)]
    rfl

open Config in
theorem lawful (k : Setting) : k.Lawful := by
  cases k with
  | refreshBuffer =>
      have hset (s) (v) : setTokenCache s "refresh_buffer" v =
          (decodeFloat v).map fun x => { s with refreshBuffer := x } := rfl
      exact lawful_of_decodedBy float_decodedBy tokenCache_sectionAt hset
        (fun c a j => by cases j <;> rfl) (by simp [kind])
  | tokenDuration =>
      have hset (s) (v) : setTokenCache s "default_token_duration_secs" v =
          (decodeUInt64 v).map fun n => { s with defaultTokenDurationSecs := n } := rfl
      exact lawful_of_decodedBy uint64_decodedBy tokenCache_sectionAt hset
        (fun c a j => by cases j <;> rfl) (by simp [kind])
  | maxRetries =>
      have hset (s) (v) : setRetry s "max_retries" v =
          (decodeUInt32 v).map fun n => { s with maxRetries := n } := rfl
      exact lawful_of_decodedBy uint32_decodedBy occRetry_sectionAt hset
        (fun c a j => by cases j <;> rfl) (by simp [kind])
  | initialWait =>
      have hset (s) (v) : setRetry s "initial_wait_ms" v =
          (decodeUInt64 v).map fun n => { s with initialWaitMs := n } := rfl
      exact lawful_of_decodedBy uint64_decodedBy occRetry_sectionAt hset
        (fun c a j => by cases j <;> rfl) (by simp [kind])
  | maxWait =>
      have hset (s) (v) : setRetry s "max_wait_ms" v =
          (decodeUInt64 v).map fun n => { s with maxWaitMs := n } := rfl
      exact lawful_of_decodedBy uint64_decodedBy occRetry_sectionAt hset
        (fun c a j => by cases j <;> rfl) (by simp [kind])
  | multiplier =>
      have hset (s) (v) : setRetry s "multiplier" v =
          (decodeFloat v).map fun x => { s with multiplier := x } := rfl
      exact lawful_of_decodedBy float_decodedBy occRetry_sectionAt hset
        (fun c a j => by cases j <;> rfl) (by simp [kind])
  | logLevel =>
      have hset (s) (v) : setObservability s "log_level" v =
          (decodeString v).map fun text => { s with logLevel := text } := rfl
      exact lawful_of_decodedBy string_decodedBy observability_sectionAt hset
        (fun c a j => by cases j <;> rfl) (by simp [kind])
  | logFormat =>
      have hset (s) (v) : setObservability s "log_format" v =
          (decodeFormat v).map fun f => { s with logFormat := f } := rfl
      exact lawful_of_decodedBy format_decodedBy observability_sectionAt hset
        (fun c a j => by cases j <;> rfl) fun _ => rfl
  | metricsEnabled =>
      have hset (s) (v) : setObservability s "metrics_enabled" v =
          (decodeBoolean v).map fun b => { s with metricsEnabled := b } := rfl
      exact lawful_of_decodedBy boolean_decodedBy observability_sectionAt hset
        (fun c a j => by cases j <;> rfl) (by simp [kind])
  | metricsAddress =>
      have hset (s) (v) : setObservability s "metrics_address" v =
          (decodeString v).map fun text => { s with metricsAddress := text } := rfl
      exact lawful_of_decodedBy string_decodedBy observability_sectionAt hset
        (fun c a j => by cases j <;> rfl) (by simp [kind])

/-- Entries of other names do not count. -/
theorem setSection_of_unknown {name key : String}
    (h : ∀ k : Setting, k.sectionName = name → k.key ≠ key) (c : Config) (v : Toml.Value) :
    Config.setSection c name (.table [(key, v)]) = .ok c := by
  have hkeys (k : Setting) (hname : k.sectionName = name) : key ≠ k.key := (h k hname).symm
  by_cases htoken : name = "token_cache"
  · subst htoken
    have hbuffer : key ≠ "refresh_buffer" := hkeys .refreshBuffer rfl
    have hduration : key ≠ "default_token_duration_secs" := hkeys .tokenDuration rfl
    refine Config.tokenCache_sectionAt.setSection_of_unchanged ?_
    rw [Config.setTokenCache, if_neg hbuffer, if_neg hduration]
    rfl
  by_cases hretry : name = "occ_retry"
  · subst hretry
    have hretries : key ≠ "max_retries" := hkeys .maxRetries rfl
    have hinitial : key ≠ "initial_wait_ms" := hkeys .initialWait rfl
    have hmax : key ≠ "max_wait_ms" := hkeys .maxWait rfl
    have hmultiplier : key ≠ "multiplier" := hkeys .multiplier rfl
    refine Config.occRetry_sectionAt.setSection_of_unchanged ?_
    rw [Config.setRetry, if_neg hretries, if_neg hinitial, if_neg hmax, if_neg hmultiplier]
    rfl
  by_cases hobservability : name = "observability"
  · subst hobservability
    have hlevel : key ≠ "log_level" := hkeys .logLevel rfl
    have hformat : key ≠ "log_format" := hkeys .logFormat rfl
    have henabled : key ≠ "metrics_enabled" := hkeys .metricsEnabled rfl
    have haddress : key ≠ "metrics_address" := hkeys .metricsAddress rfl
    refine Config.observability_sectionAt.setSection_of_unchanged ?_
    rw [Config.setObservability, if_neg hlevel, if_neg hformat, if_neg henabled, if_neg haddress]
    rfl
  rw [Config.setSection, if_neg htoken, if_neg hretry, if_neg hobservability]
  rfl

/-- Sections of other names do not count. -/
theorem setSection_of_unknown_section {name : String} (h : ∀ k : Setting, k.sectionName ≠ name)
    (c : Config) (v : Toml.Value) : Config.setSection c name v = .ok c := by
  have htoken : name ≠ "token_cache" := (h .refreshBuffer).symm
  have hretry : name ≠ "occ_retry" := (h .maxRetries).symm
  have hobservability : name ≠ "observability" := (h .logLevel).symm
  rw [Config.setSection, if_neg htoken, if_neg hretry, if_neg hobservability]
  rfl

end Setting

end StoreClient
