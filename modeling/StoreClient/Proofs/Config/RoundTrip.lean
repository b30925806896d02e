import StoreClient.Proofs.Config.Fieldwise
import StoreClient.Proofs.Toml.Plain

/-!
# Configurations that are written and read

A configuration is written as a plain document of three tables, in which every setting stands under
its key with a text that denotes what it is. So reading the text gives the configuration back, and
what validation finds in it is what it finds in the original.

## Main definitions

* `Config.tables` — the tables of a configuration.
* `Config.Writable` — a document can hold the integers and strings of a configuration.
-/

namespace StoreClient

namespace Config

open Toml

/-- The entry of a setting. -/
def entry (c : Config) (k : Setting) : String × Value := (k.key, k.value c)

/-- The tables of a configuration. -/
def tables (c : Config) : List (String × Table) :=
  [("token_cache", [Setting.refreshBuffer, .tokenDuration].map c.entry),
    ("occ_retry", [Setting.maxRetries, .initialWait, .maxWait, .multiplier].map c.entry),
    ("observability",
      [Setting.logLevel, .logFormat, .metricsEnabled, .metricsAddress].map c.entry)]

/-- The document of a configuration. -/
def document (c : Config) : Table := c.tables.map fun table => (table.1, .table table.2)

/-- Integers of at most 63 bits, and strings of characters that can stand between quotes as they
are: what a document can hold. -/
structure Writable (c : Config) : Prop where
  /-- The lifetime of tokens. -/
  tokenDuration : c.tokenCache.defaultTokenDurationSecs.toNat < 2 ^ 63
  /-- The first wait. -/
  initialWait : c.occRetry.initialWaitMs.toNat < 2 ^ 63
  /-- The greatest wait. -/
  maxWait : c.occRetry.maxWaitMs.toNat < 2 ^ 63
  /-- The least grave level that is logged. -/
  logLevel : ∀ ch ∈ c.observability.logLevel.toList, isUnescaped ch = true
  /-- Where metrics are served. -/
  metricsAddress : ∀ ch ∈ c.observability.metricsAddress.toList, isUnescaped ch = true

/-! ## What the document holds -/

section

variable (c : Config)

theorem find?_document (k : Setting) : k.find? c.document = some (k.value c) := by
  cases k <;> rfl

theorem accepts_value (k : Setting) : k.kind.Accepts (k.value c) := by
  have h32 : c.occRetry.maxRetries.toNat < 2 ^ 32 := c.occRetry.maxRetries.toNat_lt
  have h64 (n : UInt64) : n.toNat < 2 ^ 64 := n.toNat_lt
  have hduration := h64 c.tokenCache.defaultTokenDurationSecs
  have hinitial := h64 c.occRetry.initialWaitMs
  have hmax := h64 c.occRetry.maxWaitMs
  cases k with
  | refreshBuffer | multiplier | logLevel | metricsAddress | metricsEnabled => exact trivial
  | tokenDuration | initialWait | maxWait | maxRetries =>
      simp only [Setting.kind, Setting.value, SettingKind.Accepts]
      omega
  | logFormat =>
      simp only [Setting.kind, Setting.value, SettingKind.Accepts]
      cases c.observability.logFormat with
      | pretty => exact .inl rfl
      | json => exact .inr rfl

theorem taken_value (k : Setting) : k.kind.taken (k.value c) = k.value c := by
  cases k <;> rfl

theorem plain_document : c.document.Plain := by
  refine ⟨?_, ?_⟩
  · intro e he
    obtain ⟨table, -, rfl⟩ := List.mem_map.1 he
    exact fun _ => ⟨table.2, rfl⟩
  · intro t ht
    rw [find?_document] at ht
    cases ht

/-- The document of a configuration describes it and nothing else. -/
theorem decode_document (hdistinct : c.document.Distinct) : decode c.document = .ok c := by
  have haccepts : ∀ k v, Setting.find? c.document k = some v → k.kind.Accepts v := by
    intro k v hfound
    rw [find?_document] at hfound
    obtain rfl := Option.some.inj hfound
    exact c.accepts_value k
  obtain ⟨c', hdecode, hdescribed⟩ := decode_of_accepts hdistinct c.plain_document haccepts
  have heq : c' = c := by
    refine Setting.config_ext fun k => ?_
    rw [hdescribed k, find?_document, Option.map_some, taken_value, Option.getD_some]
  rw [hdecode, heq]

end

/-! ## How it is written -/

theorem written_append {s t : String} {lines lines' : List Line} (h : Written s.toList lines)
    (h' : Written t.toList lines') : Written (s ++ t).toList (lines ++ lines') := by
  rw [String.toList_append]
  exact h.append h'

theorem written_line {key text : String} {v : Value} (hkey : IsBare key.toList)
    (hv : Denotes text.toList v) : Written (line key text).toList [.assignment ⟨[], key⟩ v] := by
  have htext : (line key text).toList =
      key.toList ++ ' ' :: '=' :: ' ' :: (text.toList ++ ['\n']) := by
    simp only [line, String.toList_append, List.append_assoc]
    rfl
  have hwritten := written_assignment hkey hv
  rw [String.ofList_toList] at hwritten
  rw [htext]
  exact hwritten

theorem isBare_key (k : Setting) : IsBare k.key.toList := by
  have hnonempty : k.key.toList ≠ [] := by cases k <;> decide
  have hchars : k.key.toList.all isBareKeyChar = true := by cases k <;> decide
  exact ⟨hnonempty, List.all_eq_true.1 hchars⟩

theorem isBare_section (k : Setting) : IsBare k.sectionName.toList := by
  have hnonempty : k.sectionName.toList ≠ [] := by cases k <;> decide
  have hchars : k.sectionName.toList.all isBareKeyChar = true := by cases k <;> decide
  exact ⟨hnonempty, List.all_eq_true.1 hchars⟩

theorem denotes_ofList_digitChars {n : Nat} (h : n < 2 ^ 63) :
    Denotes (String.ofList (Decimal.digitChars n)).toList (.integer n) := by
  rw [String.toList_ofList]
  exact denotes_integer h

theorem integer_eq_ok {n : Nat} (h : n < 2 ^ 63) :
    integer n = .ok (String.ofList (Decimal.digitChars n)) := if_pos h

theorem written_tokenCache (s : TokenCacheSection)
    (hduration : s.defaultTokenDurationSecs.toNat < 2 ^ 63) :
    ∃ text, printTokenCache s = .ok text ∧ Written text.toList (Table.lines ("token_cache",
      [("refresh_buffer", .float s.refreshBuffer),
        ("default_token_duration_secs", .integer s.defaultTokenDurationSecs.toNat)])) := by
  have hheader : Written "[token_cache]\n".toList [.table ⟨[], "token_cache"⟩] :=
    written_header (isBare_section .refreshBuffer)
  have hbuffer := written_line (isBare_key .refreshBuffer) (denotes_float s.refreshBuffer)
  have hlifetime := written_line (isBare_key .tokenDuration) (denotes_ofList_digitChars hduration)
  refine ⟨_, ?_, written_append (written_append hheader hbuffer) hlifetime⟩
  rw [printTokenCache, integer_eq_ok hduration]
  rfl

theorem written_occRetry (s : RetrySection) (hinitial : s.initialWaitMs.toNat < 2 ^ 63)
    (hmax : s.maxWaitMs.toNat < 2 ^ 63) :
    ∃ text, printRetry s = .ok text ∧ Written text.toList (Table.lines ("occ_retry",
      [("max_retries", .integer s.maxRetries.toNat),
        ("initial_wait_ms", .integer s.initialWaitMs.toNat),
        ("max_wait_ms", .integer s.maxWaitMs.toNat), ("multiplier", .float s.multiplier)])) := by
  have hretries : s.maxRetries.toNat < 2 ^ 63 := by
    have hlt := s.maxRetries.toNat_lt
    omega
  have hheader : Written "[occ_retry]\n".toList [.table ⟨[], "occ_retry"⟩] :=
    written_header (isBare_section .maxRetries)
  have hfirst := written_line (isBare_key .maxRetries) (denotes_ofList_digitChars hretries)
  have hsecond := written_line (isBare_key .initialWait) (denotes_ofList_digitChars hinitial)
  have hthird := written_line (isBare_key .maxWait) (denotes_ofList_digitChars hmax)
  have hfourth := written_line (isBare_key .multiplier) (denotes_float s.multiplier)
  refine ⟨_, ?_, written_append (written_append (written_append (written_append hheader hfirst)
    hsecond) hthird) hfourth⟩
  rw [printRetry, integer_eq_ok hretries, integer_eq_ok hinitial, integer_eq_ok hmax]
  rfl

theorem written_observability (s : ObservabilitySection)
    (hlevel : ∀ ch ∈ s.logLevel.toList, isUnescaped ch = true)
    (haddress : ∀ ch ∈ s.metricsAddress.toList, isUnescaped ch = true) :
    Written (printObservability s).toList (Table.lines ("observability",
      [("log_level", .string s.logLevel), ("log_format", .string s.logFormat.name),
        ("metrics_enabled", .boolean s.metricsEnabled),
        ("metrics_address", .string s.metricsAddress)])) := by
  have hname : s.logFormat.name.toList.all isUnescaped = true := by
    cases s.logFormat <;> decide
  have hformat := List.all_eq_true.1 hname
  have hheader : Written "[observability]\n".toList [.table ⟨[], "observability"⟩] :=
    written_header (isBare_section .logLevel)
  have hfirst := written_line (isBare_key .logLevel) (denotes_quoted hlevel)
  have hsecond := written_line (isBare_key .logFormat) (denotes_quoted hformat)
  have hthird := written_line (isBare_key .metricsEnabled) (denotes_boolean s.metricsEnabled)
  have hfourth := written_line (isBare_key .metricsAddress) (denotes_quoted haddress)
  exact written_append (written_append (written_append (written_append hheader hfirst) hsecond)
    hthird) hfourth

/-- The text of a configuration denotes its document. -/
theorem document?_print {c : Config} (h : c.Writable) :
    ∃ text, c.print = .ok text ∧ document? text = some c.document := by
  obtain ⟨first, hfirst, hwritten⟩ := written_tokenCache c.tokenCache h.tokenDuration
  obtain ⟨second, hsecond, hwritten'⟩ := written_occRetry c.occRetry h.initialWait h.maxWait
  have hwritten'' := written_observability c.observability h.logLevel h.metricsAddress
  have hblank : Written "\n".toList [.blank] := written_blank
  refine ⟨first ++ "\n" ++ second ++ "\n" ++ printObservability c.observability, ?_, ?_⟩
  · rw [print, hfirst, hsecond]
    rfl
  · have hlines := written_append (written_append (written_append (written_append hwritten hblank)
      hwritten') hblank) hwritten''
    have hnames : DistinctKeys c.tables := by
      show ["token_cache", "occ_retry", "observability"].Nodup
      decide
    have hkeys : ∀ table ∈ c.tables, DistinctKeys table.2 := by
      have htables : c.tables.map (fun table => table.2.map Prod.fst) =
          [["refresh_buffer", "default_token_duration_secs"],
            ["max_retries", "initial_wait_ms", "max_wait_ms", "multiplier"],
            ["log_level", "log_format", "metrics_enabled", "metrics_address"]] := rfl
      have hnodup : ∀ keys ∈ c.tables.map (fun table => table.2.map Prod.fst), keys.Nodup := by
        rw [htables]
        decide
      exact fun table hmem => hnodup _ (List.mem_map_of_mem hmem)
    exact document?_of_written hlines (by simp) rfl hnames hkeys

/-! ## Round trip -/

/-- **Round trip.** A configuration whose integers and strings a document can hold is written, and
its text is read as the same configuration if validation finds nothing in it, and else is refused
with all that validation finds in the original. -/
theorem parse_print (c : Config) (h : c.Writable) :
    ∃ text, c.print = .ok text ∧ (parse text = .ok c ↔ c.problems = []) ∧
      (c.problems ≠ [] → parse text = .error (.unusable c.problems)) := by
  obtain ⟨text, hprint, hread⟩ := document?_print h
  have hparse : parse text = c.validate := by
    rw [parse, hread]
    show ofDocument c.document = c.validate
    rw [ofDocument, c.decode_document (distinct_of_document? hread)]
  refine ⟨text, hprint, ?_, ?_⟩
  · rw [hparse, validate]
    by_cases hnone : c.problems = []
    · simp [hnone]
    · simp [hnone]
  · intro hsome
    have hnonempty : ¬ c.problems.isEmpty = true := by simpa using hsome
    rw [hparse, validate, if_neg hnonempty]

/-- Negative zero, the greatest integers and characters of all kinds are read as they are
written. -/
theorem parse_print_extremes :
    let c : Config := {
      tokenCache := { refreshBuffer := .zero true, defaultTokenDurationSecs := 0x7fffffffffffffff }
      occRetry := { maxRetries := 0xffffffff, maxWaitMs := 0x7fffffffffffffff }
      observability := { logLevel := "WARN", logFormat := .json, metricsAddress := "#é = [']" } }
    c.Writable ∧ c.problems = [] ∧ ∃ text, c.print = .ok text ∧ parse text = .ok c := by
  intro c
  have hlevel : c.observability.logLevel.toList.all isUnescaped = true := by decide
  have haddress : c.observability.metricsAddress.toList.all isUnescaped = true := by decide
  have h : c.Writable := by
    refine ⟨?_, ?_, ?_, List.all_eq_true.1 hlevel, List.all_eq_true.1 haddress⟩ <;>
      decide +kernel
  have hnone : c.problems = [] := by decide +kernel
  obtain ⟨text, hprint, hread, -⟩ := parse_print c h
  exact ⟨h, hnone, text, hprint, hread.2 hnone⟩

end Config

end StoreClient
