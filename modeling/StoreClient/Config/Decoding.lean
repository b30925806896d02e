import StoreClient.Config.Basic
import StoreClient.Text.Quoted
import StoreClient.Toml.Value

/-!
# Configurations from documents

`Config.decode` takes the settings of a document one by one, in the order in which it holds them,
and stops at the first that cannot be used. Settings that the document lacks keep their default, and
entries of other names do not count. A section may also be an array, which gives its settings by
their place.
-/

namespace StoreClient

/-- What stands in place of a setting or a section. -/
inductive Wanted where
  /-- A floating-point number. -/
  | float
  /-- A natural number of 32 bits. -/
  | uint32
  /-- A natural number of 64 bits. -/
  | uint64
  /-- A text. -/
  | string
  /-- A truth value. -/
  | boolean
  /-- The settings of the token cache. -/
  | tokenCache
  /-- The settings of retried calls. -/
  | retry
  /-- The settings of logs and metrics. -/
  | observability
deriving DecidableEq, Repr

/-- The words for what is wanted. -/
def Wanted.text : Wanted → String
  | .float => "f64"
  | .uint32 => "u32"
  | .uint64 => "u64"
  | .string => "a string"
  | .boolean => "a boolean"
  | .tokenCache => "struct TokenCacheConfig"
  | .retry => "struct OccRetryConfig"
  | .observability => "struct ObservabilityConfig"

/-- Why a value cannot be used. An error tells of the value alone; at which line and column of the
text it stands is not part of it. -/
inductive DecodeError where
  /-- It is of another kind. -/
  | wrongKind (got : Toml.Value) (wanted : Wanted)
  /-- It is an integer out of range. -/
  | outOfRange (got : Int) (wanted : Wanted)
  /-- It names no log format. -/
  | unknownFormat (name : String)
  /-- It cannot be a log format. -/
  | noFormat
  /-- It is a table that does not hold a log format alone. -/
  | notOneFormat (tooMany : Bool)
  /-- Below a log format stands something more. -/
  | formatContent (got : Toml.Value)

/-- The words for a value that was not wanted. Dates are taken for tables. -/
def Toml.Value.describe : Toml.Value → String
  | .string s => "string " ++ Text.quoted s
  | .integer n => s!"integer `{n}`"
  | .float x => s!"floating point `{Binary64.Layout.pointed.write x}`"
  | .boolean b => s!"boolean `{b}`"
  | .array _ | .tables _ => "sequence"
  | .datetime _ | .table _ => "map"

/-- The text of an error. -/
def DecodeError.message : DecodeError → String
  | .wrongKind got wanted => s!"invalid type: {got.describe}, expected {wanted.text}"
  | .outOfRange got wanted => s!"invalid value: integer `{got}`, expected {wanted.text}"
  | .unknownFormat name => s!"unknown variant `{name}`, expected `pretty` or `json`"
  | .noFormat => "wanted string or table"
  | .notOneFormat false => "wanted exactly 1 element, found 0 elements"
  | .notOneFormat true => "wanted exactly 1 element, more than 1 element"
  | .formatContent (.table _) | .formatContent (.array _) => "expected empty table"
  | .formatContent (.tables _) => "expected empty array"
  | .formatContent got => s!"expected table, found {got.kind}"

namespace Config

/-- A floating-point number; integers count. -/
def decodeFloat : Toml.Value → Except DecodeError Binary64
  | .float x => .ok x
  | .integer n => .ok (.ofInt n)
  | v => .error (.wrongKind v .float)

/-- A natural number below a bound. -/
def decodeNat (bound : Nat) (wanted : Wanted) : Toml.Value → Except DecodeError Nat
  | .integer n => if 0 ≤ n ∧ n < bound then .ok n.toNat else .error (.outOfRange n wanted)
  | v => .error (.wrongKind v wanted)

/-- A natural number of 32 bits. -/
def decodeUInt32 (v : Toml.Value) : Except DecodeError UInt32 :=
  (decodeNat (2 ^ 32) .uint32 v).map .ofNat

/-- A natural number of 64 bits. -/
def decodeUInt64 (v : Toml.Value) : Except DecodeError UInt64 :=
  (decodeNat (2 ^ 64) .uint64 v).map .ofNat

/-- A text. -/
def decodeString : Toml.Value → Except DecodeError String
  | .string s => .ok s
  | v => .error (.wrongKind v .string)

/-- A truth value. -/
def decodeBoolean : Toml.Value → Except DecodeError Bool
  | .boolean b => .ok b
  | v => .error (.wrongKind v .boolean)

/-- The log format of that name. -/
def decodeFormatName (name : String) : Except DecodeError LogFormat :=
  match LogFormat.ofName? name with
  | some f => .ok f
  | none => .error (.unknownFormat name)

/-- A log format: its name, or a table with its name as the only key and nothing below. -/
def decodeFormat : Toml.Value → Except DecodeError LogFormat
  | .string name => decodeFormatName name
  | .table [] => .error (.notOneFormat false)
  | .table [(name, content)] => do
    let format ← decodeFormatName name
    match content with
    | .table [] | .array [] => return format
    | content => throw (.formatContent content)
  | .table _ => .error (.notOneFormat true)
  | _ => .error .noFormat

variable {σ : Type}

/-- Takes settings one after the other. -/
def setAll (set : σ → String → Toml.Value → Except DecodeError σ) (s : σ)
    (entries : List (String × Toml.Value)) : Except DecodeError σ :=
  entries.foldlM (fun s (name, v) => set s name v) s

/-- A section: a table, an array with the settings in the order of their names, or a date, which
sets nothing. -/
def decodeSection (wanted : Wanted) (names : List String)
    (set : σ → String → Toml.Value → Except DecodeError σ) (s : σ) :
    Toml.Value → Except DecodeError σ
  | .table entries => setAll set s entries
  | .array items => setAll set s (names.zip items)
  | .tables elements => setAll set s (names.zip (elements.map .table))
  | .datetime _ => .ok s
  | v => .error (.wrongKind v wanted)

/-- Takes one setting of the token cache. -/
def setTokenCache (s : TokenCacheSection) (name : String) (v : Toml.Value) :
    Except DecodeError TokenCacheSection :=
  if name = "refresh_buffer" then return { s with refreshBuffer := ← decodeFloat v }
  else if name = "default_token_duration_secs" then
    return { s with defaultTokenDurationSecs := ← decodeUInt64 v }
  else return s

/-- The settings of the token cache in their order. -/
def tokenCacheNames : List String := ["refresh_buffer", "default_token_duration_secs"]

/-- Takes one setting of retried calls. -/
def setRetry (s : RetrySection) (name : String) (v : Toml.Value) :
    Except DecodeError RetrySection :=
  if name = "max_retries" then return { s with maxRetries := ← decodeUInt32 v }
  else if name = "initial_wait_ms" then return { s with initialWaitMs := ← decodeUInt64 v }
  else if name = "max_wait_ms" then return { s with maxWaitMs := ← decodeUInt64 v }
  else if name = "multiplier" then return { s with multiplier := ← decodeFloat v }
  else return s

/-- The settings of retried calls in their order. -/
def retryNames : List String := ["max_retries", "initial_wait_ms", "max_wait_ms", "multiplier"]

/-- Takes one setting of logs and metrics. -/
def setObservability (s : ObservabilitySection) (name : String) (v : Toml.Value) :
    Except DecodeError ObservabilitySection :=
  if name = "log_level" then return { s with logLevel := ← decodeString v }
  else if name = "log_format" then return { s with logFormat := ← decodeFormat v }
  else if name = "metrics_enabled" then return { s with metricsEnabled := ← decodeBoolean v }
  else if name = "metrics_address" then return { s with metricsAddress := ← decodeString v }
  else return s

/-- The settings of logs and metrics in their order. -/
def observabilityNames : List String :=
  ["log_level", "log_format", "metrics_enabled", "metrics_address"]

/-- Takes one section. -/
def setSection (c : Config) (name : String) (v : Toml.Value) : Except DecodeError Config :=
  if name = "token_cache" then
    return { c with
      tokenCache := ← decodeSection .tokenCache tokenCacheNames setTokenCache c.tokenCache v }
  else if name = "occ_retry" then
    return { c with occRetry := ← decodeSection .retry retryNames setRetry c.occRetry v }
  else if name = "observability" then
    return { c with
      observability :=
        ← decodeSection .observability observabilityNames setObservability c.observability v }
  else return c

/-- The configuration that a document describes. -/
def decode (document : Toml.Table) : Except DecodeError Config := setAll setSection {} document

end Config

end StoreClient
