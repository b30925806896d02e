import StoreClient.Credentials.Settings
import StoreClient.Retry.Policy

/-!
# Configuration

Ten settings in three sections, each with a default, and what they mean for the token cache and for
retried calls.
-/

namespace StoreClient

/-- Settings of the token cache. -/
structure TokenCacheSection where
  /-- The part of a token's lifetime before its end in which it is no longer served. -/
  refreshBuffer : Binary64 := Credentials.defaultRefreshBuffer
  /-- The lifetime of tokens requested without one, in seconds. -/
  defaultTokenDurationSecs : UInt64 := 900
deriving DecidableEq, Repr

/-- Settings of retried calls. -/
structure RetrySection where
  /-- The number of attempts after the first. -/
  maxRetries : UInt32 := 3
  /-- The first wait, in milliseconds. -/
  initialWaitMs : UInt64 := 100
  /-- The greatest wait, in milliseconds. -/
  maxWaitMs : UInt64 := 5000
  /-- The factor from one wait to the next. -/
  multiplier : Binary64 := .ofNat 2
deriving DecidableEq, Repr

/-- The layout of log lines. -/
inductive LogFormat where
  /-- For people. -/
  | pretty
  /-- For programs. -/
  | json
deriving DecidableEq, Repr

namespace LogFormat

/-- Both layouts, in the order of their declaration. -/
def all : List LogFormat := [.pretty, .json]

/-- The name of a layout in settings. -/
def name : LogFormat → String
  | .pretty => "pretty"
  | .json => "json"

/-- The layout of that name. -/
def ofName? (s : String) : Option LogFormat := all.find? fun f => f.name == s

end LogFormat

/-- Settings of logs and metrics. -/
structure ObservabilitySection where
  /-- The least grave level that is logged. -/
  logLevel : String := "info"
  /-- The layout of log lines. -/
  logFormat : LogFormat := .pretty
  /-- Whether metrics are served. -/
  metricsEnabled : Bool := false
  /-- Where metrics are served. -/
  metricsAddress : String := "0.0.0.0:9090"
deriving DecidableEq, Repr

/-- A configuration. -/
structure Config where
  /-- The token cache. -/
  tokenCache : TokenCacheSection := {}
  /-- Retried calls. -/
  occRetry : RetrySection := {}
  /-- Logs and metrics. -/
  observability : ObservabilitySection := {}
deriving DecidableEq, Repr

instance : Inhabited Config := ⟨{}⟩

/-- Whether a configuration equals the default one, its floating-point settings as numbers. -/
def Config.isDefault (c : Config) : Bool :=
  let default : Config := {}
  let tokenCache := { c.tokenCache with refreshBuffer := default.tokenCache.refreshBuffer }
  let occRetry := { c.occRetry with multiplier := default.occRetry.multiplier }
  c.tokenCache.refreshBuffer.equals default.tokenCache.refreshBuffer
    && c.occRetry.multiplier.equals default.occRetry.multiplier
    && tokenCache == default.tokenCache && occRetry == default.occRetry
    && c.observability == default.observability

/-- The settings of a cache under a configuration. -/
def TokenCacheSection.settings (s : TokenCacheSection) : Credentials.Settings where
  refreshBuffer := s.refreshBuffer
  defaultDuration := .ofSeconds s.defaultTokenDurationSecs

/-- The policy of retried calls under a configuration. -/
def RetrySection.policy (s : RetrySection) : Retry.Policy where
  maxRetries := s.maxRetries
  initialWait := .ofMilliseconds s.initialWaitMs
  maxWait := .ofMilliseconds s.maxWaitMs
  multiplier := s.multiplier

end StoreClient
