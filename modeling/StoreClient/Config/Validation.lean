import StoreClient.Config.Basic
import StoreClient.Net.SocketAddress
import StoreClient.Observability.Log

/-!
# Validation

A configuration that can be read need not be usable. `Config.problems` lists what is wrong with it,
section by section; of several faults of the retry settings the first stands for all.
-/

namespace StoreClient

/-- Something that makes a configuration unusable. -/
inductive Problem where
  /-- The refresh buffer is no part of a lifetime. -/
  | refreshBuffer (got : Binary64)
  /-- Tokens would have no lifetime. -/
  | tokenDuration
  /-- The retry policy is unusable. -/
  | retryPolicy (fault : Retry.PolicyFault)
  /-- There is no such log level. -/
  | logLevel (got : String)
  /-- Metrics cannot be served there. -/
  | metricsAddress (got : String)
deriving DecidableEq, Repr

/-- The text of a problem. -/
def Problem.message : Problem → String
  | .refreshBuffer got => s!"token_cache.refresh_buffer must be in [0, 1), got {got}"
  | .tokenDuration => "token_cache.default_token_duration_secs must be greater than zero"
  | .retryPolicy fault => s!"occ_retry: {fault.message}"
  | .logLevel got =>
    s!"observability.log_level '{got}' is not one of trace, debug, info, warn, error"
  | .metricsAddress got => s!"observability.metrics_address '{got}' is not a socket address"

/-- The problems of the token cache's settings. -/
def TokenCacheSection.problems (s : TokenCacheSection) : List Problem :=
  (if (Binary64.zero false).le s.refreshBuffer && s.refreshBuffer.lt (.ofNat 1) then []
    else [.refreshBuffer s.refreshBuffer]) ++
  (if s.defaultTokenDurationSecs = 0 then [.tokenDuration] else [])

/-- The first problem of the retry settings. -/
def RetrySection.problems (s : RetrySection) : List Problem :=
  (s.policy.fault?.map .retryPolicy).toList

/-- The problems of the settings of logs and metrics. An address that is not used may be any
text. -/
def ObservabilitySection.problems (s : ObservabilitySection) : List Problem :=
  (if (Observability.Level.ofName? s.logLevel).isSome then [] else [.logLevel s.logLevel]) ++
  (if s.metricsEnabled && (Net.SocketAddress.ofText? s.metricsAddress).isNone then
    [.metricsAddress s.metricsAddress] else [])

/-- The problems of a configuration. -/
def Config.problems (c : Config) : List Problem :=
  c.tokenCache.problems ++ c.occRetry.problems ++ c.observability.problems

/-- The messages of problems in one line. -/
def Problem.summary (ps : List Problem) : String :=
  "Validation failed: " ++ ", ".intercalate (ps.map Problem.message)

end StoreClient
