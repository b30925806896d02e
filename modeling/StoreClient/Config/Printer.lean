import StoreClient.Config.Basic

/-!
# Writing configurations

A configuration is written as a document of three tables in the order of their declaration, each
with one line for every setting. Strings are written between double quotes, where of all characters
that can stand there as they are only the tab is written as an escape.
-/

namespace StoreClient

/-- Why a configuration cannot be written. -/
inductive PrintError where
  /-- An integer exceeds what a document can hold. -/
  | integerOutOfRange
deriving DecidableEq, Repr

/-- The text of an error. -/
def PrintError.message : PrintError → String
  | .integerOutOfRange => "out-of-range value for u64 type"

namespace Config

/-- One line for a setting. -/
def line (key value : String) : String := key ++ " = " ++ value ++ "\n"

/-- A character between quotes. -/
def quotedChar (c : Char) : List Char := if c = '\t' then ['\\', 't'] else [c]

/-- A string between quotes. It is one without quotes, backslashes, line ends and other control
characters; how a string with these is written is not described here. -/
def quoted (s : String) : String := "\"" ++ String.ofList (s.toList.flatMap quotedChar) ++ "\""

/-- A number of at most 63 bits in decimal digits. -/
def integer (n : Nat) : Except PrintError String :=
  if n < 2 ^ 63 then .ok (String.ofList (Decimal.digitChars n)) else .error .integerOutOfRange

/-- A floating-point number in decimal digits, always with a point. -/
def float (x : Binary64) : String := Binary64.Layout.document.write x

/-- A truth value. -/
def boolean (b : Bool) : String := if b then "true" else "false"

/-- The table of the token cache's settings. -/
def printTokenCache (s : TokenCacheSection) : Except PrintError String := do
  let duration ← integer s.defaultTokenDurationSecs.toNat
  return "[token_cache]\n" ++ line "refresh_buffer" (float s.refreshBuffer)
    ++ line "default_token_duration_secs" duration

/-- The table of the retry settings. -/
def printRetry (s : RetrySection) : Except PrintError String := do
  let retries ← integer s.maxRetries.toNat
  let initial ← integer s.initialWaitMs.toNat
  let greatest ← integer s.maxWaitMs.toNat
  return "[occ_retry]\n" ++ line "max_retries" retries ++ line "initial_wait_ms" initial
    ++ line "max_wait_ms" greatest ++ line "multiplier" (float s.multiplier)

/-- The table of the settings of logs and metrics. -/
def printObservability (s : ObservabilitySection) : String :=
  "[observability]\n" ++ line "log_level" (quoted s.logLevel)
    ++ line "log_format" (quoted s.logFormat.name)
    ++ line "metrics_enabled" (boolean s.metricsEnabled)
    ++ line "metrics_address" (quoted s.metricsAddress)

/-- The document of a configuration. -/
def print (c : Config) : Except PrintError String := do
  let tokenCache ← printTokenCache c.tokenCache
  let retry ← printRetry c.occRetry
  return tokenCache ++ "\n" ++ retry ++ "\n" ++ printObservability c.observability

end Config

end StoreClient
