import StoreClient.Credentials.Cache
import StoreClient.Observability.Log
import StoreClient.Observability.Metrics

/-!
# Log lines and metrics of a token cache

Both are views of the journal; nothing else is logged or measured, and no view shows a token.
-/

namespace StoreClient.Credentials

open Observability

/-- The target of the log lines of a token cache. -/
def logTarget : String := s!"{libraryTarget}::credentials::cache"

/-- The span of a call; only a call for a token has one. -/
def Call.span? (call : Call) : Option Span :=
  match call.request with
  | .get key => some {
      name := "get_token_for"
      target := logTarget
      fields := [("host", key.host), ("region", key.region), ("user", key.user)] }
  | _ => none

namespace Event

/-- The log line of an event, if it has one. -/
def logLine? : Event → Option LogLine
  | .hit => some { level := .debug, message := "using cached auth token" }
  | .stale => some { level := .debug, message := "cached token is expired or expiring soon" }
  | .refreshed => some { level := .debug, message := "token refreshed by a concurrent caller" }
  | .failed message => some {
      level := .warn
      message := "token issuance failed"
      fields := [("error", message)] }
  | .stored _ record _ => some {
      level := .info
      message := "issued new auth token"
      fields := [("lifetime_secs", toString record.lifetime.seconds)] }
  | .cleared => some { level := .debug, message := "token cache cleared" }
  | _ => none

/-- The measurement of an event, if it has one. -/
def measurement? : Event → Option Measurement
  | .hit => some .cacheHit
  | .missed => some .cacheMiss
  | .issued => some (.issuance "success")
  | .failed _ => some (.issuance "error")
  | .empty => some (.issuance "empty")
  | .abandoned => some (.issuance "cancelled")
  | .stored _ _ entries => some (.cacheEntries entries)
  | .cleared => some (.cacheEntries 0)
  | _ => none

end Event

/-- The log lines of a new cache: one if its settings are not usable. -/
def Settings.log (s : Settings) : List LogLine :=
  if s.refreshBuffer.isFinite then []
  else [{
    level := .warn
    message := "non-finite refresh buffer, using default"
    fields := [("refresh_buffer", s.refreshBuffer.toText)] }]

/-- The log line of an entry of the journal, if it has one, inside the span of its call. -/
def Entry.logLine? (calls : List Call) (e : Entry) : Option LogLine :=
  e.event.logLine?.map ({ · with span := calls[e.call]?.bind Call.span? })

/-- The log lines of a journal, in order. -/
def logLines (calls : List Call) (journal : List Entry) : List LogLine :=
  journal.reverse.filterMap (·.logLine? calls)

/-- The measurements of a journal, in order. -/
def measurements (journal : List Entry) : List Measurement :=
  journal.reverse.filterMap (·.event.measurement?)

namespace Cache

/-- The log lines of a cache, in order. -/
def log (c : Cache) : List LogLine := logLines c.calls c.journal

/-- The metrics of a cache. -/
def metrics (c : Cache) : Registry := .ofMeasurements (measurements c.journal)

/-- A cache as one line of text for diagnostics, which show its settings only. -/
def describe (c : Cache) : String := s!"CredentialCache \x7b {c.settings.fields}, .. \x7d"

end Cache

end StoreClient.Credentials
