import StoreClient.Config.Basic
import StoreClient.Observability.Filter

/-!
# Setting up the log

A process has at most one logger, which stays once it is installed. Its filter comes from the
environment where that has one that can be read, and from the configuration otherwise.
-/

namespace StoreClient.Observability

/-- What is printed, and how. -/
structure Logger where
  /-- What is printed. -/
  filter : Filter
  /-- The layout of lines. -/
  format : LogFormat
deriving DecidableEq, Repr

namespace Logger

/-- The filter of a configured level. -/
def configuredFilter (level : String) : Filter := .ofReadable s!"{libraryTarget}={level}"

/-- The logger for a configuration and what the environment says of the filter. -/
def ofConfig (environment : Option String) (s : ObservabilitySection) : Logger where
  filter := (environment.bind Filter.ofText?).getD (configuredFilter s.logLevel)
  format := s.logFormat

/-- Installs a logger in a process that may have one: whether that succeeds, and the logger that the
process has then. -/
def install (current : Option Logger) (l : Logger) : Bool × Logger :=
  match current with
  | none => (true, l)
  | some current => (false, current)

end Logger

end StoreClient.Observability
