import StoreClient.Binary64.Layout

/-!
# Log lines

A log line has a level, a message and fields. The lines of one call are written inside a span, which
has a name, a target and fields of its own.
-/

namespace StoreClient.Observability

/-- How much a log line matters, the gravest first. -/
inductive Level where
  /-- A failure. -/
  | error
  /-- Something to look at. -/
  | warn
  /-- A normal step of note. -/
  | info
  /-- A detail. -/
  | debug
  /-- The finest detail. -/
  | trace
deriving DecidableEq, Repr

namespace Level

/-- All levels, the gravest first. -/
def all : List Level := [.error, .warn, .info, .debug, .trace]

/-- The name of a level in settings, in small letters. -/
def name : Level → String
  | .error => "error"
  | .warn => "warn"
  | .info => "info"
  | .debug => "debug"
  | .trace => "trace"

/-- The name of a level in log lines, in capitals. -/
def label (l : Level) : String := l.name.map Char.toUpper

/-- The place of a level, the gravest first. -/
def rank : Level → Nat
  | .error => 1
  | .warn => 2
  | .info => 3
  | .debug => 4
  | .trace => 5

/-- The level of that name, in any letter case. -/
def ofName? (s : String) : Option Level := all.find? fun l => l.name == s.map Char.toLower

end Level

/-- The target of all log lines of this library; those of a part of it extend it. -/
def libraryTarget : String := "dsql_resilience"

/-- What a call is known by while it writes log lines. -/
structure Span where
  /-- The name. -/
  name : String
  /-- The target. -/
  target : String
  /-- How much it matters. -/
  level : Level := .info
  /-- The names of its fields, each with its value if that is a text. -/
  fields : List (String × Option String) := []
deriving DecidableEq, Repr

/-- A log line: a level, a message and named fields, all as text. -/
structure LogLine where
  /-- How much it matters. -/
  level : Level
  /-- What happened. -/
  message : String
  /-- The circumstances, by name. -/
  fields : List (String × String) := []
  /-- The span in which it is written, if any. -/
  span : Option Span := none
deriving DecidableEq, Repr

end StoreClient.Observability
