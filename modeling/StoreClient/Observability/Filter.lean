import StoreClient.Observability.Directive

/-!
# Filters of log lines

A filter is a list of directives. A directive sets the least grave level that is let through, for
log lines of its target and the targets below it, or of all targets. Of the directives that apply to
a line the one with the longest target decides, and of those the last; where none applies, nothing
is let through. A directive for a span lets through what is written inside the span in any case,
unless a later one is about the same lines.
-/

namespace StoreClient.Observability

/-- Rules for log lines. -/
abbrev Filter := List Directive

namespace Filter

/-- Lets errors through and nothing else. -/
def errors : Filter := [{ level := some .error }]

/-- The texts of the directives of a filter. -/
def parts (s : String) : List String := (s.splitOn ",").filter (· ≠ "")

/-- Reads a filter, if every directive can be read. -/
def ofText? (s : String) : Option Filter := (parts s).mapM Directive.ofText?

/-- Reads those directives of a filter that can be read. If there are none, errors are let
through. -/
def ofReadable (s : String) : Filter :=
  match (parts s).filterMap Directive.ofText? with
  | [] => errors
  | directives => directives

/-- The directive that decides among some: the last of those that no other one outranks. -/
def decisive? (f : Filter) : Option Directive :=
  f.foldl (fun best d => if best.any (Directive.outranks · d) then best else some d) none

/-- Whether lines of a target and a level can be let through, whatever fields they have. -/
def enables (f : Filter) (target : String) (level : Level) : Bool :=
  (decisive? (f.filter (·.appliesTo target))).any (·.allows level)

/-- Whether some directive lets lines of a level through, whatever it is for. One that asks for a
value does, since the value is not known before the line. -/
def reaches (f : Filter) (level : Level) : Bool := f.any fun d => d.asksForValue || d.allows level

/-- The directives that no later one about the same lines replaces. -/
def latest : Filter → Filter
  | [] => []
  | d :: ds => if ds.any d.isAboutSame then latest ds else d :: latest ds

/-- Whether lines of a level are let through because they are written inside a span. A span that is
less grave than all that the filter lets through is not noticed. -/
def enablesWithin (f : Filter) (span : Span) (level : Level) : Bool :=
  f.reaches span.level && f.latest.any fun d => d.appliesWithin span && d.allows level

/-- Whether a line of a target is let through. Its message counts as a field. -/
def admits (f : Filter) (target : String) (line : LogLine) : Bool :=
  let fields := "message" :: line.fields.map (·.1)
  enables (f.filter (·.isMetBy fields)) target line.level ||
    line.span.any (enablesWithin f · line.level)

end Filter

end StoreClient.Observability
