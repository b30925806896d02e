import StoreClient.Observability.FieldTest
import StoreClient.Text.Bytes

/-!
# Directives

A directive is one rule of a filter of log lines. It is written as a level, as a target, or as a
target and a level with an equals sign between them. After the target may stand brackets with the
name of a span, and braces in them with a field: `target[span{field=value}]=level`. Such a directive
is for the lines that are written inside a span; one that asks for a field by its name alone is for
the lines that have the field as well.

White space around a directive does not count when its marks are looked for, but its parts are cut
from the text as it is: from the positions that the marks have without the white space in front. So
white space never belongs to a level, and a level with white space is a target.
-/

namespace StoreClient.Observability

open Text

namespace Level

/-- The natural number that digits stand for; a plus sign may stand in front. -/
def number? (cs : List Char) : Option Nat :=
  let digits := match cs with
    | '+' :: ds => ds
    | ds => ds
  if digits.isEmpty || !digits.all (isDigit 10) then none else some (number 10 digits)

/-- The level, or that there is none, for which a text stands: a name in any letter case, or a
number from zero, which is none, to that of the finest level. -/
def ofText? (cs : List Char) : Option (Option Level) :=
  match number? cs with
  | some 0 => some none
  | some (n + 1) => all[n]?.map some
  | none =>
    let name := String.ofList cs
    if name.map Char.toLower = "off" then some none else (ofName? name).map some

end Level

/-- A rule of a filter. -/
structure Directive where
  /-- The front of the targets to which it applies; none for all targets. -/
  target : Option String := none
  /-- The name of the spans to which it applies; none for all spans and for single lines. -/
  span : Option String := none
  /-- The field that there must be. -/
  field : Option FieldTest := none
  /-- The least grave level that is let through; none lets nothing through. -/
  level : Option Level := some .trace
deriving DecidableEq, Repr

namespace Directive

/-! ## Reading -/

/-- A character that may come first in a directive, apart from a bracket. -/
def isTargetStart (c : Char) : Bool := isAlphanumeric c || c = '-' || c = ':' || c = '_'

/-- The level after an equals sign; if there is nothing, everything is let through. -/
def level? (cs : List Char) : Option (Option Level) :=
  if cs.isEmpty then some (some .trace) else Level.ofText? cs

/-- The directive of one word: that of a level, or the one that lets everything through for a
target. -/
def ofWord (cs : List Char) : Directive :=
  match Level.ofText? cs with
  | some level => { level }
  | none => { target := some (String.ofList cs) }

/-- Completes a directive with what stands from a position on, where the marks are those given: its
level or nothing. -/
def withLevel? (d : Directive) (text : List Char) (position : Nat) :
    (marks : List Char) → Option Directive
  | [] => some d
  | '=' :: _ => do return { d with level := ← level? (← dropBytes? text (position + 1)) }
  | _ => none

/-- Completes a directive with what stands from a position on, where the marks are those given: the
name of a span, perhaps a field, and then perhaps a level. -/
def withSpan? (d : Directive) (text : List Char) (position : Nat) (marks : List Char) :
    Option Directive := do
  let name := marks.takeWhile fun c => c ≠ ']' && c ≠ '{'
  let stop := position + bytes name
  let span := String.ofList (← cut? text position stop)
  match marks.drop name.length with
  | ']' :: marks => withLevel? { d with span := some span } text (stop + 1) marks
  | '{' :: marks =>
    let field := marks.takeWhile (· ≠ '}')
    let fieldStop := stop + 1 + bytes field
    let test ← FieldTest.ofText? (← cut? text (stop + 1) fieldStop)
    match marks.drop field.length with
    | '}' :: ']' :: marks =>
      if field.isEmpty then none
      else
        let span := if name.isEmpty then none else some span
        withLevel? { d with span, field := some test } text (fieldStop + 2) marks
    | _ => none
  | _ => none

/-- Reads a directive. -/
def ofText? (s : String) : Option Directive :=
  let text := s.toList
  match trim text with
  | [] => none
  | '[' :: marks => withSpan? {} text 1 marks
  | c :: marks =>
    if !isTargetStart c then none
    else
      let head := c :: marks.takeWhile fun c => c ≠ '=' && c ≠ '['
      match (c :: marks).drop head.length with
      | [] => some (ofWord text)
      | mark :: marks => do
        let d := { target := some (String.ofList (← takeBytes? text (bytes head))) }
        if mark = '[' then withSpan? d text (bytes head + 1) marks
        else withLevel? d text (bytes head) (mark :: marks)

/-! ## Meaning -/

/-- Whether a target is among those of a directive. -/
def covers (d : Directive) (target : String) : Bool := d.target.all fun t => t.isPrefixOf target

/-- Whether a directive asks for the value of a field. -/
def asksForValue (d : Directive) : Bool := d.field.any (·.value.isSome)

/-- Whether a directive applies to lines of a target, whatever span they are in. -/
def appliesTo (d : Directive) (target : String) : Bool :=
  d.span.isNone && !d.asksForValue && d.covers target

/-- Whether a directive applies to what is written inside a span. -/
def appliesWithin (d : Directive) (span : Span) : Bool :=
  (d.span.isSome || d.field.isSome) && d.covers span.target && d.span.all (· == span.name) &&
    d.field.all (·.isMetIn span)

/-- Whether two directives are about the same lines. -/
def isAboutSame (d e : Directive) : Bool :=
  d.target == e.target && d.span == e.span && d.field == e.field

/-- Whether the field that a directive asks for is among those of the given names. -/
def isMetBy (d : Directive) (fields : List String) : Bool :=
  d.field.all fun test => fields.contains test.name

/-- How much of a target a directive fixes; one without a target fixes nothing. -/
def specificity (d : Directive) : Nat := d.target.elim 0 fun t => t.utf8ByteSize + 1

/-- The name of the field that a directive asks for; nothing if it asks for none. -/
def fieldName (d : Directive) : String := d.field.elim "" (·.name)

/-- Whether a directive goes before another one that applies to the same lines: it fixes more of the
target, or as much of it and asks for a field, or for one that is later in the order of names. -/
def outranks (d e : Directive) : Bool :=
  e.specificity < d.specificity ||
    (e.specificity == d.specificity && decide (e.fieldName < d.fieldName))

/-- Whether a directive lets lines of a level through. -/
def allows (d : Directive) (level : Level) : Bool := d.level.any fun l => level.rank ≤ l.rank

end Directive

end StoreClient.Observability
