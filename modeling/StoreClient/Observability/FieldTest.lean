import StoreClient.Binary64.Decimal
import StoreClient.Observability.Log
import StoreClient.Text.Pattern.Reading

/-!
# Tests of fields

A directive can ask for a field by its name, and for a value of the field by a pattern. The pattern
may be a truth value or a number instead, and then it asks for that and not for a text.
-/

namespace StoreClient.Observability

open Text

/-- What is asked of a field. -/
structure FieldTest where
  /-- The name of the field. -/
  name : String
  /-- The pattern of its value, if it is asked for its value. -/
  value : Option String := none
deriving DecidableEq, Repr

namespace FieldTest

/-- Whether a pattern is a truth value or a number. -/
def isLiteral (pattern : String) : Bool :=
  pattern = "true" || pattern = "false" || (Binary64.ofText? pattern).isSome

/-- Reads a name, or a name and a pattern with an equals sign between them. A second equals sign
ends the pattern. -/
def ofText? (cs : List Char) : Option FieldTest :=
  let upTo (cs : List Char) : List Char := cs.takeWhile (· ≠ '=')
  let name := upTo cs
  match cs.drop name.length with
  | [] => some { name := String.ofList name }
  | _ :: value =>
    let pattern := String.ofList (upTo value)
    if isLiteral pattern || (Pattern.ofText? pattern).isSome then
      some { name := String.ofList name, value := some pattern }
    else none

/-- Whether a text is a value that is asked for. -/
def isMetBy (t : FieldTest) (value : Option String) : Bool :=
  t.value.all fun pattern =>
    !isLiteral pattern && (Pattern.ofText? pattern).any fun p => value.any p.accepts

/-- Whether a span has a field as it is asked for. -/
def isMetIn (t : FieldTest) (span : Span) : Bool :=
  span.fields.any fun (name, value) => t.name == name && t.isMetBy value

end FieldTest

end StoreClient.Observability
