/-!
# Crashes

A crash ends an operation without an answer. The causes inside this library are arithmetic limits;
the others come from the code it is given to call.
-/

namespace StoreClient

/-- Why an operation crashed. -/
inductive Crash where
  /-- A duration added to an instant leaves the range of the clock. -/
  | instantAboveRange
  /-- A duration taken from an instant leaves the range of the clock. -/
  | instantBelowRange
  /-- A number of seconds is no duration. -/
  | secondsOutOfRange
  /-- The attempt counter is full. -/
  | counterFull
  /-- Code called by the operation crashed with this message. -/
  | foreign (message : String)
deriving DecidableEq, Repr

/-- The text of a crash. -/
def Crash.message : Crash → String
  | .instantAboveRange => "overflow when adding duration to instant"
  | .instantBelowRange => "overflow when subtracting duration from instant"
  | .secondsOutOfRange =>
    "cannot convert float seconds to Duration: value is either too big or NaN"
  | .counterFull => "attempt to add with overflow"
  | .foreign message => message

/-- How something that was called came to its end. -/
inductive Ending (ε α : Type) where
  /-- It gave a value. -/
  | ok (value : α)
  /-- It gave an error. -/
  | error (error : ε)
  /-- It crashed. -/
  | crash (cause : Crash)
deriving DecidableEq, Repr

/-- The value that was given, if one was. -/
def Ending.value? {ε α : Type} : Ending ε α → Option α
  | .ok value => some value
  | _ => none

@[simp] theorem Ending.value?_eq_some {ε α : Type} {ending : Ending ε α} {value : α} :
    ending.value? = some value ↔ ending = .ok value := by
  cases ending <;> simp [value?]

end StoreClient
