/-!
# Conflicts

A store that lets transactions run without locks refuses some of them, and such a conflict may
succeed when tried again. An error that carries a code is judged by the code alone; one without a
code is a conflict when its message, or that of any error behind it, names a conflict code.
-/

namespace StoreClient.Retry

/-- An error as a store reports it. -/
structure Failure where
  /-- The structured code, if the error has one. -/
  code : Option String
  /-- The error's own message. -/
  message : String
  /-- The messages of the errors behind it, the nearest first. -/
  sources : List String := []
deriving DecidableEq, Repr, Inhabited

/-- Types of error that describe themselves as failures. -/
class Reported (ε : Type) where
  /-- The description of an error. -/
  failure : ε → Failure

export Reported (failure)

instance : Reported Failure := ⟨id⟩

/-- The code of a conflict with another transaction's changes. -/
def mutationConflict : String := "OC000"

/-- The code of a conflict with a change of the schema. -/
def schemaConflict : String := "OC001"

/-- The standard code of a failed serialization. -/
def serializationFailure : String := "40001"

/-- Whether a structured code is that of a conflict. -/
def isConflictCode (code : String) : Bool :=
  code == mutationConflict || code == schemaConflict || code == serializationFailure

/-- Whether one text occurs in another, at any position. -/
def occursIn (needle : List Char) : List Char → Bool
  | [] => needle.isEmpty
  | c :: cs => needle.isPrefixOf (c :: cs) || occursIn needle cs

/-- Whether a message names one of the two conflict codes of the store. -/
def namesConflict (message : String) : Bool :=
  occursIn mutationConflict.toList message.toList || occursIn schemaConflict.toList message.toList

/-- Whether a failure is a conflict. -/
def Failure.isConflict (f : Failure) : Bool :=
  match f.code with
  | some code => isConflictCode code
  | none => (f.message :: f.sources).any namesConflict

/-- Whether there is a failure and it is a conflict. -/
def isConflict? : Option Failure → Bool
  | some f => f.isConflict
  | none => false

/-- What a result means for a call that may be tried again. -/
inductive Verdict (ε α : Type) where
  /-- The work is done. -/
  | success (value : α)
  /-- Another attempt may succeed. -/
  | conflict (error : ε)
  /-- No attempt will succeed. -/
  | fatal (error : ε)
deriving DecidableEq, Repr

variable {ε α : Type} [Reported ε]

/-- Judges a result; the value or error is passed on unchanged. -/
def classify : Except ε α → Verdict ε α
  | .ok value => .success value
  | .error e => if (failure e).isConflict then .conflict e else .fatal e

end StoreClient.Retry
