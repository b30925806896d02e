import StoreClient.Retry.Conflict

/-!
# Errors of retried calls
-/

namespace StoreClient.Retry

/-- Why a retried call gave no value. -/
inductive RetryError (ε : Type) where
  /-- A transaction could not be begun. -/
  | begin (error : ε)
  /-- A transaction could not be committed, for a reason other than a conflict. -/
  | commit (error : ε)
  /-- The work failed for a reason other than a conflict. -/
  | fatal (error : ε)
  /-- Every attempt ended in a conflict. -/
  | exhausted (attempts maxRetries : Nat) (last : ε)
  /-- The caller gave up. -/
  | cancelled
  /-- The policy is unusable. -/
  | invalidPolicy (reason : String)
deriving DecidableEq, Repr

namespace RetryError

variable {ε : Type}

/-- The error that the store or the work reported. -/
def inner : RetryError ε → Option ε
  | .begin e => some e
  | .commit e => some e
  | .fatal e => some e
  | .exhausted _ _ last => some last
  | .cancelled => none
  | .invalidPolicy _ => none

/-- Whether the caller gave up. -/
def isCancelled : RetryError ε → Bool
  | .cancelled => true
  | _ => false

/-- Whether the attempts ran out. -/
def isExhausted : RetryError ε → Bool
  | .exhausted _ _ _ => true
  | _ => false

variable [Reported ε]

/-- The text of an error. A fatal error speaks for itself. -/
def message : RetryError ε → String
  | .begin e => s!"begin transaction: {(failure e).message}"
  | .commit e => s!"commit transaction: {(failure e).message}"
  | .fatal e => (failure e).message
  | .exhausted attempts maxRetries last =>
    s!"max retries ({maxRetries}) exceeded after {attempts} attempts, " ++
      s!"last error: {(failure last).message}"
  | .cancelled => "operation cancelled"
  | .invalidPolicy reason => s!"invalid retry policy: {reason}"

/-- The message of the error behind this one. Behind a fatal error stands what stood behind the
failure itself. -/
def source? : RetryError ε → Option String
  | .begin e => some (failure e).message
  | .commit e => some (failure e).message
  | .fatal e => (failure e).sources.head?
  | .exhausted _ _ last => some (failure last).message
  | .cancelled => none
  | .invalidPolicy _ => none

end RetryError

end StoreClient.Retry
