import StoreClient.Retry.Procedure

/-!
# Retried calls

`transaction` runs the caller's work in a transaction and `statement` runs one statement; both try
again after a conflict, as their policy allows. An attempt that is under way is always brought to
its end: a transaction is rolled back on every path on which it was not committed, also when work or
commit crashes, and a failed rollback changes nothing but the report. A caller who has given up gets
no further attempt and no error but `cancelled`.
-/

namespace StoreClient.Retry

/-- What an attempt means for the call as a whole. -/
inductive Judgement (ε α : Type) where
  /-- The call succeeds. -/
  | success (value : α)
  /-- The attempt may be repeated. -/
  | conflict (error : ε)
  /-- The call ends with this error. -/
  | fatal (error : RetryError ε)
deriving DecidableEq, Repr

variable {τ ρ ε α : Type}

/-- Judges the result of work or commit; an error that is no conflict becomes an error of the call
as its stage says. -/
def judge [Reported ε] (stage : ε → RetryError ε) (result : Except ε α) : Judgement ε α :=
  match classify result with
  | .success value => .success value
  | .conflict e => .conflict e
  | .fatal e => .fatal (stage e)

/-- An attempt: what goes on once it is judged depends on the judgement and on whether the caller
has given up. -/
abbrev Attempt (τ ρ ε α : Type) :=
  (Bool → Judgement ε α → Procedure τ ρ ε α) → Procedure τ ρ ε α

/-- Rolls a transaction back and goes on. An error is reported and dropped; a crash ends the
call. -/
def release [Reported ρ] (tx : τ) (cancelled : Bool) (next : Bool → Procedure τ ρ ε α) :
    Procedure τ ρ ε α :=
  .call (.rollback tx) fun reply =>
    let cancelled := cancelled || reply.cancelled
    match reply.ending with
    | .ok () => next cancelled
    | .error e => .report (.rollbackFailed (failure e).message) (next cancelled)
    | .crash cause => .finish (.crash cause)

/-- One attempt in a transaction of its own. The store's errors are read as errors of the work. -/
def transactionAttempt [Reported ρ] [Reported ε] (convert : ρ → ε) : Attempt τ ρ ε α := fun next =>
  .begin fun begun =>
    match begun.ending with
    | .crash cause => .finish (.crash cause)
    | .error e => next begun.cancelled (.fatal (.begin (convert e)))
    | .ok tx =>
      .work tx fun worked =>
        let cancelled := begun.cancelled || worked.cancelled
        match worked.ending with
        | .crash cause => release tx cancelled fun _ => .finish (.crash cause)
        | .error e =>
          release tx cancelled fun cancelled => next cancelled (judge .fatal (.error e))
        | .ok value =>
          .call (.commit tx) fun committed =>
            let cancelled := cancelled || committed.cancelled
            match committed.ending with
            | .ok () => next cancelled (.success value)
            | .error e =>
              release tx cancelled fun cancelled =>
                next cancelled (judge .commit (.error (convert e)))
            | .crash cause => release tx cancelled fun _ => .finish (.crash cause)

/-- One attempt of a single statement. -/
def statementAttempt [Reported ρ] (statement : String) : Attempt τ ρ ρ Unit := fun next =>
  .call (.exec statement) fun reply =>
    match reply.ending with
    | .ok () => next reply.cancelled (.success ())
    | .error e => next reply.cancelled (judge .fatal (.error e))
    | .crash cause => .finish (.crash cause)

variable [Reported ε]

/-- Ends the call in success, which is worth a report after the first attempt. -/
def succeed (attempts : Nat) (value : α) : Procedure τ ρ ε α :=
  if 1 < attempts then .report (.recovered attempts) (.finish (.ok value))
  else .finish (.ok value)

/-- Ends the call in an error, unless the caller has given up. -/
def fail (cancelled : Bool) (error : RetryError ε) : Procedure τ ρ ε α :=
  if cancelled then .finish (.error .cancelled)
  else .report .failed (.finish (.error error))

/-- Ends the call after its last conflict. -/
def exhaust (policy : Policy) (attempts : Nat) (last : ε) : Procedure τ ρ ε α :=
  .report (.exhausted attempts (failure last).message) <|
    .finish (.error (.exhausted attempts policy.maxRetries.toNat last))

/-- Waits before the next attempt, unless the caller gives up. -/
def backOff (policy : Policy) (attempts : Nat) (backoff : Backoff) (error : ε)
    (next : Procedure τ ρ ε α) : Procedure τ ρ ε α :=
  .draw (Pause.range backoff.current).nanoseconds fun n =>
    let pause := backoff.pause n
    .report (.retrying attempts policy.maxAttempts pause (failure error).message) <|
      .wait pause fun cancelled =>
        if cancelled then .finish (.error .cancelled) else next

/-- Attempts until one is not a conflict, the attempts run out or the caller gives up. `room` is how
many more attempts the counter can hold. An attempt beyond that overflows it, which is a crash where
arithmetic is checked; where it is not, the counter begins again at zero, and what follows is not
described here. -/
def attempts (policy : Policy) (attempt : Attempt τ ρ ε α) :
    (room : Nat) → Backoff → Procedure τ ρ ε α
  | 0, _ => .finish (.crash .counterFull)
  | room + 1, backoff =>
    let made := Policy.counterLimit - room
    .report .attempted <|
      attempt fun cancelled judgement =>
        match judgement with
        | .success value => succeed made value
        | .fatal error => fail cancelled error
        | .conflict error =>
          .report .conflicted <|
            if cancelled then .finish (.error .cancelled)
            else if policy.maxRetries.toNat < made then exhaust policy made error
            else backOff policy made backoff error (attempts policy attempt room backoff.advance)

/-- Retries attempts under a policy. An unusable policy is refused before anything else, and a
caller who has given up beforehand gets no attempt. -/
def retry (policy : Policy) (cancelled : Bool) (attempt : Attempt τ ρ ε α) : Procedure τ ρ ε α :=
  match policy.fault? with
  | some fault => .finish (.error (.invalidPolicy fault.message))
  | none =>
    if cancelled then .finish (.error .cancelled)
    else attempts policy attempt Policy.counterLimit (.ofPolicy policy)

/-- Runs the caller's work in transactions until one commits. -/
def transaction [Reported ρ] (policy : Policy) (convert : ρ → ε) (cancelled : Bool) :
    Procedure τ ρ ε α :=
  retry policy cancelled (transactionAttempt convert)

/-- Runs one statement until it succeeds. -/
def statement [Reported ρ] (policy : Policy) (cancelled : Bool) (text : String) :
    Procedure τ ρ ρ Unit :=
  retry policy cancelled (statementAttempt text)

/-- Runs one statement until it succeeds, under the default policy with another number of
retries. -/
def statementWithRetries [Reported ρ] (maxRetries : UInt32) (cancelled : Bool) (text : String) :
    Procedure τ ρ ρ Unit :=
  statement (.withMaxRetries maxRetries) cancelled text

end StoreClient.Retry
