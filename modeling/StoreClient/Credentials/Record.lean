import StoreClient.Crash
import StoreClient.Credentials.Settings
import StoreClient.Instant

/-!
# Keys and token records

A record holds an issued token and the instants between which it is valid. A record is expired from
its last instant on, and stale already some part of its lifetime before that.
-/

namespace StoreClient.Credentials

/-- What a token is issued for. Tokens of different requested lifetimes are kept apart. -/
structure Key where
  /-- The host to log in to. -/
  host : String
  /-- The region of the host. -/
  region : String
  /-- The user to log in as. -/
  user : String
  /-- The requested lifetime; zero asks for the default one. -/
  duration : Duration
deriving DecidableEq, Repr

/-- Whether a token for the administrator is asked for. -/
def Key.isAdmin (k : Key) : Bool := k.user == "admin"

/-- An issued token. -/
structure Record where
  /-- The token. -/
  token : String
  /-- The instant at which its lifetime begins. -/
  issuedAt : Instant
  /-- The first instant at which it is no longer valid. -/
  expiresAt : Instant
deriving DecidableEq

namespace Record

/-- The shortest lifetime of a record. -/
def leastLifetime : Duration := .ofMilliseconds 1

/-- The record of a token issued at an instant for a lifetime, unless the clock does not reach its
end. -/
def issue (token : String) (issuedAt : Instant) (lifetime : Duration) : Except Crash Record :=
  match issuedAt.add? (max lifetime leastLifetime) with
  | some expiresAt => .ok { token, issuedAt, expiresAt }
  | none => .error .instantAboveRange

/-- The whole time between issue and expiry. -/
def lifetime (r : Record) : Duration := r.expiresAt.since r.issuedAt

/-- Whether a record is no longer valid. -/
def isExpired (r : Record) (now : Instant) : Bool := r.expiresAt ≤ now

/-- The part of a lifetime that a refresh buffer stands for: a number is brought between zero and
one, and not-a-number gives the default. -/
def fraction (buffer : Binary64) : Binary64 :=
  if buffer.isNaN then defaultRefreshBuffer else Binary64.clamp (.zero false) (.ofNat 1) buffer

/-- How long before its expiry a record becomes stale. -/
def refreshWindow (r : Record) (buffer : Binary64) : Except Crash Duration :=
  match r.lifetime.scale? (fraction buffer) with
  | some window => .ok window
  | none => .error .secondsOutOfRange

/-- The instant at which a record becomes stale. -/
def refreshAt (r : Record) (buffer : Binary64) : Except Crash Instant := do
  match r.expiresAt.sub? (← r.refreshWindow buffer) with
  | some t => return t
  | none => throw .instantBelowRange

/-- Whether a record is expired or expires soon. -/
def isStale (r : Record) (now : Instant) (buffer : Binary64) : Except Crash Bool := do
  return (← r.refreshAt buffer) ≤ now

/-- What diagnostics show of the token: nothing. -/
def describeToken (_ : Record) : String := "CachedToken \x7b token: \"<redacted>\""

/-- A record as one line of text for diagnostics. How an instant is written is up to the clock. -/
def describe (text : Instant → String) (r : Record) : String :=
  s!"{r.describeToken}, issued_at: {text r.issuedAt}, expires_at: {text r.expiresAt} \x7d"

end Record

end StoreClient.Credentials
