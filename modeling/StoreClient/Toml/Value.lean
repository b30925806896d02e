import StoreClient.Binary64.Basic

/-!
# Values of TOML documents

A document is a table. Tables keep their entries in the order in which they were first written.
-/

namespace StoreClient.Toml

/-- A day of the calendar. -/
structure Date where
  /-- The year. -/
  year : Nat
  /-- The month, from one. -/
  month : Nat
  /-- The day of the month, from one. -/
  day : Nat
deriving DecidableEq, Repr

/-- A time of the day. -/
structure Time where
  /-- The hour. -/
  hour : Nat
  /-- The minute. -/
  minute : Nat
  /-- The second; 60 is a leap second. -/
  second : Nat
  /-- The nanosecond. -/
  nanosecond : Nat
deriving DecidableEq, Repr

/-- A date, a time, or both, then perhaps with an offset. -/
structure Datetime where
  /-- The date. -/
  date : Option Date := none
  /-- The time. -/
  time : Option Time := none
  /-- The minutes by which the time is ahead of universal time. -/
  offset : Option Int := none
deriving DecidableEq, Repr

/-- A value. -/
inductive Value where
  /-- A text. -/
  | string (text : String)
  /-- An integer of 64 bits. -/
  | integer (n : Int)
  /-- A floating-point number. -/
  | float (x : Binary64)
  /-- A truth value. -/
  | boolean (b : Bool)
  /-- A date or time. -/
  | datetime (d : Datetime)
  /-- A sequence of values between brackets. -/
  | array (items : List Value)
  /-- A sequence of tables, each under a header of its own. -/
  | tables (elements : List (List (String × Value)))
  /-- Values under distinct keys. -/
  | table (entries : List (String × Value))

/-- The entries of a table. -/
abbrev Table := List (String × Value)

/-- The word for the kind of a value. -/
def Value.kind : Value → String
  | .string _ => "string"
  | .integer _ => "integer"
  | .float _ => "float"
  | .boolean _ => "boolean"
  | .datetime _ => "datetime"
  | .array _ => "array"
  | .tables _ => "array of tables"
  | .table _ => "table"

end StoreClient.Toml
