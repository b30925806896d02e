import StoreClient.Text.Digit
import StoreClient.Text.Reader
import StoreClient.Toml.Value

/-!
# Dates and times in TOML documents

The forms are `YYYY-MM-DD`, `hh:mm:ss`, and the first followed by the second, with `T` or a space
between them. A fraction may end the seconds, and an offset a date with a time.
-/

namespace StoreClient.Toml

open Text

/-- Reads a number of exactly `count` digits between two bounds. -/
def field? (count least greatest : Nat) (cs : List Char) : Option (Nat × List Char) :=
  let ds := cs.take count
  let n := number 10 ds
  if ds.length = count && ds.all (isDigit 10) && least ≤ n && n ≤ greatest then
    some (n, cs.drop count)
  else none

/-- Whether a year has a 29th of February. -/
def isLeapYear (year : Nat) : Bool := year % 4 = 0 && (year % 100 ≠ 0 || year % 400 = 0)

/-- The number of days of a month. -/
def daysIn (year month : Nat) : Nat :=
  if month = 2 then (if isLeapYear year then 29 else 28)
  else if month = 4 ∨ month = 6 ∨ month = 9 ∨ month = 11 then 30
  else 31

/-- Reads a day that the calendar has. -/
def date? (cs : List Char) : Option (Date × List Char) := do
  let (year, cs) ← field? 4 0 9999 cs
  let (month, cs) ← field? 2 1 12 (← char? '-' cs)
  let (day, cs) ← field? 2 1 (daysIn year month) (← char? '-' cs)
  return (⟨year, month, day⟩, cs)

/-- Reads a point and the digits after it as nanoseconds; further digits do not count. -/
def nanoseconds? (cs : List Char) : Option (Nat × List Char) := do
  let (ds, cs) ← run? (isDigit 10) (← char? '.' cs)
  return (number 10 ((ds ++ List.replicate 9 '0').take 9), cs)

/-- Reads a time of the day. -/
def time? (cs : List Char) : Option (Time × List Char) := do
  let (hour, cs) ← field? 2 0 23 cs
  let (minute, cs) ← field? 2 0 59 (← char? ':' cs)
  let (second, cs) ← field? 2 0 60 (← char? ':' cs)
  let (nanosecond, cs) := optional nanoseconds? cs
  return (⟨hour, minute, second, nanosecond.getD 0⟩, cs)

/-- Reads an offset, in minutes. -/
def offset? : Reader Int
  | [] => none
  | c :: cs => do
    if c = 'Z' ∨ c = 'z' then return (0, cs)
    if c ≠ '+' ∧ c ≠ '-' then failure
    let (hour, cs) ← field? 2 0 23 cs
    let (minute, cs) ← field? 2 0 59 (← char? ':' cs)
    let minutes : Int := hour * 60 + minute
    return (if c = '-' then -minutes else minutes, cs)

/-- Reads a time after a date, and its offset. -/
def timeOfDate? (cs : List Char) : Option ((Time × Option Int) × List Char) := do
  let (_, cs) ← charOf? (fun c => c = 'T' || c = 't' || c = ' ') cs
  let (time, cs) ← time? cs
  let (offset, cs) := optional offset? cs
  return ((time, offset), cs)

/-- Reads a date, a time, or both. -/
def datetime? (cs : List Char) : Option (Datetime × List Char) :=
  match date? cs with
  | some (date, cs) =>
    match optional timeOfDate? cs with
    | (some (time, offset), cs) => some (⟨date, time, offset⟩, cs)
    | (none, cs) => some (⟨date, none, none⟩, cs)
  | none => (time? cs).map fun (time, cs) => (⟨none, time, none⟩, cs)

end StoreClient.Toml
