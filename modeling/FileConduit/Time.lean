/-!
# Points in time

A point in time is a count of milliseconds since the start of 1970.  It is written as a date
of the Gregorian calendar and a time of day, both in UTC; the milliseconds are written only
when they are not zero.
-/

namespace FileConduit

/-- Milliseconds since the start of 1970, UTC. -/
structure Timestamp where
  milliseconds : Int
  deriving DecidableEq, Repr, Inhabited

namespace Timestamp

/-- The millisecond that a count of nanoseconds falls in, counted toward zero. -/
def ofNanoseconds (nanoseconds : Int) : Timestamp :=
  ⟨nanoseconds.tdiv 1000000⟩

structure Date where
  year : Int
  month : Int
  day : Int
  deriving DecidableEq, Repr

/-- The date that lies a number of days after the first of January 1970.  Days are counted
from the first of March of year 0, so that the leap day ends a year, and the calendar repeats
after 400 years. -/
def Date.ofDays (days : Int) : Date :=
  let shifted := days + 719468
  let era := shifted.fdiv 146097
  let dayOfEra := shifted - era * 146097
  let yearOfEra :=
    (dayOfEra - dayOfEra / 1460 + dayOfEra / 36524 - dayOfEra / 146096) / 365
  let dayOfYear := dayOfEra - (365 * yearOfEra + yearOfEra / 4 - yearOfEra / 100)
  let marchMonth := (5 * dayOfYear + 2) / 153
  let day := dayOfYear - (153 * marchMonth + 2) / 5 + 1
  let month := if marchMonth < 10 then marchMonth + 3 else marchMonth - 9
  let year := yearOfEra + era * 400 + (if month ≤ 2 then 1 else 0)
  ⟨year, month, day⟩

def padded (width : Nat) (number : Int) : String :=
  let digits := Nat.toDigits 10 number.toNat
  String.ofList (List.replicate (width - digits.length) '0' ++ digits)

def render (time : Timestamp) : String :=
  let seconds := time.milliseconds.fdiv 1000
  let fraction := time.milliseconds - seconds * 1000
  let days := seconds.fdiv 86400
  let second := seconds - days * 86400
  let date := Date.ofDays days
  let clock := padded 2 (second / 3600) ++ ":" ++ padded 2 (second / 60 % 60) ++ ":" ++
    padded 2 (second % 60)
  padded 4 date.year ++ "-" ++ padded 2 date.month ++ "-" ++ padded 2 date.day ++ "T" ++ clock ++
    (if fraction = 0 then "" else "." ++ padded 3 fraction) ++ "Z"

end Timestamp

end FileConduit
