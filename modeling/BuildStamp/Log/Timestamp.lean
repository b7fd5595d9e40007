import BuildStamp.Text.Numeral

set_option autoImplicit false

/-!
Moments, as log lines show them: down to the millisecond, for people with a blank between date and
time, and for programs in one word.
-/

namespace BuildStamp

/-- A moment as a calendar and a clock show it in universal time. -/
structure Timestamp where
  year : Nat
  month : Nat
  day : Nat
  hour : Nat
  minute : Nat
  second : Nat
  millisecond : Nat
  deriving DecidableEq

namespace Timestamp

/-- Year, month and day. -/
def date (moment : Timestamp) : String :=
  Numeral.padded 4 moment.year ++ "-" ++ Numeral.padded 2 moment.month ++ "-" ++
    Numeral.padded 2 moment.day

/-- The time of day down to the millisecond. -/
def time (moment : Timestamp) : String :=
  Numeral.padded 2 moment.hour ++ ":" ++ Numeral.padded 2 moment.minute ++ ":" ++
    Numeral.padded 2 moment.second ++ "." ++ Numeral.padded 3 moment.millisecond

/-- Date and time as people read them. -/
def plain (moment : Timestamp) : String :=
  moment.date ++ " " ++ moment.time

/-- Date and time as programs read them. -/
def compact (moment : Timestamp) : String :=
  moment.date ++ "T" ++ moment.time ++ "Z"

/-- The days from the first of March of the year zero to the start of 1970. -/
def epochDays : Nat :=
  719468

/-- The date of a day counted from the first of March of the year zero. Years begin in March here,
so that a leap day is the last day of its year. -/
def ofDay (day : Nat) : Nat × Nat × Nat :=
  let era := day / 146097
  let dayOfEra := day % 146097
  let yearOfEra := (dayOfEra - dayOfEra / 1460 + dayOfEra / 36524 - dayOfEra / 146096) / 365
  let dayOfYear := dayOfEra - (365 * yearOfEra + yearOfEra / 4 - yearOfEra / 100)
  let fromMarch := (5 * dayOfYear + 2) / 153
  let year := era * 400 + yearOfEra
  let date := dayOfYear - (153 * fromMarch + 2) / 5 + 1
  if fromMarch < 10 then (year, fromMarch + 3, date) else (year + 1, fromMarch - 9, date)

/-- The moment that many milliseconds after the start of 1970. -/
def ofMilliseconds (elapsed : Nat) : Timestamp :=
  let seconds := elapsed / 1000
  let (year, month, day) := ofDay (epochDays + seconds / 86400)
  { year, month, day
    hour := seconds / 3600 % 24
    minute := seconds / 60 % 60
    second := seconds % 60
    millisecond := elapsed % 1000 }

example : (ofMilliseconds 951782400123).plain = "2000-02-29 00:00:00.123" := by rfl

end Timestamp

end BuildStamp
