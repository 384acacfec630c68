/-
**Written instants.** The text of an instant in UTC.

* `Instant.localText` — date and time of day with the fewest of 0, 3, 6 or 9 decimals that are exact.
* `Instant.text` — the local text with the zone `Z`, as records hold it.
* `Instant.offsetText` — the local text with the zone `+00:00`, as messages show it.
-/
import TaskLedger.Time.Instant
import TaskLedger.Decimal.Digits

namespace TaskLedger.Time

open Decimal (padded)

/-- A year: four digits, and outside 0 to 9999 a sign and as many as it takes. -/
def yearText (year : Int) : List Char :=
  if 0 ≤ year ∧ year ≤ 9999 then padded 4 year.toNat
  else (if year < 0 then '-' else '+') :: padded 4 year.natAbs

/-- A date. -/
def Date.text (date : Date) : List Char :=
  yearText date.year ++ '-' :: padded 2 date.month ++ '-' :: padded 2 date.day

/-- The decimals of a second, given in nanoseconds below a billion. -/
def decimalsText (nano : Nat) : List Char :=
  if nano = 0 then []
  else if nano % 1000000 = 0 then '.' :: padded 3 (nano / 1000000)
  else if nano % 1000 = 0 then '.' :: padded 6 (nano / 1000)
  else '.' :: padded 9 nano

namespace Instant

/-- The date. -/
def date (t : Instant) : Date :=
  .ofDayNumber (t.second / secondsPerDay)

/-- The time of day; a leap second is written one second on, at the end of a minute as second `60`. -/
def timeText (t : Instant) : List Char :=
  let s := t.secondOfDay
  padded 2 (s / 3600) ++ ':' :: padded 2 (s / 60 % 60) ++
    ':' :: padded 2 (s % 60 + t.nano / nanosPerSecond) ++ decimalsText (t.nano % nanosPerSecond)

/-- Date and time without a zone. -/
def localText (t : Instant) : List Char :=
  t.date.text ++ 'T' :: t.timeText

/-- The text that records hold. -/
def text (t : Instant) : List Char :=
  t.localText ++ ['Z']

/-- The text that messages show. -/
def offsetText (t : Instant) : List Char :=
  t.localText ++ ['+', '0', '0', ':', '0', '0']

end Instant

end TaskLedger.Time
