/-
**The calendar.** Days of the Gregorian calendar, continued backwards without end.

* `Date` — year, month and day; `Date.Exists` says that the calendar has that day.
* `Date.dayNumber` — days since 1970-01-01, from the days before the year and before the month.
* `Date.ofDayNumber` — the date of a day, by cycles of 400, 100, 4 and 1 years.
-/
namespace TaskLedger.Time

/-- A year, month and day. -/
structure Date where
  year : Int
  month : Nat
  day : Nat
deriving DecidableEq, Repr

/-- Every fourth year has a leap day, but of the hundredth years only every fourth. -/
def isLeapYear (year : Int) : Bool :=
  year % 4 == 0 && (year % 100 != 0 || year % 400 == 0)

/-- The lengths of the twelve months. -/
def monthLengths (leap : Bool) : List Nat :=
  [31, if leap then 29 else 28, 31, 30, 31, 30, 31, 31, 30, 31, 30, 31]

/-- The days of the first months of a year. -/
def daysOfMonths (leap : Bool) (months : Nat) : Nat :=
  ((monthLengths leap).take months).foldr (· + ·) 0

/-- The days from 0001-01-01 to the first day of a year. -/
def daysBeforeYear (year : Int) : Int :=
  365 * (year - 1) + (year - 1) / 4 - (year - 1) / 100 + (year - 1) / 400

/-- The day number of 0001-01-01, counted backwards from 1970-01-01. -/
def daysToEpoch : Int := 719162

namespace Date

/-- The calendar has this day. -/
def Exists (date : Date) : Prop :=
  1 ≤ date.month ∧ date.month ≤ 12 ∧ 1 ≤ date.day ∧
    date.day ≤ (monthLengths (isLeapYear date.year)).getD (date.month - 1) 0

instance (date : Date) : Decidable date.Exists := by unfold Exists; infer_instance

/-- Days since 1970-01-01. -/
def dayNumber (date : Date) : Int :=
  daysBeforeYear date.year + daysOfMonths (isLeapYear date.year) (date.month - 1) + date.day - 1
    - daysToEpoch

/-- The month and the day of the month, for a day counted from the first of the months given. -/
def monthAndDay : List Nat → (month : Nat) → (day : Nat) → Nat × Nat
  | [], month, day => (month, day + 1)
  | length :: rest, month, day =>
    if day < length then (month, day + 1) else monthAndDay rest (month + 1) (day - length)

/-- The date of a day number. -/
def ofDayNumber (number : Int) : Date :=
  let day := number + daysToEpoch
  let in400 := (day % 146097).toNat
  let hundreds := min (in400 / 36524) 3
  let in100 := in400 - 36524 * hundreds
  let in4 := in100 % 1461
  let ones := min (in4 / 365) 3
  let year : Int := 400 * (day / 146097) + 100 * hundreds + 4 * (in100 / 1461 : Nat) + ones + 1
  let monthDay := monthAndDay (monthLengths (isLeapYear year)) 1 (in4 - 365 * ones)
  ⟨year, monthDay.1, monthDay.2⟩

end Date

end TaskLedger.Time
