/-
**Every day has one date.** The date of a day number exists, and its day number is that number.

* `monthAndDay_spec` — a day counted from the first month falls into one of the months.
* `Cycles` — a year within its cycles of 400, 100 and 4 years, with the days before it.
* `ofDayNumber_spec` — the date of a day is in the year of its cycles, and within the year's length.
* `ofDayNumber_exists`, `dayNumber_ofDayNumber` — the calendar has the date of every day number, and
  counts it as that number.
* `year_ofDayNumber` — days within the range of instants are in the years of that range.
-/
import TaskLedger.Time.Instant

namespace TaskLedger.Time

namespace Date

/-! ### Months -/

/-- **A day counted from the first of some months** falls into one of them, as the day that the months
before it leave. -/
theorem monthAndDay_spec (lengths : List Nat) (month day : Nat)
    (inside : day < lengths.foldr (· + ·) 0) :
    ∃ index, (monthAndDay lengths month day).1 = month + index ∧ index < lengths.length ∧
      1 ≤ (monthAndDay lengths month day).2 ∧
      (monthAndDay lengths month day).2 ≤ lengths.getD index 0 ∧
      (lengths.take index).foldr (· + ·) 0 + (monthAndDay lengths month day).2 = day + 1 := by
  induction lengths generalizing month day with
  | nil => exact absurd inside (Nat.not_lt_zero day)
  | cons length rest ih =>
    rw [List.foldr_cons] at inside
    rw [monthAndDay]
    by_cases first : day < length
    · rw [if_pos first]
      exact ⟨0, rfl, Nat.zero_lt_succ _, Nat.succ_pos _, first, by simp⟩
    · rw [if_neg first]
      obtain ⟨index, isMonth, within, positive, short, counted⟩ :=
        ih (month + 1) (day - length) (by omega)
      refine ⟨index + 1, by omega, Nat.succ_lt_succ within, positive, ?_, ?_⟩
      · rwa [List.getD_cons_succ]
      · rw [List.take_succ_cons, List.foldr_cons]
        omega

theorem sum_monthLengths (leap : Bool) :
    (monthLengths leap).foldr (· + ·) 0 = if leap then 366 else 365 := by
  cases leap <;> rfl

theorem Exists.day_le {date : Date} (dated : date.Exists) : date.day ≤ 31 := by
  have longest : ∀ leap, ∀ index < 12, (monthLengths leap).getD index 0 ≤ 31 := by decide
  obtain ⟨first, last, -, short⟩ := dated
  exact Nat.le_trans short (longest _ _ (by omega))

/-! ### Years -/

/-- The parts of a year: whole cycles of 400, 100 and 4 years before it, and single years. -/
structure Cycles (year : Int) (fourHundreds : Int) (hundreds fours ones : Nat) : Prop where
  year_eq : year = 400 * fourHundreds + 100 * hundreds + 4 * fours + ones + 1
  hundreds_lt : hundreds < 4
  fours_lt : fours < 25
  ones_lt : ones < 4

section Years

variable {year fourHundreds : Int} {hundreds fours ones : Nat}

/-- **The days before a year** are those of its cycles. -/
theorem Cycles.daysBeforeYear (cycles : Cycles year fourHundreds hundreds fours ones) :
    daysBeforeYear year = 146097 * fourHundreds + 36524 * hundreds + 1461 * fours + 365 * ones := by
  obtain ⟨isYear, hundredsLt, foursLt, onesLt⟩ := cycles
  have byFour : (year - 1) / 4 = 100 * fourHundreds + 25 * hundreds + fours := by omega
  have byHundred : (year - 1) / 100 = 4 * fourHundreds + hundreds := by omega
  have byFourHundred : (year - 1) / 400 = fourHundreds := by omega
  rw [Time.daysBeforeYear, byFour, byHundred, byFourHundred]
  omega

/-- The last year of a cycle of four is a leap year, unless it ends one of the first three hundreds. -/
theorem Cycles.isLeapYear (cycles : Cycles year fourHundreds hundreds fours ones) (last : ones = 3)
    (kept : fours = 24 → hundreds = 3) : isLeapYear year = true := by
  obtain ⟨isYear, hundredsLt, foursLt, onesLt⟩ := cycles
  have divides : year % 4 = 0 := by omega
  have century : year % 100 ≠ 0 ∨ year % 400 = 0 := by
    by_cases full : fours = 24
    · right
      have := kept full
      omega
    · left
      omega
  simpa [Time.isLeapYear, divides] using century

end Years

/-- **The date of a day**: its year is that of the cycles before the day, and its month and day are
those of the days left. -/
theorem ofDayNumber_spec (number : Int) :
    ∃ rest : Nat, rest < (if isLeapYear (ofDayNumber number).year then 366 else 365) ∧
      daysBeforeYear (ofDayNumber number).year + rest = number + daysToEpoch ∧
      monthAndDay (monthLengths (isLeapYear (ofDayNumber number).year)) 1 rest =
        ((ofDayNumber number).month, (ofDayNumber number).day) := by
  let day := number + daysToEpoch
  let in400 := (day % 146097).toNat
  let hundreds := min (in400 / 36524) 3
  let in100 := in400 - 36524 * hundreds
  let in4 := in100 % 1461
  let ones := min (in4 / 365) 3
  have cycles : Cycles (ofDayNumber number).year (day / 146097) hundreds (in100 / 1461) ones :=
    ⟨rfl, by omega, by omega, by omega⟩
  refine ⟨in4 - 365 * ones, ?_, ?_, rfl⟩
  · by_cases last : in4 - 365 * ones = 365
    · rw [cycles.isLeapYear (by omega) (by omega), if_pos rfl]
      omega
    · split <;> omega
  · rw [cycles.daysBeforeYear]
    omega

/-- **The calendar has the date of every day number.** -/
theorem ofDayNumber_exists (number : Int) : (ofDayNumber number).Exists := by
  obtain ⟨rest, inside, -, parts⟩ := ofDayNumber_spec number
  rw [← sum_monthLengths] at inside
  obtain ⟨index, isMonth, within, positive, short, -⟩ := monthAndDay_spec _ 1 rest inside
  rw [parts] at isMonth positive short
  have months : (monthLengths (isLeapYear (ofDayNumber number).year)).length = 12 := rfl
  have place : (ofDayNumber number).month - 1 = index := by omega
  exact ⟨by omega, by omega, positive, by rwa [place]⟩

/-- **The date of a day number is counted as that number.** -/
theorem dayNumber_ofDayNumber (number : Int) : (ofDayNumber number).dayNumber = number := by
  obtain ⟨rest, inside, years, parts⟩ := ofDayNumber_spec number
  rw [← sum_monthLengths] at inside
  obtain ⟨index, isMonth, -, -, -, counted⟩ := monthAndDay_spec _ 1 rest inside
  rw [parts] at isMonth counted
  have place : (ofDayNumber number).month - 1 = index := by omega
  rw [dayNumber, daysOfMonths, place]
  omega

/-! ### The range of years -/

/-- A later year starts no earlier. -/
theorem daysBeforeYear_mono {year later : Int} (before : year ≤ later) :
    daysBeforeYear year ≤ daysBeforeYear later := by
  unfold daysBeforeYear
  omega

theorem daysBeforeYear_succ (year : Int) :
    daysBeforeYear (year + 1) =
      daysBeforeYear year + (if isLeapYear year then 366 else 365 : Nat) := by
  unfold daysBeforeYear
  by_cases leap : isLeapYear year = true
  · rw [if_pos leap]
    simp only [isLeapYear, Bool.and_eq_true, Bool.or_eq_true, beq_iff_eq, bne_iff_ne] at leap
    omega
  · rw [if_neg leap]
    simp only [isLeapYear, Bool.and_eq_true, Bool.or_eq_true, beq_iff_eq, bne_iff_ne] at leap
    omega

/-- **The dates of instants** are in the years that instants reach. -/
theorem year_ofDayNumber {second : Int} (first : firstSecond ≤ second)
    (last : second ≤ lastSecond) :
    firstYear ≤ (ofDayNumber (second / secondsPerDay)).year ∧
      (ofDayNumber (second / secondsPerDay)).year ≤ lastYear := by
  obtain ⟨rest, inside, years, -⟩ := ofDayNumber_spec (second / secondsPerDay)
  have length := daysBeforeYear_succ (ofDayNumber (second / secondsPerDay)).year
  have started : daysBeforeYear firstYear = -95746130 := by decide
  have ended : daysBeforeYear (lastYear + 1) = 95745399 := by decide
  rw [daysToEpoch] at years
  simp only [firstSecond, lastSecond, secondsPerDay] at first last years length inside ⊢
  refine ⟨Int.not_lt.1 fun early => ?_, Int.not_lt.1 fun late => ?_⟩
  · have next := daysBeforeYear_mono (Int.add_one_le_iff.2 early)
    omega
  · have next := daysBeforeYear_mono (Int.add_one_le_iff.2 late)
    omega

end Date

end TaskLedger.Time
