/-
**Leap seconds out of place.** Clocks have a second `60` only at the end of a minute. An instant inside a leap
second anywhere else is written like the instant a second on that is outside any leap second.

* `Instant.LeapsInPlace` — the instant is outside any leap second, or inside one at the end of a minute.
* `Instant.asRead` — the instant that the text of an instant shows.
* `asRead_eq_self_iff`, `leapsInPlace_asRead` — an instant in place is that instant itself, and what a text
  shows is in place.
* `clock_asRead`, `localText_asRead` — both have the same text.
* `midMinute` — an instant out of place, whose text is out of order too.
-/
import TaskLedger.Time.Reading
import TaskLedger.Time.Written

namespace TaskLedger.Time.Instant

/-- A leap second that the instant lies in follows the last second of a minute. -/
def LeapsInPlace (t : Instant) : Prop :=
  nanosPerSecond ≤ t.nano → t.second % 60 = 59

instance (t : Instant) : Decidable t.LeapsInPlace := by unfold LeapsInPlace; infer_instance

/-- The range ends with a minute, so that an instant out of place has a second after it. -/
theorem succ_le_lastSecond {t : Instant} (elsewhere : t.second % 60 ≠ 59) : t.second + 1 ≤ lastSecond := by
  have last := t.le_last
  simp only [lastSecond] at last ⊢
  omega

/-- The instant that the text of an instant shows: if it lies in a leap second in the middle of a minute, the
one so far into the next second, and else the instant itself. -/
def asRead (t : Instant) : Instant :=
  if misplaced : nanosPerSecond ≤ t.nano ∧ t.second % 60 ≠ 59 then
    ⟨t.second + 1, t.nano - nanosPerSecond, Int.le_add_one t.first_le, succ_le_lastSecond misplaced.2,
      Nat.lt_of_le_of_lt (Nat.sub_le ..) t.nano_lt⟩
  else t

theorem asRead_of_leapsInPlace {t : Instant} (inPlace : t.LeapsInPlace) : t.asRead = t :=
  dif_neg fun misplaced => misplaced.2 (inPlace misplaced.1)

theorem asRead_of_misplaced {t : Instant} (leap : nanosPerSecond ≤ t.nano) (elsewhere : t.second % 60 ≠ 59) :
    t.asRead.second = t.second + 1 ∧ t.asRead.nano = t.nano - nanosPerSecond := by
  rw [asRead, dif_pos ⟨leap, elsewhere⟩]
  exact ⟨rfl, rfl⟩

/-- **The text of an instant shows it** exactly if it is in place. -/
theorem asRead_eq_self_iff {t : Instant} : t.asRead = t ↔ t.LeapsInPlace := by
  refine ⟨fun same leap => ?_, asRead_of_leapsInPlace⟩
  by_cases last : t.second % 60 = 59
  · exact last
  · have moved := (asRead_of_misplaced leap last).1
    rw [same] at moved
    omega

/-- What the text of an instant shows is in place. -/
theorem leapsInPlace_asRead (t : Instant) : t.asRead.LeapsInPlace := by
  by_cases inPlace : t.LeapsInPlace
  · rwa [asRead_of_leapsInPlace inPlace]
  · obtain ⟨leap, elsewhere⟩ := Classical.not_imp.1 inPlace
    have bound := t.nano_lt
    intro still
    rw [(asRead_of_misplaced leap elsewhere).2] at still
    omega

/-- The fields that the text of an instant shows. -/
def clock (t : Instant) : Clock where
  date := t.date
  hour := t.secondOfDay / 3600
  minute := t.secondOfDay / 60 % 60
  second := t.secondOfDay % 60 + t.nano / nanosPerSecond
  nano := t.nano % nanosPerSecond

/-- **An instant has the fields** of the one that its text shows. -/
theorem clock_asRead (t : Instant) : t.asRead.clock = t.clock := by
  by_cases inPlace : t.LeapsInPlace
  · rw [asRead_of_leapsInPlace inPlace]
  · obtain ⟨leap, elsewhere⟩ := Classical.not_imp.1 inPlace
    obtain ⟨second, nano⟩ := asRead_of_misplaced leap elsewhere
    have bound := t.nano_lt
    -- The next second is in the same minute, and so on the same day.
    have day : (t.second + 1) / secondsPerDay = t.second / secondsPerDay := by
      simp only [secondsPerDay]
      omega
    have ofDay : t.asRead.secondOfDay = t.secondOfDay + 1 := by
      simp only [secondOfDay, second, secondsPerDay]
      omega
    have minute : t.secondOfDay % 60 ≠ 59 := by
      simp only [secondOfDay, secondsPerDay]
      omega
    simp only [clock, date, ofDay, second, nano, day, Clock.mk.injEq, true_and]
    simp only [nanosPerSecond] at leap bound ⊢
    omega

/-- So both have the same text. -/
theorem localText_asRead (t : Instant) : t.asRead.localText = t.localText := by
  have shown (u : Instant) : u.localText = u.clock.date.text ++ 'T' ::
      (Decimal.padded 2 u.clock.hour ++ ':' :: Decimal.padded 2 u.clock.minute ++
        ':' :: Decimal.padded 2 u.clock.second ++ decimalsText u.clock.nano) := rfl
  rw [shown, shown, clock_asRead]

/-- A third of a second into a leap second behind 2026-01-01T00:00:04Z. -/
def midMinute : Instant :=
  ⟨1767225604, 1333333333, by decide, by decide, by decide⟩

/-- The order of times is not that of their texts: it comes before the start of the next second, and its text
after that. -/
example : (of? 1767225605 0).any (midMinute < ·) = true ∧
    (of? 1767225605 0).any (· < midMinute.asRead) = true := by decide

end TaskLedger.Time.Instant
