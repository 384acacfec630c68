/-
**An instant written in any zone is read back.** Clocks in a zone show an instant by other fields than
clocks in UTC do; with the zone behind them they say the same.

* `zoneText`, `Instant.shownIn?` — the zone of clocks that many minutes ahead of UTC, and the instant whose
  text in UTC is what those clocks show.
* `Instant.fullText_localText` — the text of an instant in the years 0 to 9999 is in full digits.
* `Instant.exists_shownIn` — clocks of every zone show such an instant.
* `Instant.readStrict?_zoned`, `Instant.readZoneless?_localText` — what they show is read back in the strict
  layout with the zone, and in the zoneless layout without one if it is UTC: as the instant, or, if that lies
  in a leap second in the middle of a minute, as the one that its text shows.
-/
import TaskLedger.Proofs.Time.Layouts

namespace TaskLedger.Time

open Decimal (padded padded_isDigits length_padded number_padded)

/-- The zone of clocks that are this many minutes ahead of UTC. -/
def zoneText (minutes : Int) : List Char :=
  (if minutes < 0 then '-' else '+') :: padded 2 (minutes.natAbs / 60) ++
    ':' :: padded 2 (minutes.natAbs % 60)

theorem digits_padded {width n : Nat} (wide : 0 < width) (small : n < 10 ^ width) :
    Digits width n (padded width n) :=
  ⟨padded_isDigits width n, length_padded wide small, number_padded width n⟩

/-- A zone less than a day away from UTC is one of the strict layout. -/
theorem zone_zoneText {minutes : Int} (near : minutes.natAbs < 24 * 60) :
    Zone (60 * minutes) (zoneText minutes) := by
  have hours : Digits 2 (minutes.natAbs / 60) (padded 2 (minutes.natAbs / 60)) :=
    digits_padded (by decide) (by omega)
  have rest : Digits 2 (minutes.natAbs % 60) (padded 2 (minutes.natAbs % 60)) :=
    digits_padded (by decide) (by omega)
  by_cases behind : minutes < 0
  · have seconds : 60 * minutes =
        -1 * (minutes.natAbs / 60 * 3600 + minutes.natAbs % 60 * 60 : Nat) := by omega
    rw [zoneText, if_pos behind, seconds]
    exact .offset .behind hours rest (by omega) (by omega)
  · have seconds : 60 * minutes =
        1 * (minutes.natAbs / 60 * 3600 + minutes.natAbs % 60 * 60 : Nat) := by omega
    rw [zoneText, if_neg behind, seconds]
    exact .offset .ahead hours rest (by omega) (by omega)

namespace Instant

variable {t shown : Instant} {minutes : Int}

/-- The year of the instant has four digits. -/
def InFourDigits (t : Instant) : Prop :=
  0 ≤ t.date.year ∧ t.date.year ≤ 9999

instance (t : Instant) : Decidable t.InFourDigits := by unfold InFourDigits; infer_instance

/-- The instant whose text in UTC is what clocks show that are this many minutes ahead of UTC. -/
def shownIn? (t : Instant) (minutes : Int) : Option Instant :=
  of? (t.second + 60 * minutes) t.nano

/-- **The text of an instant** is in full digits if its year has four. -/
theorem fullText_localText (years : t.InFourDigits) : FullText 'T' t.clock t.localText := by
  have dated : t.date.Exists := Date.ofDayNumber_exists _
  have year : ((t.date.year.toNat : Nat) : Int) = t.date.year := Int.toNat_of_nonneg years.1
  have text : yearText t.date.year = padded 4 t.date.year.toNat := if_pos years
  have clock : t.clock = ⟨⟨(t.date.year.toNat : Nat), t.date.month, t.date.day⟩, t.secondOfDay / 3600,
      t.secondOfDay / 60 % 60, t.secondOfDay % 60 + t.nano / nanosPerSecond,
      t.nano % nanosPerSecond⟩ := by rw [year]; rfl
  have early : t.date.year.toNat < 10 ^ 4 := by
    have := years.2
    omega
  have hour : t.secondOfDay / 3600 < 10 ^ 2 := by
    rw [secondOfDay, secondsPerDay]
    omega
  rw [clock, localText, Date.text, timeText, text]
  exact .mk (digits_padded (by decide) early)
    (digits_padded (by decide) (Nat.lt_of_le_of_lt dated.2.1 (by decide)))
    (digits_padded (by decide) (Nat.lt_of_le_of_lt dated.day_le (by decide)))
    (digits_padded (by decide) hour) (digits_padded (by decide) (by omega))
    (digits_padded (by decide) (Nat.lt_of_le_of_lt (second_le_sixty t) (by decide)))
    (Reader.decimals_of_nano (Nat.mod_lt _ (by decide)))

/-- An instant in the years 0 to 9999 is far from the ends of the range. -/
theorem second_of_inFourDigits (years : t.InFourDigits) :
    firstSecond + secondsPerDay ≤ t.second ∧ t.second + secondsPerDay ≤ lastSecond := by
  obtain ⟨rest, inside, counted, -⟩ := Date.ofDayNumber_spec (t.second / secondsPerDay)
  have started : daysBeforeYear 0 = -366 := by decide
  have ended : daysBeforeYear 9999 = 3651694 := by decide
  have early : daysBeforeYear 0 ≤ daysBeforeYear (Date.ofDayNumber (t.second / secondsPerDay)).year :=
    Date.daysBeforeYear_mono years.1
  have late : daysBeforeYear (Date.ofDayNumber (t.second / secondsPerDay)).year ≤ daysBeforeYear 9999 :=
    Date.daysBeforeYear_mono years.2
  rw [daysToEpoch] at counted
  simp only [firstSecond, lastSecond, secondsPerDay] at *
  have within : rest ≤ 366 := by
    split at inside <;> omega
  omega

/-- **Clocks of every zone** less than a day away from UTC show an instant in the years 0 to 9999. -/
theorem exists_shownIn (years : t.InFourDigits) (near : minutes.natAbs < 24 * 60) :
    ∃ shown, t.shownIn? minutes = some shown := by
  have bounds := second_of_inFourDigits years
  simp only [firstSecond, lastSecond, secondsPerDay] at bounds
  refine ⟨_, dif_pos ⟨?_, ?_, t.nano_lt⟩⟩
  · simp only [firstSecond]
    omega
  · simp only [lastSecond]
    omega

/-- Clocks of every zone show the same place in the minute. -/
theorem asRead_of_shownIn (isShown : t.shownIn? minutes = some shown) :
    t.asRead.second = shown.asRead.second - 60 * minutes ∧ t.asRead.nano = shown.asRead.nano := by
  obtain ⟨second, nano⟩ := of?_eq_some isShown
  by_cases inPlace : t.LeapsInPlace
  · have there : shown.LeapsInPlace := by
      intro leap
      have last := inPlace (nano ▸ leap)
      omega
    rw [asRead_of_leapsInPlace inPlace, asRead_of_leapsInPlace there]
    omega
  · obtain ⟨leap, elsewhere⟩ := Classical.not_imp.1 inPlace
    have own := asRead_of_misplaced leap elsewhere
    have there := asRead_of_misplaced (t := shown) (by omega) (by omega)
    omega

/-- What clocks of a zone show, read with the zone, is the instant that they show. -/
theorem instant?_clock_of_shownIn (isShown : t.shownIn? minutes = some shown) :
    shown.clock.instant? (60 * minutes) = some t.asRead := by
  obtain ⟨second, nano⟩ := asRead_of_shownIn isShown
  rw [instant?_clock_offset, ← second, ← nano, of?_self]

/-- **What clocks of a zone show is read back**, with the zone, in the strict layout. -/
theorem readStrict?_zoned (isShown : t.shownIn? minutes = some shown)
    (near : minutes.natAbs < 24 * 60) (years : shown.InFourDigits) :
    readStrict? (shown.localText ++ zoneText minutes) = some t.asRead :=
  readStrict?_eq_some_iff.2 ⟨'T', by decide, _, _, _, _, fullText_localText years, zone_zoneText near,
    rfl, instant?_clock_of_shownIn isShown⟩

/-- **The text of an instant is read back** in the strict layout. -/
theorem readStrict?_text (years : t.InFourDigits) : readStrict? t.text = some t.asRead :=
  readStrict?_eq_some_iff.2 ⟨'T', by decide, _, _, _, _, fullText_localText years, .utc (.inl rfl), rfl,
    t.instant?_clock⟩

theorem shownIn?_zero (t : Instant) : t.shownIn? 0 = some t := by
  rw [shownIn?, Int.mul_zero, Int.add_zero, of?_self]

theorem offsetText_eq (t : Instant) : t.offsetText = t.localText ++ zoneText 0 := rfl

/-- So is its text with an offset of zero. -/
theorem readStrict?_offsetText (years : t.InFourDigits) :
    readStrict? t.offsetText = some t.asRead := by
  rw [offsetText_eq]
  exact readStrict?_zoned t.shownIn?_zero (by decide) years

/-- **Without a zone it is read back** in the zoneless layout. -/
theorem readZoneless?_localText (years : t.InFourDigits) :
    readZoneless? t.localText = some t.asRead := by
  have read := (fullText_localText years).readZoneless? ends_nil
  rwa [List.append_nil, if_pos ⟨rfl, rfl⟩, instant?_clock] at read

end Instant

end TaskLedger.Time
