/-
**The times of a report.** A time is read in one of two layouts, and means the same whichever of its texts
the report has.

* `readTime_of_strict`, `readTime_of_zoneless` — a text in either layout is read by it.
* `timeOf?_comm` — the order in which the layouts are tried does not matter.
* `readTime_unambiguous` — the texts of an instant in any zone, and without one, are all read as one instant,
  the instant itself unless that lies in a leap second in the middle of a minute.
-/
import TaskLedger.Proofs.Report.Reading
import TaskLedger.Proofs.Time.Zoned

namespace TaskLedger

open Time (Instant zoneText)

variable {text : String} {t : Instant}

theorem readTime_of_strict (field task : String) (read : Instant.readStrict? text.toList = some t) :
    readTime field text task = .ok t := by
  rw [readTime_eq_ok_iff, timeOf?, read, Option.some_or]

/-- **The order of the layouts** does not matter, since no text is in both. -/
theorem timeOf?_comm (text : String) :
    timeOf? text = (Instant.readZoneless? text.toList).or (Instant.readStrict? text.toList) := by
  rw [timeOf?]
  cases read : Instant.readStrict? text.toList with
  | some t => rw [Instant.readZoneless?_of_readStrict? read, Option.some_or, Option.none_or]
  | none => rw [Option.none_or, Option.or_none]

theorem readTime_of_zoneless (field task : String) (read : Instant.readZoneless? text.toList = some t) :
    readTime field text task = .ok t := by
  rw [readTime_eq_ok_iff, timeOf?_comm, read, Option.some_or]

/-- **A time is read to one instant.** For every instant in the years 0 to 9999, also inside a leap second,
the text of records, that of messages, the same without a zone, and what the clocks of any zone show with
that zone behind it, as long as the year there has four digits, are all read as one instant: as itself unless
it lies in a leap second in the middle of a minute, and then as the one that all these texts show. No text is
in both layouts, so that the order in which they are tried does not matter; and where a text with `Z` behind
it is in the strict layout with the separator `T`, the text itself is read as the same instant. -/
theorem readTime_unambiguous (field task : String) :
    (∀ t : Instant, t.InFourDigits →
      (t.asRead = t ↔ t.LeapsInPlace) ∧
      readTime field (String.ofList t.text) task = .ok t.asRead ∧
      readTime field (String.ofList t.offsetText) task = .ok t.asRead ∧
      readTime field (String.ofList t.localText) task = .ok t.asRead ∧
      ∀ minutes : Int, minutes.natAbs < 24 * 60 → ∃ shown, t.shownIn? minutes = some shown ∧
        (shown.InFourDigits →
          readTime field (String.ofList (shown.localText ++ zoneText minutes)) task = .ok t.asRead)) ∧
    ∀ text : String,
      (Instant.readStrict? text.toList = none ∨ Instant.readZoneless? text.toList = none) ∧
      timeOf? text = (Instant.readZoneless? text.toList).or (Instant.readStrict? text.toList) ∧
      ∀ t, Instant.readStrict? (text ++ "Z").toList = some t → text.toList[10]? = some 'T' →
        readTime field text task = .ok t := by
  have strict {chars : List Char} {t : Instant} (read : Instant.readStrict? chars = some t) :
      readTime field (String.ofList chars) task = .ok t :=
    readTime_of_strict field task (by rwa [String.toList_ofList])
  refine ⟨fun t years => ⟨Instant.asRead_eq_self_iff, ?_, ?_, ?_, fun minutes near => ?_⟩,
    fun text => ⟨?_, timeOf?_comm text, ?_⟩⟩
  · exact strict (Instant.readStrict?_text years)
  · exact strict (Instant.readStrict?_offsetText years)
  · refine readTime_of_zoneless field task ?_
    rw [String.toList_ofList]
    exact Instant.readZoneless?_localText years
  · obtain ⟨shown, isShown⟩ := Instant.exists_shownIn years near
    exact ⟨shown, isShown, fun there => strict (Instant.readStrict?_zoned isShown near there)⟩
  · cases read : Instant.readStrict? text.toList with
    | some t => exact .inr (Instant.readZoneless?_of_readStrict? read)
    | none => exact .inl rfl
  · intro t read separated
    rw [String.toList_append] at read
    exact readTime_of_zoneless field task (Instant.readZoneless?_of_utc read separated)

/-- Half a second into the leap second at the end of 2016. -/
def endOf2016 : Instant :=
  ⟨1483228799, 1500000000, by decide, by decide, by decide⟩

/-- What clocks five and a half hours ahead of UTC show then. -/
def shownAhead : Instant :=
  ⟨1483248599, 1500000000, by decide, by decide, by decide⟩

/-- Five and a half hours ahead of UTC that moment is in 2017, and it is read back from there. -/
theorem readTime_endOf2016 :
    endOf2016.InFourDigits ∧ endOf2016.LeapsInPlace ∧ (330 : Int).natAbs < 24 * 60 ∧
      endOf2016.shownIn? 330 = some shownAhead ∧ shownAhead.InFourDigits ∧
      shownAhead.localText ++ zoneText 330 = "2017-01-01T05:29:60.500+05:30".toList ∧
      readTime "created_ts" "2017-01-01T05:29:60.500+05:30" "a" = .ok endOf2016 ∧
      Instant.readStrict? ("2016-12-31T23:59:60.5" ++ "Z").toList = some endOf2016 ∧
      "2016-12-31T23:59:60.5".toList[10]? = some 'T' ∧
      readTime "created_ts" "2016-12-31T23:59:60.5" "a" = .ok endOf2016 := by
  have years : endOf2016.InFourDigits := by decide
  have inPlace : endOf2016.LeapsInPlace := by decide
  have near : (330 : Int).natAbs < 24 * 60 := by decide
  have isShown : endOf2016.shownIn? 330 = some shownAhead := by decide
  have there : shownAhead.InFourDigits := by decide
  have text : shownAhead.localText ++ zoneText 330 = "2017-01-01T05:29:60.500+05:30".toList := by decide
  have strict : Instant.readStrict? ("2016-12-31T23:59:60.5" ++ "Z").toList = some endOf2016 := by decide
  have separated : "2016-12-31T23:59:60.5".toList[10]? = some 'T' := by decide
  obtain ⟨instants, texts⟩ := readTime_unambiguous "created_ts" "a"
  obtain ⟨kept, -, -, -, zones⟩ := instants endOf2016 years
  obtain ⟨shown, same, zoned⟩ := zones 330 near
  obtain rfl : shownAhead = shown := Option.some.inj (isShown.symm.trans same)
  have read := zoned there
  rw [text, String.ofList_toList, kept.2 inPlace] at read
  exact ⟨years, inPlace, near, isShown, there, text, read, strict, separated,
    (texts "2016-12-31T23:59:60.5").2.2 endOf2016 strict separated⟩

/-- In the middle of a minute a leap second has no text of its own: this one is read as a moment of the second
after it, which has the same text. -/
theorem readTime_midMinute :
    Instant.midMinute.InFourDigits ∧
      String.ofList Instant.midMinute.text = "2026-01-01T00:00:05.333333333Z" ∧
      readTime "created_ts" "2026-01-01T00:00:05.333333333Z" "a" = .ok Instant.midMinute.asRead ∧
      Instant.midMinute.asRead ≠ Instant.midMinute ∧
      Instant.midMinute.asRead.localText = Instant.midMinute.localText := by
  have years : Instant.midMinute.InFourDigits := by decide
  have text : Instant.midMinute.text = "2026-01-01T00:00:05.333333333Z".toList := by decide
  have read := Instant.readStrict?_text years
  rw [text] at read
  refine ⟨years, ?_, readTime_of_strict _ _ read, by decide, Instant.localText_asRead _⟩
  rw [text, String.ofList_toList]

end TaskLedger
