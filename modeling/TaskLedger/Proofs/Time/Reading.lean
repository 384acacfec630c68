/-
**A written instant is read back.** Records hold instants as text; the relaxed layout gives the instant
again, to the nanosecond, inside leap seconds at the ends of minutes and with years of any width.

* `skipBlanks_digits`, `someDigits_append`, `allDigits_append` — the readers of numbers take a run of
  digits and leave what follows it.
* `short_padded`, `year_yearText`, `decimals_decimalsText` — the written fields are read as the numbers
  they show; `Decimals` are the decimals that can be read, also those that are not written so.
* `Instant.instant?_clock_offset` — the instant that the fields of an instant's text give on clocks ahead of
  UTC.
* `readRelaxed?_text` — the text of an instant is read as the instant that it shows.
* `leapsInPlace_of_readRelaxed?` — and whatever is read is in place.
-/
import TaskLedger.Proofs.Decimal.Digits
import TaskLedger.Proofs.Time.Calendar
import TaskLedger.Proofs.Time.Leap
import Mathlib.Data.List.TakeWhile

namespace TaskLedger.Time

open Decimal (IsDigits StartsPlain ne_of_isDigit number number_lt number_padded number_rightpad padded
  padded_isDigits length_padded takeWhile_isDigit_append dropWhile_isDigit_append)
open Text (isBlank skipBlanks)

/-! ### Numbers -/

theorem isBlank_of_isDigit {c : Char} (digit : c.isDigit = true) : isBlank c = false := by
  have range : 0x30 ≤ c.toNat ∧ c.toNat ≤ 0x39 := by
    simp only [Char.isDigit, Bool.and_eq_true, decide_eq_true_eq, UInt32.le_iff_toNat_le] at digit
    exact digit
  simp only [isBlank, Bool.or_eq_false_iff, Bool.and_eq_false_iff, decide_eq_false_iff_not,
    beq_eq_false_iff_ne]
  omega

theorem skipBlanks_cons {c : Char} (visible : isBlank c = false) (rest : List Char) :
    skipBlanks (c :: rest) = c :: rest :=
  List.dropWhile_cons_of_neg (by simp [visible])

section Numbers

variable {digits rest : List Char}

theorem skipBlanks_digits (isDigits : IsDigits digits) (rest : List Char) :
    skipBlanks (digits ++ rest) = digits ++ rest := by
  obtain ⟨first, others, rfl, digit⟩ := isDigits.exists_cons
  exact skipBlanks_cons (isBlank_of_isDigit digit) _

namespace Reader

/-- **A run of digits of bounded width is read** if it has that width or no digit follows. -/
theorem someDigits_append {most : Nat} (isDigits : IsDigits digits) (short : digits.length ≤ most)
    (ends : digits.length = most ∨ StartsPlain rest) :
    someDigits most (digits ++ rest) = some (number digits, rest) := by
  have plain : StartsPlain (rest.take (most - digits.length)) := by
    rcases ends with full | plain
    · rw [full, Nat.sub_self]
      exact .nil
    · intro c first
      cases left : most - digits.length with
      | zero => simp [left] at first
      | succ left' => exact plain c (by simpa [left, List.head?_take] using first)
  have front : ((digits ++ rest).take most).takeWhile Char.isDigit = digits := by
    rw [List.take_append, List.take_of_length_le short]
    exact takeWhile_isDigit_append isDigits.all plain
  rw [someDigits, front, if_neg (by simpa using isDigits.ne_nil), List.drop_left]

/-- **A run of digits of any width is read** if no digit follows. -/
theorem allDigits_append (isDigits : IsDigits digits) (plain : StartsPlain rest) :
    allDigits (digits ++ rest) = some (number digits, rest) := by
  have front := takeWhile_isDigit_append isDigits.all plain
  rw [allDigits, front, if_neg (by simpa using isDigits.ne_nil), List.drop_left]

/-! ### Fields -/

theorem short_padded {n : Nat} (small : n < 100) (rest : List Char) :
    short (padded 2 n ++ rest) = some (n, rest) := by
  have width : (padded 2 n).length = 2 := length_padded (by decide) small
  rw [short, skipBlanks_digits (padded_isDigits 2 n),
    someDigits_append (padded_isDigits 2 n) (Nat.le_of_eq width) (.inl width), number_padded]

theorem year_digits (isDigits : IsDigits digits) (short : digits.length ≤ 4)
    (ends : digits.length = 4 ∨ StartsPlain rest) :
    year (digits ++ rest) = some ((number digits : Int), rest) := by
  have taken := someDigits_append isDigits short ends
  obtain ⟨first, others, rfl, digit⟩ := isDigits.exists_cons
  unfold year
  rw [skipBlanks_digits isDigits]
  split
  · rename_i same
    exact absurd (List.cons.inj same).1 (ne_of_isDigit digit rfl)
  · rename_i same
    exact absurd (List.cons.inj same).1 (ne_of_isDigit digit rfl)
  · rw [taken]
    rfl

/-- **A year is read**, whatever its sign and width, if no digit follows. -/
theorem year_yearText (y : Int) (plain : StartsPlain rest) :
    year (yearText y ++ rest) = some (y, rest) := by
  have digits (n : Nat) := padded_isDigits 4 n
  unfold yearText
  split
  · have width : (padded 4 y.toNat).length = 4 := length_padded (by decide) (by omega)
    have same : ((y.toNat : Nat) : Int) = y := by omega
    rw [year_digits (digits _) (Nat.le_of_eq width) (.inl width), number_padded, same]
  · have taken := allDigits_append (digits y.natAbs) plain
    rw [number_padded] at taken
    by_cases negative : y < 0
    · have same : -(y.natAbs : Int) = y := by omega
      rw [if_pos negative, List.cons_append, year, skipBlanks_cons rfl]
      simp only [taken, Option.bind_eq_bind, Option.bind_some, same]
    · have same : (y.natAbs : Int) = y := by omega
      rw [if_neg negative, List.cons_append, year, skipBlanks_cons rfl]
      simp only [taken, Option.bind_eq_bind, Option.bind_some, same]

/-- The decimals of a second, if any, with the nanoseconds that they make. Those after the ninth do not
count. -/
inductive Decimals : Nat → List Char → Prop where
  | none : Decimals 0 []
  | point {digits : List Char} : IsDigits digits →
    Decimals (number ((digits.take 9).rightpad 9 '0')) ('.' :: digits)

/-- **Decimals are read** if neither a digit nor a point follows. -/
theorem Decimals.read {nano : Nat} {text : List Char} (isDecimals : Decimals nano text)
    (plain : StartsPlain rest) (noPoint : rest.head? ≠ some '.') :
    decimals (text ++ rest) = some (nano, rest) := by
  cases isDecimals with
  | none =>
    cases rest with
    | nil => rfl
    | cons c rest =>
      rw [List.nil_append]
      unfold decimals
      split
      · rename_i same
        exact absurd (congrArg List.head? same) noPoint
      · rfl
  | point isDigits =>
    have all := takeWhile_isDigit_append isDigits.all plain
    have left := dropWhile_isDigit_append isDigits.all plain
    rw [List.cons_append, decimals]
    dsimp only
    rw [all, left, if_neg (by simpa using isDigits.ne_nil)]

/-- Whatever is read as decimals is such. -/
theorem decimals_eq_some {text : List Char} {nano : Nat} (read : decimals text = some (nano, rest)) :
    ∃ front, text = front ++ rest ∧ Decimals nano front := by
  unfold decimals at read
  split at read
  · rename_i others
    dsimp only at read
    split at read <;> cases read
    rename_i nonempty
    have isDigits : IsDigits (others.takeWhile Char.isDigit) :=
      ⟨by simpa using nonempty, fun _ member => List.mem_takeWhile_imp member⟩
    refine ⟨_, ?_, .point isDigits⟩
    rw [List.cons_append, List.takeWhile_append_dropWhile]
  · cases read
    exact ⟨[], rfl, .none⟩

/-- Decimals make less than a second. -/
theorem Decimals.nano_lt {nano : Nat} {text : List Char} (isDecimals : Decimals nano text) :
    nano < nanosPerSecond := by
  cases isDecimals with
  | none => decide
  | @point digits isDigits =>
    have kept : number (digits.take 9) < 10 ^ (digits.take 9).length :=
      number_lt fun c mem => isDigits.all c (List.mem_of_mem_take mem)
    have short : (digits.take 9).length ≤ 9 := by
      rw [List.length_take]
      exact Nat.min_le_left ..
    calc number ((digits.take 9).rightpad 9 '0')
      _ = number (digits.take 9) * 10 ^ (9 - (digits.take 9).length) := number_rightpad _ _
      _ < 10 ^ (digits.take 9).length * 10 ^ (9 - (digits.take 9).length) :=
        Nat.mul_lt_mul_of_pos_right kept (Nat.pow_pos (by decide))
      _ = nanosPerSecond := by rw [← Nat.pow_add, Nat.add_sub_cancel' short]

/-- The written decimals of a second are such. -/
theorem decimals_of_nano {nano : Nat} (part : nano < nanosPerSecond) :
    Decimals nano (decimalsText nano) := by
  have point (width n : Nat) (wide : 0 < width) (short : width ≤ 9) (small : n < 10 ^ width)
      (whole : n * 10 ^ (9 - width) = nano) : Decimals nano ('.' :: padded width n) := by
    have length := length_padded wide small
    have isDecimals := Decimals.point (padded_isDigits width n)
    rwa [List.take_of_length_le (by omega), number_rightpad, number_padded, length, whole] at isDecimals
  rw [nanosPerSecond] at part
  unfold decimalsText
  split
  · subst nano
    exact .none
  · split
    · exact point 3 _ (by decide) (by decide) (by omega) (by omega)
    · split
      · exact point 6 _ (by decide) (by decide) (by omega) (by omega)
      · exact point 9 _ (by decide) (by decide) part (Nat.mul_one nano)

/-- **The decimals of a second are read** as nanoseconds, if neither a digit nor a point follows. -/
theorem decimals_decimalsText {nano : Nat} (part : nano < nanosPerSecond) (plain : StartsPlain rest)
    (noPoint : rest.head? ≠ some '.') : decimals (decimalsText nano ++ rest) = some (nano, rest) :=
  (decimals_of_nano part).read plain noPoint

theorem char_cons (c : Char) (rest : List Char) : char c (c :: rest) = some ((), rest) :=
  if_pos rfl

theorem oneOf_cons {expected : List Char} {c : Char} (mem : c ∈ expected) (rest : List Char) :
    oneOf expected (c :: rest) = some ((), rest) :=
  if_pos mem

end Reader

end Numbers

namespace Instant

open Reader

/-- The second that the fields show, up to a leap second. -/
theorem second_clock (t : Instant) :
    t.clock.date.dayNumber * secondsPerDay + (t.clock.hour * 3600 + t.clock.minute * 60 : Nat) +
      (t.secondOfDay % 60 : Nat) = t.second := by
  have day : t.clock.date.dayNumber = t.second / secondsPerDay := Date.dayNumber_ofDayNumber _
  rw [day]
  simp only [clock, secondOfDay, secondsPerDay]
  omega

theorem second_le_sixty (t : Instant) : t.clock.second ≤ 60 := by
  have bound := t.nano_lt
  simp only [clock, nanosPerSecond] at bound ⊢
  omega

/-- The fields of an instant in place, on clocks ahead of UTC, are those of the instant so much earlier. -/
theorem instant?_clock_of_leapsInPlace {t : Instant} (inPlace : t.LeapsInPlace) (offset : Int) :
    t.clock.instant? offset = of? (t.second - offset) t.nano := by
  have years := Date.year_ofDayNumber t.first_le t.le_last
  have day : t.clock.date.Exists := Date.ofDayNumber_exists _
  have shown := second_clock t
  have hour : t.clock.hour < 24 := by
    simp only [clock, secondOfDay, secondsPerDay]
    omega
  have minute : t.clock.minute < 60 := Nat.mod_lt _ (by decide)
  rw [Clock.instant?, if_pos ⟨years.1, years.2, day, hour, minute, second_le_sixty t⟩]
  dsimp only
  by_cases leap : nanosPerSecond ≤ t.nano
  · have bound := t.nano_lt
    have last : t.secondOfDay % 60 = 59 := by
      have atEnd := inPlace leap
      rw [secondOfDay, secondsPerDay]
      omega
    have sixty : t.clock.second = 60 := by
      simp only [clock, nanosPerSecond] at leap bound ⊢
      omega
    have nano : nanosPerSecond + t.clock.nano = t.nano := by
      simp only [clock, nanosPerSecond] at leap bound ⊢
      omega
    rw [last] at shown
    rw [if_pos sixty, nano]
    exact congrArg (fun second => of? (second - offset) t.nano) shown
  · have second : t.clock.second = t.secondOfDay % 60 := by
      simp only [clock, nanosPerSecond] at leap ⊢
      omega
    have nano : t.clock.nano = t.nano := Nat.mod_eq_of_lt (Nat.not_le.1 leap)
    rw [if_neg (by omega), second, nano, shown]

/-- **The fields of an instant**, on clocks ahead of UTC, are those of the instant so much earlier than the
one that its text shows. -/
theorem instant?_clock_offset (t : Instant) (offset : Int) :
    t.clock.instant? offset = of? (t.asRead.second - offset) t.asRead.nano := by
  rw [← clock_asRead, instant?_clock_of_leapsInPlace t.leapsInPlace_asRead]

/-- **The fields of an instant give what its text shows.** -/
theorem instant?_clock (t : Instant) : t.clock.instant? 0 = some t.asRead := by
  rw [instant?_clock_offset, Int.sub_zero, of?_self]

/-- **The text of an instant is read as the instant that it shows.** -/
theorem readRelaxed?_text (t : Instant) : readRelaxed? t.text = some t.asRead := by
  have dated : t.date.Exists := Date.ofDayNumber_exists _
  have short_month : t.date.month < 100 := Nat.lt_of_le_of_lt dated.2.1 (by decide)
  have short_day : t.date.day < 100 := Nat.lt_of_le_of_lt dated.day_le (by decide)
  have short_hour : t.secondOfDay / 3600 < 100 := by
    rw [secondOfDay, secondsPerDay]
    omega
  have short_minute : t.secondOfDay / 60 % 60 < 100 := by omega
  have short_second : t.secondOfDay % 60 + t.nano / nanosPerSecond < 100 :=
    Nat.lt_of_le_of_lt (second_le_sixty t) (by decide)
  have part : t.nano % nanosPerSecond < nanosPerSecond := Nat.mod_lt _ (by decide)
  simp only [readRelaxed?, text, localText, Date.text, timeText, List.append_assoc, List.cons_append,
    Option.bind_eq_bind]
  rw [year_yearText _ (.cons rfl), Option.bind_some, skipBlanks_cons rfl, char_cons, Option.bind_some,
    short_padded short_month, Option.bind_some, skipBlanks_cons rfl, char_cons, Option.bind_some,
    short_padded short_day, Option.bind_some, oneOf_cons (by decide), Option.bind_some,
    short_padded short_hour, Option.bind_some, skipBlanks_cons rfl, char_cons, Option.bind_some,
    short_padded short_minute, Option.bind_some, skipBlanks_cons rfl, char_cons, Option.bind_some,
    short_padded short_second, Option.bind_some, decimals_decimalsText part (.cons rfl) (by decide),
    Option.bind_some, skipBlanks_cons rfl]
  exact t.instant?_clock

/-! ### What is read -/

/-- Clocks are ahead of UTC by whole minutes. -/
theorem offset_emod {between : Reader Unit} {text rest : List Char} {seconds : Int}
    (read : offset between text = some (seconds, rest)) : seconds % 60 = 0 := by
  unfold offset at read
  obtain ⟨⟨sign, _⟩, -, read⟩ := Option.bind_eq_some_iff.1 read
  obtain ⟨⟨hours, _⟩, -, read⟩ := Option.bind_eq_some_iff.1 read
  obtain ⟨⟨_, _⟩, -, read⟩ := Option.bind_eq_some_iff.1 read
  obtain ⟨⟨minutes, _⟩, -, read⟩ := Option.bind_eq_some_iff.1 read
  dsimp only at read
  split at read
  · cases read
    have whole : ((hours * 3600 + minutes * 60 : Nat) : Int) = 60 * (hours * 60 + minutes) := by omega
    rw [whole, Int.mul_left_comm]
    exact Int.mul_emod_right 60 _
  · cases read

theorem relaxedZone_emod {text rest : List Char} {seconds : Int}
    (read : relaxedZone text = some (seconds, rest)) : seconds % 60 = 0 := by
  unfold relaxedZone at read
  split at read
  · cases read
    rfl
  · split at read
    · cases read
      rfl
    · cases read
      rfl
    · exact offset_emod read

/-- Fields make an instant in place: second `60` is the only way into a leap second. -/
theorem leapsInPlace_of_instant? {clock : Clock} {offset : Int} {t : Instant}
    (made : clock.instant? offset = some t) (minutes : offset % 60 = 0)
    (part : clock.nano < nanosPerSecond) : t.LeapsInPlace := by
  unfold Clock.instant? at made
  split at made
  · dsimp only at made
    split at made
    · intro _
      rw [(of?_eq_some made).1, secondsPerDay]
      omega
    · intro leap
      rw [(of?_eq_some made).2] at leap
      omega
  · cases made

/-- **Whatever is read is in place.** -/
theorem leapsInPlace_of_readRelaxed? {text : List Char} {t : Instant}
    (read : readRelaxed? text = some t) : t.LeapsInPlace := by
  -- Of the readers one after another, only those of the decimals and of the zone matter.
  unfold readRelaxed? at read
  obtain ⟨⟨year, _⟩, -, read⟩ := Option.bind_eq_some_iff.1 read
  obtain ⟨⟨_, _⟩, -, read⟩ := Option.bind_eq_some_iff.1 read
  obtain ⟨⟨month, _⟩, -, read⟩ := Option.bind_eq_some_iff.1 read
  obtain ⟨⟨_, _⟩, -, read⟩ := Option.bind_eq_some_iff.1 read
  obtain ⟨⟨day, _⟩, -, read⟩ := Option.bind_eq_some_iff.1 read
  obtain ⟨⟨_, _⟩, -, read⟩ := Option.bind_eq_some_iff.1 read
  obtain ⟨⟨hour, _⟩, -, read⟩ := Option.bind_eq_some_iff.1 read
  obtain ⟨⟨_, _⟩, -, read⟩ := Option.bind_eq_some_iff.1 read
  obtain ⟨⟨minute, _⟩, -, read⟩ := Option.bind_eq_some_iff.1 read
  obtain ⟨⟨_, _⟩, -, read⟩ := Option.bind_eq_some_iff.1 read
  obtain ⟨⟨second, _⟩, -, read⟩ := Option.bind_eq_some_iff.1 read
  obtain ⟨⟨nano, _⟩, decimalsRead, read⟩ := Option.bind_eq_some_iff.1 read
  obtain ⟨⟨seconds, _⟩, zoneRead, given⟩ := Option.bind_eq_some_iff.1 read
  obtain ⟨_, -, isDecimals⟩ := decimals_eq_some decimalsRead
  dsimp only at given
  split at given
  · exact leapsInPlace_of_instant? given (relaxedZone_emod zoneRead) isDecimals.nano_lt
  · cases given

end Instant

end TaskLedger.Time
