/-
**Two layouts of a time.** The strict layout has full digits and a zone; the zoneless one has no zone and
more freedom in its numbers. What both can have is a date and time of day in full digits.

* `FullText`, `Zone` — that common part, and the zones of the strict layout.
* `FullText.readStrict?`, `FullText.readZoneless?` — what the two layouts make of the common part and what
  follows it.
* `Instant.readStrict?_eq_some_iff` — the strict layout is the common part and a zone.
* `Instant.readZoneless?_of_readStrict?` — hence no text is in both layouts.
* `Instant.readZoneless?_of_utc` — and a text in the strict layout that ends in `Z` is without it in the
  zoneless layout, as the same instant.
-/
import TaskLedger.Proofs.Time.Reading

namespace TaskLedger.Time

open Decimal (IsDigits StartsPlain number ne_of_isDigit)

/-- Digits of this width that count this number. -/
structure Digits (width n : Nat) (text : List Char) : Prop where
  isDigits : IsDigits text
  length_eq : text.length = width
  number_eq : number text = n

/-- A date and a time of day in full digits, with a separator between them. -/
inductive FullText (separator : Char) : Clock → List Char → Prop where
  | mk {year month day hour minute second nano : Nat} {y mo d h mi s f : List Char} :
    Digits 4 year y → Digits 2 month mo → Digits 2 day d →
    Digits 2 hour h → Digits 2 minute mi → Digits 2 second s → Reader.Decimals nano f →
    FullText separator ⟨⟨year, month, day⟩, hour, minute, second, nano⟩
      (y ++ '-' :: mo ++ '-' :: d ++ separator :: (h ++ ':' :: mi ++ ':' :: s ++ f))

/-- The signs of an offset. -/
inductive Sign : Int → Char → Prop where
  | ahead : Sign 1 '+'
  | behind : Sign (-1) '-'
  /-- The minus of mathematics. -/
  | minus : Sign (-1) '\u2212'

/-- A zone of the strict layout, with the seconds that its clocks are ahead of UTC. -/
inductive Zone : Int → List Char → Prop where
  | utc {c : Char} : c = 'Z' ∨ c = 'z' → Zone 0 [c]
  | offset {sign : Int} {c : Char} {hours minutes : Nat} {h m : List Char} :
    Sign sign c → Digits 2 hours h → Digits 2 minutes m → hours < 24 → minutes < 60 →
    Zone (sign * (hours * 3600 + minutes * 60 : Nat)) (c :: h ++ ':' :: m)

namespace Reader

variable {text rest : List Char}

/-! ### Readers -/

theorem digits_eq_some_iff {width n : Nat} (wide : 0 < width) :
    digits width text = some (n, rest) ↔ ∃ front, text = front ++ rest ∧ Digits width n front := by
  constructor
  · intro read
    rw [digits] at read
    split at read <;> cases read
    rename_i full
    refine ⟨text.take width, (List.take_append_drop ..).symm, ⟨?_, List.all_eq_true.1 full.2⟩, full.1,
      rfl⟩
    rw [← List.length_pos_iff, full.1]
    exact wide
  · rintro ⟨front, rfl, isDigits, rfl, rfl⟩
    have front_eq : (front ++ rest).take front.length = front := List.take_left
    rw [digits, front_eq, if_pos ⟨rfl, List.all_eq_true.2 isDigits.all⟩, List.drop_left]

theorem char_eq_some_iff {c : Char} {done : Unit} :
    char c text = some (done, rest) ↔ text = c :: rest := by
  cases text with
  | nil => simp [char]
  | cons first others =>
    rw [char]
    split <;> simp_all

theorem oneOf_eq_some_iff {expected : List Char} {done : Unit} :
    oneOf expected text = some (done, rest) ↔ ∃ c ∈ expected, text = c :: rest := by
  cases text with
  | nil => simp [oneOf]
  | cons first others =>
    rw [oneOf]
    split <;> grind

theorem sign_eq_some_iff {sign : Int} :
    Reader.sign text = some (sign, rest) ↔ ∃ c, text = c :: rest ∧ Sign sign c := by
  constructor
  · intro read
    unfold Reader.sign at read
    split at read <;> cases read
    · exact ⟨_, rfl, .ahead⟩
    · exact ⟨_, rfl, .behind⟩
    · exact ⟨_, rfl, .minus⟩
  · rintro ⟨c, rfl, isSign⟩
    cases isSign <;> rfl

/-- A zone of the strict layout. -/
def strictZone : Reader Int
  | 'Z' :: rest => some (0, rest)
  | 'z' :: rest => some (0, rest)
  | rest => offset (char ':') rest

theorem offset_eq_some_iff {seconds : Int} :
    offset (char ':') text = some (seconds, rest) ↔
      ∃ sign c hours minutes h m, Sign sign c ∧ Digits 2 hours h ∧ Digits 2 minutes m ∧
        hours < 24 ∧ minutes < 60 ∧ seconds = sign * (hours * 3600 + minutes * 60 : Nat) ∧
        text = c :: h ++ ':' :: m ++ rest := by
  simp only [offset, Option.bind_eq_bind, Option.bind_eq_some_iff, Prod.exists, sign_eq_some_iff,
    digits_eq_some_iff (Nat.zero_lt_succ 1), char_eq_some_iff]
  constructor
  · rintro ⟨sign, _, ⟨c, rfl, isSign⟩, hours, _, ⟨h, rfl, isHours⟩, _, _, rfl, minutes, _,
      ⟨m, rfl, isMinutes⟩, within⟩
    split at within <;> cases within
    rename_i small
    exact ⟨sign, c, hours, minutes, h, m, isSign, isHours, isMinutes, small.1, small.2, rfl, by simp⟩
  · rintro ⟨sign, c, hours, minutes, h, m, isSign, isHours, isMinutes, small, small', rfl, rfl⟩
    have whole : c :: h ++ ':' :: m ++ rest = c :: (h ++ ':' :: (m ++ rest)) := by simp
    exact ⟨sign, _, ⟨c, whole, isSign⟩, hours, _, ⟨h, rfl, isHours⟩, (), _, rfl, minutes, rest,
      ⟨m, rfl, isMinutes⟩, by rw [if_pos ⟨small, small'⟩]⟩

theorem strictZone_eq_some_iff {seconds : Int} :
    strictZone text = some (seconds, rest) ↔ ∃ front, text = front ++ rest ∧ Zone seconds front := by
  constructor
  · intro read
    unfold strictZone at read
    split at read
    · cases read
      exact ⟨['Z'], rfl, .utc (.inl rfl)⟩
    · cases read
      exact ⟨['z'], rfl, .utc (.inr rfl)⟩
    · obtain ⟨sign, c, hours, minutes, h, m, isSign, isHours, isMinutes, small, small', rfl, rfl⟩ :=
        offset_eq_some_iff.1 read
      exact ⟨_, rfl, .offset isSign isHours isMinutes small small'⟩
  · rintro ⟨front, rfl, zone⟩
    cases zone with
    | utc isUtc => obtain rfl | rfl := isUtc <;> rfl
    | offset isSign isHours isMinutes small small' =>
      rename_i sign c hours minutes h m
      have read : offset (char ':') (c :: h ++ ':' :: m ++ rest) =
          some (sign * (hours * 3600 + minutes * 60 : Nat), rest) :=
        offset_eq_some_iff.2 ⟨sign, c, hours, minutes, h, m, isSign, isHours, isMinutes, small, small',
          rfl, rfl⟩
      cases isSign <;> exact read

end Reader

/-! ### The common part -/

section Numbers

variable {n : Nat} {front : List Char}

theorem Digits.exact {width : Nat} (shown : Digits width n front) (wide : 0 < width) (rest : List Char) :
    Reader.digits width (front ++ rest) = some (n, rest) :=
  (Reader.digits_eq_some_iff wide).2 ⟨front, rfl, shown⟩

theorem Digits.short (shown : Digits 2 n front) (rest : List Char) :
    Reader.short (front ++ rest) = some (n, rest) := by
  obtain ⟨isDigits, width, rfl⟩ := shown
  rw [Reader.short, skipBlanks_digits isDigits,
    Reader.someDigits_append isDigits (Nat.le_of_eq width) (.inl width)]

theorem Digits.year (shown : Digits 4 n front) (rest : List Char) :
    Reader.year (front ++ rest) = some ((n : Int), rest) := by
  obtain ⟨isDigits, width, rfl⟩ := shown
  exact Reader.year_digits isDigits (Nat.le_of_eq width) (.inl width)

end Numbers

/-- The text starts with neither a digit nor a point, so that it cannot be part of a time of day. -/
structure Ends (text : List Char) : Prop where
  plain : StartsPlain text
  noPoint : text.head? ≠ some '.'

theorem ends_nil : Ends [] where
  plain := .nil
  noPoint := nofun

theorem Zone.ends {seconds : Int} {zone : List Char} (isZone : Zone seconds zone) : Ends zone := by
  cases isZone with
  | utc isUtc => obtain rfl | rfl := isUtc <;> exact ⟨.cons rfl, by decide⟩
  | offset isSign _ _ _ _ => cases isSign <;> exact ⟨.cons rfl, by simp⟩

theorem Zone.ne_nil {seconds : Int} {zone : List Char} (isZone : Zone seconds zone) : zone ≠ [] := by
  cases isZone <;> exact List.cons_ne_nil _ _

/-- A zone that ends in `Z` is no more than that. -/
theorem Zone.of_append {seconds : Int} {zone front text : List Char} (isZone : Zone seconds zone)
    (whole : front ++ zone = text ++ ['Z']) : seconds = 0 ∧ front = text := by
  cases isZone with
  | utc _ => exact ⟨rfl, List.append_inj_left' whole rfl⟩
  | offset _ _ isMinutes _ _ =>
    -- The last character of an offset is a digit.
    have nonempty := isMinutes.isDigits.ne_nil
    have digit := isMinutes.isDigits.all _ (List.getLast_mem nonempty)
    have ends := congrArg List.getLast? whole
    simp [List.getLast?_cons, List.getLast?_eq_some_getLast nonempty] at ends
    rw [ends] at digit
    cases digit

namespace FullText

variable {separator : Char} {clock : Clock} {front rest : List Char}

/-- The separator stands after the ten characters of the date. -/
theorem getElem?_ten (full : FullText separator clock front) : front[10]? = some separator := by
  cases full with
  | mk isYear isMonth isDay _ _ _ _ =>
    simp [List.getElem?_append, isYear.length_eq, isMonth.length_eq, isDay.length_eq]

/-- **The zoneless layout** reads the common part if its separator is `T` and nothing follows. -/
theorem readZoneless? (full : FullText separator clock front) (ends : Ends rest) :
    Instant.readZoneless? (front ++ rest) =
      if separator = 'T' ∧ rest = [] then clock.instant? 0 else none := by
  cases full with
  | mk isYear isMonth isDay isHour isMinute isSecond isDecimals =>
    simp only [List.append_assoc, List.cons_append]
    dsimp only [Instant.readZoneless?, Option.bind_eq_bind]
    rw [isYear.year, Option.bind_some, Reader.char_cons, Option.bind_some, isMonth.short,
      Option.bind_some, Reader.char_cons, Option.bind_some, isDay.short, Option.bind_some, Reader.char]
    by_cases isT : separator = 'T'
    · rw [if_pos isT, Option.bind_some, isHour.short, Option.bind_some, Reader.char_cons,
        Option.bind_some, isMinute.short, Option.bind_some, Reader.char_cons, Option.bind_some,
        isSecond.short, Option.bind_some, isDecimals.read ends.plain ends.noPoint, Option.bind_some]
      simp [isT]
    · rw [if_neg isT, Option.bind_none, if_neg fun both => isT both.1]

/-- **The strict layout** reads the common part if a zone follows. -/
theorem readStrict? {seconds : Int} {zone : List Char} (full : FullText separator clock front)
    (isSeparator : separator ∈ ['T', 't', ' ']) (isZone : Zone seconds zone) :
    Instant.readStrict? (front ++ zone) = clock.instant? seconds := by
  have zoned : Reader.strictZone zone = some (seconds, []) :=
    Reader.strictZone_eq_some_iff.2 ⟨zone, (List.append_nil zone).symm, isZone⟩
  cases full with
  | mk isYear isMonth isDay isHour isMinute isSecond isDecimals =>
    simp only [List.append_assoc, List.cons_append]
    dsimp only [Instant.readStrict?, Option.bind_eq_bind]
    rw [isYear.exact (Nat.zero_lt_succ 3), Option.bind_some, Reader.char_cons, Option.bind_some,
      isMonth.exact (Nat.zero_lt_succ 1), Option.bind_some, Reader.char_cons, Option.bind_some,
      isDay.exact (Nat.zero_lt_succ 1), Option.bind_some, Reader.oneOf_cons isSeparator, Option.bind_some,
      isHour.exact (Nat.zero_lt_succ 1), Option.bind_some, Reader.char_cons, Option.bind_some,
      isMinute.exact (Nat.zero_lt_succ 1), Option.bind_some, Reader.char_cons, Option.bind_some,
      isSecond.exact (Nat.zero_lt_succ 1), Option.bind_some,
      isDecimals.read isZone.ends.plain isZone.ends.noPoint, Option.bind_some]
    exact (congrArg (Option.bind · _) zoned).trans rfl

end FullText

namespace Instant

variable {text : List Char} {t : Instant}

/-- What the strict layout reads is the common part and a zone. -/
theorem exists_fullText_of_readStrict? (read : readStrict? text = some t) :
    ∃ separator ∈ ['T', 't', ' '], ∃ clock front seconds zone, FullText separator clock front ∧
      Zone seconds zone ∧ text = front ++ zone ∧ clock.instant? seconds = some t := by
  -- The readers one after another, and then what each of them has read.
  rw [readStrict?] at read
  obtain ⟨⟨year, _⟩, yearRead, read⟩ := Option.bind_eq_some_iff.1 read
  obtain ⟨⟨_, _⟩, dash, read⟩ := Option.bind_eq_some_iff.1 read
  obtain ⟨⟨month, _⟩, monthRead, read⟩ := Option.bind_eq_some_iff.1 read
  obtain ⟨⟨_, _⟩, dash', read⟩ := Option.bind_eq_some_iff.1 read
  obtain ⟨⟨day, _⟩, dayRead, read⟩ := Option.bind_eq_some_iff.1 read
  obtain ⟨⟨_, _⟩, separatorRead, read⟩ := Option.bind_eq_some_iff.1 read
  obtain ⟨⟨hour, _⟩, hourRead, read⟩ := Option.bind_eq_some_iff.1 read
  obtain ⟨⟨_, _⟩, colon, read⟩ := Option.bind_eq_some_iff.1 read
  obtain ⟨⟨minute, _⟩, minuteRead, read⟩ := Option.bind_eq_some_iff.1 read
  obtain ⟨⟨_, _⟩, colon', read⟩ := Option.bind_eq_some_iff.1 read
  obtain ⟨⟨second, _⟩, secondRead, read⟩ := Option.bind_eq_some_iff.1 read
  obtain ⟨⟨nano, _⟩, decimalsRead, read⟩ := Option.bind_eq_some_iff.1 read
  obtain ⟨⟨seconds, left⟩, zoneRead, given⟩ := Option.bind_eq_some_iff.1 read
  obtain ⟨y, rfl, isYear⟩ := (Reader.digits_eq_some_iff (Nat.zero_lt_succ 3)).1 yearRead
  obtain rfl := Reader.char_eq_some_iff.1 dash
  obtain ⟨mo, rfl, isMonth⟩ := (Reader.digits_eq_some_iff (Nat.zero_lt_succ 1)).1 monthRead
  obtain rfl := Reader.char_eq_some_iff.1 dash'
  obtain ⟨d, rfl, isDay⟩ := (Reader.digits_eq_some_iff (Nat.zero_lt_succ 1)).1 dayRead
  obtain ⟨separator, isSeparator, rfl⟩ := Reader.oneOf_eq_some_iff.1 separatorRead
  obtain ⟨h, rfl, isHour⟩ := (Reader.digits_eq_some_iff (Nat.zero_lt_succ 1)).1 hourRead
  obtain rfl := Reader.char_eq_some_iff.1 colon
  obtain ⟨mi, rfl, isMinute⟩ := (Reader.digits_eq_some_iff (Nat.zero_lt_succ 1)).1 minuteRead
  obtain rfl := Reader.char_eq_some_iff.1 colon'
  obtain ⟨s, rfl, isSecond⟩ := (Reader.digits_eq_some_iff (Nat.zero_lt_succ 1)).1 secondRead
  obtain ⟨f, rfl, isDecimals⟩ := Reader.decimals_eq_some decimalsRead
  have zoned : Reader.strictZone _ = some (seconds, left) := zoneRead
  obtain ⟨zone, rfl, isZone⟩ := Reader.strictZone_eq_some_iff.1 zoned
  dsimp only at given
  split at given
  · rename_i empty
    rw [List.isEmpty_iff] at empty
    exact ⟨separator, isSeparator, _, _, seconds, zone,
      .mk isYear isMonth isDay isHour isMinute isSecond isDecimals, isZone, by simp [empty], given⟩
  · cases given

/-- **The strict layout** is a date and a time of day in full digits, and a zone. -/
theorem readStrict?_eq_some_iff : readStrict? text = some t ↔
    ∃ separator ∈ ['T', 't', ' '], ∃ clock front seconds zone, FullText separator clock front ∧
      Zone seconds zone ∧ text = front ++ zone ∧ clock.instant? seconds = some t := by
  refine ⟨exists_fullText_of_readStrict?, ?_⟩
  rintro ⟨separator, isSeparator, clock, front, seconds, zone, full, isZone, rfl, given⟩
  rw [full.readStrict? isSeparator isZone, given]

/-- **No text is in both layouts.** -/
theorem readZoneless?_of_readStrict? (read : readStrict? text = some t) : readZoneless? text = none := by
  obtain ⟨_, -, _, front, _, zone, full, isZone, rfl, -⟩ := readStrict?_eq_some_iff.1 read
  rw [full.readZoneless? isZone.ends, if_neg fun both => isZone.ne_nil both.2]

/-- **A text in the strict layout that ends in `Z`** is without it in the zoneless layout. -/
theorem readZoneless?_of_utc (read : readStrict? (text ++ ['Z']) = some t)
    (separated : text[10]? = some 'T') : readZoneless? text = some t := by
  obtain ⟨separator, -, clock, front, seconds, zone, full, isZone, whole, given⟩ :=
    readStrict?_eq_some_iff.1 read
  obtain ⟨rfl, rfl⟩ := isZone.of_append whole.symm
  have isT : separator = 'T' := Option.some.inj (full.getElem?_ten.symm.trans separated)
  have zoneless := full.readZoneless? ends_nil
  rwa [List.append_nil, if_pos ⟨isT, rfl⟩, given] at zoneless

end Instant

end TaskLedger.Time
