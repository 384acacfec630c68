/-
**Read instants.** The three layouts in which a time is accepted.

* `Instant.readStrict?` — fixed digit counts and a zone, nothing more.
* `Instant.readZoneless?` — a time in UTC without a zone; numbers may be shorter and have blanks
  before them.
* `Instant.readRelaxed?` — the layout of records: numbers as without a zone, blanks at most places,
  and a zone.
* `Clock.instant?` — the common end: a date that exists and fields in range give an instant, and
  second `60` is the leap second after second `59`.
-/
import TaskLedger.Time.Instant
import TaskLedger.Decimal.Digits
import TaskLedger.Text.Blank

namespace TaskLedger.Time

open Decimal (number)
open Text (skipBlanks)

/-- The fields of a written time, as they were read. -/
structure Clock where
  date : Date
  hour : Nat
  minute : Nat
  /-- Up to `60`, the leap second. -/
  second : Nat
  nano : Nat

/-- The instant at which clocks ahead of UTC by `offset` seconds show these fields. -/
def Clock.instant? (clock : Clock) (offset : Int) : Option Instant :=
  if firstYear ≤ clock.date.year ∧ clock.date.year ≤ lastYear ∧ clock.date.Exists ∧
      clock.hour < 24 ∧ clock.minute < 60 ∧ clock.second ≤ 60 then
    let second := clock.date.dayNumber * secondsPerDay + (clock.hour * 3600 + clock.minute * 60 : Nat)
    if clock.second = 60 then Instant.of? (second + 59 - offset) (nanosPerSecond + clock.nano)
    else Instant.of? (second + clock.second - offset) clock.nano
  else none

/-- A reader of the front of a text: what it read and the text after it. -/
abbrev Reader (α : Type) := List Char → Option (α × List Char)

namespace Reader

/-- Exactly this many digits. -/
def digits (count : Nat) : Reader Nat := fun text =>
  let front := text.take count
  if front.length = count ∧ front.all Char.isDigit then some (number front, text.drop count)
  else none

/-- As many digits as stand there, up to a number of them, and at least one. -/
def someDigits (most : Nat) : Reader Nat := fun text =>
  let front := (text.take most).takeWhile Char.isDigit
  if front.isEmpty then none else some (number front, text.drop front.length)

/-- All digits that stand there, at least one. -/
def allDigits : Reader Nat := fun text =>
  let front := text.takeWhile Char.isDigit
  if front.isEmpty then none else some (number front, text.drop front.length)

/-- One given character. -/
def char (expected : Char) : Reader Unit
  | c :: rest => if c = expected then some ((), rest) else none
  | [] => none

/-- One of several characters. -/
def oneOf (expected : List Char) : Reader Unit
  | c :: rest => if c ∈ expected then some ((), rest) else none
  | [] => none

/-- The decimals of a second in nanoseconds, those after the ninth dropped; none without a point. -/
def decimals : Reader Nat
  | '.' :: rest =>
    let all := rest.takeWhile Char.isDigit
    if all.isEmpty then none
    else
      let kept := all.take 9
      some (number (kept.rightpad 9 '0'), rest.dropWhile Char.isDigit)
  | text => some (0, text)

/-- A year: up to four digits, or a sign and any number of them, blanks before. -/
def year : Reader Int := fun text =>
  match skipBlanks text with
  | '-' :: rest => do let (n, rest) ← allDigits rest; some (-(n : Int), rest)
  | '+' :: rest => do let (n, rest) ← allDigits rest; some ((n : Int), rest)
  | rest => do let (n, rest) ← someDigits 4 rest; some ((n : Int), rest)

/-- A number of one or two digits, blanks before. -/
def short : Reader Nat := fun text =>
  someDigits 2 (skipBlanks text)

/-- A sign of an offset: `1` for ahead of UTC. -/
def sign : Reader Int
  | '+' :: rest => some (1, rest)
  | '-' :: rest => some (-1, rest)
  | '\u2212' :: rest => some (-1, rest)
  | _ => none

/-- A signed offset in seconds, below a day; `between` is left out between hours and minutes. -/
def offset (between : Reader Unit) : Reader Int := fun text => do
  let (sign, rest) ← sign text
  let (hours, rest) ← digits 2 rest
  let ((), rest) ← between rest
  let (minutes, rest) ← digits 2 rest
  if hours < 24 ∧ minutes < 60 then some (sign * (hours * 3600 + minutes * 60 : Nat), rest)
  else none

end Reader

namespace Instant

open Reader

/-- The strict layout: every number with its full digits, `T`, `t` or a space between date and time,
and a zone. -/
def readStrict? (text : List Char) : Option Instant := do
  let (year, rest) ← digits 4 text
  let ((), rest) ← char '-' rest
  let (month, rest) ← digits 2 rest
  let ((), rest) ← char '-' rest
  let (day, rest) ← digits 2 rest
  let ((), rest) ← oneOf ['T', 't', ' '] rest
  let (hour, rest) ← digits 2 rest
  let ((), rest) ← char ':' rest
  let (minute, rest) ← digits 2 rest
  let ((), rest) ← char ':' rest
  let (second, rest) ← digits 2 rest
  let (nano, rest) ← decimals rest
  let (offset, rest) ← (
    match rest with
    | 'Z' :: rest => some (0, rest)
    | 'z' :: rest => some (0, rest)
    | rest => Reader.offset (char ':') rest)
  if rest.isEmpty then Clock.instant? ⟨⟨year, month, day⟩, hour, minute, second, nano⟩ offset
  else none

/-- The layout without a zone, read as UTC. -/
def readZoneless? (text : List Char) : Option Instant := do
  let (year, rest) ← year text
  let ((), rest) ← char '-' rest
  let (month, rest) ← short rest
  let ((), rest) ← char '-' rest
  let (day, rest) ← short rest
  let ((), rest) ← char 'T' rest
  let (hour, rest) ← short rest
  let ((), rest) ← char ':' rest
  let (minute, rest) ← short rest
  let ((), rest) ← char ':' rest
  let (second, rest) ← short rest
  let (nano, rest) ← decimals rest
  if rest.isEmpty then Clock.instant? ⟨⟨year, month, day⟩, hour, minute, second, nano⟩ 0
  else none

/-- Colons and blanks, as many as stand there. -/
def colonsAndBlanks : Reader Unit := fun text =>
  some ((), text.dropWhile fun c => c == ':' || Text.isBlank c)

/-- The zone of the relaxed layout: `Z`, `UTC` in any case, or an offset with colons and blanks
between its numbers. -/
def relaxedZone : Reader Int := fun text =>
  if (text.take 3).map Char.toUpper = ['U', 'T', 'C'] then some (0, text.drop 3)
  else
    match text with
    | 'Z' :: rest => some (0, rest)
    | 'z' :: rest => some (0, rest)
    | rest => Reader.offset colonsAndBlanks rest

/-- The relaxed layout, that of records. -/
def readRelaxed? (text : List Char) : Option Instant := do
  let (year, rest) ← year text
  let ((), rest) ← char '-' (skipBlanks rest)
  let (month, rest) ← short rest
  let ((), rest) ← char '-' (skipBlanks rest)
  let (day, rest) ← short rest
  let ((), rest) ← oneOf ['T', 't', ' '] rest
  let (hour, rest) ← short rest
  let ((), rest) ← char ':' (skipBlanks rest)
  let (minute, rest) ← short rest
  let ((), rest) ← char ':' (skipBlanks rest)
  let (second, rest) ← short rest
  let (nano, rest) ← decimals rest
  let (offset, rest) ← relaxedZone (skipBlanks rest)
  if (skipBlanks rest).isEmpty then
    Clock.instant? ⟨⟨year, month, day⟩, hour, minute, second, nano⟩ offset
  else none

end Instant

end TaskLedger.Time
