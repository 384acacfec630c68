/-
**Instants.** Points in time to the nanosecond, leap seconds included.

* `Instant` — whole seconds since 1970 and nanoseconds; with a billion nanoseconds or more an instant
  lies inside a leap second, which may follow any second.
* `Instant.second_lt_or_nano_lt` — the order: first by second, then by nanosecond.
* `Instant.add?` — an instant moved by nanoseconds; a move that stays inside a leap second is exact,
  and the end of a leap second is the start of the next second.
* `Instant.since` — the signed distance between two instants.
-/
import TaskLedger.Time.Calendar

namespace TaskLedger.Time

/-- The nanoseconds of a second. -/
abbrev nanosPerSecond : Nat := 1000000000

/-- The seconds of a day. -/
abbrev secondsPerDay : Nat := 86400

/-- The first year that instants reach. -/
abbrev firstYear : Int := -262143

/-- The last year that instants reach. -/
abbrev lastYear : Int := 262142

/-- The first second that instants reach, the start of the first year. -/
abbrev firstSecond : Int := -8334601228800

/-- The last second that instants reach, the end of the last year. -/
abbrev lastSecond : Int := 8210266876799

theorem firstSecond_eq : firstSecond = (Date.mk firstYear 1 1).dayNumber * secondsPerDay := by
  decide

theorem lastSecond_eq :
    lastSecond = (Date.mk lastYear 12 31).dayNumber * secondsPerDay + (secondsPerDay - 1) := by
  decide

/-- A point in time. -/
structure Instant where
  /-- Whole seconds since the start of 1970. -/
  second : Int
  /-- Nanoseconds within the second; a billion or more inside the leap second that follows it. -/
  nano : Nat
  first_le : firstSecond ≤ second
  le_last : second ≤ lastSecond
  nano_lt : nano < 2 * nanosPerSecond
deriving DecidableEq

namespace Instant

/-- The instant with these parts, if there is one. -/
def of? (second : Int) (nano : Nat) : Option Instant :=
  if valid : firstSecond ≤ second ∧ second ≤ lastSecond ∧ nano < 2 * nanosPerSecond then
    some ⟨second, nano, valid.1, valid.2.1, valid.2.2⟩
  else none

theorem of?_self (t : Instant) : of? t.second t.nano = some t := by
  rw [of?, dif_pos ⟨t.first_le, t.le_last, t.nano_lt⟩]

theorem of?_eq_some {second : Int} {nano : Nat} {t : Instant} (made : of? second nano = some t) :
    t.second = second ∧ t.nano = nano := by
  unfold of? at made
  split at made
  · cases made
    exact ⟨rfl, rfl⟩
  · cases made

/-- The start of 1970. -/
def epoch : Instant :=
  ⟨0, 0, by decide, by decide, by decide⟩

instance : Inhabited Instant := ⟨epoch⟩

/-- The instant lies inside a leap second. -/
def inLeap (t : Instant) : Bool :=
  nanosPerSecond ≤ t.nano

@[ext] theorem ext {a b : Instant} (second : a.second = b.second) (nano : a.nano = b.nano) :
    a = b := by
  cases a; cases b; cases second; cases nano; rfl

/-! ### Order -/

instance : Ord Instant := ⟨compareLex (compareOn second) (compareOn nano)⟩

instance : Std.TransOrd Instant :=
  inferInstanceAs (Std.TransCmp (compareLex (compareOn second) (compareOn nano)))

instance : Std.LawfulEqOrd Instant where
  eq_of_compare {a b} equal := by
    have parts : ((compare a.second b.second).then (compare a.nano b.nano)) = .eq := equal
    rw [Ordering.then_eq_eq] at parts
    exact ext (Std.LawfulEqOrd.eq_of_compare parts.1) (Std.LawfulEqOrd.eq_of_compare parts.2)

instance : LT Instant := ⟨fun a b => a.second < b.second ∨ a.second = b.second ∧ a.nano < b.nano⟩

instance : LE Instant := ⟨fun a b => a.second < b.second ∨ a.second = b.second ∧ a.nano ≤ b.nano⟩

theorem lt_iff {a b : Instant} :
    a < b ↔ a.second < b.second ∨ a.second = b.second ∧ a.nano < b.nano := Iff.rfl

theorem le_iff {a b : Instant} :
    a ≤ b ↔ a.second < b.second ∨ a.second = b.second ∧ a.nano ≤ b.nano := Iff.rfl

instance (a b : Instant) : Decidable (a < b) := by rw [lt_iff]; infer_instance

instance (a b : Instant) : Decidable (a ≤ b) := by rw [le_iff]; infer_instance

/-- The later of two instants. -/
instance : Max Instant := ⟨fun a b => if a ≤ b then b else a⟩

/-- **Comparison agrees with the order.** -/
theorem compare_eq_lt_iff {a b : Instant} : compare a b = .lt ↔ a < b := by
  have unfolded : compare a b = (compare a.second b.second).then (compare a.nano b.nano) := rfl
  rw [unfolded, Ordering.then_eq_lt, lt_iff, Int.compare_eq_lt, Int.compare_eq_eq,
    Nat.compare_eq_lt]

/-! ### Moving and measuring -/

/-- The instant a whole number of seconds and a part of a second after a point outside any leap
second, the part carried over into seconds. -/
def carry? (second : Int) (nano : Int) : Option Instant :=
  of? (second + nano / nanosPerSecond) (nano % nanosPerSecond).toNat

/-- The instant a signed number of nanoseconds later, if it is in range. Inside a leap second a move
by less than a second stays there while it can; any other move leaves the leap second first, forwards
from the second before it and backwards from the second after it. -/
def add? (t : Instant) (nanos : Int) : Option Instant :=
  let whole := nanos.tdiv nanosPerSecond
  let part := nanos.tmod nanosPerSecond
  if t.inLeap then
    if 0 < whole ∨ 0 < part ∧ 2 * (nanosPerSecond : Int) ≤ t.nano + part then
      carry? (t.second + whole) (t.nano - nanosPerSecond + part)
    else if whole < 0 then
      carry? (t.second + 1 + whole) (t.nano - nanosPerSecond + part)
    else of? t.second (t.nano + part).toNat
  else carry? (t.second + whole) (t.nano + part)

/-- The second of the day. -/
def secondOfDay (t : Instant) : Nat :=
  (t.second % secondsPerDay).toNat

/-- The seconds that a leap second adds to the distance from the second instant to the first: it
counts once it is over on the clock, whatever the days between. -/
def leapBetween (a b : Instant) : Int :=
  if b.secondOfDay < a.secondOfDay ∧ b.inLeap then 1
  else if a.secondOfDay < b.secondOfDay ∧ a.inLeap then -1
  else 0

/-- The signed nanoseconds from the second instant to the first. -/
def since (a b : Instant) : Int :=
  (a.second - b.second + a.leapBetween b) * nanosPerSecond + (a.nano - b.nano)

end Instant

end TaskLedger.Time
