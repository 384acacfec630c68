/-
**The order of instants, and the instant a nanosecond later.**

* `LinearOrder Instant` — instants are linearly ordered, by second and then by nanosecond.
* `add?_one` — a nanosecond later is the next nanosecond of the second, also inside a leap second; at
  the end of an ordinary second and at the end of a leap second it is the start of the next second.
* `lt_of_add?_one` — the instant a nanosecond later is later.
* `IsLast`, `add?_one_eq_none_iff` — the end of the range, the last nanosecond of the last second or of
  its leap second: every other instant has one a nanosecond later.
-/
import TaskLedger.Time.Instant
import Mathlib.Order.Defs.LinearOrder

namespace TaskLedger.Time.Instant

/-! ### The order -/

theorem compare_eq (a b : Instant) : compare a b = compareOfLessAndEq a b := by
  unfold compareOfLessAndEq
  by_cases less : a < b
  · rw [if_pos less, compare_eq_lt_iff.2 less]
  · rw [if_neg less]
    by_cases same : a = b
    · rw [if_pos same, same]
      exact Std.ReflOrd.compare_self
    · rw [if_neg same]
      cases order : compare a b with
      | lt => exact absurd (compare_eq_lt_iff.1 order) less
      | eq => exact absurd (Std.LawfulEqOrd.eq_of_compare order) same
      | gt => rfl

instance : LinearOrder Instant where
  le_refl a := le_iff.2 (by omega)
  le_trans a b c first second := by
    rw [le_iff] at first second ⊢
    omega
  le_antisymm a b first second := by
    rw [le_iff] at first second
    exact ext (by omega) (by omega)
  lt_iff_le_not_ge a b := by
    rw [lt_iff, le_iff, le_iff]
    omega
  le_total a b := by
    rw [le_iff, le_iff]
    omega
  toDecidableLE := inferInstance
  toDecidableEq := inferInstance
  toDecidableLT := inferInstance
  compare_eq_compareOfLessAndEq := compare_eq

/-! ### A nanosecond later -/

/-- An instant outside the last nanosecond of its second. -/
theorem carry?_of_lt {second : Int} {nano : Nat} (inside : nano < nanosPerSecond) :
    carry? second nano = of? second nano := by
  have whole : (nano : Int) / nanosPerSecond = 0 := Int.ediv_eq_zero_of_lt (by omega) (by omega)
  have part : (nano : Int) % nanosPerSecond = nano := Int.emod_eq_of_lt (by omega) (by omega)
  rw [carry?, whole, part, Int.add_zero, Int.toNat_natCast]

theorem carry?_full (second : Int) : carry? second nanosPerSecond = of? (second + 1) 0 := rfl

/-- **A nanosecond later**, by the place in the second. -/
theorem add?_one (t : Instant) :
    t.add? 1 =
      if t.nano + 1 = nanosPerSecond ∨ t.nano + 1 = 2 * nanosPerSecond then of? (t.second + 1) 0
      else of? t.second (t.nano + 1) := by
  have whole : (1 : Int).tdiv nanosPerSecond = 0 := rfl
  have part : (1 : Int).tmod nanosPerSecond = 1 := rfl
  have bound := t.nano_lt
  simp only [add?, whole, part, inLeap, decide_eq_true_eq]
  by_cases leap : nanosPerSecond ≤ t.nano
  · rw [if_pos leap]
    by_cases full : t.nano + 1 = 2 * nanosPerSecond
    · have nano : (t.nano : Int) - nanosPerSecond + 1 = nanosPerSecond := by omega
      rw [if_pos (.inr ⟨by omega, by omega⟩), if_pos (.inr full), nano, Int.add_zero, carry?_full]
    · rw [if_neg (by omega), if_neg (by omega), if_neg (by omega)]
      rfl
  · rw [if_neg leap, Int.add_zero]
    by_cases full : t.nano + 1 = nanosPerSecond
    · have nano : (t.nano : Int) + 1 = nanosPerSecond := by omega
      rw [if_pos (.inl full), nano, carry?_full]
    · rw [if_neg (by omega)]
      have inside : t.nano + 1 < nanosPerSecond := by omega
      exact carry?_of_lt inside

/-- **The instant a nanosecond later is later.** -/
theorem lt_of_add?_one {t next : Instant} (later : t.add? 1 = some next) : t < next := by
  rw [add?_one] at later
  split at later <;> obtain ⟨second, nano⟩ := of?_eq_some later <;> rw [lt_iff] <;> omega

/-- The end of the range: the last nanosecond of the last second, or of its leap second. -/
def IsLast (t : Instant) : Prop :=
  t.second = lastSecond ∧ (t.nano + 1 = nanosPerSecond ∨ t.nano + 1 = 2 * nanosPerSecond)

instance (t : Instant) : Decidable t.IsLast :=
  inferInstanceAs (Decidable (_ ∧ _))

/-- **Every instant has one a nanosecond later**, except the end of the range. -/
theorem add?_one_eq_none_iff {t : Instant} : t.add? 1 = none ↔ t.IsLast := by
  have first := t.first_le
  have last := t.le_last
  have bound := t.nano_lt
  rw [IsLast, add?_one]
  by_cases full : t.nano + 1 = nanosPerSecond ∨ t.nano + 1 = 2 * nanosPerSecond
  · rw [if_pos full, of?]
    simp only [dite_eq_right_iff, reduceCtorEq, imp_false, full, and_true]
    omega
  · rw [if_neg full, of?]
    simp only [dite_eq_right_iff, reduceCtorEq, imp_false, full, and_false, iff_false]
    omega

/-- The last nanosecond of the last second. -/
def last : Instant :=
  ⟨lastSecond, 999999999, by decide, by decide, by decide⟩

/-- The last nanosecond of the leap second after it. -/
def lastLeap : Instant :=
  ⟨lastSecond, 1999999999, by decide, by decide, by decide⟩

end TaskLedger.Time.Instant
