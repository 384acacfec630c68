/-
**Decimal digits.** Numbers as digits and back.

* `padded` — a number with leading zeros up to a width.
* `number` — what a run of digits counts; `number_padded` says that it undoes `padded`.
-/
namespace TaskLedger.Decimal

/-- The decimal digits of a number with zeros in front up to a width. -/
def padded (width : Nat) (n : Nat) : List Char :=
  (Nat.toDigits 10 n).leftpad width '0'

/-- The number that a run of decimal digits counts. -/
def number (digits : List Char) : Nat :=
  Nat.ofDigitChars 10 digits 0

private theorem ofDigitChars_zeros (count : Nat) (digits : List Char) :
    Nat.ofDigitChars 10 (List.replicate count '0' ++ digits) 0 = Nat.ofDigitChars 10 digits 0 := by
  induction count with
  | zero => rfl
  | succ count ih => simpa [List.replicate_succ, Nat.ofDigitChars] using ih

/-- **Padding changes no number.** -/
theorem number_padded (width n : Nat) : number (padded width n) = n := by
  rw [number, padded, List.leftpad, ofDigitChars_zeros]
  exact Nat.ofDigitChars_toDigits (by decide) (by decide)

end TaskLedger.Decimal
