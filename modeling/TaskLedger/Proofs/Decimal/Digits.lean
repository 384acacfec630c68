/-
**Runs of digits.** What written numbers look like, and where a run of digits ends.

* `padded_isDigits`, `length_padded` — a padded number is a run of digits, of the given width if it
  is not too large for it.
* `StartsPlain`, `takeWhile_isDigit_append`, `dropWhile_isDigit_append` — a run of digits ends where
  a text begins that starts with none.
* `number_lt` — what a run of digits counts has no more digits than the run.
* `number_rightpad` — zeros behind a run of digits count as powers of ten.
-/
import Mathlib.Algebra.Group.Nat.Defs
import TaskLedger.Decimal.Digits

namespace TaskLedger.Decimal

/-- Digits, at least one. -/
structure IsDigits (text : List Char) : Prop where
  ne_nil : text ≠ []
  all : ∀ c ∈ text, c.isDigit = true

theorem IsDigits.exists_cons {text : List Char} (isDigits : IsDigits text) :
    ∃ first rest, text = first :: rest ∧ first.isDigit = true := by
  obtain ⟨first, rest, rfl⟩ := List.exists_cons_of_ne_nil isDigits.ne_nil
  exact ⟨first, rest, rfl, isDigits.all first List.mem_cons_self⟩

theorem ne_of_isDigit {c other : Char} (digit : c.isDigit = true) (plain : other.isDigit = false) :
    c ≠ other := by
  rintro rfl
  rw [digit] at plain
  cases plain

/-- The text does not start with a digit. -/
def StartsPlain (text : List Char) : Prop :=
  ∀ c ∈ text.head?, c.isDigit = false

theorem StartsPlain.nil : StartsPlain [] :=
  fun _ first => nomatch first

theorem StartsPlain.cons {c : Char} {rest : List Char} (plain : c.isDigit = false) :
    StartsPlain (c :: rest) := by
  rintro _ ⟨⟩
  exact plain

section Runs

variable {digits rest : List Char}

theorem takeWhile_isDigit_append (all : ∀ c ∈ digits, c.isDigit = true) (plain : StartsPlain rest) :
    (digits ++ rest).takeWhile Char.isDigit = digits := by
  rw [List.takeWhile_append_of_pos all]
  cases rest with
  | nil => simp
  | cons c rest => rw [List.takeWhile_cons_of_neg (by simpa using plain c rfl), List.append_nil]

theorem dropWhile_isDigit_append (all : ∀ c ∈ digits, c.isDigit = true) (plain : StartsPlain rest) :
    (digits ++ rest).dropWhile Char.isDigit = rest := by
  rw [List.dropWhile_append_of_pos all]
  cases rest with
  | nil => rfl
  | cons c rest => exact List.dropWhile_cons_of_neg (by simpa using plain c rfl)

theorem ofDigitChars_lt (all : ∀ c ∈ digits, c.isDigit = true) (start : Nat) :
    Nat.ofDigitChars 10 digits start < (start + 1) * 10 ^ digits.length := by
  induction digits generalizing start with
  | nil => simp
  | cons c digits ih =>
    obtain ⟨digit, others⟩ := List.forall_mem_cons.1 all
    have small : c.toNat - '0'.toNat ≤ 9 := by
      simp only [Char.isDigit, Bool.and_eq_true, decide_eq_true_eq, UInt32.le_iff_toNat_le] at digit
      exact Nat.sub_le_sub_right digit.2 _
    rw [Nat.ofDigitChars_cons, List.length_cons, Nat.pow_succ', ← Nat.mul_assoc]
    exact Nat.lt_of_lt_of_le (ih others _) (Nat.mul_le_mul_right _ (by omega))

/-- **A run of digits** counts less than the power of ten of its length. -/
theorem number_lt (all : ∀ c ∈ digits, c.isDigit = true) : number digits < 10 ^ digits.length := by
  have bound := ofDigitChars_lt all 0
  rwa [Nat.zero_add, Nat.one_mul] at bound

end Runs

/-! ### Written numbers -/

section Padded

variable {width n : Nat}

theorem padded_isDigits (width n : Nat) : IsDigits (padded width n) where
  ne_nil := by
    rw [padded, List.leftpad]
    exact List.append_ne_nil_of_right_ne_nil _ Nat.toDigits_ne_nil
  all c mem := by
    rw [padded, List.leftpad, List.mem_append] at mem
    rcases mem with zero | digit
    · rw [List.eq_of_mem_replicate zero]
      rfl
    · exact Nat.isDigit_of_mem_toDigits (by decide) (by decide) digit

theorem length_padded (wide : 0 < width) (small : n < 10 ^ width) :
    (padded width n).length = width := by
  have short := (Nat.length_toDigits_le_iff (b := 10) (by decide) wide).2 small
  rw [padded, List.leftpad, List.length_append, List.length_replicate]
  omega

/-- **Zeros behind a run of digits** are powers of ten. -/
theorem number_rightpad (digits : List Char) (width : Nat) :
    number (digits.rightpad width '0') = number digits * 10 ^ (width - digits.length) := by
  rw [number, List.rightpad, Nat.ofDigitChars_append, Nat.ofDigitChars_replicate_zero, Nat.mul_comm]
  rfl

end Padded

end TaskLedger.Decimal
