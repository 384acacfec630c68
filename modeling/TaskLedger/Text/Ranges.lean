/-
**Ranges of characters.** Sets of characters as runs of their numbers.

* `Ranges` — the first and the last number of each run.
* `Ranges.contains` — the character is in one of the runs.
-/
namespace TaskLedger.Text

/-- Runs of character numbers, each with its first and its last. -/
abbrev Ranges := List (Nat × Nat)

/-- The character is in one of the runs. -/
def Ranges.contains (ranges : Ranges) (c : Char) : Bool :=
  ranges.any fun run => run.1 ≤ c.toNat && c.toNat ≤ run.2

end TaskLedger.Text
