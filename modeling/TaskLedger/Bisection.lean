/-
**Bisection.** Finding a place in a row that ascends, by halving it.

* `narrow` — the last place not after the one sought, as far as halving can tell.
* `search` — the place of an equal item, or the place where one would have to stand.
* `partitionPoint` — how many items come before the first that fails a test.

On a row that does not ascend the answers are those of these very probes, so the probes are part of
what the functions mean.
-/
namespace TaskLedger.Bisection

/-- Halves the row of `size` items from `base` on until one is left; each probe goes to the middle and
stays with it unless it comes after what is sought. -/
def narrow (isAfter : Nat → Bool) : (fuel base size : Nat) → Nat
  | 0, base, _ => base
  | fuel + 1, base, size =>
    if size ≤ 1 then base
    else
      let half := size / 2
      narrow isAfter fuel (if isAfter (base + half) then base else base + half) (size - half)

/-- The answer of a search. -/
inductive Found where
  | present (place : Nat)
  /-- Nothing equal was met; it would stand here. -/
  | absent (place : Nat)
deriving DecidableEq, Repr

/-- The place, whether or not an equal item is there. -/
def Found.place : Found → Nat
  | .present place => place
  | .absent place => place

/-- Searches a row of `size` items, given how each compares with what is sought. -/
def search (size : Nat) (compared : Nat → Ordering) : Found :=
  if size = 0 then .absent 0
  else
    let base := narrow (fun place => compared place == .gt) size 0 size
    match compared base with
    | .eq => .present base
    | .lt => .absent (base + 1)
    | .gt => .absent base

/-- Searches a list. -/
def searchList {α : Type} (items : List α) (compared : α → Ordering) : Found :=
  search items.length fun place => (items[place]?).elim .gt compared

/-- The number of items before the first that fails a test. -/
def partitionPoint {α : Type} (items : List α) (test : α → Bool) : Nat :=
  (searchList items fun item => if test item then .lt else .gt).place

end TaskLedger.Bisection
