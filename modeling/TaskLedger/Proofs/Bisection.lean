/-
**Bisection on a row that ascends.** There the answer of a search says how the row falls apart around
what is sought.

* `Narrowed`, `narrowed` — the place that halving ends at: nothing up to it comes after what is sought,
  and everything beyond it does.
* `Ascends` — a row ascends as far as a comparison can tell.
* `SplitAt`, `splitAt_searchList` — the parts of the row before and behind the answer.
* `drop_partitionPoint` — what is left behind the partition point are the items that fail the test.
-/
import TaskLedger.Bisection
import Mathlib.Data.List.Basic

namespace TaskLedger.Bisection

/-! ### Halving -/

/-- A place in a row of `size` items from `base` on, with nothing after what is sought up to it. -/
structure Narrowed (isAfter : Nat → Bool) (base size place : Nat) : Prop where
  least : base ≤ place
  inside : place < base + size
  notAfter : ∀ other, base < other → other ≤ place → isAfter other = false
  after : ∀ other, place < other → other < base + size → isAfter other = true

theorem narrowed_one (isAfter : Nat → Bool) (base : Nat) : Narrowed isAfter base 1 base :=
  ⟨Nat.le_refl base, Nat.lt_succ_self base, fun _ _ _ => by omega, fun _ _ _ => by omega⟩

/-- **Halving ends at such a place.** -/
theorem narrowed {isAfter : Nat → Bool}
    (ascends : ∀ a b, a ≤ b → isAfter a = true → isAfter b = true) {fuel : Nat}
    (base : Nat) {size : Nat} (enough : size ≤ fuel + 1) (positive : 0 < size) :
    Narrowed isAfter base size (narrow isAfter fuel base size) := by
  induction fuel generalizing base size with
  | zero =>
    obtain rfl : size = 1 := by omega
    exact narrowed_one isAfter base
  | succ fuel ih =>
    rw [narrow]
    by_cases one : size ≤ 1
    · obtain rfl : size = 1 := by omega
      rw [if_pos one]
      exact narrowed_one isAfter base
    rw [if_neg one]
    show Narrowed isAfter base size (narrow isAfter fuel
      (if isAfter (base + size / 2) = true then base else base + size / 2) (size - size / 2))
    have half : size / 2 + size / 2 ≤ size ∧ 0 < size / 2 := by omega
    cases probe : isAfter (base + size / 2) with
    -- The upper half is after what is sought: from the probe on, as the row ascends.
    | true =>
      have lower : Narrowed isAfter base (size - size / 2) _ := ih base (by omega) (by omega)
      rw [if_pos rfl]
      refine ⟨lower.least, by have := lower.inside; omega, lower.notAfter, fun other beyond within => ?_⟩
      by_cases near : other < base + (size - size / 2)
      · exact lower.after other beyond near
      · exact ascends _ other (by omega) probe
    -- Nothing up to the probe is.
    | false =>
      have upper : Narrowed isAfter (base + size / 2) (size - size / 2) _ :=
        ih (base + size / 2) (by omega) (by omega)
      have whole : base + size / 2 + (size - size / 2) = base + size := by omega
      rw [if_neg Bool.false_ne_true]
      refine ⟨by have := upper.least; omega, whole ▸ upper.inside, fun other beyond upTo => ?_,
        whole ▸ upper.after⟩
      by_cases far : base + size / 2 < other
      · exact upper.notAfter other far upTo
      · refine Bool.eq_false_iff.2 fun late => ?_
        rw [ascends other _ (Nat.le_of_not_lt far) late] at probe
        cases probe

/-! ### Searching a list -/

section Search

variable {α : Type} {compared : α → Ordering} {items : List α}

/-- A row ascends as far as the comparison can tell. -/
def Ascends (compared : α → Ordering) (items : List α) : Prop :=
  items.Pairwise fun a b =>
    (compared a = .gt → compared b = .gt) ∧ (compared b = .lt → compared a = .lt)

/-- How a row falls apart around an answer. -/
inductive SplitAt (compared : α → Ordering) : List α → Found → Prop where
  | present (front : List α) (item : α) (back : List α) : compared item = .eq →
    (∀ other ∈ front, compared other ≠ .gt) → (∀ other ∈ back, compared other = .gt) →
    SplitAt compared (front ++ item :: back) (.present front.length)
  | absent (front back : List α) : (∀ other ∈ front, compared other = .lt) →
    (∀ other ∈ back, compared other = .gt) →
    SplitAt compared (front ++ back) (.absent front.length)

/-- The place that the halving of a list ends at, by the parts around it. -/
theorem exists_narrowed (ascends : Ascends compared items) (nonempty : items ≠ []) :
    ∃ front item back, items = front ++ item :: back ∧
      narrow (fun place => (items[place]?).elim .gt compared == .gt) items.length 0 items.length =
        front.length ∧
      (∀ other ∈ front, compared item ≠ .gt ∧ compared other ≠ .gt) ∧
      ∀ other ∈ back, compared other = .gt := by
  have later : ∀ a b : Nat, a ≤ b → ((items[a]?).elim .gt compared == .gt) = true →
      ((items[b]?).elim .gt compared == .gt) = true := by
    intro a b before isAfter
    rcases Nat.lt_or_ge b items.length with within | beyond
    · rcases Nat.eq_or_lt_of_le before with rfl | before
      · exact isAfter
      · rw [List.getElem?_eq_getElem (Nat.lt_trans before within), Option.elim_some,
          beq_iff_eq] at isAfter
        rw [List.getElem?_eq_getElem within, Option.elim_some, beq_iff_eq]
        exact (List.pairwise_iff_getElem.1 ascends a b _ within before).1 isAfter
    · rw [List.getElem?_eq_none beyond]
      rfl
  have found := narrowed later 0 (Nat.le_succ items.length) (List.length_pos_iff.2 nonempty)
  generalize narrow (fun place => (items[place]?).elim .gt compared == .gt) items.length 0 items.length =
    place at found
  have inside : place < items.length := by have := found.inside; omega
  have probed (other : Nat) (within : other < items.length) :
      ((items[other]?).elim .gt compared == .gt) = (compared items[other] == .gt) := by
    rw [List.getElem?_eq_getElem within, Option.elim_some]
  refine ⟨items.take place, items[place], items.drop (place + 1), ?_, ?_, ?_, ?_⟩
  · rw [List.getElem_cons_drop, List.take_append_drop]
  · rw [List.length_take, Nat.min_eq_left (Nat.le_of_lt inside)]
  · intro other member
    obtain ⟨earlier, within, rfl⟩ := List.getElem_of_mem member
    rw [List.length_take] at within
    have here := found.notAfter place (by omega) (Nat.le_refl _)
    rw [probed place inside, beq_eq_false_iff_ne] at here
    rw [List.getElem_take]
    exact ⟨here, fun isAfter => here
      ((List.pairwise_iff_getElem.1 ascends earlier place (by omega) inside (by omega)).1 isAfter)⟩
  · intro other member
    obtain ⟨further, within, rfl⟩ := List.getElem_of_mem member
    rw [List.length_drop] at within
    have beyond := found.after (place + 1 + further) (by omega) (by omega)
    rw [probed _ (by omega), beq_iff_eq] at beyond
    rw [List.getElem_drop]
    exact beyond

/-- **A search splits the row** around what is sought. -/
theorem splitAt_searchList (ascends : Ascends compared items) :
    SplitAt compared items (searchList items compared) := by
  by_cases empty : items = []
  · subst empty
    exact .absent [] [] (fun _ member => absurd member List.not_mem_nil)
      fun _ member => absurd member List.not_mem_nil
  obtain ⟨front, item, back, rfl, ends, before, behind⟩ := exists_narrowed ascends empty
  rw [searchList, search, if_neg (mt List.length_eq_zero_iff.1 empty), ends]
  dsimp only
  have here : ((front ++ item :: back)[front.length]?).elim .gt compared = compared item := by
    rw [List.getElem?_append_right (Nat.le_refl _), Nat.sub_self]
    rfl
  rw [here]
  cases order : compared item with
  | eq => exact .present front item back order (fun other member => (before other member).2) behind
  | lt =>
    have less : ∀ other ∈ front ++ [item], compared other = .lt := by
      intro other member
      rcases List.mem_append.1 member with inside | last
      · exact ((List.pairwise_append.1 ascends).2.2 other inside item (.head _)).2 order
      · rw [List.mem_singleton.1 last, order]
    have parts := SplitAt.absent (front ++ [item]) back less behind
    rwa [List.append_assoc, List.length_append] at parts
  | gt =>
    -- The halving has stopped at the first place, or it would not have come this far.
    cases front with
    | nil =>
      exact .absent [] (item :: back) (fun _ member => absurd member List.not_mem_nil)
        (List.forall_mem_cons.2 ⟨order, behind⟩)
    | cons first rest => exact absurd order (before first (.head _)).1

/-- **Behind the partition point** are the items that fail the test. -/
theorem drop_partitionPoint {test : α → Bool}
    (ascends : items.Pairwise fun a b => test b = true → test a = true) :
    items.drop (partitionPoint items test) = items.filter fun item => !test item := by
  have rising : Ascends (fun item => if test item then .lt else .gt) items := by
    refine ascends.imp fun {a b} earlier => ?_
    dsimp only
    by_cases late : test b = true
    · rw [if_pos (earlier late), if_pos late]
      exact ⟨nofun, fun _ => rfl⟩
    · rw [if_neg late]
      exact ⟨fun _ => rfl, nofun⟩
  have split := splitAt_searchList rising
  rw [partitionPoint]
  generalize searchList items (fun item => if test item then .lt else .gt) = found at split
  cases split with
  | present front item back same => split at same <;> cases same
  | absent front back before behind =>
    have passing : ∀ item ∈ front, test item = true := fun item member => by
      have less := before item member
      split at less
      · assumption
      · cases less
    have failing : ∀ item ∈ back, test item = false := fun item member => by
      have greater := behind item member
      split at greater
      · cases greater
      · exact Bool.eq_false_iff.2 ‹_›
    rw [Found.place, List.drop_left, List.filter_append, List.filter_eq_nil_iff.2, List.nil_append,
      List.filter_eq_self.2]
    · exact fun item member => by rw [failing item member]; rfl
    · exact fun item member => by rw [passing item member]; exact Bool.false_ne_true

end Search

end TaskLedger.Bisection
