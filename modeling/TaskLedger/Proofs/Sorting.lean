/-
**Stable sorting.** What a sorted list is, given which entries come first among equals.

* `mergeSort_stable` — a sorted list ascends, and equals stand in their old order.
* `eq_mergeSort_of_stable` — a rearrangement of a list that ascends like this is the list sorted.
-/
import Mathlib.Data.List.Perm.Basic

namespace TaskLedger

variable {α : Type} {le : α → α → Bool} {before : α → α → Prop} {entries : List α}

/-- **A sorted list** ascends, and of two equal entries the one that was before the other still is. -/
theorem mergeSort_stable (trans : ∀ a b c, le a b → le b c → le a c)
    (total : ∀ a b, le a b || le b a) (ordered : entries.Pairwise before) :
    (entries.mergeSort le).Pairwise fun a b => le a b ∧ (le b a → before a b) := by
  -- Sorted with their places, entries are compared by place where they are equal otherwise.
  have perm := List.mergeSort_perm entries.zipIdx (List.zipIdxLE le)
  have sorted : (entries.zipIdx.mergeSort (List.zipIdxLE le)).Pairwise
      fun a b => List.zipIdxLE le a b = true :=
    List.pairwise_mergeSort (List.zipIdxLE_trans trans) (List.zipIdxLE_total total) entries.zipIdx
  have distinct : ((entries.zipIdx.mergeSort (List.zipIdxLE le)).map (·.2)).Nodup := by
    rw [(perm.map _).nodup_iff, List.zipIdx_map_snd]
    exact List.nodup_range'
  rw [← List.mergeSort_zipIdx, List.pairwise_map]
  refine (sorted.and (List.pairwise_map.1 distinct)).imp_of_mem ?_
  rintro ⟨a, place⟩ ⟨b, place'⟩ memberA memberB ⟨ascends, apart⟩
  obtain ⟨inside, rfl⟩ := List.getElem?_eq_some_iff.1
    (List.mk_mem_zipIdx_iff_getElem?.1 (perm.subset memberA))
  obtain ⟨inside', rfl⟩ := List.getElem?_eq_some_iff.1
    (List.mk_mem_zipIdx_iff_getElem?.1 (perm.subset memberB))
  simp only [List.zipIdxLE, Bool.if_false_right, Bool.if_true_right, Bool.and_eq_true,
    decide_eq_true_eq, Bool.or_eq_true, Bool.not_eq_true'] at ascends
  refine ⟨ascends.1, fun tie => ?_⟩
  have nearer : place < place' := by grind
  exact List.pairwise_iff_getElem.1 ordered place place' inside inside' nearer

/-- A rearrangement that ascends, with equals in their old order, is the sorted list. -/
theorem eq_mergeSort_of_stable {sorted : List α} (trans : ∀ a b c, le a b → le b c → le a c)
    (total : ∀ a b, le a b || le b a) (asymm : ∀ a b, before a b → ¬before b a)
    (ordered : entries.Pairwise before) (perm : sorted.Perm entries)
    (stable : sorted.Pairwise fun a b => le a b ∧ (le b a → before a b)) :
    sorted = entries.mergeSort le := by
  refine List.Perm.eq_of_pairwise (fun a b _ _ ⟨first, tie⟩ ⟨second, tie'⟩ => ?_) stable
    (mergeSort_stable trans total ordered) (perm.trans (List.mergeSort_perm entries le).symm)
  exact absurd (tie' first) (asymm a b (tie second))

end TaskLedger
