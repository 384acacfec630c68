/-
**Entries put into a table one after another.**

* `get?_foldl_insert_of_mem`, `get?_foldl_insert_of_not_mem` — the value under each key afterwards.
* `get?_foldl_insert` — what was there before shows only under the keys that were not put in.
* `ofList_entries` — a table is what comes of its own entries; `mem_of_get?_ofList` — whatever comes of
  entries is one of them.
* `map_eq_self_iff` — a function on values leaves a table as it is if it leaves every value as it is.
* `mem_keys_iff`, `mem_values_iff` — the keys and the values, seen through lookups.
* `filterMap_key` — the entries of a key are its value, if it has one.
-/
import TaskLedger.Table
import Mathlib.Data.List.Induction
import Mathlib.Data.List.Perm.Subperm

namespace TaskLedger.Table

variable {κ υ : Type} [Ord κ] [Std.TransOrd κ] [Std.LawfulEqOrd κ]

theorem get?_foldl_insert_of_not_mem {entries : List (κ × υ)} (table : Table κ υ) {key : κ}
    (absent : key ∉ entries.map (·.1)) :
    (entries.foldl (fun table entry => table.insert entry.1 entry.2) table).get? key =
      table.get? key := by
  induction entries generalizing table with
  | nil => rfl
  | cons entry rest ih =>
    rw [List.map_cons, List.mem_cons, not_or] at absent
    rw [List.foldl_cons, ih _ absent.2, get?_insert_of_ne _ _ absent.1]

theorem get?_foldl_insert_of_mem {entries : List (κ × υ)} (table : Table κ υ) {key : κ}
    {value : υ} (distinct : (entries.map (·.1)).Nodup) (member : (key, value) ∈ entries) :
    (entries.foldl (fun table entry => table.insert entry.1 entry.2) table).get? key =
      some value := by
  induction entries generalizing table with
  | nil => cases member
  | cons entry rest ih =>
    rw [List.map_cons, List.nodup_cons] at distinct
    rw [List.foldl_cons]
    rcases List.mem_cons.1 member with rfl | member
    · rw [get?_foldl_insert_of_not_mem _ distinct.1, get?_insert_self]
    · exact ih _ distinct.2 member

theorem get?_foldl_insert (entries : List (κ × υ)) (table : Table κ υ) (key : κ) :
    (entries.foldl (fun table entry => table.insert entry.1 entry.2) table).get? key =
      ((entries.foldl (fun table entry => table.insert entry.1 entry.2) (∅ : Table κ υ)).get? key).or
        (table.get? key) := by
  induction entries using List.reverseRecOn with
  | nil => rfl
  | append_singleton entries entry ih =>
    rw [List.foldl_append, List.foldl_append]
    show (Table.insert _ entry.1 entry.2).get? key = ((Table.insert _ entry.1 entry.2).get? key).or _
    by_cases own : key = entry.1
    · rw [own, get?_insert_self, get?_insert_self]
      rfl
    · rw [get?_insert_of_ne _ _ own, get?_insert_of_ne _ _ own, ih]

omit [Std.LawfulEqOrd κ] in
/-- The keys of a table differ. -/
theorem nodup_keys (table : Table κ υ) : (table.entries.map (·.1)).Nodup :=
  List.pairwise_map.2 (table.ascending.imp ne_of_compare_lt)

/-- **A table is what comes of its own entries.** -/
theorem ofList_entries (table : Table κ υ) : ofList table.entries = table := by
  refine ext_get? fun key => ?_
  cases held : table.get? key with
  | some value => exact get?_foldl_insert_of_mem ∅ table.nodup_keys (get?_eq_some_iff.1 held)
  | none =>
    refine get?_foldl_insert_of_not_mem ∅ fun listed => ?_
    obtain ⟨⟨_, value⟩, member, rfl⟩ := List.mem_map.1 listed
    rw [get?_eq_some_iff.2 member] at held
    cases held

/-- Whatever comes of entries is one of them. -/
theorem mem_of_get?_ofList {entries : List (κ × υ)} {key : κ} {value : υ}
    (held : (ofList entries).get? key = some value) : (key, value) ∈ entries := by
  induction entries using List.reverseRecOn with
  | nil => cases held
  | append_singleton entries entry ih =>
    rw [ofList, List.foldl_append] at held
    by_cases own : key = entry.1
    · subst own
      have last : entry.2 = value := Option.some.inj ((get?_insert_self ..).symm.trans held)
      exact List.mem_append_right _ (last ▸ List.mem_singleton_self entry)
    · have before : (ofList entries).get? key = some value :=
        (get?_insert_of_ne _ _ own).symm.trans held
      exact List.mem_append_left _ (ih before)

/-- **A table stays as it is** under a function that leaves all its values as they are. -/
theorem map_eq_self_iff {change : υ → υ} {table : Table κ υ} :
    table.map change = table ↔ ∀ key value, table.get? key = some value → change value = value := by
  constructor
  · intro same key value held
    have changed : (table.map change).get? key = some (change value) := by
      rw [Table.map, get?_filterMap, held]
      rfl
    rw [same, held] at changed
    exact (Option.some.inj changed).symm
  · intro kept
    refine ext_get? fun key => ?_
    rw [Table.map, get?_filterMap]
    cases held : table.get? key with
    | none => rfl
    | some value => exact congrArg some (kept key value held)

/-- The values are what stands under the keys. -/
theorem mem_values_iff {table : Table κ υ} {value : υ} :
    value ∈ table.values ↔ ∃ key, table.get? key = some value := by
  rw [values, List.mem_map]
  constructor
  · rintro ⟨entry, member, rfl⟩
    exact ⟨entry.1, get?_eq_some_iff.2 member⟩
  · rintro ⟨key, held⟩
    exact ⟨(key, value), get?_eq_some_iff.1 held, rfl⟩

/-- The keys are those that have a value. -/
theorem mem_keys_iff {table : Table κ υ} {key : κ} : key ∈ table.keys ↔ (table.get? key).isSome := by
  rw [keys, List.mem_map, Option.isSome_iff_exists]
  constructor
  · rintro ⟨entry, member, rfl⟩
    exact ⟨entry.2, get?_eq_some_iff.2 member⟩
  · rintro ⟨value, held⟩
    exact ⟨(key, value), get?_eq_some_iff.1 held, rfl⟩

/-- A table whose keys are all listed has no more entries than the list. -/
theorem size_le_length {table : Table κ υ} {keys : List κ}
    (listed : ∀ key value, table.get? key = some value → key ∈ keys) : table.size ≤ keys.length := by
  have inside : table.entries.map (·.1) ⊆ keys := by
    intro key member
    obtain ⟨entry, stored, rfl⟩ := List.mem_map.1 member
    exact listed entry.1 entry.2 (get?_eq_some_iff.2 stored)
  have fewer := (List.subperm_of_subset table.nodup_keys inside).length_le
  rwa [List.length_map] at fewer

/-! ### The entries of one key -/

omit [Std.TransOrd κ] in
theorem contains_eq_isSome (table : Table κ υ) (key : κ) :
    table.contains key = (table.get? key).isSome := by
  rw [contains, get?, Option.isSome_map, Bool.eq_iff_iff]
  simp

/-- A key has one entry if it has a value, and else none. -/
theorem filterMap_key [DecidableEq κ] (table : Table κ υ) (key : κ) :
    table.entries.filterMap (fun entry => if entry.1 = key then some entry.2 else none) =
      (table.get? key).toList := by
  obtain ⟨entries, ascending⟩ := table
  simp only [get?]
  induction entries with
  | nil => rfl
  | cons first rest ih =>
    obtain ⟨below, ascendingRest⟩ := List.pairwise_cons.1 ascending
    by_cases same : first.1 = key
    · have apart : ∀ entry ∈ rest, (if entry.1 = key then some entry.2 else none) = none :=
        fun entry member => if_neg fun again =>
          ne_of_compare_lt (below entry member) (same.trans again.symm)
      simp [same, List.filterMap_eq_nil_iff.2 apart]
    · have other : (compare first.1 key == .eq) = false := by simpa using same
      rw [List.filterMap_cons, ih ascendingRest, List.find?_cons, other]
      simp [same]

end TaskLedger.Table
