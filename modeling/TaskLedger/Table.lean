/-
**Tables.** A finite map whose entries stand in ascending order of their keys.

* `Table` — the entries together with the proof that their keys ascend, so that a table is
  determined by what it holds.
* `get?`, `insert`, `erase`, `filterMap` — the operations, each keeping the order.
* `get?_insert_self`, `get?_insert_of_ne`, `get?_erase_self`, `get?_filterMap`, … — each operation seen
  through `get?`; `ext_get?` says that this view tells tables apart.
-/
namespace TaskLedger

/-- The keys of these entries ascend strictly. -/
abbrev Ascending {κ υ : Type} [Ord κ] (entries : List (κ × υ)) : Prop :=
  entries.Pairwise fun a b => compare a.1 b.1 = .lt

/-- A finite map, its entries in ascending order of the keys. -/
structure Table (κ υ : Type) [Ord κ] where
  entries : List (κ × υ)
  ascending : Ascending entries
deriving DecidableEq

namespace Table

variable {κ υ υ' : Type} [Ord κ]

instance : EmptyCollection (Table κ υ) := ⟨⟨[], .nil⟩⟩

instance : Inhabited (Table κ υ) := ⟨∅⟩

/-- The table holds nothing. -/
def isEmpty (table : Table κ υ) : Bool :=
  table.entries.isEmpty

/-- The number of entries. -/
def size (table : Table κ υ) : Nat :=
  table.entries.length

/-- The value under a key. -/
def get? (table : Table κ υ) (key : κ) : Option υ :=
  (table.entries.find? fun entry => compare entry.1 key == .eq).map (·.2)

/-- Some value stands under the key. -/
def contains (table : Table κ υ) (key : κ) : Bool :=
  table.entries.any fun entry => compare entry.1 key == .eq

/-- Puts an entry in its place, replacing the one with the same key. -/
def insertEntry (key : κ) (value : υ) : List (κ × υ) → List (κ × υ)
  | [] => [(key, value)]
  | entry :: rest =>
    match compare key entry.1 with
    | .lt => (key, value) :: entry :: rest
    | .eq => (key, value) :: rest
    | .gt => entry :: insertEntry key value rest

theorem mem_insertEntry {key : κ} {value : υ} {entries : List (κ × υ)} {entry : κ × υ}
    (mem : entry ∈ insertEntry key value entries) : entry = (key, value) ∨ entry ∈ entries := by
  induction entries with
  | nil => simpa [insertEntry] using mem
  | cons first rest ih =>
    rw [insertEntry] at mem
    split at mem <;> grind

/-- **Insertion keeps the order.** -/
theorem insertEntry_ascending [Std.TransOrd κ] {key : κ} {value : υ} {entries : List (κ × υ)}
    (ascending : Ascending entries) : Ascending (insertEntry key value entries) := by
  induction entries with
  | nil => simp [insertEntry, Ascending]
  | cons first rest ih =>
    obtain ⟨below, ascendingRest⟩ := List.pairwise_cons.1 ascending
    rw [insertEntry]
    split
    · rename_i before
      refine List.pairwise_cons.2 ⟨fun entry mem => ?_, ascending⟩
      rcases List.mem_cons.1 mem with rfl | mem
      · exact before
      · exact Std.TransCmp.lt_trans before (below entry mem)
    · rename_i same
      refine List.pairwise_cons.2 ⟨fun entry mem => ?_, ascendingRest⟩
      exact Std.TransCmp.lt_of_eq_of_lt same (below entry mem)
    · rename_i after
      refine List.pairwise_cons.2 ⟨fun entry mem => ?_, ih ascendingRest⟩
      rcases mem_insertEntry mem with rfl | mem
      · exact Std.OrientedCmp.gt_iff_lt.1 after
      · exact below entry mem

/-- The table with a value under a key, whatever stood there. -/
def insert [Std.TransOrd κ] (table : Table κ υ) (key : κ) (value : υ) : Table κ υ :=
  ⟨insertEntry key value table.entries, insertEntry_ascending table.ascending⟩

/-- The table without a key. -/
def erase (table : Table κ υ) (key : κ) : Table κ υ :=
  ⟨table.entries.filter fun entry => compare entry.1 key != .eq, table.ascending.filter _⟩

/-- The entries of a list put in one after another, so that of two with one key the later stays. -/
def ofList [Std.TransOrd κ] (entries : List (κ × υ)) : Table κ υ :=
  entries.foldl (fun table entry => table.insert entry.1 entry.2) ∅

/-- The keys, ascending. -/
def keys (table : Table κ υ) : List κ :=
  table.entries.map (·.1)

/-- The values in the order of their keys. -/
def values (table : Table κ υ) : List υ :=
  table.entries.map (·.2)

/-- The entries that satisfy a test. -/
def filter (keep : κ → υ → Bool) (table : Table κ υ) : Table κ υ :=
  ⟨table.entries.filter fun entry => keep entry.1 entry.2, table.ascending.filter _⟩

/-- Each value changed by a function; the values it refuses leave with their keys. -/
def filterMap (change : υ → Option υ') (table : Table κ υ) : Table κ υ' where
  entries := table.entries.filterMap fun entry => (change entry.2).map (entry.1, ·)
  ascending := by
    refine List.pairwise_filterMap.2 (table.ascending.imp fun before => ?_)
    rintro ⟨key, value⟩ changed ⟨key', value'⟩ changed'
    obtain ⟨_, _, equal⟩ := Option.map_eq_some_iff.1 changed
    obtain ⟨_, _, equal'⟩ := Option.map_eq_some_iff.1 changed'
    cases equal
    cases equal'
    exact before

/-- Each value changed by a function. -/
def map (change : υ → υ') (table : Table κ υ) : Table κ υ' :=
  table.filterMap (some ∘ change)

theorem entries_map (change : υ → υ') (table : Table κ υ) :
    (table.map change).entries = table.entries.map fun entry => (entry.1, change entry.2) :=
  congrFun List.filterMap_eq_map' table.entries

/-! ### Laws -/

/-- Keys that differ in order differ. -/
theorem ne_of_compare_lt [Std.TransOrd κ] {a b : κ} (less : compare a b = .lt) : a ≠ b := by
  rintro rfl
  simp at less

/-- A table is determined by its entries. -/
@[ext] theorem ext_entries {a b : Table κ υ} (same : a.entries = b.entries) : a = b := by
  cases a; cases b; cases same; rfl

@[simp] theorem get?_empty (key : κ) : (∅ : Table κ υ).get? key = none := rfl

/-- A value is found exactly where it stands among the entries. -/
theorem get?_eq_some_iff [Std.TransOrd κ] [Std.LawfulEqOrd κ] {table : Table κ υ} {key : κ}
    {value : υ} : table.get? key = some value ↔ (key, value) ∈ table.entries := by
  obtain ⟨entries, ascending⟩ := table
  simp only [get?]
  induction entries with
  | nil => simp
  | cons first rest ih =>
    obtain ⟨below, ascendingRest⟩ := List.pairwise_cons.1 ascending
    by_cases same : first.1 = key
    · have apart : (key, value) ∉ rest := fun mem => ne_of_compare_lt (below _ mem) same
      have equal : first = (key, value) ↔ first.2 = value := by
        obtain ⟨_, _⟩ := first
        simp_all
      simp [same, apart, equal, eq_comm]
    · have order : (compare first.1 key == .eq) = false := by simpa using same
      rw [List.find?_cons, order, ih ascendingRest, List.mem_cons]
      grind

theorem mem_insertEntry_iff [Std.TransOrd κ] [Std.LawfulEqOrd κ] {key : κ} {value : υ}
    {entries : List (κ × υ)} (ascending : Ascending entries) {entry : κ × υ} :
    entry ∈ insertEntry key value entries ↔
      entry = (key, value) ∨ entry.1 ≠ key ∧ entry ∈ entries := by
  induction entries with
  | nil => simp [insertEntry]
  | cons first rest ih =>
    obtain ⟨below, ascendingRest⟩ := List.pairwise_cons.1 ascending
    rw [insertEntry]
    split
    · rename_i before
      have fresh : ∀ other ∈ first :: rest, other.1 ≠ key := by
        intro other mem
        rcases List.mem_cons.1 mem with rfl | mem
        · exact (ne_of_compare_lt before).symm
        · exact (ne_of_compare_lt (Std.TransCmp.lt_trans before (below _ mem))).symm
      grind
    · rename_i same
      have same := Std.LawfulEqOrd.eq_of_compare same
      have apart : ∀ other ∈ rest, other.1 ≠ first.1 := fun other mem =>
        (ne_of_compare_lt (below _ mem)).symm
      grind
    · rename_i after
      have differ : first.1 ≠ key := ne_of_compare_lt (Std.OrientedCmp.gt_iff_lt.1 after)
      rw [List.mem_cons, ih ascendingRest]
      grind

section Laws

variable [Std.TransOrd κ] [Std.LawfulEqOrd κ]

@[simp] theorem get?_insert_self (table : Table κ υ) (key : κ) (value : υ) :
    (table.insert key value).get? key = some value :=
  get?_eq_some_iff.2 ((mem_insertEntry_iff table.ascending).2 (.inl rfl))

/-- Tables that answer alike agree. -/
theorem get?_congr {a b : Table κ υ} {key : κ}
    (same : ∀ value, (key, value) ∈ a.entries ↔ (key, value) ∈ b.entries) :
    a.get? key = b.get? key := by
  ext value
  rw [get?_eq_some_iff, get?_eq_some_iff, same]

theorem get?_insert_of_ne (table : Table κ υ) {key other : κ} (value : υ) (differ : other ≠ key) :
    (table.insert key value).get? other = table.get? other :=
  get?_congr fun _ => by
    rw [insert, mem_insertEntry_iff table.ascending]
    simp [differ]

@[simp] theorem get?_erase_self (table : Table κ υ) (key : κ) :
    (table.erase key).get? key = none := by
  rw [Option.eq_none_iff_forall_ne_some]
  intro value found
  have := get?_eq_some_iff.1 found
  simp [erase] at this

theorem get?_erase_of_ne (table : Table κ υ) {key other : κ} (differ : other ≠ key) :
    (table.erase key).get? other = table.get? other :=
  get?_congr fun _ => by simp [erase, differ]

omit [Std.LawfulEqOrd κ] in
/-- Ascending entries are determined by which they are. -/
theorem entries_eq_of_mem_iff {a b : List (κ × υ)} (ascendingA : Ascending a)
    (ascendingB : Ascending b) (same : ∀ entry, entry ∈ a ↔ entry ∈ b) : a = b := by
  induction a generalizing b with
  | nil =>
    cases b with
    | nil => rfl
    | cons first rest => exact absurd ((same first).2 (.head _)) (by simp)
  | cons first rest ih =>
    cases b with
    | nil => exact absurd ((same first).1 (.head _)) (by simp)
    | cons first' rest' =>
      obtain ⟨below, ascendingRest⟩ := List.pairwise_cons.1 ascendingA
      obtain ⟨below', ascendingRest'⟩ := List.pairwise_cons.1 ascendingB
      have heads : first = first' := by
        rcases List.mem_cons.1 ((same first).1 (.head _)) with equal | mem
        · exact equal
        · rcases List.mem_cons.1 ((same first').2 (.head _)) with equal | mem'
          · exact equal.symm
          · exact absurd rfl
              (ne_of_compare_lt (Std.TransCmp.lt_trans (below _ mem') (below' _ mem)))
      subst heads
      have apart : first ∉ rest := fun mem => ne_of_compare_lt (below _ mem) rfl
      have apart' : first ∉ rest' := fun mem => ne_of_compare_lt (below' _ mem) rfl
      rw [ih ascendingRest ascendingRest' fun entry => ?_]
      have := same entry
      grind

/-- **A table is determined by what it holds.** -/
theorem ext_get? {a b : Table κ υ} (same : ∀ key, a.get? key = b.get? key) : a = b := by
  refine ext_entries (entries_eq_of_mem_iff a.ascending b.ascending fun ⟨key, value⟩ => ?_)
  rw [← get?_eq_some_iff, ← get?_eq_some_iff, same]

/-- The values under all keys changed alike, those that are refused left out. -/
theorem get?_filterMap (table : Table κ υ) (change : υ → Option υ') (key : κ) :
    (table.filterMap change).get? key = (table.get? key).bind change := by
  ext value
  rw [get?_eq_some_iff, Option.bind_eq_some_iff]
  simp only [filterMap, List.mem_filterMap, Option.map_eq_some_iff, get?_eq_some_iff]
  constructor
  · rintro ⟨⟨key', before⟩, mem, after, changed, equal⟩
    cases equal
    exact ⟨before, mem, changed⟩
  · rintro ⟨before, mem, changed⟩
    exact ⟨(key, before), mem, value, changed, rfl⟩

/-- A filter on values under keys. -/
theorem get?_filter (table : Table κ υ) (keep : κ → υ → Bool) (key : κ) :
    (table.filter keep).get? key = (table.get? key).filter (keep key) := by
  ext value
  rw [get?_eq_some_iff, Option.filter_eq_some_iff, get?_eq_some_iff]
  simp [filter]

end Laws

end Table

end TaskLedger
