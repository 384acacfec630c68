/-
**The newest record of a task.** What a row of recorded tasks says of one task. The row is in the order
of the records; the stamps may come in any order, and a task without identifier or stamp is no record.

* `recordsOf` — the records of one task, each with its stamp.
* `greatest`, `newestOf` — the greatest stamp recorded for a task, and the earliest value recorded with it.
* `greatest_append`, `newestOf_append_of_not_lt` — later records raise the greatest stamp or leave the
  newest value as it was.
* `newestOf_eq_of_perm` — while no two values of a task share a stamp, the newest value is the same for
  every order of the records.
-/
import TaskLedger.Proofs.Time.Successor
import TaskLedger.Task.Basic
import Mathlib.Data.List.MinMax

namespace TaskLedger

open Time (Instant)

/-- The task with its stamp, if it is a record of the task with this identifier. -/
def Task.recordOf? (id : TaskId) (task : Task) : Option (Instant × Task) :=
  if task.id = some id then task.stamp.map fun stamp => (stamp, task) else none

/-- The records of one task among the recorded tasks. -/
def recordsOf (id : TaskId) (recorded : List Task) : List (Instant × Task) :=
  recorded.filterMap (Task.recordOf? id)

/-- The greatest stamp recorded for a task; `⊥` when there is none. -/
def greatest (id : TaskId) (recorded : List Task) : WithBot Instant :=
  ((recordsOf id recorded).map (·.1)).maximum

/-- The earliest recorded value that carries the greatest stamp of a task. -/
def newestOf (id : TaskId) (recorded : List Task) : Option Task :=
  ((recordsOf id recorded).argmax (·.1)).map (·.2)

/-! ### The records of a task -/

theorem Task.recordOf?_eq_some_iff {id : TaskId} {task value : Task} {stamp : Instant} :
    task.recordOf? id = some (stamp, value) ↔
      task.id = some id ∧ task.stamp = some stamp ∧ value = task := by
  unfold recordOf?
  by_cases own : task.id = some id
  · rw [if_pos own, Option.map_eq_some_iff]
    simp only [own, true_and, Prod.mk.injEq]
    constructor
    · rintro ⟨_, stamped, rfl, rfl⟩
      exact ⟨stamped, rfl⟩
    · rintro ⟨stamped, rfl⟩
      exact ⟨stamp, stamped, rfl, rfl⟩
  · simp [own]

theorem Task.recordOf?_eq_some {id : TaskId} {task : Task} {stamp : Instant}
    (named : task.id = some id) (stamped : task.stamp = some stamp) :
    task.recordOf? id = some (stamp, task) :=
  recordOf?_eq_some_iff.2 ⟨named, stamped, rfl⟩

/-- A task is no record of another one. -/
theorem Task.recordOf?_of_ne {id other : TaskId} {task : Task} (named : task.id = some id)
    (differ : other ≠ id) : task.recordOf? other = none := by
  rw [recordOf?, named, if_neg fun same => differ (Option.some.inj same).symm]

theorem mem_recordsOf {id : TaskId} {recorded : List Task} {stamp : Instant} {task : Task} :
    (stamp, task) ∈ recordsOf id recorded ↔
      task ∈ recorded ∧ task.id = some id ∧ task.stamp = some stamp := by
  rw [recordsOf, List.mem_filterMap]
  constructor
  · rintro ⟨value, member, record⟩
    obtain ⟨named, stamped, rfl⟩ := Task.recordOf?_eq_some_iff.1 record
    exact ⟨member, named, stamped⟩
  · rintro ⟨member, named, stamped⟩
    exact ⟨task, member, Task.recordOf?_eq_some named stamped⟩

theorem recordsOf_append (id : TaskId) (recorded more : List Task) :
    recordsOf id (recorded ++ more) = recordsOf id recorded ++ recordsOf id more :=
  List.filterMap_append

theorem recordsOf_concat_of_none {id : TaskId} {task : Task} (none : task.recordOf? id = none)
    (recorded : List Task) : recordsOf id (recorded ++ [task]) = recordsOf id recorded := by
  rw [recordsOf_append, recordsOf, recordsOf, List.filterMap_cons, none, List.filterMap_nil,
    List.append_nil]

theorem recordsOf_concat_of_some {id : TaskId} {task : Task} {stamp : Instant}
    (record : task.recordOf? id = some (stamp, task)) (recorded : List Task) :
    recordsOf id (recorded ++ [task]) = recordsOf id recorded ++ [(stamp, task)] := by
  rw [recordsOf_append, recordsOf, recordsOf, List.filterMap_cons, record, List.filterMap_nil]

/-! ### The greatest stamp -/

theorem greatest_append (id : TaskId) (recorded more : List Task) :
    greatest id (recorded ++ more) = max (greatest id recorded) (greatest id more) := by
  rw [greatest, recordsOf_append, List.map_append, List.maximum_append, greatest, greatest]

theorem greatest_le_append (id : TaskId) (recorded more : List Task) :
    greatest id recorded ≤ greatest id (recorded ++ more) := by
  rw [greatest_append]
  exact le_max_left _ _

theorem greatest_concat_of_none {id : TaskId} {task : Task} (none : task.recordOf? id = none)
    (recorded : List Task) : greatest id (recorded ++ [task]) = greatest id recorded := by
  rw [greatest, recordsOf_concat_of_none none, greatest]

theorem greatest_concat_of_some {id : TaskId} {task : Task} {stamp : Instant}
    (record : task.recordOf? id = some (stamp, task)) (recorded : List Task) :
    greatest id (recorded ++ [task]) = max (greatest id recorded) stamp := by
  rw [greatest, recordsOf_concat_of_some record, List.map_append, List.map_singleton,
    List.maximum_concat, greatest]

/-- A record that is no news leaves the greatest stamp as it was. -/
theorem greatest_concat_of_stale {id : TaskId} {task : Task} {recorded : List Task}
    (stale : ∀ stamp, task.recordOf? id = some (stamp, task) → ¬greatest id recorded < stamp) :
    greatest id (recorded ++ [task]) = greatest id recorded := by
  cases record : task.recordOf? id with
  | none => exact greatest_concat_of_none record recorded
  | some pair =>
    obtain ⟨stamp, value⟩ := pair
    obtain ⟨-, -, rfl⟩ := Task.recordOf?_eq_some_iff.1 record
    rw [greatest_concat_of_some record]
    exact max_eq_left (not_lt.1 (stale stamp record))

theorem le_greatest {id : TaskId} {recorded : List Task} {task : Task} {stamp : Instant}
    (member : task ∈ recorded) (named : task.id = some id) (stamped : task.stamp = some stamp) :
    (stamp : WithBot Instant) ≤ greatest id recorded :=
  List.le_maximum_of_mem' (List.mem_map_of_mem (f := Prod.fst)
    (mem_recordsOf.2 ⟨member, named, stamped⟩))

/-! ### The newest value -/

theorem newestOf_concat_of_none {id : TaskId} {task : Task} (none : task.recordOf? id = none)
    (recorded : List Task) : newestOf id (recorded ++ [task]) = newestOf id recorded := by
  rw [newestOf, recordsOf_concat_of_none none, newestOf]

/-- What is known of the newest value. -/
theorem newestOf_eq_some {id : TaskId} {recorded : List Task} {task : Task}
    (found : newestOf id recorded = some task) :
    task ∈ recorded ∧ task.id = some id ∧
      ∃ stamp, task.stamp = some stamp ∧ greatest id recorded = stamp := by
  obtain ⟨⟨stamp, value⟩, top, rfl⟩ := Option.map_eq_some_iff.1 found
  obtain ⟨member, named, stamped⟩ := mem_recordsOf.1 (List.argmax_mem top)
  refine ⟨member, named, stamp, stamped, List.maximum_eq_coe_iff.2 ⟨?_, ?_⟩⟩
  · exact List.mem_map_of_mem (f := Prod.fst) (List.argmax_mem top)
  · rw [List.forall_mem_map]
    exact fun record inside => List.le_of_mem_argmax inside top

theorem newestOf_eq_none_iff {id : TaskId} {recorded : List Task} :
    newestOf id recorded = none ↔ greatest id recorded = ⊥ := by
  rw [newestOf, Option.map_eq_none_iff, List.argmax_eq_none, greatest, List.maximum_eq_bot,
    List.map_eq_nil_iff]

/-- A record with a greater stamp than all before it becomes the newest value. -/
theorem newestOf_concat_of_lt {id : TaskId} {task : Task} {stamp : Instant}
    (record : task.recordOf? id = some (stamp, task)) {recorded : List Task}
    (news : greatest id recorded < stamp) : newestOf id (recorded ++ [task]) = some task := by
  rw [newestOf, recordsOf_concat_of_some record, List.argmax_concat]
  cases top : (recordsOf id recorded).argmax (·.1) with
  | none => rfl
  | some best =>
    have less : best.1 < stamp := by
      refine WithBot.coe_lt_coe.1 (lt_of_le_of_lt ?_ news)
      exact List.le_maximum_of_mem' (List.mem_map_of_mem (List.argmax_mem top))
    simp only [if_pos less, Option.map_some]

/-- Any other record leaves the newest value as it was. -/
theorem newestOf_concat_of_not_lt {id : TaskId} {task : Task} {stamp : Instant}
    (record : task.recordOf? id = some (stamp, task)) {recorded : List Task}
    (stale : ¬greatest id recorded < stamp) :
    newestOf id (recorded ++ [task]) = newestOf id recorded := by
  rw [newestOf, recordsOf_concat_of_some record, List.argmax_concat, newestOf]
  cases top : (recordsOf id recorded).argmax (·.1) with
  | none =>
    have empty : greatest id recorded = ⊥ := newestOf_eq_none_iff.1 (by rw [newestOf, top]; rfl)
    exact absurd (empty ▸ WithBot.bot_lt_coe stamp) stale
  | some best =>
    have found : newestOf id recorded = some best.2 := by
      rw [newestOf, top]
      rfl
    obtain ⟨-, -, stamp', stamped, most⟩ := newestOf_eq_some found
    have same : stamp' = best.1 := by
      have record := (mem_recordsOf.1 (List.argmax_mem top)).2.2
      exact Option.some.inj (stamped.symm.trans record)
    rw [most, same, WithBot.coe_lt_coe] at stale
    simp only [if_neg stale]

/-- Records that do not raise the greatest stamp leave the newest value as it was. -/
theorem newestOf_append_of_not_lt {id : TaskId} {recorded more : List Task}
    (stale : ¬greatest id recorded < greatest id (recorded ++ more)) :
    newestOf id (recorded ++ more) = newestOf id recorded := by
  induction more using List.reverseRecOn with
  | nil => rw [List.append_nil]
  | append_singleton more task ih =>
    have grown := greatest_le_append id (recorded ++ more) [task]
    rw [← List.append_assoc] at stale ⊢
    rw [← ih fun less => stale (lt_of_lt_of_le less grown)]
    cases record : task.recordOf? id with
    | none => exact newestOf_concat_of_none record _
    | some pair =>
      obtain ⟨stamp, value⟩ := pair
      obtain ⟨-, -, rfl⟩ := Task.recordOf?_eq_some_iff.1 record
      refine newestOf_concat_of_not_lt record fun news => stale ?_
      rw [greatest_concat_of_some record]
      exact lt_of_le_of_lt (greatest_le_append id recorded more) (lt_max_of_lt_right news)

/-! ### Any order -/

/-- No two different values of one task share a stamp. -/
def Unambiguous (recorded : List Task) : Prop :=
  ∀ a ∈ recorded, ∀ b ∈ recorded, ∀ id stamp, a.id = some id → b.id = some id →
    a.stamp = some stamp → b.stamp = some stamp → a = b

/-- **The newest value is the same for every order of the records.** -/
theorem newestOf_eq_of_perm {recorded other : List Task} (reordered : other.Perm recorded)
    (unambiguous : Unambiguous recorded) (id : TaskId) : newestOf id other = newestOf id recorded := by
  have top : greatest id other = greatest id recorded :=
    ((reordered.filterMap _).map _).maximum_eq
  cases found : newestOf id recorded with
  | none => rw [newestOf_eq_none_iff, top, newestOf_eq_none_iff.1 found]
  | some b =>
    obtain ⟨bMember, bNamed, s, bStamped, most⟩ := newestOf_eq_some found
    cases found' : newestOf id other with
    | none =>
      rw [newestOf_eq_none_iff, top, most] at found'
      exact absurd found' WithBot.coe_ne_bot
    | some a =>
      obtain ⟨aMember, aNamed, t, aStamped, most'⟩ := newestOf_eq_some found'
      have same : t = s := WithBot.coe_inj.1 (by rw [← most', top, most])
      rw [same] at aStamped
      exact congrArg some (unambiguous a (reordered.mem_iff.1 aMember) b bMember id s aNamed bNamed
        aStamped bStamped)

end TaskLedger
