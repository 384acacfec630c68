/-
**What a write does.** The stamp of a write, the tasks it stores, and that it writes a batch as a whole
or not at all.

* `lt_nextStamp_iff` — the next stamp is later than the last one, unless that is the end of the range
  and the clock shows no later time.
* `foldl_keep_eq` — storing the tasks of a batch touches the tasks and the order of creation only.
* `get?_tasks_commit_of_mem`, `get?_tasks_commit_of_not_mem` — a write lays its tasks over the stored
  ones; what it stores nothing under stays.
* `put_of_taken`, `put_of_refused` — a batch that is not refused is committed, a refused one changes
  nothing.
* `put_all_or_nothing` — the conditions under which a batch is written, what is stored then, and the
  error otherwise.
-/
import TaskLedger.Proofs.Store.Refusal
import TaskLedger.Proofs.Table
import TaskLedger.Proofs.Time.Successor

namespace TaskLedger

open Time (Instant)

/-! ### Stamps -/

theorem nextStamp_of_isLast {last : Instant} (now : Instant) (isLast : last.IsLast) :
    nextStamp (some last) now = now := by
  rw [nextStamp, Option.bind_some, Instant.add?_one_eq_none_iff.2 isLast]

theorem nextStamp_of_not_isLast {last : Instant} (now : Instant) (more : ¬last.IsLast) :
    ∃ least, last < least ∧ nextStamp (some last) now = max least now := by
  obtain ⟨least, later⟩ := Option.ne_none_iff_exists'.1 (mt Instant.add?_one_eq_none_iff.1 more)
  refine ⟨least, Instant.lt_of_add?_one later, ?_⟩
  rw [nextStamp, Option.bind_some, later]

theorem le_nextStamp (last : Option Instant) (now : Instant) : now ≤ nextStamp last now := by
  unfold nextStamp
  split
  · exact le_max_right _ _
  · exact le_refl now

/-- **A stamp is later than the last one** exactly when a later instant can be had. -/
theorem lt_nextStamp_iff {last now : Instant} :
    last < nextStamp (some last) now ↔ ¬last.IsLast ∨ last < now := by
  by_cases isLast : last.IsLast
  · rw [nextStamp_of_isLast now isLast]
    simp [isLast]
  · obtain ⟨least, later, next⟩ := nextStamp_of_not_isLast now isLast
    rw [next]
    exact iff_of_true (lt_of_lt_of_le later (le_max_left _ _)) (.inl isLast)

namespace Memory

/-! ### Committing -/

/-- Placing a task touches nothing but the order of creation. -/
theorem place_eq (store : Memory) (id : TaskId) (created : Instant) :
    ∃ order places next, store.place id created =
      { store with order := order, places := places, nextSequence := next } := by
  unfold place
  split
  · split <;> exact ⟨_, _, _, rfl⟩
  · exact ⟨_, _, _, rfl⟩

theorem keep_eq (store : Memory) (entry : TaskId × Task) :
    ∃ order places next, store.keep entry =
      { store with
        tasks := store.tasks.insert entry.1 entry.2
        order := order, places := places, nextSequence := next } := by
  unfold keep
  cases entry.2.created with
  | none => exact ⟨_, _, _, rfl⟩
  | some created =>
    obtain ⟨order, places, next, placed⟩ := store.place_eq entry.1 created
    simp only [placed]
    exact ⟨_, _, _, rfl⟩

theorem foldl_keep_eq (store : Memory) (entries : List (TaskId × Task)) :
    ∃ order places next, entries.foldl keep store =
      { store with
        tasks := entries.foldl (fun table entry => table.insert entry.1 entry.2) store.tasks
        order := order, places := places, nextSequence := next } := by
  induction entries generalizing store with
  | nil => exact ⟨_, _, _, rfl⟩
  | cons entry rest ih =>
    obtain ⟨_, _, _, kept⟩ := store.keep_eq entry
    obtain ⟨order, places, next, others⟩ := ih (store.keep entry)
    rw [List.foldl_cons, others, kept]
    exact ⟨order, places, next, rfl⟩

section Commit

variable (store : Memory) (call : Ambient) (entries : List (TaskId × Task))

theorem tasks_commit : (store.commit call entries).tasks =
    entries.foldl (fun table entry => table.insert entry.1 entry.2) store.tasks := by
  obtain ⟨_, _, _, kept⟩ := store.foldl_keep_eq entries
  rw [commit, kept]

theorem feed_commit :
    (store.commit call entries).feed = store.feed.record call.now (entries.map (·.2)) := by
  obtain ⟨_, _, _, kept⟩ := store.foldl_keep_eq entries
  rw [commit, kept]

theorem closed_commit : (store.commit call entries).closed = store.closed := by
  obtain ⟨_, _, _, kept⟩ := store.foldl_keep_eq entries
  rw [commit, kept]

end Commit

theorem get?_tasks_commit_of_not_mem (store : Memory) (call : Ambient)
    {entries : List (TaskId × Task)} {id : TaskId} (absent : id ∉ entries.map (·.1)) :
    (store.commit call entries).tasks.get? id = store.tasks.get? id := by
  rw [tasks_commit, Table.get?_foldl_insert_of_not_mem _ absent]

theorem get?_tasks_commit_of_mem (store : Memory) (call : Ambient)
    {entries : List (TaskId × Task)} {id : TaskId} {task : Task}
    (distinct : (entries.map (·.1)).Nodup) (member : (id, task) ∈ entries) :
    (store.commit call entries).tasks.get? id = some task := by
  rw [tasks_commit, Table.get?_foldl_insert_of_mem _ distinct member]

/-! ### Putting -/

theorem isOpen_of_taken {store : Memory} {call : Ambient} {batch : List Task}
    (taken : store.refusal? call batch = none) : store.closed = false := by
  cases closed : store.closed with
  | false => rfl
  | true =>
    rw [refusal?, if_pos closed] at taken
    cases taken

/-- Nothing is wrong with a batch that is taken. -/
theorem conflict?_of_taken {store : Memory} {call : Ambient} {batch : List Task}
    (taken : store.refusal? call batch = none) :
    store.conflict? [] (call.named batch) = none := by
  rw [refusal?] at taken
  split at taken
  · cases taken
  · split at taken
    · cases taken
    · exact taken

/-- Every task of a batch that is taken is fit to be written. -/
theorem valid_of_taken {store : Memory} {call : Ambient} {batch : List Task}
    (taken : store.refusal? call batch = none) : firstInvalid? batch = none := by
  rw [refusal?] at taken
  split at taken
  · cases taken
  · split at taken
    · cases taken
    · assumption

theorem put_of_taken {store : Memory} {call : Ambient} {batch : List Task}
    (taken : store.refusal? call batch = none) :
    store.put call batch =
      (.ok ((store.written call batch).map (·.2)),
        store.commit call (store.written call batch)) := by
  rw [put, taken]

theorem put_of_refused {store : Memory} {call : Ambient} {batch : List Task} {error : StoreError}
    (refused : store.refusal? call batch = some error) :
    store.put call batch = (.error error, store) := by
  rw [put, refused]

theorem written_ids (store : Memory) (call : Ambient) (batch : List Task) :
    (store.written call batch).map (·.1) = (call.named batch).map (·.1) := by
  rw [written, List.map_map]
  rfl

theorem refusal?_of_put_ok {store : Memory} {call : Ambient} {batch answer : List Task}
    (written : (store.put call batch).1 = .ok answer) : store.refusal? call batch = none := by
  cases refused : store.refusal? call batch with
  | none => rfl
  | some error =>
    rw [put_of_refused refused] at written
    cases written

theorem refusal?_of_put_error {store : Memory} {call : Ambient} {batch : List Task}
    {error : StoreError} (failed : (store.put call batch).1 = .error error) :
    store.refusal? call batch = some error := by
  cases refused : store.refusal? call batch with
  | none =>
    rw [put_of_taken refused] at failed
    cases failed
  | some cause =>
    rw [put_of_refused refused] at failed
    cases failed
    rfl

end Memory

/-! ### All or nothing -/

/-- A task as a write leaves it: only the identifier, where there was none, and the stamp differ. -/
structure Task.WrittenAs (stamp : Instant) (given written : Task) : Prop where
  fields : written = { given with id := written.id, stamp := some stamp }
  named : written.id.isSome
  kept : ∀ id, given.id = some id → written.id = some id

namespace Memory

/-- One store holds what the other holds, overlaid with these tasks. -/
structure Overlaid (before after : Memory) (tasks : List Task) : Prop where
  written : ∀ task ∈ tasks, ∀ id, task.id = some id → after.tasks.get? id = some task
  others : ∀ id, (∀ task ∈ tasks, task.id ≠ some id) →
    after.tasks.get? id = before.tasks.get? id

section Written

variable (store : Memory) (call : Ambient) (batch : List Task)

theorem written_eq :
    store.written call batch = batch.zipIdx.map fun entry =>
      (call.idOf entry, { call.withId entry with stamp := some (store.stampFor call) }) := by
  rw [written, Ambient.named_eq, List.map_map]
  rfl

/-- The tasks of an answer are those of the batch, named and stamped. -/
theorem forall₂_writtenAs :
    List.Forall₂ (Task.WrittenAs (store.stampFor call)) batch
      ((store.written call batch).map (·.2)) := by
  rw [written_eq, List.map_map, List.forall₂_map_right_iff]
  conv => arg 2; rw [← List.zipIdx_map_fst 0 batch]
  rw [List.forall₂_map_left_iff, List.forall₂_same]
  intro entry _
  exact ⟨rfl, rfl, fun id own => congrArg some (Ambient.idOf_of_some own)⟩

theorem id_of_mem_written {id : TaskId} {task : Task} (member : (id, task) ∈ store.written call batch) :
    task.id = some id := by
  rw [written_eq] at member
  obtain ⟨entry, -, same⟩ := List.mem_map.1 member
  cases same
  rfl

variable {store call batch}

/-- No identifier stands twice in a batch that is taken. -/
theorem nodup_written_of_taken (taken : store.refusal? call batch = none) :
    ((store.written call batch).map (·.1)).Nodup := by
  rw [written_ids]
  exact (conflict?_eq_none_iff.1 (conflict?_of_taken taken)).2.1

/-- Every task of a batch that is taken is stored fit to be written: a name and a stamp make no
difference. -/
theorem validate_of_mem_written (taken : store.refusal? call batch = none) {entry : TaskId × Task}
    (member : entry ∈ store.written call batch) : entry.2.validate = .ok () := by
  rw [written_eq] at member
  obtain ⟨⟨task, place⟩, inside, rfl⟩ := List.mem_map.1 member
  have valid := firstInvalid?_eq_none_iff.1 (valid_of_taken taken) task
    (List.fst_mem_of_mem_zipIdx inside)
  rw [Task.validate_eq_ok_iff] at valid ⊢
  exact valid

theorem overlaid_commit (taken : store.refusal? call batch = none) :
    store.Overlaid (store.commit call (store.written call batch))
      ((store.written call batch).map (·.2)) := by
  constructor
  · intro task member id own
    obtain ⟨⟨id', task'⟩, inside, rfl⟩ := List.mem_map.1 member
    rw [id_of_mem_written store call batch inside] at own
    cases own
    exact get?_tasks_commit_of_mem store call (nodup_written_of_taken taken) inside
  · intro id absent
    refine get?_tasks_commit_of_not_mem store call fun member => ?_
    obtain ⟨⟨id', task⟩, inside, rfl⟩ := List.mem_map.1 member
    exact absent task (List.mem_map_of_mem inside) (id_of_mem_written store call batch inside)

end Written

/-- **A batch is written as a whole or not at all.** It is written exactly when the store accepts it;
then the answer is the batch with its identifiers and one new stamp, and the stored tasks are the old
ones overlaid with the answer. A batch that is not written fails with the error of its first offence
and changes nothing. -/
theorem put_all_or_nothing {store : Memory} {call : Ambient} {batch : List Task}
    (fresh : call.Fresh batch store) :
    ((∃ answer, (store.put call batch).1 = .ok answer) ↔ store.Accepts batch) ∧
    (∀ answer, (store.put call batch).1 = .ok answer →
      List.Forall₂ (Task.WrittenAs (store.stampFor call)) batch answer ∧
      store.Overlaid (store.put call batch).2 answer ∧
      (store.put call batch).2.lastStamp = some (store.stampFor call) ∧
      call.now ≤ store.stampFor call ∧
      ∀ last, store.lastStamp = some last → ¬last.IsLast → last < store.stampFor call) ∧
    ∀ error,
      ((store.put call batch).1 = .error error ↔ store.Refusal call batch error) ∧
      ((store.put call batch).1 = .error error → (store.put call batch).2 = store) := by
  refine ⟨?_, ?_, ?_⟩
  · rw [← refusal?_eq_none_iff fresh]
    constructor
    · rintro ⟨answer, written⟩
      exact refusal?_of_put_ok written
    · intro taken
      exact ⟨_, by rw [put_of_taken taken]⟩
  · intro answer written
    have taken := refusal?_of_put_ok written
    rw [put_of_taken taken] at written ⊢
    cases written
    refine ⟨forall₂_writtenAs store call batch, overlaid_commit taken, rfl,
      le_nextStamp store.lastStamp call.now, fun last stamped more => ?_⟩
    rw [stampFor, stamped]
    exact lt_nextStamp_iff.2 (.inl more)
  · intro error
    constructor
    · rw [← refusal?_eq_some_iff fresh]
      constructor
      · exact refusal?_of_put_error
      · intro refused
        rw [put_of_refused refused]
    · intro failed
      rw [put_of_refused (refusal?_of_put_error failed)]

/-- A write of a task that starts from the version with this stamp, or from none. -/
def writeOf (id : TaskId) (base : Option Instant) : Task :=
  { Task.ofNew "build" "repo" .epoch with id := some id, stamp := base }

/-- A store after its first write, of one task. -/
def ofFirst (id : TaskId) : Memory :=
  ((ofConfig .standard).put ⟨.epoch, fun place => place⟩ [writeOf id none]).2

/-- The next version of that task, with a task that has no identifier yet. -/
def secondBatch (id : TaskId) : List Task :=
  [writeOf id (some .epoch), .ofNew "test" "repo" .epoch]

/-- The second write is taken: its identifiers are fresh and it keeps every condition. -/
theorem exists_answer_second :
    Ambient.Fresh ⟨.epoch, fun place => place⟩ (secondBatch ⟨"a"⟩) (ofFirst ⟨"a"⟩) ∧
      ∃ answer, ((ofFirst ⟨"a"⟩).put ⟨.epoch, fun place => place⟩ (secondBatch ⟨"a"⟩)).1 =
        .ok answer := by
  have fresh : Ambient.Fresh ⟨.epoch, fun place => place⟩ (secondBatch ⟨"a"⟩) (ofFirst ⟨"a"⟩) :=
    ⟨by decide, by decide, by decide⟩
  have accepts : (ofFirst ⟨"a"⟩).Accepts (secondBatch ⟨"a"⟩) := by decide
  exact ⟨fresh, (put_all_or_nothing fresh).1.2 accepts⟩

end Memory

end TaskLedger
