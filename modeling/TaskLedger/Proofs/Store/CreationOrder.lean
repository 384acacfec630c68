/-
**The order of creation.** How a store in memory keeps its tasks by creation time, with ties by first
insertion.

* `arrivals` — the tasks that commits wrote, in the order in which each was first written.
* `Memory.createdOf?` — the creation time of a stored task.
* `Memory.Indexed` — the invariant: the order and the places are inverse to each other, and the place of
  each task is its current creation time and its rank among the arrivals.
* `Files`, `Files.indexed` — a task is filed under a new key and given up under its old one.
* `Indexed.keep` — storing a task keeps the invariant, whether the task is new, stays at its time or moves.
* `indexed_after` — it holds after every run that leaves the store open.
* `exists_indexed_append` — the arrivals of a run stay in front when the run goes on.
-/
import TaskLedger.Proofs.Store.Tracked

namespace TaskLedger

open Time (Instant)

/-! ### Arrivals -/

/-- The tasks that commits wrote, in the order in which each was first written. -/
def arrivals (history : List Commit) : List TaskId :=
  ((versions history).map (·.id)).eraseDups

/-- A name that was there before is not listed again; a new one is listed last. -/
theorem eraseDups_concat {α : Type} [DecidableEq α] (names : List α) (name : α) :
    (names ++ [name]).eraseDups =
      if name ∈ names then names.eraseDups else names.eraseDups ++ [name] := by
  rw [List.eraseDups_append, List.removeAll]
  by_cases listed : name ∈ names <;> simp [listed, List.eraseDups_cons]

namespace Memory

/-! ### The invariant -/

/-- The creation time of a stored task. -/
def createdOf? (store : Memory) (id : TaskId) : Option Instant :=
  (store.tasks.get? id).bind (·.created)

/-- Storing a task gives it its creation time and leaves those of the others. -/
theorem createdOf?_of_insert {store kept : Memory} {id : TaskId} {task : Task} {created : Instant}
    (tasks : kept.tasks = store.tasks.insert id task)
    (dated : task.created = some created) (other : TaskId) :
    kept.createdOf? other = if other = id then some created else store.createdOf? other := by
  rw [createdOf?, tasks]
  split
  · next same => rw [same, Table.get?_insert_self, Option.bind_some, dated]
  · next differ => rw [Table.get?_insert_of_ne _ _ differ, createdOf?]

/-- A task has this place, by its creation time and its rank among the arrivals. -/
def Stands (ids : List TaskId) (store : Memory) (key : IndexKey) (id : TaskId) : Prop :=
  ids[key.sequence]? = some id ∧ store.createdOf? id = some key.created

/-- The order of creation shows the stored tasks, which arrived in this order. -/
structure Indexed (ids : List TaskId) (store : Memory) : Prop where
  distinct : ids.Nodup
  next : store.nextSequence = ids.length
  stored : ∀ id, id ∈ ids ↔ (store.tasks.get? id).isSome
  dated : ∀ id ∈ ids, (store.createdOf? id).isSome
  ordered : ∀ key id, store.order.get? key = some id ↔ Stands ids store key id
  placed : ∀ key id, store.places.get? id = some key ↔ Stands ids store key id

theorem indexed_ofConfig (config : StoreConfig) : Indexed [] (ofConfig config) where
  distinct := .nil
  next := rfl
  stored _ := by simp [ofConfig]
  dated _ member := absurd member List.not_mem_nil
  ordered _ _ := by simp [ofConfig, Stands]
  placed _ _ := by simp [ofConfig, Stands]

namespace Indexed

variable {ids : List TaskId} {store : Memory} {id : TaskId} {task : Task} {created : Instant}

/-- A listed task has a place. -/
theorem exists_place (indexed : Indexed ids store) (listed : id ∈ ids) :
    ∃ key, store.places.get? id = some key ∧ Stands ids store key id := by
  obtain ⟨rank, inside, rfl⟩ := List.getElem_of_mem listed
  obtain ⟨created, dated⟩ := Option.isSome_iff_exists.1 (indexed.dated _ listed)
  have stands : Stands ids store ⟨created, rank⟩ ids[rank] :=
    ⟨List.getElem?_eq_getElem inside, dated⟩
  exact ⟨_, (indexed.placed _ _).2 stands, stands⟩

theorem place_of_not_mem (indexed : Indexed ids store) (new : id ∉ ids) :
    store.places.get? id = none := by
  rw [Option.eq_none_iff_forall_ne_some]
  intro key found
  exact new (List.mem_of_getElem? ((indexed.placed key id).1 found).1)

end Indexed

/-! ### Filing a task -/

/-- A task is filed under a key, its only one; it is new, or keeps its rank. -/
structure Files (ids : List TaskId) (store : Memory) (id : TaskId) (key : IndexKey)
    (ids' : List TaskId) (kept : Memory) : Prop where
  ranks : ∀ rank other,
    ids'[rank]? = some other ↔ if other = id then rank = key.sequence else ids[rank]? = some other
  stored : ∃ task, task.created = some key.created ∧ kept.tasks = store.tasks.insert id task
  /-- Of the old places only those of other tasks are left. -/
  order : ∃ rest : Table IndexKey TaskId, kept.order = rest.insert key id ∧
    ∀ place other, rest.get? place = some other ↔ other ≠ id ∧ Stands ids store place other
  places : kept.places = store.places.insert id key

namespace Files

variable {ids ids' : List TaskId} {store kept : Memory} {id other : TaskId} {key place : IndexKey}

theorem mem_iff (files : Files ids store id key ids' kept) : other ∈ ids' ↔ other = id ∨ other ∈ ids := by
  simp only [List.mem_iff_getElem?, files.ranks]
  by_cases same : other = id <;> simp [same]

theorem createdOf?_eq (files : Files ids store id key ids' kept) (other : TaskId) :
    kept.createdOf? other = if other = id then some key.created else store.createdOf? other := by
  obtain ⟨task, dated, tasks⟩ := files.stored
  exact createdOf?_of_insert tasks dated other

/-- The task stands under its key, and the others where they stood. -/
theorem stands_iff (files : Files ids store id key ids' kept) :
    Stands ids' kept place other ↔
      if other = id then place = key else Stands ids store place other := by
  obtain ⟨time, rank⟩ := place
  obtain ⟨time', rank'⟩ := key
  rw [Stands, files.ranks, files.createdOf?_eq]
  by_cases same : other = id
  · simp only [same, if_true, Option.some.injEq, IndexKey.mk.injEq, and_comm, eq_comm]
  · simp only [same, if_false, Stands]

/-- No other task stood under the key. -/
theorem not_stands (files : Files ids store id key ids' kept) (differ : other ≠ id) :
    ¬Stands ids store key other := by
  intro taken
  have own := (files.ranks key.sequence id).2 (by rw [if_pos rfl])
  have again := (files.ranks key.sequence other).2 (by rw [if_neg differ]; exact taken.1)
  exact differ (Option.some.inj (again.symm.trans own))

theorem ordered (files : Files ids store id key ids' kept) :
    kept.order.get? place = some other ↔ Stands ids' kept place other := by
  obtain ⟨rest, order, others⟩ := files.order
  rw [order, files.stands_iff]
  by_cases here : place = key
  · rw [here, Table.get?_insert_self]
    by_cases same : other = id
    · simp [same]
    · simp [same, files.not_stands same, Ne.symm same]
  · rw [Table.get?_insert_of_ne _ _ here, others]
    by_cases same : other = id <;> simp [same, here]

theorem placed (files : Files ids store id key ids' kept) (indexed : Indexed ids store) :
    kept.places.get? other = some place ↔ Stands ids' kept place other := by
  rw [files.places, files.stands_iff]
  by_cases same : other = id
  · rw [same, Table.get?_insert_self, if_pos rfl, Option.some.injEq, eq_comm]
  · rw [Table.get?_insert_of_ne _ _ same, if_neg same, indexed.placed]

/-- **Filing a task keeps the order of creation.** -/
theorem indexed (files : Files ids store id key ids' kept) (indexed : Indexed ids store)
    (distinct : ids'.Nodup) (next : kept.nextSequence = ids'.length) : Indexed ids' kept where
  distinct := distinct
  next := next
  stored other := by
    obtain ⟨task, -, tasks⟩ := files.stored
    rw [files.mem_iff, tasks]
    by_cases same : other = id
    · simp [same]
    · rw [Table.get?_insert_of_ne _ _ same, ← indexed.stored]
      simp [same]
  dated other member := by
    rw [files.createdOf?_eq]
    split
    · rfl
    · next differ => exact indexed.dated other ((files.mem_iff.1 member).resolve_left differ)
  ordered _ _ := files.ordered
  placed _ _ := files.placed indexed

end Files

/-! ### Storing a task -/

namespace Indexed

variable {ids : List TaskId} {store : Memory} {id : TaskId} {task : Task} {created : Instant}

/-- A task is stored again with the same creation time. -/
theorem keep_stay (indexed : Indexed ids store) {key : IndexKey}
    (placed : store.places.get? id = some key) (dated : task.created = some key.created) :
    Indexed ids { store with tasks := store.tasks.insert id task } := by
  obtain ⟨ranked, was⟩ := (indexed.placed key id).1 placed
  have same (other : TaskId) :
      createdOf? { store with tasks := store.tasks.insert id task } other = store.createdOf? other := by
    rw [createdOf?_of_insert rfl dated]
    split
    · next same => rw [same, was]
    · rfl
  have listed : id ∈ ids := List.mem_of_getElem? ranked
  refine ⟨indexed.distinct, indexed.next, fun other => ?_, fun other member => ?_,
    fun place other => ?_, fun place other => ?_⟩
  · by_cases own : other = id
    · simp [own, listed]
    · rw [Table.get?_insert_of_ne _ _ own, indexed.stored]
  · rw [same]
    exact indexed.dated other member
  · rw [Stands, same]
    exact indexed.ordered place other
  · rw [Stands, same]
    exact indexed.placed place other

/-- A listed task moves to another time and keeps its rank. -/
theorem keep_move (indexed : Indexed ids store) {key : IndexKey}
    (placed : store.places.get? id = some key) (dated : task.created = some created) :
    Indexed ids
      { store with
        tasks := store.tasks.insert id task
        order := (store.order.erase key).insert ⟨created, key.sequence⟩ id
        places := store.places.insert id ⟨created, key.sequence⟩ } := by
  have ranked := ((indexed.placed key id).1 placed).1
  refine Files.indexed ⟨fun rank other => ?_, ⟨task, dated, rfl⟩,
    ⟨_, rfl, fun place other => ?_⟩, rfl⟩ indexed indexed.distinct indexed.next
  · split
    · next same =>
      subst same
      refine ⟨fun found => ?_, fun same => same ▸ ranked⟩
      have inside := (List.getElem?_eq_some_iff.1 found).1
      exact (List.getElem?_inj inside indexed.distinct).1 (found.trans ranked.symm)
    · rfl
  -- Only the old place of the task itself is given up.
  · by_cases here : place = key
    · rw [here, Table.get?_erase_self]
      refine iff_of_false nofun fun ⟨differ, stands⟩ => differ ?_
      exact Option.some.inj (stands.1.symm.trans ranked)
    · rw [Table.get?_erase_of_ne _ here, indexed.ordered]
      refine ⟨fun stands => ⟨fun same => here ?_, stands⟩, And.right⟩
      subst same
      exact Option.some.inj (((indexed.placed place other).2 stands).symm.trans placed)

/-- A new task takes the next rank. -/
theorem keep_new (indexed : Indexed ids store) (new : id ∉ ids) (dated : task.created = some created) :
    Indexed (ids ++ [id])
      { store with
        tasks := store.tasks.insert id task
        order := store.order.insert ⟨created, store.nextSequence⟩ id
        places := store.places.insert id ⟨created, store.nextSequence⟩
        nextSequence := store.nextSequence + 1 } := by
  refine Files.indexed ⟨fun rank other => ?_, ⟨task, dated, rfl⟩,
    ⟨_, rfl, fun place other => ?_⟩, rfl⟩ indexed ?_ ?_
  · rw [indexed.next]
    grind
  · rw [indexed.ordered]
    refine ⟨fun stands => ⟨fun same => new ?_, stands⟩, And.right⟩
    exact same ▸ List.mem_of_getElem? stands.1
  · exact List.nodup_append.2 ⟨indexed.distinct, List.pairwise_singleton _ id, by grind⟩
  · rw [List.length_append, List.length_singleton, indexed.next]

/-- **Storing a task** lists it last if it is new, and files it under its creation time. -/
theorem keep (indexed : Indexed ids store) (dated : task.created = some created) :
    Indexed (if id ∈ ids then ids else ids ++ [id]) (store.keep (id, task)) := by
  simp only [Memory.keep, dated]
  by_cases listed : id ∈ ids
  · obtain ⟨key, placed, -⟩ := indexed.exists_place listed
    rw [if_pos listed, place, placed]
    by_cases stays : key.created = created
    · simp only [if_pos stays]
      exact indexed.keep_stay placed (stays ▸ dated)
    · simp only [if_neg stays]
      exact indexed.keep_move placed dated
  · rw [if_neg listed, place, indexed.place_of_not_mem listed]
    exact indexed.keep_new listed dated

/-- Storing the tasks of a batch one after another. -/
theorem keep_all {names : List TaskId} (indexed : Indexed names.eraseDups store)
    {entries : List (TaskId × Task)} (dated : ∀ entry ∈ entries, entry.2.created.isSome) :
    Indexed (names ++ entries.map (·.1)).eraseDups (entries.foldl Memory.keep store) := by
  -- The names grow at their end by the task that is stored first.
  induction entries generalizing names store with
  | nil =>
    rw [List.map_nil, List.append_nil]
    exact indexed
  | cons entry rest ih =>
    obtain ⟨created, known⟩ := Option.isSome_iff_exists.1 (dated entry (.head _))
    rw [List.map_cons, List.append_cons]
    refine ih ?_ fun other member => dated other (.tail _ member)
    rw [eraseDups_concat]
    simpa only [List.mem_eraseDups] using indexed.keep known

end Indexed

/-! ### Runs -/

/-- The tasks of a batch that is taken have creation times. -/
theorem created_of_taken {store : Memory} {call : Ambient} {batch : List Task}
    (taken : store.refusal? call batch = none) :
    ∀ entry ∈ store.written call batch, entry.2.created.isSome := by
  intro entry member
  exact (Task.validate_eq_ok_iff.1 (validate_of_mem_written taken member)).1

/-- What an open store holds is in order. -/
def InOrder (past : List Commit) (store : Memory) : Prop :=
  store.closed = false → Indexed (arrivals past) store

theorem Indexed.commit {past : List Commit} {store : Memory} (indexed : Indexed (arrivals past) store)
    {call : Ambient} {batch : List Task} (taken : store.refusal? call batch = none) :
    Indexed (arrivals (past ++ [store.commitOf call batch]))
      (store.commit call (store.written call batch)) := by
  have kept := indexed.keep_all (created_of_taken taken)
  rw [arrivals, versions_concat, List.map_append, ids_commitOf]
  exact ⟨kept.distinct, kept.next, kept.stored, kept.dated, kept.ordered, kept.placed⟩

theorem inOrder_step {past commits : List Commit} {store next : Memory}
    (inOrder : InOrder past store) (step : Step store commits next) :
    InOrder (past ++ commits) next := by
  intro isOpen
  cases step with
  | feed feed =>
    rw [List.append_nil]
    have indexed := inOrder isOpen
    exact ⟨indexed.distinct, indexed.next, indexed.stored, indexed.dated, indexed.ordered, indexed.placed⟩
  | close =>
    rw [closed_close] at isOpen
    cases isOpen
  | write call batch taken => exact (inOrder (isOpen_of_taken taken)).commit taken

/-- **The order of creation shows what is stored** after every run that leaves the store open. -/
theorem indexed_after (config : StoreConfig) (events : List Event)
    (isOpen : ((ofConfig config).after events).closed = false) :
    Indexed (arrivals ((ofConfig config).history events)) ((ofConfig config).after events) := by
  have initial : InOrder [] (ofConfig config) := fun _ => indexed_ofConfig config
  exact run_induction (fun _ _ _ _ => inOrder_step) initial events isOpen

/-- However a run goes on, the tasks that have arrived keep their ranks. -/
theorem exists_indexed_append (config : StoreConfig) (events more : List Event)
    (isOpen : ((ofConfig config).after (events ++ more)).closed = false) :
    ∃ rest, Indexed (arrivals ((ofConfig config).history events) ++ rest)
      ((ofConfig config).after (events ++ more)) := by
  have indexed := indexed_after config (events ++ more) isOpen
  rw [history_append, arrivals, versions_append, List.map_append, List.eraseDups_append] at indexed
  exact ⟨_, indexed⟩

end Memory

end TaskLedger
