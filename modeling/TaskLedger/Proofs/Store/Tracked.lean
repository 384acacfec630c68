/-
**A store and its history.** What a store in memory holds is what the commits of its run say.

* `base_of_mem_commitOf` — a write that is taken makes each version from the stored one.
* `get?_commit_of_mem`, `get?_commit_of_not_mem` — after it the store holds the new versions, and what
  it held of every other task.
* `Memory.Tracked` — the invariant: an open store holds the last version of each task, and the versions
  of each task are a lineage. `tracked_step` and `tracked_run` keep it.
* `Tracked.exists_version` — a stored task is one of its versions.
-/
import TaskLedger.Proofs.Store.Lineage

namespace TaskLedger

theorem WriteAllowed.stamp_eq {stored : Option Task} {task : Task}
    (allowed : WriteAllowed stored task) : task.stamp = stored.bind (·.stamp) := by
  cases stored with
  | none => exact allowed.inserted rfl
  | some version => exact (allowed.updated version rfl).1

theorem checkWrite_of_stamp_ne {id : TaskId} {stored : Option Task} {task : Task}
    (other : task.stamp ≠ stored.bind (·.stamp)) :
    checkWrite id stored task = .error (.concurrentUpdate id) := by
  rw [checkWrite_eq_error_iff]
  cases stored with
  | none => exact .inserted other
  | some version => exact .stale version other

namespace Memory

/-! ### The commit of a write -/

section CommitOf

variable {store : Memory} {call : Ambient} {batch : List Task} {version : Version}

theorem mem_commitOf :
    version ∈ (store.commitOf call batch).versions ↔
      (version.id, version.given) ∈ call.named batch ∧ version.stamp = store.stampFor call := by
  obtain ⟨id, given, stamp⟩ := version
  rw [commitOf, List.mem_map]
  constructor
  · rintro ⟨entry, member, same⟩
    cases same
    exact ⟨member, rfl⟩
  · rintro ⟨member, same⟩
    cases same
    exact ⟨_, member, rfl⟩

theorem id_of_mem_commitOf (member : version ∈ (store.commitOf call batch).versions) :
    version.given.id = some version.id := by
  obtain ⟨⟨task, place⟩, -, same⟩ := List.mem_map.1 (mem_commitOf.1 member).1
  rw [Prod.mk.injEq] at same
  rw [← same.1, ← same.2]

theorem ids_commitOf :
    (store.commitOf call batch).versions.map (·.id) = (store.written call batch).map (·.1) := by
  rw [written_eq_versions, List.map_map]
  rfl

theorem nodup_commitOf (taken : store.refusal? call batch = none) :
    ((store.commitOf call batch).versions.map (·.id)).Nodup := by
  rw [ids_commitOf]
  exact nodup_written_of_taken taken

/-- **A version is made from the stored one.** -/
theorem base_of_mem_commitOf (taken : store.refusal? call batch = none)
    (member : version ∈ (store.commitOf call batch).versions) :
    version.base = (store.tasks.get? version.id).bind (·.stamp) := by
  have allowed := (conflict?_eq_none_iff.1 (conflict?_of_taken taken)).2.2
  exact (allowed _ (mem_commitOf.1 member).1).stamp_eq

theorem get?_commit_of_mem (taken : store.refusal? call batch = none)
    (member : version ∈ (store.commitOf call batch).versions) :
    (store.commit call (store.written call batch)).tasks.get? version.id = some version.task := by
  refine get?_tasks_commit_of_mem store call (nodup_written_of_taken taken) ?_
  rw [written_eq_versions]
  exact List.mem_map_of_mem member

theorem get?_commit_of_not_mem {id : TaskId}
    (absent : id ∉ (store.commitOf call batch).versions.map (·.id)) :
    (store.commit call (store.written call batch)).tasks.get? id = store.tasks.get? id := by
  rw [ids_commitOf] at absent
  exact get?_tasks_commit_of_not_mem store call absent

end CommitOf

/-! ### The invariant -/

/-- How a store keeps the versions of its tasks. -/
structure Tracked (past : List Commit) (store : Memory) : Prop where
  current : store.closed = false →
    ∀ id, store.tasks.get? id = (versionsOf id past).getLast?.map (·.task)
  lineage : ∀ id, Lineage (versionsOf id past)
  stamps : ∀ commit ∈ past, ∀ version ∈ commit.versions, version.stamp = commit.stamp
  /-- A commit has one version of a task at most. -/
  distinct : ∀ commit ∈ past, (commit.versions.map (·.id)).Nodup
  named : ∀ version ∈ versions past, version.given.id = some version.id

theorem tracked_ofConfig (config : StoreConfig) : Tracked [] (ofConfig config) :=
  ⟨fun _ _ => rfl, fun _ => .nil, fun _ member => absurd member List.not_mem_nil,
    fun _ member => absurd member List.not_mem_nil, fun _ member => absurd member List.not_mem_nil⟩

theorem Tracked.commit {past : List Commit} {store : Memory} (tracked : Tracked past store)
    {call : Ambient} {batch : List Task} (taken : store.refusal? call batch = none) :
    Tracked (past ++ [store.commitOf call batch])
      (store.commit call (store.written call batch)) := by
  have distinct := nodup_commitOf taken
  have current := tracked.current (isOpen_of_taken taken)
  refine ⟨fun _ id => ?_, fun id => ?_, fun commit member => ?_, fun commit member => ?_,
    fun version member => ?_⟩
  -- A task of the batch gets its new version as the last one; every other task keeps what it had.
  · by_cases written : id ∈ (store.commitOf call batch).versions.map (·.id)
    · obtain ⟨version, member, rfl⟩ := List.mem_map.1 written
      rw [versionsOf_append, versionsOf_commit_of_mem distinct member, List.getLast?_concat,
        get?_commit_of_mem taken member]
      rfl
    · rw [versionsOf_append, versionsOf_commit_of_not_mem written, List.append_nil,
        get?_commit_of_not_mem written, current]
  · by_cases written : id ∈ (store.commitOf call batch).versions.map (·.id)
    · obtain ⟨version, member, rfl⟩ := List.mem_map.1 written
      rw [versionsOf_append, versionsOf_commit_of_mem distinct member]
      refine (tracked.lineage version.id).concat ?_
      rw [base_of_mem_commitOf taken member, current, Option.bind_map, Option.map_eq_bind]
      rfl
    · rw [versionsOf_append, versionsOf_commit_of_not_mem written, List.append_nil]
      exact tracked.lineage id
  · rcases List.mem_append.1 member with earlier | new
    · exact tracked.stamps commit earlier
    · rw [List.mem_singleton.1 new]
      exact fun version member => (mem_commitOf.1 member).2
  · rcases List.mem_append.1 member with earlier | new
    · exact tracked.distinct commit earlier
    · rw [List.mem_singleton.1 new]
      exact distinct
  · rw [versions_concat] at member
    rcases List.mem_append.1 member with earlier | new
    · exact tracked.named version earlier
    · exact id_of_mem_commitOf new

/-- A step keeps the versions of the tasks. -/
theorem tracked_step {past commits : List Commit} {store next : Memory}
    (tracked : Tracked past store) (step : Step store commits next) :
    Tracked (past ++ commits) next := by
  cases step with
  | feed feed =>
    rw [List.append_nil]
    exact ⟨tracked.current, tracked.lineage, tracked.stamps, tracked.distinct, tracked.named⟩
  | close isOpen =>
    rw [List.append_nil]
    refine ⟨fun stillOpen => ?_, tracked.lineage, tracked.stamps, tracked.distinct, tracked.named⟩
    rw [closed_close] at stillOpen
    cases stillOpen
  | write call batch taken => exact tracked.commit taken

theorem tracked_run {past : List Commit} {store : Memory} (tracked : Tracked past store)
    (events : List Event) : Tracked (past ++ store.history events) (store.after events) :=
  run_induction (fun _ _ _ _ => tracked_step) tracked events

theorem tracked_after (config : StoreConfig) (events : List Event) :
    Tracked ((ofConfig config).history events) ((ofConfig config).after events) :=
  tracked_run (tracked_ofConfig config) events

/-- What is stored is the last version of its task. -/
theorem Tracked.exists_version {past : List Commit} {store : Memory} (tracked : Tracked past store)
    (isOpen : store.closed = false) {id : TaskId} {task : Task} (stored : store.tasks.get? id = some task) :
    ∃ version ∈ versionsOf id past, version.task = task ∧ task.id = some id := by
  rw [tracked.current isOpen, Option.map_eq_some_iff] at stored
  obtain ⟨version, last, rfl⟩ := stored
  have member := List.mem_of_getLast? last
  obtain ⟨inside, rfl⟩ := mem_versionsOf.1 member
  exact ⟨version, member, rfl, tracked.named version inside⟩

/-! ### Increasing stamps -/

section Increasing

variable {past : List Commit} {store : Memory}

/-- The stamps increase unless one that another follows is at the end of the range. -/
theorem Stamped.pairwise_of_dropLast (stamped : Stamped past store)
    (unending : ∀ commit ∈ past.dropLast, ¬commit.stamp.IsLast) :
    past.Pairwise fun earlier later => earlier.stamp < later.stamp := by
  rw [stamped.pairwise_iff, List.isChain_iff_getElem]
  intro place inside
  have followed : place < past.dropLast.length := by
    rw [List.length_dropLast]
    omega
  rw [← List.getElem_dropLast followed]
  exact .inl (unending _ (List.getElem_mem followed))

/-- Without an end of the range, the stamps increase. -/
theorem Stamped.pairwise (stamped : Stamped past store)
    (unending : ∀ commit ∈ past, ¬commit.stamp.IsLast) :
    past.Pairwise fun earlier later => earlier.stamp < later.stamp :=
  stamped.pairwise_of_dropLast fun commit member => unending commit (List.dropLast_subset past member)

/-- The stamps of one task increase when those of the commits do. -/
theorem Tracked.increasing (tracked : Tracked past store)
    (ordered : past.Pairwise fun earlier later => earlier.stamp < later.stamp) (id : TaskId) :
    (versionsOf id past).Pairwise fun earlier later => earlier.stamp < later.stamp := by
  refine pairwise_versions_iff.1 ?_ id
  rw [versions, List.pairwise_flatMap]
  constructor
  -- Within a commit no two versions are of the same task, so nothing is asked of their one stamp.
  · intro commit member
    have distinct := tracked.distinct commit member
    rw [List.Nodup, List.pairwise_map] at distinct
    exact distinct.imp fun different same => absurd same different
  · refine ordered.imp_of_mem fun {earlier later} first second before => ?_
    intro v vMember w wMember _
    rw [tracked.stamps earlier first v vMember, tracked.stamps later second w wMember]
    exact before

end Increasing

end Memory

end TaskLedger
