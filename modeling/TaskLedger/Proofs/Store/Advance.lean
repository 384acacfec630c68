/-
**Statuses move forward.** A write is taken only if the stored status can become the new one, and these
steps compose; so along the versions of a task statuses never move back.

* `eq_of_canBecome`, `eq_pending_of_canBecome` — a task that is done stays as it is, and none comes back to
  pending.
* `canBecome_of_taken` — a write that is taken moves the stored status forward.
* `Advances`, `advances_run` — the invariant: each version moves on from the one before it.
* `Memory.StatusesAdvance`, `statuses_advance` — the statement, and the theorem for any clients.
-/
import TaskLedger.Proofs.Store.Clients
import TaskLedger.Proofs.Store.Tracked

namespace TaskLedger

/-! ### Steps of a status -/

/-- A status that is done does not change. -/
theorem Status.eq_of_canBecome {status next : Status} (isDone : status.isDone = true)
    (step : status.canBecome next = true) : next = status := by
  cases status with
  | pending | running => cases isDone
  | success | failure | mishap => exact (beq_iff_eq.1 step).symm

/-- No task comes back to pending. -/
theorem Status.eq_pending_of_canBecome {status : Status} (step : status.canBecome .pending = true) :
    status = .pending := by
  cases status with
  | pending => rfl
  | running | success | failure | mishap => cases step

/-- The status of a version can become that of a later one. -/
def Version.Advances (version later : Version) : Prop :=
  version.task.status.canBecome later.task.status = true

instance : Trans Version.Advances Version.Advances Version.Advances :=
  ⟨Status.canBecome_trans⟩

namespace Memory

/-! ### Versions -/

/-- A write that is taken moves the stored status forward. -/
theorem canBecome_of_taken {store : Memory} {call : Ambient} {batch : List Task}
    (taken : store.refusal? call batch = none) {version : Version}
    (member : version ∈ (store.commitOf call batch).versions) {stored : Task}
    (current : store.tasks.get? version.id = some stored) :
    stored.status.canBecome version.task.status = true := by
  have allowed := (conflict?_eq_none_iff.1 (conflict?_of_taken taken)).2.2
  exact ((allowed _ (mem_commitOf.1 member).1).updated stored current).2

/-- Each version of a task moves on from the one before it. -/
structure Advances (past : List Commit) (store : Memory) : Prop where
  tracked : Tracked past store
  linked : ∀ id, (versionsOf id past).IsChain Version.Advances

theorem advances_step {past commits : List Commit} {store next : Memory}
    (advances : Advances past store) (step : Step store commits next) :
    Advances (past ++ commits) next := by
  refine ⟨tracked_step advances.tracked step, fun id => ?_⟩
  cases step with
  | feed feed =>
    rw [List.append_nil]
    exact advances.linked id
  | close isOpen =>
    rw [List.append_nil]
    exact advances.linked id
  | write call batch taken =>
    rw [versionsOf_append]
    by_cases written : id ∈ (store.commitOf call batch).versions.map (·.id)
    · obtain ⟨version, member, rfl⟩ := List.mem_map.1 written
      rw [versionsOf_commit_of_mem (nodup_commitOf taken) member]
      refine List.isChain_append.2 ⟨advances.linked version.id, .singleton _, ?_⟩
      -- The last version is the one that is stored.
      rintro last isLast _ ⟨⟩
      have current := advances.tracked.current (isOpen_of_taken taken) version.id
      rw [Option.mem_def.1 isLast] at current
      exact canBecome_of_taken taken member current
    · rw [versionsOf_commit_of_not_mem written, List.append_nil]
      exact advances.linked id

theorem advances_run {past : List Commit} {store : Memory} (advances : Advances past store)
    (events : List Event) : Advances (past ++ store.history events) (store.after events) :=
  run_induction (fun _ _ _ _ => advances_step) advances events

theorem advances_after (config : StoreConfig) (events : List Event) :
    Advances ((ofConfig config).history events) ((ofConfig config).after events) :=
  advances_run ⟨tracked_ofConfig config, fun _ => .nil⟩ events

/-- All later versions of a task move on from an earlier one. -/
theorem Advances.pairwise {past : List Commit} {store : Memory} (advances : Advances past store)
    (id : TaskId) : (versionsOf id past).Pairwise Version.Advances :=
  List.isChain_iff_pairwise.1 (advances.linked id)

/-- **A stored task stays**, while the store is open; only its status moves on. -/
theorem exists_of_stored {config : StoreConfig} {events later : List Event}
    (isOpen : ((ofConfig config).after (events ++ later)).closed = false) {id : TaskId} {task : Task}
    (stored : ((ofConfig config).after events).tasks.get? id = some task) :
    ∃ now, ((ofConfig config).after (events ++ later)).tasks.get? id = some now ∧
      task.status.canBecome now.status = true := by
  have advances := advances_after config (events ++ later)
  have wasOpen := isOpen_of_append isOpen
  rw [(tracked_after config events).current wasOpen, Option.map_eq_some_iff] at stored
  obtain ⟨version, last, rfl⟩ := stored
  have pairwise := advances.pairwise id
  have current := advances.tracked.current isOpen id
  rw [history_append, versionsOf_append] at pairwise current
  rw [current, List.getLast?_append]
  cases newest : (versionsOf id (((ofConfig config).after events).history later)).getLast? with
  | none =>
    rw [Option.none_or, last]
    exact ⟨version.task, rfl, Status.canBecome_refl _⟩
  | some new =>
    refine ⟨new.task, rfl, ?_⟩
    exact (List.pairwise_append.1 pairwise).2.2 version (List.mem_of_getLast? last) new
      (List.mem_of_getLast? newest)

/-! ### The theorem -/

/-- The statuses of tasks move forward in a run. -/
structure StatusesAdvance (start : Memory) (events : List Event) : Prop where
  /-- The status of a version can become that of every later version of the task. -/
  forward : ∀ id, (versionsOf id (start.history events)).Pairwise Version.Advances
  /-- A task that is done keeps its status. -/
  done : ∀ id, (versionsOf id (start.history events)).Pairwise fun version later =>
    version.task.status.isDone = true → later.task.status = version.task.status
  /-- A task that is no longer pending never is again. -/
  left : ∀ id, (versionsOf id (start.history events)).Pairwise fun version later =>
    version.task.status ≠ .pending → later.task.status ≠ .pending
  /-- A task that is stored stays so while the store is open. -/
  stays : ∀ front back, events = front ++ back → (start.after events).closed = false →
    ∀ id task, (start.after front).tasks.get? id = some task →
      ∃ now, (start.after events).tasks.get? id = some now ∧ task.status.canBecome now.status = true

theorem statusesAdvance_after (config : StoreConfig) (events : List Event) :
    (ofConfig config).StatusesAdvance events := by
  have forward := (advances_after config events).pairwise
  refine ⟨forward, fun id => (forward id).imp ?_, fun id => (forward id).imp ?_, ?_⟩
  · exact fun step isDone => Status.eq_of_canBecome isDone step
  · intro version later step isLeft pending
    rw [Version.Advances, pending] at step
    exact isLeft (Status.eq_pending_of_canBecome step)
  · rintro front back rfl isOpen id task stored
    exact exists_of_stored isOpen stored

/-- **Statuses never move backwards**, whatever clients do and in whatever order their calls come. -/
theorem statuses_advance (config : StoreConfig) (clients : List (List Operation))
    (turns : List (Nat × Ambient)) :
    (ofConfig config).StatusesAdvance (calls (ofConfig config) (clients.map script) turns) :=
  statusesAdvance_after config _

/-- A client that gives a task a status, whatever has become of it in between. -/
def setStatus (id : TaskId) (status : Status) : Operation :=
  .updateTask (fun error => error) id (fun task => pure (.ok { task with status := status })) ()

/- Two clients read a task; the first ends it, the second comes too late to start it, and tries again. -/
example :
    (versions ((ofConfig .standard).history (calls (ofConfig .standard)
      [script [.call (.put [writeOf ⟨"a"⟩ none]), setStatus ⟨"a"⟩ .success],
        script [setStatus ⟨"a"⟩ .running]]
      ([0, 0, 1, 0, 1, 1, 1].map fun turn => (turn, ⟨.epoch, fun place => place⟩))))).map
        (·.task.status) = [.pending, .success] := by
  decide

end Memory

end TaskLedger
