/-
**A read and a later write.** What a write of one task finds when other clients have called the store
since the task was read.

* `Memory.stamp_ne_of_conflict` — a write of one task meets a conflict only if the stamps differ.
* `Memory.refusal?_of_current` — a write that finds the version it was made from fails only for what the
  task itself says.
* `Tracked.eq_of_stamp` — while the stamps increase, a version of a task is known by its stamp.
* `Tracked.current_of_read` — so a write that is taken finds the version that was read.
* `Tracked.written_of_conflict` — and a conflict tells of a commit of the same task in between.
-/
import TaskLedger.Proofs.Store.Tracked
import Mathlib.Data.List.Nodup

namespace TaskLedger

/-! ### A batch of one task -/

section Single

variable {store : Memory} {call : Ambient} {task : Task} {id : TaskId}

theorem Ambient.named_single (named : task.id = some id) : call.named [task] = [(id, task)] := by
  obtain ⟨⟩ := task
  cases named
  rfl

theorem Memory.written_single (named : task.id = some id) :
    store.written call [task] = [(id, { task with stamp := some (store.stampFor call) })] := by
  rw [written, Ambient.named_single named]
  rfl

theorem Memory.commitOf_single (named : task.id = some id) :
    (store.commitOf call [task]).versions = [⟨id, task, store.stampFor call⟩] := by
  rw [commitOf, Ambient.named_single named]
  rfl

theorem Memory.stamp_eq_of_taken (named : task.id = some id)
    (taken : store.refusal? call [task] = none) :
    task.stamp = (store.tasks.get? id).bind (·.stamp) := by
  have member : ⟨id, task, store.stampFor call⟩ ∈ (store.commitOf call [task]).versions := by
    rw [commitOf_single named]
    exact List.mem_singleton_self _
  exact base_of_mem_commitOf taken member

/-- A conflict is one of stamps. -/
theorem Memory.stamp_ne_of_conflict (named : task.id = some id) {error : StoreError}
    (refused : store.refusal? call [task] = some error) (retryable : error.isRetryable = true) :
    store.closed = false ∧ task.stamp ≠ (store.tasks.get? id).bind (·.stamp) := by
  rw [refusal?] at refused
  split at refused
  · cases refused
    cases retryable
  · rename_i isOpen
    refine ⟨Bool.not_eq_true _ ▸ isOpen, ?_⟩
    split at refused
    · rename_i invalid
      obtain ⟨_, _, _, cause, _, _, _, rfl⟩ := firstInvalid?_eq_some_iff.1 invalid
      cases refused
      cases retryable
    · rw [Ambient.named_single named, conflict?, if_neg List.not_mem_nil] at refused
      split at refused
      · rename_i cause checked
        cases refused
        rw [checkWrite_eq_error_iff] at checked
        generalize store.tasks.get? id = stored at checked
        cases checked with
        | inserted stamped => exact stamped
        | stale version stale => exact stale
        | backwards version current step => cases retryable
      · cases refused

end Single

/-! ### What happens between a read and a write -/

namespace Memory

theorem get_eq_ok {store : Memory} {id : TaskId} {found : Option Task}
    (read : store.get id = .ok found) : store.closed = false ∧ store.tasks.get? id = found := by
  rw [get] at read
  split at read
  · cases read
  · rename_i isOpen
    cases read
    exact ⟨Bool.not_eq_true _ ▸ isOpen, rfl⟩

theorem get_eq_error {store : Memory} {id : TaskId} {error : StoreError}
    (failed : store.get id = .error error) : store.closed = true ∧ error = .closed := by
  rw [get] at failed
  split at failed
  · rename_i closed
    cases failed
    exact ⟨closed, rfl⟩
  · cases failed

/-- A write that finds the version it was made from can fail only for what the task itself says. -/
theorem refusal?_of_current {store : Memory} {id : TaskId} {stored changed : Task}
    (read : store.get id = .ok (some stored)) (named : changed.id = some id)
    (current : changed.stamp = stored.stamp) (call : Ambient) :
    store.refusal? call [changed] =
      match changed.validate with
      | .error cause => some (.invalid cause)
      | .ok () =>
        if stored.status.canBecome changed.status then none
        else some (.invalid (.statusStep id stored.status changed.status)) := by
  obtain ⟨isOpen, found⟩ := get_eq_ok read
  rw [refusal?, isOpen, if_neg Bool.false_ne_true, Ambient.named_single named, firstInvalid?]
  cases changed.validate with
  | error cause => rfl
  | ok _ =>
    by_cases step : stored.status.canBecome changed.status = true <;>
      simp [firstInvalid?, conflict?, found, checkWrite, current, step]

/-- **A version of a task is known by its stamp.** -/
theorem Tracked.eq_of_stamp {past : List Commit} {store : Memory} (tracked : Tracked past store)
    (ordered : past.Pairwise fun earlier later => earlier.stamp < later.stamp) {id : TaskId}
    {v w : Version} (vMember : v ∈ versionsOf id past) (wMember : w ∈ versionsOf id past)
    (same : v.stamp = w.stamp) : v = w := by
  have distinct : ((versionsOf id past).map (·.stamp)).Nodup :=
    List.pairwise_map.2 ((tracked.increasing ordered id).imp ne_of_lt)
  exact List.inj_on_of_nodup_map distinct vMember wMember same

section Between

variable {past : List Commit} {store : Memory} {others : List Event} {id : TaskId}
  {read changed : Task} {call : Ambient}

/-- **A write that is taken finds the version that was read.** -/
theorem Tracked.current_of_read (tracked : Tracked past store)
    (ordered : (past ++ store.history others).Pairwise fun earlier later =>
      earlier.stamp < later.stamp)
    (seen : store.get id = .ok (some read)) (named : changed.id = some id)
    (sameStamp : changed.stamp = read.stamp)
    (taken : (store.after others).refusal? call [changed] = none) :
    (store.after others).tasks.get? id = some read := by
  have trackedLater := tracked_run tracked others
  obtain ⟨isOpen, stored⟩ := get_eq_ok seen
  obtain ⟨v, vMember, rfl, -⟩ := tracked.exists_version isOpen stored
  -- What the write finds has the stamp that was read, and so it is the same version.
  have stamps := stamp_eq_of_taken named taken
  rw [sameStamp] at stamps
  cases current : (store.after others).tasks.get? id with
  | none =>
    rw [current] at stamps
    cases stamps
  | some now =>
    rw [current] at stamps
    obtain ⟨w, wMember, rfl, -⟩ := trackedLater.exists_version (isOpen_of_taken taken) current
    have vLater : v ∈ versionsOf id (past ++ store.history others) := by
      rw [versionsOf_append]
      exact List.mem_append_left _ vMember
    rw [trackedLater.eq_of_stamp ordered vLater wMember (Option.some.inj stamps)]

/-- **A conflict tells of a commit of the same task** since the read. -/
theorem Tracked.written_of_conflict (tracked : Tracked past store)
    (seen : store.get id = .ok (some read)) (named : changed.id = some id)
    (sameStamp : changed.stamp = read.stamp) {error : StoreError}
    (refused : (store.after others).refusal? call [changed] = some error)
    (retryable : error.isRetryable = true) : versionsOf id (store.history others) ≠ [] := by
  -- Without such a commit the task is stored as it was read, and the stamps agree.
  intro quiet
  obtain ⟨isOpen, stored⟩ := get_eq_ok seen
  obtain ⟨stillOpen, differ⟩ := stamp_ne_of_conflict named refused retryable
  have unchanged : (store.after others).tasks.get? id = some read := by
    rw [(tracked_run tracked others).current stillOpen, versionsOf_append, quiet, List.append_nil,
      ← tracked.current isOpen, stored]
  rw [unchanged, sameStamp] at differ
  exact differ rfl

end Between

end Memory

end TaskLedger
