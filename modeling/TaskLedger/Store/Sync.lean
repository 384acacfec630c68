/-
**Reports into the store.** Bringing a stored task up to date with a report.

* `SyncError` — the report or the store is at fault.
* `syncReport` — reconciles the task that the report names; a report without news writes nothing.
-/
import TaskLedger.Report.Reconcile
import TaskLedger.Store.Retry

namespace TaskLedger

/-- A report could not be brought into the store. -/
inductive SyncError where
  | report (cause : ReportError)
  | store (cause : StoreError)
deriving DecidableEq

/-- Why the change of a task ended without a write. -/
inductive SyncStop where
  /-- The report has nothing new. -/
  | unchanged
  | failed (cause : SyncError)
deriving DecidableEq

/-- The task as the report changes it; no change is a reason to stop. -/
def Report.change (report : Report) (task : Task) : Except SyncStop Task :=
  match task.applyReport report with
  | .ok (true, updated) => .ok updated
  | .ok (false, _) => .error .unchanged
  | .error cause => .error (.failed (.report cause))

universe u

/-- Reconciles the task that a report names with it, and says whether that wrote anything. -/
def syncReport {m : Type → Type u} [Monad m] (store : Client m) (report : Report) :
    m (Except SyncError Bool) :=
  match report.requiredTag TagKey.id with
  | .error cause => pure (.error (.report cause))
  | .ok id => do
    match ← updateTask store (fun cause => .failed (.store cause)) ⟨id⟩
        fun task => pure (report.change task) with
    | .ok _ => pure (.ok true)
    | .error .unchanged => pure (.ok false)
    | .error (.failed cause) => pure (.error cause)

end TaskLedger
