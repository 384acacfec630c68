/-
**Errors of a task store.**

* `StoreError` — the causes, with `message` for their texts.
* `StoreError.isRetryable` — another reading of the task and another write may succeed.
-/
import TaskLedger.Task.Basic

namespace TaskLedger

/-- A call of a task store failed. -/
inductive StoreError where
  /-- The task was written by someone else since it was read. -/
  | concurrentUpdate (task : TaskId)
  | notFound (task : TaskId)
  | unknownCursor (cursor : CursorId)
  /-- As many cursors are registered as may be. -/
  | tooManyCursors (most : Nat)
  | idAlreadyAssigned (task : TaskId)
  | invalid (cause : InvalidTask)
  | closed
  /-- The database behind the store did not answer. -/
  | unreachable
deriving DecidableEq

namespace StoreError

/-- The message of the error. -/
def message : StoreError → String
  | .concurrentUpdate task => "concurrent update of task " ++ task.text
  | .notFound task => "task not found: " ++ task.text
  | .unknownCursor cursor => "unknown modified-tasks cursor: " ++ cursor.text
  | .tooManyCursors most =>
    "too many modified-tasks users (max " ++ String.ofList (Nat.toDigits 10 most) ++ ")"
  | .idAlreadyAssigned task => "task already has an id: " ++ task.text
  | .invalid cause => cause.message
  | .closed => "task store is closed"
  | .unreachable => "persistence error"

/-- Reading again and writing again may succeed. -/
def isRetryable : StoreError → Bool
  | .concurrentUpdate _ => true
  | _ => false

end StoreError

end TaskLedger
