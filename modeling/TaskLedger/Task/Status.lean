/-
**Task statuses.** The life cycle of a task.

* `Status` — pending, running, and the three ways to be done.
* `Status.canBecome` — the steps that a stored task may take; statuses only move forward.
* `Status.parse` — a status from a hand-written name.
-/
import TaskLedger.Json.Shape
import TaskLedger.Text.Blank

namespace TaskLedger

/-- Where a task is in its life. -/
inductive Status where
  | pending
  | running
  /-- Done, successfully. -/
  | success
  /-- Done, with failures. -/
  | failure
  /-- Ended without completing: died, was cancelled, expired or timed out. -/
  | mishap
deriving DecidableEq, Repr, Inhabited

/-- A text names no status. -/
structure UnknownStatus where
  raw : String
deriving DecidableEq, Repr

/-- The message of the error. -/
def UnknownStatus.message (error : UnknownStatus) : String :=
  "unknown task status: " ++ error.raw

namespace Status

/-- The name under which a status is stored. -/
def name : Status → String
  | .pending => "PENDING"
  | .running => "RUNNING"
  | .success => "SUCCESS"
  | .failure => "FAILURE"
  | .mishap => "MISHAP"

/-- All statuses, in the order of a task's life. -/
def all : List Status :=
  [.pending, .running, .success, .failure, .mishap]

theorem mem_all (status : Status) : status ∈ all := by
  cases status <;> decide

/-- The task will not change any more. -/
def isDone : Status → Bool
  | .pending | .running => false
  | .success | .failure | .mishap => true

/-- A stored task with the first status may be written with the second. -/
def canBecome : Status → Status → Bool
  | .pending, _ => true
  | .running, next => next == .running || next.isDone
  | done, next => done == next

theorem canBecome_refl (status : Status) : status.canBecome status = true := by
  cases status <;> rfl

/-- **Steps compose.** -/
theorem canBecome_trans {a b c : Status} (first : a.canBecome b = true)
    (second : b.canBecome c = true) : a.canBecome c = true := by
  revert first second
  cases a <;> cases b <;> cases c <;> decide

/-- The status that a hand-written name stands for: blanks around it and its case do not count, and
an empty name is that of a pending task. -/
def parse (raw : String) : Except UnknownStatus Status :=
  let word := String.ofList ((Text.trim raw.toList).map Char.toUpper)
  if word = "" then .ok .pending
  else
    match all.find? fun status => status.name == word with
    | some status => .ok status
    | none => .error ⟨raw⟩

/-- A status, as its name. -/
def shape : Json.Shape Status :=
  .oneOfNames name all

end Status

end TaskLedger
