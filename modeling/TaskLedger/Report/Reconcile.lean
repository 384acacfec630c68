/-
**Reconciliation.** Merging a report into the task that it is about.

* `filledText`, `filledId` — a recorded identity has to agree with the reported one, and an absent one
  is filled in.
* `readTime` — the time of a report, strict or without a zone.
* `Task.reconcile` — the task after a report; identity is filled in or compared, while status, parents,
  outputs and run times are taken from the report.
-/
import TaskLedger.Report.Basic
import TaskLedger.Report.TagRequest
import TaskLedger.Task.Basic

namespace TaskLedger

open Time (Instant)

/-- A time of a report: with a zone, or without one and then in UTC. -/
def readTime (field value task : String) : Except ReportError Instant :=
  match Instant.readStrict? value.toList with
  | some t => .ok t
  | none =>
    match Instant.readZoneless? value.toList with
    | some t => .ok t
    | none => .error (.invalidTime field value task)

namespace Report

/-- The recorded text, or the reported one where the recorded is empty; both must agree. -/
def filledText (field task recorded : String) (reported : Option String) :
    Except ReportError String :=
  match reported with
  | none => .ok recorded
  | some value =>
    if recorded = "" then .ok value
    else if recorded = value then .ok recorded
    else .error (.identityMismatch field task recorded value)

/-- The recorded identifier, or the reported one where none is recorded; both must agree, and an
empty reported one fills nothing. -/
def filledId (field task : String) (recorded : Option TaskId) (reported : Option String) :
    Except ReportError (Option TaskId) :=
  match recorded, reported with
  | recorded, none => .ok recorded
  | none, some value => .ok (if value = "" then none else some ⟨value⟩)
  | some id, some value =>
    if id.text = value then .ok (some id) else .error (.identityMismatch field task id.text value)

/-- The recorded creation time, or the reported one where none is recorded; both must agree. -/
def filledCreated (task : String) (recorded : Option Instant) (reported : Instant) :
    Except ReportError (Option Instant) :=
  match recorded with
  | none => .ok (some reported)
  | some t =>
    if t = reported then .ok (some t)
    else
      .error (.creationTimeChanged task (String.ofList t.offsetText)
        (String.ofList reported.offsetText))

/-- The recorded job, or the reported one where none is recorded; both must agree. -/
def filledJob (task : String) (recorded : Option String) (reported : String) :
    Except ReportError (Option String) :=
  match recorded with
  | none => .ok (if reported = "" then none else some reported)
  | some job =>
    if job = reported then .ok (some job)
    else .error (.identityMismatch "SwarmingTaskId" task job reported)

/-- A text that may be absent; an empty one counts as absent. -/
def given (value : Option String) : Option String :=
  value.filter (· ≠ "")

/-- The recorded time, or the reported one where the report gives it. -/
def replacedTime (field task : String) (recorded : Option Instant) (reported : Option String) :
    Except ReportError (Option Instant) :=
  match given reported with
  | none => .ok recorded
  | some value => (readTime field value task).map some

/-- The digest of the outputs, if the report names one. -/
def output (report : Report) : Option String :=
  given (report.outputs.map (·.digest))

/-- When the job ended: when it completed, or when it was given up without completing. -/
def replacedFinished (report : Report) (task : String) (status : Status)
    (recorded : Option Instant) : Except ReportError (Option Instant) :=
  if (given report.completed).isNone && status == .mishap then
    replacedTime "abandoned_ts" task recorded report.abandoned
  else replacedTime "completed_ts" task recorded report.completed

/-- The identifiers of the parents, in ascending order. -/
def parents (tags : Tags) : List TaskId :=
  ((tags.all TagKey.parent).map TaskId.mk).mergeSort fun a b => (compare a b).isLE

end Report

namespace Task

open Report

/-- The task after a report. -/
def reconcile (task : Task) (report : Report) : Except ReportError Task := do
  let tags ← report.tags
  let label := task.label
  let id ← filledId "Id" label task.id (tags.first? TagKey.id)
  let name ← filledText "Name" label task.name (tags.first? TagKey.name)
  let repo ← filledText "Repo" label task.repo (tags.first? TagKey.repo)
  let retryOf ← filledId "RetryOf" label task.retryOf (tags.first? TagKey.retryOf)
  let revision ← filledText "Revision" label task.revision (tags.first? TagKey.revision)
  let reported ← readTime "created_ts" (report.created.getD "") label
  let created ← filledCreated label task.created reported
  let jobId ← filledJob label task.jobId report.jobId
  let state ← JobState.parse report.state
  let status := state.status report.failed
  let started ← replacedTime "started_ts" label task.started report.started
  let finished ← report.replacedFinished label status task.finished
  let started := if status.isDone && started.isNone then finished else started
  .ok { task with
    id := id, name := name, repo := repo, retryOf := retryOf, revision := revision,
    parents := Report.parents tags, created := created, jobId := jobId, status := status,
    output := report.output, started := started, finished := finished }

/-- Applies a report and says whether it changed anything. -/
def applyReport (task : Task) (report : Report) : Except ReportError (Bool × Task) :=
  (task.reconcile report).map fun updated => (decide (updated ≠ task), updated)

end Task

end TaskLedger
