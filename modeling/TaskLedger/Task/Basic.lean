/-
**Tasks.** One unit of work and what is known of it.

* `Task` — the record; `Task.fields` lays it out in JSON, every field of it may be missing.
* `Task.validate` — what every written task must satisfy, with the two ways to fail.
* `Task.sortByCreated` — tasks by creation time, ties in their order.
-/
import TaskLedger.Json.Record
import TaskLedger.Task.Id
import TaskLedger.Task.Status

namespace TaskLedger

open Time (Instant)
open Json (RecordField Shape)

/-- A unit of work. -/
structure Task where
  /-- Absent until the store or the caller assigns one. -/
  id : Option TaskId
  /-- The name that all tasks of one kind share. -/
  name : String
  /-- The repository of the commit that the task ran at. -/
  repo : String
  /-- The commit that the task ran at. -/
  revision : String
  /-- The commits that the task covers. -/
  commits : List String
  /-- The tasks whose results this one used. -/
  parents : List TaskId
  /-- The task that this one repeats. -/
  retryOf : Option TaskId
  status : Status
  /-- Creation time, needed before the first write. -/
  created : Option Instant
  started : Option Instant
  finished : Option Instant
  /-- The version: the stamp of the write that stored this value. -/
  stamp : Option Instant
  /-- The identifier of the job that ran the task. -/
  jobId : Option String
  /-- The digest of the job's outputs. -/
  output : Option String
deriving DecidableEq

/-- A task is not fit to be written. -/
inductive InvalidTask where
  | missingCreated (task : String)
  | finishedBeforeStarted (task : String)
  /-- The status would move backwards or leave a final one. -/
  | statusStep (task : TaskId) (stored next : Status)
deriving DecidableEq

/-- The message of the error. -/
def InvalidTask.message : InvalidTask → String
  | .missingCreated task => "Created not set for task " ++ task
  | .finishedBeforeStarted task => "task " ++ task ++ " finished before it started"
  | .statusStep task stored next =>
    "invalid status transition for task " ++ task.text ++ ": " ++ stored.name ++ " -> " ++ next.name

namespace Task

/-- A task of which nothing is known. -/
def blank : Task where
  id := none
  name := ""
  repo := ""
  revision := ""
  commits := []
  parents := []
  retryOf := none
  status := .pending
  created := none
  started := none
  finished := none
  stamp := none
  jobId := none
  output := none

instance : Inhabited Task := ⟨blank⟩

/-- A task that was just created and not stored yet. -/
def ofNew (name repo : String) (created : Instant) : Task :=
  { blank with name := name, repo := repo, created := some created }

/-- The task at a revision. -/
def withRevision (task : Task) (revision : String) : Task :=
  { task with revision := revision }

/-- The task covering these commits. -/
def withCommits (task : Task) (commits : List String) : Task :=
  { task with commits := commits }

/-- The task as a retry of another. -/
def withRetryOf (task : Task) (earlier : TaskId) : Task :=
  { task with retryOf := some earlier }

/-- The task reached a final status. -/
def isDone (task : Task) : Bool :=
  task.status.isDone

/-- The task is done and successful. -/
def isSuccess (task : Task) : Bool :=
  task.status == .success

/-- The identifier for messages. -/
def label (task : Task) : String :=
  match task.id with
  | some id => id.text
  | none => "<unassigned>"

/-- Checks what every written task must satisfy: a creation time, and no finish before the start. -/
def validate (task : Task) : Except InvalidTask Unit :=
  match task.created, task.started, task.finished with
  | none, _, _ => .error (.missingCreated task.label)
  | some _, some started, some finished =>
    if finished < started then .error (.finishedBeforeStarted task.label) else .ok ()
  | some _, _, _ => .ok ()

/-- The first task was not created after the second; an unknown creation time comes first. -/
def createdNoLater (a b : Task) : Bool :=
  match a.created, b.created with
  | none, _ => true
  | some _, none => false
  | some a, some b => a ≤ b

/-- Tasks by creation time, those with equal times in their order. -/
def sortByCreated (tasks : List Task) : List Task :=
  tasks.mergeSort createdNoLater

/-- The fields of a task in JSON. -/
def fields : List (RecordField Task) :=
  [.defaulted "id" TaskId.shape.optional id fun v task => { task with id := v },
    .defaulted "name" .string name fun v task => { task with name := v },
    .defaulted "repo" .string repo fun v task => { task with repo := v },
    .defaulted "revision" .string revision fun v task => { task with revision := v },
    .defaulted "commits" (.listOf .string) commits fun v task => { task with commits := v },
    .defaulted "parent_task_ids" TaskId.shape.listOf parents fun v task => { task with parents := v },
    .defaulted "retry_of" TaskId.shape.optional retryOf fun v task => { task with retryOf := v },
    .defaulted "status" Status.shape status fun v task => { task with status := v },
    .defaulted "created" (.optional .instant) created fun v task => { task with created := v },
    .defaulted "started" (.optional .instant) started fun v task => { task with started := v },
    .defaulted "finished" (.optional .instant) finished fun v task => { task with finished := v },
    .defaulted "db_modified" (.optional .instant) stamp fun v task => { task with stamp := v },
    .defaulted "swarming_task_id" (.optional .string) jobId fun v task => { task with jobId := v },
    .defaulted "isolated_output" (.optional .string) output fun v task => { task with output := v }]

/-- A task in JSON. -/
def shape : Shape Task :=
  .record fields blank

/-- The task with the fields that a JSON value gives. -/
def overlaid (task : Task) (changes : Json) : Option Task :=
  Json.readRecord fields task changes

end Task

end TaskLedger
