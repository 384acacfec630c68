/-
**Comments.** Remarks on tasks, on the tasks of one kind, and on commits.

* `TaskComment`, `SpecComment`, `CommitComment` — the records; what they are about and their time
  identify them.
* `Comment` — any of the three.
* `Conflict` — another comment with the same identity says something else.
-/
import TaskLedger.Json.Record
import TaskLedger.Task.Id

namespace TaskLedger

open Json (RecordField Shape)
open Time (Instant)

/-- A comment on a task at one commit. -/
structure TaskComment where
  repo : String
  /-- The name of the task. -/
  name : String
  commit : String
  time : Instant
  /-- The task that is meant, if it is known. -/
  task : Option TaskId
  /-- The author. -/
  user : String
  message : String
deriving DecidableEq

/-- A comment on all tasks of one name. -/
structure SpecComment where
  repo : String
  /-- The name of the tasks. -/
  name : String
  time : Instant
  user : String
  /-- The tasks are known to fail now and then. -/
  flaky : Bool
  /-- Failures of the tasks should hold up nothing. -/
  ignoreFailure : Bool
  message : String
deriving DecidableEq

/-- A comment on a commit. -/
structure CommitComment where
  repo : String
  commit : String
  time : Instant
  user : String
  message : String
deriving DecidableEq

/-- The text of a time in messages. -/
def shownTime (time : Instant) : String :=
  String.ofList time.offsetText

namespace TaskComment

/-- What identifies the comment, for messages. -/
def identity (comment : TaskComment) : String :=
  "task comment " ++ comment.repo ++ "/" ++ comment.name ++ "/" ++ comment.commit ++ " at " ++
    shownTime comment.time

/-- The fields of a task comment in JSON. -/
def fields : List (RecordField TaskComment) :=
  [.needed "repo" .string repo fun v comment => { comment with repo := v },
    .needed "name" .string name fun v comment => { comment with name := v },
    .needed "commit" .string commit fun v comment => { comment with commit := v },
    .needed "timestamp" .instant time fun v comment => { comment with time := v },
    .defaulted "task_id" TaskId.shape.optional task fun v comment => { comment with task := v },
    .needed "user" .string user fun v comment => { comment with user := v },
    .needed "message" .string message fun v comment => { comment with message := v }]

/-- A task comment in JSON. -/
def shape : Shape TaskComment :=
  .record fields ⟨"", "", "", .epoch, none, "", ""⟩

end TaskComment

namespace SpecComment

/-- What identifies the comment, for messages. -/
def identity (comment : SpecComment) : String :=
  "task spec comment " ++ comment.repo ++ "/" ++ comment.name ++ " at " ++ shownTime comment.time

/-- The fields of a spec comment in JSON. -/
def fields : List (RecordField SpecComment) :=
  [.needed "repo" .string repo fun v comment => { comment with repo := v },
    .needed "name" .string name fun v comment => { comment with name := v },
    .needed "timestamp" .instant time fun v comment => { comment with time := v },
    .needed "user" .string user fun v comment => { comment with user := v },
    .defaulted "flaky" .flag flaky fun v comment => { comment with flaky := v },
    .defaulted "ignore_failure" .flag ignoreFailure
      fun v comment => { comment with ignoreFailure := v },
    .needed "message" .string message fun v comment => { comment with message := v }]

/-- A spec comment in JSON. -/
def shape : Shape SpecComment :=
  .record fields ⟨"", "", .epoch, "", false, false, ""⟩

end SpecComment

namespace CommitComment

/-- What identifies the comment, for messages. -/
def identity (comment : CommitComment) : String :=
  "commit comment " ++ comment.repo ++ "/" ++ comment.commit ++ " at " ++ shownTime comment.time

/-- The fields of a commit comment in JSON. -/
def fields : List (RecordField CommitComment) :=
  [.needed "repo" .string repo fun v comment => { comment with repo := v },
    .needed "commit" .string commit fun v comment => { comment with commit := v },
    .needed "timestamp" .instant time fun v comment => { comment with time := v },
    .needed "user" .string user fun v comment => { comment with user := v },
    .needed "message" .string message fun v comment => { comment with message := v }]

/-- A commit comment in JSON. -/
def shape : Shape CommitComment :=
  .record fields ⟨"", "", .epoch, "", ""⟩

end CommitComment

/-- A comment of any kind. -/
inductive Comment where
  | task (comment : TaskComment)
  | spec (comment : SpecComment)
  | commit (comment : CommitComment)
deriving DecidableEq

/-- The repository that the comment belongs to. -/
def Comment.repo : Comment → String
  | .task comment => comment.repo
  | .spec comment => comment.repo
  | .commit comment => comment.repo

/-- A comment with the same identity and another content is there. -/
structure Conflict where
  identity : String
deriving DecidableEq

/-- The message of the error. -/
def Conflict.message (conflict : Conflict) : String :=
  conflict.identity ++ " already exists with different content"

end TaskLedger
