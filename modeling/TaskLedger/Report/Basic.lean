/-
**Job reports.** What the execution backend says about the job that runs a task.

* `JobState` — the states of a job, with the task status that each means.
* `Report` — a report in the backend's own layout.
* `Report.tags` — the tags of a report as keys and values; a tag without a colon is an error.
-/
import TaskLedger.Json.Record
import TaskLedger.Task.Status
import TaskLedger.Text.Quoted

namespace TaskLedger

open Json (RecordField Shape)
open Text (quoted)

/-- The state of a job. -/
inductive JobState where
  | botDied
  | canceled
  | completed
  | expired
  | pending
  | running
  | timedOut
deriving DecidableEq, Repr, Inhabited

/-- A report cannot be merged into a task. -/
inductive ReportError where
  /-- The tag has no colon. -/
  | malformedTag (tag : String)
  /-- The report of a job lacks a tag. -/
  | missingTag (key job : String)
  /-- A field that identifies the task disagrees with what is recorded. -/
  | identityMismatch (field task recorded reported : String)
  /-- The creation time disagrees with what is recorded. -/
  | creationTimeChanged (task recorded reported : String)
  /-- A time cannot be read. -/
  | invalidTime (field value task : String)
  | unknownState (state : String)
deriving DecidableEq

/-- The message of the error. -/
def ReportError.message : ReportError → String
  | .malformedTag tag => "malformed tag " ++ quoted tag ++ ", expected key:value"
  | .missingTag key job => "report for backend task " ++ quoted job ++ " has no " ++ key ++ " tag"
  | .identityMismatch field task recorded reported =>
    field ++ " does not match for task " ++ task ++ ". Was " ++ recorded ++ ", now " ++ reported
  | .creationTimeChanged task recorded reported =>
    "creation time has changed for task " ++ task ++ ". Was " ++ recorded ++ ", now " ++ reported
  | .invalidTime field value task =>
    "unable to parse " ++ field ++ " " ++ quoted value ++ " for task " ++ task
  | .unknownState state => "unknown swarming state " ++ quoted state

namespace JobState

/-- The backend's name of a state. -/
def name : JobState → String
  | .botDied => "BOT_DIED"
  | .canceled => "CANCELED"
  | .completed => "COMPLETED"
  | .expired => "EXPIRED"
  | .pending => "PENDING"
  | .running => "RUNNING"
  | .timedOut => "TIMED_OUT"

/-- All states. -/
def all : List JobState :=
  [.botDied, .canceled, .completed, .expired, .pending, .running, .timedOut]

theorem mem_all (state : JobState) : state ∈ all := by
  cases state <;> decide

/-- The state with a name. -/
def parse (raw : String) : Except ReportError JobState :=
  match all.find? fun state => state.name == raw with
  | some state => .ok state
  | none => .error (.unknownState raw)

/-- The status of the task that a job in this state runs; a completed job may have failed. -/
def status (failed : Bool) : JobState → Status
  | .botDied | .canceled | .expired | .timedOut => .mishap
  | .pending => .pending
  | .running => .running
  | .completed => if failed then .failure else .success

/-- A state, as its name. -/
def shape : Shape JobState :=
  .oneOfNames name all

end JobState

/-- Where the outputs of a completed job are. -/
structure Outputs where
  /-- The digest of the outputs. -/
  digest : String
  server : Option String
  space : Option String
deriving DecidableEq

namespace Outputs

/-- The fields of a job's outputs in JSON. -/
def fields : List (RecordField Outputs) :=
  [.defaulted "isolated" .string digest fun v outputs => { outputs with digest := v },
    .defaulted "isolatedserver" (.optional .string) server
      fun v outputs => { outputs with server := v },
    .defaulted "namespace" (.optional .string) space fun v outputs => { outputs with space := v }]

/-- The outputs of a job in JSON. -/
def shape : Shape Outputs :=
  .record fields ⟨"", none, none⟩

end Outputs

/-- What the backend reports about a job. Times and state are texts, as they came. -/
structure Report where
  jobId : String
  state : String
  /-- A completed job failed. -/
  failed : Bool
  created : Option String
  started : Option String
  completed : Option String
  /-- When a job was given up. -/
  abandoned : Option String
  outputs : Option Outputs
  /-- Each a key and a value with a colon between them. -/
  rawTags : List String
deriving DecidableEq

/-- The tags of a report: keys with values, a key as often as it has values. -/
abbrev Tags := List (String × String)

namespace Tags

/-- All values of a key, in their order. -/
def all (tags : Tags) (key : String) : List String :=
  (tags.filter fun tag => tag.1 == key).map (·.2)

/-- The first value of a key. -/
def first? (tags : Tags) (key : String) : Option String :=
  (tags.all key).head?

end Tags

/-- The key and the value of a tag: what stands before and after its first colon. -/
def splitTag? (tag : String) : Option (String × String) :=
  match tag.toList.dropWhile (· != ':') with
  | [] => none
  | _ :: value => some (String.ofList (tag.toList.takeWhile (· != ':')), String.ofList value)

namespace Report

/-- A report that says nothing. -/
def blank : Report where
  jobId := ""
  state := ""
  failed := false
  created := none
  started := none
  completed := none
  abandoned := none
  outputs := none
  rawTags := []

/-- The tags; the first one without a colon is the error. -/
def tags (report : Report) : Except ReportError Tags :=
  report.rawTags.mapM fun tag =>
    match splitTag? tag with
    | some pair => .ok pair
    | none => .error (.malformedTag tag)

/-- The first value of a tag that the report must have. -/
def requiredTag (report : Report) (key : String) : Except ReportError String := do
  let tags ← report.tags
  match tags.first? key with
  | some value => .ok value
  | none => .error (.missingTag key report.jobId)

/-- The fields of a report in JSON. -/
def fields : List (RecordField Report) :=
  [.defaulted "task_id" .string jobId fun v report => { report with jobId := v },
    .defaulted "state" .string state fun v report => { report with state := v },
    .defaulted "failure" .flag failed fun v report => { report with failed := v },
    .defaulted "created_ts" (.optional .string) created fun v report => { report with created := v },
    .defaulted "started_ts" (.optional .string) started fun v report => { report with started := v },
    .defaulted "completed_ts" (.optional .string) completed
      fun v report => { report with completed := v },
    .defaulted "abandoned_ts" (.optional .string) abandoned
      fun v report => { report with abandoned := v },
    .defaulted "outputs_ref" Outputs.shape.optional outputs
      fun v report => { report with outputs := v },
    .defaulted "tags" (.listOf .string) rawTags fun v report => { report with rawTags := v }]

/-- A report in JSON. -/
def shape : Shape Report :=
  .record fields blank

end Report

end TaskLedger
