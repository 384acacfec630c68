/-
**Tags of a job.** The tags with which a job is requested, so that its reports name the task.

* `TagKey` — the keys of the tags.
* `TagRequest.tags` — one tag for each single-valued key in the order of the keys, then one for each
  parent; the first value of a repeated dimension counts.
-/
import TaskLedger.Decimal.Fixed
import TaskLedger.Table
import TaskLedger.Task.Id

namespace TaskLedger

namespace TagKey

/-- The job may be shown to everyone. -/
def shown : String := "allow_milo"

/-- The task's identifier. -/
def id : String := "sk_id"

/-- The task's name. -/
def name : String := "sk_name"

/-- The identifier of one parent; once for each of them. -/
def parent : String := "sk_parent_task_id"

/-- The priority of the job. -/
def priority : String := "sk_priority"

/-- The repository. -/
def repo : String := "sk_repo"

/-- The identifier of the task that is repeated. -/
def retryOf : String := "sk_retry_of"

/-- The revision. -/
def revision : String := "sk_revision"

/-- The key for a dimension of the machine that the job asks for. -/
def dimension (key : String) : String := "sk_dim_" ++ key

end TagKey

/-- What a job is requested with. -/
structure TagRequest where
  name : String
  id : TaskId
  priority : Float
  repo : String
  retryOf : Option TaskId
  revision : String
  /-- What the job asks of the machine, as keys and values. -/
  dimensions : List (String × String)
  parents : List TaskId

namespace TagRequest

/-- The identifier of the task that is repeated, empty if there is none. -/
def retryText (request : TagRequest) : String :=
  match request.retryOf with
  | some id => id.text
  | none => ""

/-- The tags that every job has. -/
def fixedTags (request : TagRequest) : Table String String :=
  .ofList
    [(TagKey.shown, "1"), (TagKey.name, request.name), (TagKey.id, request.id.text),
      (TagKey.priority, Decimal.sixPlaces request.priority), (TagKey.repo, request.repo),
      (TagKey.retryOf, request.retryText), (TagKey.revision, request.revision)]

/-- The table with a dimension's tag, unless its key has a value already. -/
def addDimension (tags : Table String String) (dimension : String × String) : Table String String :=
  let key := TagKey.dimension dimension.1
  if tags.contains key then tags else tags.insert key dimension.2

/-- The tags with one value each. -/
def singleTags (request : TagRequest) : Table String String :=
  request.dimensions.foldl addDimension request.fixedTags

/-- A tag as it is written. -/
def written (key value : String) : String :=
  key ++ ":" ++ value

/-- The tags to request the job with. -/
def tags (request : TagRequest) : List String :=
  request.singleTags.entries.map (fun tag => written tag.1 tag.2) ++
    request.parents.map fun parent => written TagKey.parent parent.text

end TagRequest

end TaskLedger
