/-
**Comments of a repository.** All comments that belong to one repository, grouped by what they are
about.

* `RepoComments` — task comments by task name and commit, spec comments by name, commit comments by
  commit.
* `RepoComments.add`, `RepoComments.remove` — one comment in or out, with whether that changed
  anything.
* `RepoComments.addInPlace` — a comment added to a repository that is changed in place.
* `RepoComments.since` — the comments made at a time or later.
-/
import TaskLedger.Comment.Group

namespace TaskLedger

open Json (RecordField Shape)
open Time (Instant)

/-- The comments of a repository. -/
structure RepoComments where
  repo : String
  /-- By task name, then by commit. -/
  onTasks : Table String (Groups TaskComment)
  /-- By the name of the tasks. -/
  onSpecs : Groups SpecComment
  /-- By commit. -/
  onCommits : Groups CommitComment
deriving DecidableEq

namespace RepoComments

/-- A repository without comments. -/
def ofRepo (repo : String) : RepoComments :=
  ⟨repo, ∅, ∅, ∅⟩

/-- The repository has no groups. -/
def isEmpty (comments : RepoComments) : Bool :=
  comments.onTasks.isEmpty && comments.onSpecs.isEmpty && comments.onCommits.isEmpty

/-- The comments with one more, and whether that changed anything. -/
def add (comments : RepoComments) : Comment → Except Conflict (Bool × RepoComments)
  | .task comment =>
    let ofName := (comments.onTasks.get? comment.name).getD ∅
    (ofName.add comment.commit comment).map fun (changed, groups) =>
      (changed, { comments with onTasks := comments.onTasks.insert comment.name groups })
  | .spec comment =>
    (comments.onSpecs.add comment.name comment).map fun (changed, groups) =>
      (changed, { comments with onSpecs := groups })
  | .commit comment =>
    (comments.onCommits.add comment.commit comment).map fun (changed, groups) =>
      (changed, { comments with onCommits := groups })

/-- Adds a comment to a repository that is changed in place. -/
def addInPlace (comments : RepoComments) : Comment → Except Conflict Bool × RepoComments
  | .task comment =>
    let ofName := (comments.onTasks.get? comment.name).getD ∅
    let (answer, groups) := ofName.addInPlace comment.commit comment
    (answer, { comments with onTasks := comments.onTasks.insert comment.name groups })
  | .spec comment =>
    let (answer, groups) := comments.onSpecs.addInPlace comment.name comment
    (answer, { comments with onSpecs := groups })
  | .commit comment =>
    let (answer, groups) := comments.onCommits.addInPlace comment.commit comment
    (answer, { comments with onCommits := groups })

/-- The comments without the one that has the same identity, and whether there was one. A group that
is empty goes, also one that was empty before. -/
def remove (comments : RepoComments) : Comment → Bool × RepoComments
  | .task comment =>
    match comments.onTasks.get? comment.name with
    | some ofName =>
      let (removed, groups) := ofName.remove comment.commit comment.time
      (removed, { comments with
        onTasks :=
          if groups.isEmpty then comments.onTasks.erase comment.name
          else comments.onTasks.insert comment.name groups })
    | none => (false, comments)
  | .spec comment =>
    let (removed, groups) := comments.onSpecs.remove comment.name comment.time
    (removed, { comments with onSpecs := groups })
  | .commit comment =>
    let (removed, groups) := comments.onCommits.remove comment.commit comment.time
    (removed, { comments with onCommits := groups })

/-- The recent groups of one task name, if there are any. -/
def recentOfName? (start : Instant) (groups : Groups TaskComment) : Option (Groups TaskComment) :=
  let kept := groups.since start
  if kept.isEmpty then none else some kept

/-- The comments made at a time or later. -/
def since (comments : RepoComments) (start : Instant) : RepoComments where
  repo := comments.repo
  onTasks := comments.onTasks.filterMap (recentOfName? start)
  onSpecs := comments.onSpecs.since start
  onCommits := comments.onCommits.since start

/-- The fields of a repository's comments in JSON. -/
def fields : List (RecordField RepoComments) :=
  [.defaulted "repo" .string repo fun v comments => { comments with repo := v },
    .defaulted "task_comments" (.tableOf (.tableOf TaskComment.shape.listOf)) onTasks
      fun v comments => { comments with onTasks := v },
    .defaulted "task_spec_comments" (.tableOf SpecComment.shape.listOf) onSpecs
      fun v comments => { comments with onSpecs := v },
    .defaulted "commit_comments" (.tableOf CommitComment.shape.listOf) onCommits
      fun v comments => { comments with onCommits := v }]

/-- A repository's comments in JSON. -/
def shape : Shape RepoComments :=
  .record fields (ofRepo "")

end RepoComments

end TaskLedger
