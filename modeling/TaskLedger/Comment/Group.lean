/-
**Groups of comments.** Comments about one thing in the order of their times.

* `Dated` — what groups need to know of a comment: its time and its identity.
* `Group.add`, `Group.remove`, `Group.since` — a group is searched by bisection, so these are exact on
  groups in ascending order and defined on all.
* `Groups` — groups by key; a group that loses its last comment goes too.
* `Groups.addInPlace` — a comment added to groups that are changed in place.
-/
import TaskLedger.Bisection
import TaskLedger.Comment.Basic

namespace TaskLedger

open Time (Instant)

/-- A comment as its group sees it. -/
class Dated (κ : Type) where
  time : κ → Instant
  identity : κ → String

instance : Dated TaskComment := ⟨TaskComment.time, TaskComment.identity⟩

instance : Dated SpecComment := ⟨SpecComment.time, SpecComment.identity⟩

instance : Dated CommitComment := ⟨CommitComment.time, CommitComment.identity⟩

variable {κ : Type} [Dated κ] [DecidableEq κ]

namespace Group

/-- Where a comment of this time stands in a group, or would have to. -/
def find (group : List κ) (time : Instant) : Bisection.Found :=
  Bisection.searchList group fun comment => compare (Dated.time comment) time

/-- The group with a comment and whether that changed it; a comment that is there already, equal in
everything, changes nothing. -/
def add (comment : κ) (group : List κ) : Except Conflict (Bool × List κ) :=
  match find group (Dated.time comment) with
  | .present place =>
    if group[place]? = some comment then .ok (false, group)
    else .error ⟨Dated.identity comment⟩
  | .absent place => .ok (true, group.insertIdx place comment)

/-- The group without the comment of a time, and whether there was one. -/
def remove (time : Instant) (group : List κ) : Bool × List κ :=
  match find group time with
  | .present place => (true, group.eraseIdx place)
  | .absent _ => (false, group)

/-- The comments of a group made at a time or later. -/
def since (start : Instant) (group : List κ) : List κ :=
  group.drop (Bisection.partitionPoint group fun comment => decide (Dated.time comment < start))

end Group

/-- Groups of comments by key. -/
abbrev Groups (κ : Type) := Table String (List κ)

namespace Groups

/-- The groups with a comment under a key. -/
def add (key : String) (comment : κ) (groups : Groups κ) : Except Conflict (Bool × Groups κ) :=
  (Group.add comment ((groups.get? key).getD [])).map fun (changed, group) =>
    (changed, groups.insert key group)

/-- Adds a comment under a key in groups that are changed in place: the key has a group from then on, also if
the comment is refused. -/
def addInPlace (key : String) (comment : κ) (groups : Groups κ) : Except Conflict Bool × Groups κ :=
  let group := (groups.get? key).getD []
  match Group.add comment group with
  | .ok (changed, group) => (.ok changed, groups.insert key group)
  | .error conflict => (.error conflict, groups.insert key group)

/-- The groups with another one under a key, or without it if that is empty. -/
def put (key : String) (group : List κ) (groups : Groups κ) : Groups κ :=
  if group.isEmpty then groups.erase key else groups.insert key group

/-- The groups without the comment of a time under a key. -/
def remove (key : String) (time : Instant) (groups : Groups κ) : Bool × Groups κ :=
  match groups.get? key with
  | some group =>
    let (removed, left) := Group.remove time group
    (removed, put key left groups)
  | none => (false, groups)

/-- A group's comments made at a time or later, if there are any. -/
def recent? (start : Instant) (group : List κ) : Option (List κ) :=
  let kept := Group.since start group
  if kept.isEmpty then none else some kept

/-- The comments made at a time or later, groups without any left out. -/
def since (start : Instant) (groups : Groups κ) : Groups κ :=
  groups.filterMap (recent? start)

end Groups

end TaskLedger
