/-
**The change feed.** Cursors that collect the tasks written since their last poll.

* `FeedCursor` — the tasks queued for one client, each once at the place of its first write and with
  its newest value, and the newest stamp seen of every task.
* `Feed` — the cursors of a store, bounded in number; one that goes unpolled for too long is reclaimed
  when another registers or a write is recorded.
* `FeedCursor.push` — a write that is not newer than one already queued or delivered is dropped, so
  no client sees a task move backwards, whatever the order of the records.
-/
import TaskLedger.Store.Config
import TaskLedger.Store.Error

namespace TaskLedger

open Time (Instant)

/-- The state of one client of the feed. -/
structure FeedCursor where
  lastPolled : Instant
  /-- The newest stamp queued or delivered, by task. -/
  newest : Table TaskId Instant
  /-- The tasks to deliver, in the order of their first write since the last poll. -/
  queued : List (TaskId × Task)
deriving DecidableEq

namespace FeedCursor

/-- A cursor that was just registered. -/
def ofNow (now : Instant) : FeedCursor :=
  ⟨now, ∅, []⟩

/-- Sets the queued value of a task in place, or queues the task last. -/
def enqueue (id : TaskId) (task : Task) : List (TaskId × Task) → List (TaskId × Task)
  | [] => [(id, task)]
  | entry :: rest => if entry.1 = id then (id, task) :: rest else entry :: enqueue id task rest

/-- A stamp is newer than everything seen of a task. -/
def isNews (cursor : FeedCursor) (id : TaskId) (stamp : Instant) : Bool :=
  match cursor.newest.get? id with
  | some newest => newest < stamp
  | none => true

/-- Takes note of a written task; one without identifier or stamp was never written. -/
def push (cursor : FeedCursor) (task : Task) : FeedCursor :=
  match task.id, task.stamp with
  | some id, some stamp =>
    if cursor.isNews id stamp then
      { cursor with
        newest := cursor.newest.insert id stamp, queued := enqueue id task cursor.queued }
    else cursor
  | _, _ => cursor

/-- Takes note of tasks in their order. -/
def pushAll (cursor : FeedCursor) (tasks : List Task) : FeedCursor :=
  tasks.foldl push cursor

/-- What a poll delivers. -/
def delivery (cursor : FeedCursor) : List Task :=
  cursor.queued.map (·.2)

/-- The cursor after a poll. -/
def polled (cursor : FeedCursor) (now : Instant) : FeedCursor :=
  { cursor with lastPolled := now, queued := [] }

end FeedCursor

/-- The registered cursors of a store. -/
structure Feed where
  /-- The most cursors that may be registered. -/
  maxCursors : Nat
  /-- The seconds that a cursor may go unpolled. -/
  idleTimeout : Option Nat
  cursors : Table CursorId FeedCursor
deriving DecidableEq

namespace Feed

/-- A feed without cursors. -/
def ofConfig (config : StoreConfig) : Feed :=
  ⟨config.maxCursors, config.idleTimeout, ∅⟩

/-- The number of registered cursors. -/
def size (feed : Feed) : Nat :=
  feed.cursors.size

/-- A cursor has gone unpolled for longer than the feed allows. -/
def isIdle (feed : Feed) (now : Instant) (cursor : FeedCursor) : Bool :=
  match feed.idleTimeout with
  | some seconds => (seconds * Time.nanosPerSecond : Nat) < now.since cursor.lastPolled
  | none => false

/-- The feed without its idle cursors. -/
def evictIdle (feed : Feed) (now : Instant) : Feed :=
  { feed with cursors := feed.cursors.filter fun _ cursor => !feed.isIdle now cursor }

/-- Registers a cursor under a fresh identifier; idle cursors go first, even if that does not help. -/
def start (feed : Feed) (now : Instant) (fresh : CursorId) : Except StoreError CursorId × Feed :=
  let feed := feed.evictIdle now
  if feed.maxCursors ≤ feed.size then (.error (.tooManyCursors feed.maxCursors), feed)
  else (.ok fresh, { feed with cursors := feed.cursors.insert fresh (.ofNow now) })

/-- Delivers the tasks queued for a cursor. -/
def take (feed : Feed) (now : Instant) (id : CursorId) : Except StoreError (List Task) × Feed :=
  match feed.cursors.get? id with
  | some cursor =>
    (.ok cursor.delivery, { feed with cursors := feed.cursors.insert id (cursor.polled now) })
  | none => (.error (.unknownCursor id), feed)

/-- Removes a cursor. -/
def stop (feed : Feed) (id : CursorId) : Except StoreError Unit × Feed :=
  match feed.cursors.get? id with
  | some _ => (.ok (), { feed with cursors := feed.cursors.erase id })
  | none => (.error (.unknownCursor id), feed)

/-- Notes written tasks for every cursor that is not idle. -/
def record (feed : Feed) (now : Instant) (tasks : List Task) : Feed :=
  let feed := feed.evictIdle now
  { feed with cursors := feed.cursors.map fun cursor => cursor.pushAll tasks }

/-- The feed without any cursor. -/
def clear (feed : Feed) : Feed :=
  { feed with cursors := ∅ }

end Feed

end TaskLedger
