/-
**A store without its database.** A store whose tasks are kept elsewhere, where nobody answers.

* `Detached` — the feed lives in the process and works; every call that needs the database fails.
* `Detached.put`, `Detached.range` — what can be answered without the database is checked first.
-/
import TaskLedger.Store.Batch
import TaskLedger.Store.Feed

namespace TaskLedger

open Time (Instant)

/-- A store whose database cannot be reached. -/
structure Detached where
  closed : Bool
  feed : Feed
deriving DecidableEq

namespace Detached

/-- An open store. -/
def ofConfig (config : StoreConfig) : Detached :=
  ⟨false, .ofConfig config⟩

/-- Asks the database, which does not answer. -/
def ask {α : Type} (store : Detached) : Except StoreError α :=
  if store.closed then .error .closed else .error .unreachable

/-- Creates the tables that the database lacks. -/
def ensureTables (store : Detached) : Except StoreError Unit :=
  store.ask

/-- The store holds its connections to the database. -/
def holdsConnections (store : Detached) : Bool :=
  !store.closed

/-- Reserves an identifier for a task that has none. -/
def assignId (call : Ambient) (task : Task) (store : Detached) : Except StoreError Task :=
  if store.closed then .error .closed else call.assignId task

/-- Writes nothing: the tasks are checked, then the database is asked. -/
def put (batch : List Task) (store : Detached) : Except StoreError (List Task) :=
  if store.closed then .error .closed
  else
    match firstInvalid? batch with
    | some error => .error error
    | none => store.ask

/-- Tasks created in a span of time; an empty span needs no database. -/
def range (first last : Instant) (store : Detached) : Except StoreError (List Task) :=
  if last ≤ first then if store.closed then .error .closed else .ok []
  else store.ask

/-- Does something with the feed of an open store. -/
def withFeed {α : Type} (action : Feed → Except StoreError α × Feed) (store : Detached) :
    Except StoreError α × Detached :=
  if store.closed then (.error .closed, store)
  else
    let (answer, feed) := action store.feed
    (answer, { store with feed := feed })

/-- Lets go of the database and the cursors; every later call fails. -/
def close (store : Detached) : Except StoreError Unit × Detached :=
  if store.closed then (.error .closed, store)
  else (.ok (), { closed := true, feed := store.feed.clear })

end Detached

end TaskLedger
