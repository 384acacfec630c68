/-
**Calls of a task store.** What clients can ask of a store, and the stores that answer.

* `Call` — the requests, each with the type of its answer.
* `TaskStore` — a store takes one call at a time and leaves a new state.
* `Memory` and `Detached` are stores; `Backing` is either of them.
* `Host` — a store in its surroundings, which give every call its time and its random bits.
* `Client` — a way to call a store from a computation with effects.
-/
import TaskLedger.Store.Detached
import TaskLedger.Store.Memory

namespace TaskLedger

open Time (Instant)

/-- A request to a store, with the type of its answer. -/
inductive Call : Type → Type where
  /-- Reserves an identifier for a task that has none. -/
  | assignId (task : Task) : Call Task
  /-- Writes a batch as a whole; the answer holds the identifiers and stamps. -/
  | put (batch : List Task) : Call (List Task)
  /-- Reads a task. -/
  | get (id : TaskId) : Call (Option Task)
  /-- Reads the tasks created at `first` or later and before `last`. -/
  | range (first last : Instant) : Call (List Task)
  /-- Registers a cursor of the change feed. -/
  | track : Call CursorId
  /-- Takes what is queued for a cursor. -/
  | poll (cursor : CursorId) : Call (List Task)
  /-- Removes a cursor. -/
  | untrack (cursor : CursorId) : Call Unit
  /-- Ends the store's service. -/
  | close : Call Unit

/-- A store of tasks. -/
class TaskStore (σ : Type) where
  perform : {α : Type} → Ambient → Call α → σ → Except StoreError α × σ

/-- What a call does to a store in memory. -/
def Memory.perform {α : Type} (call : Ambient) : Call α → Memory → Except StoreError α × Memory
  | .assignId task, store => (store.assignId call task, store)
  | .put batch, store => store.put call batch
  | .get id, store => (store.get id, store)
  | .range first last, store => (store.range first last, store)
  | .track, store => store.withFeed fun feed => feed.start call.now (.ofRandom (call.random 0))
  | .poll cursor, store => store.withFeed fun feed => feed.take call.now cursor
  | .untrack cursor, store => store.withFeed fun feed => feed.stop cursor
  | .close, store => store.close

/-- What a call does to a store without its database. -/
def Detached.perform {α : Type} (call : Ambient) :
    Call α → Detached → Except StoreError α × Detached
  | .assignId task, store => (store.assignId call task, store)
  | .put batch, store => (store.put batch, store)
  | .get _, store => (store.ask, store)
  | .range first last, store => (store.range first last, store)
  | .track, store => store.withFeed fun feed => feed.start call.now (.ofRandom (call.random 0))
  | .poll cursor, store => store.withFeed fun feed => feed.take call.now cursor
  | .untrack cursor, store => store.withFeed fun feed => feed.stop cursor
  | .close, store => store.close

instance : TaskStore Memory := ⟨Memory.perform⟩

instance : TaskStore Detached := ⟨Detached.perform⟩

/-- A store of one kind or the other. -/
inductive Backing where
  | memory (store : Memory)
  | detached (store : Detached)

instance : TaskStore Backing where
  perform call request
    | .memory store =>
      let (answer, store) := store.perform call request
      (answer, .memory store)
    | .detached store =>
      let (answer, store) := store.perform call request
      (answer, .detached store)

/-- A store in its surroundings. -/
structure Host (σ : Type) where
  store : σ
  /-- What each call draws from the surroundings, by its number. -/
  ambient : Nat → Ambient
  /-- The number of calls so far. -/
  calls : Nat

/-- Performs a call with what the surroundings have for it. -/
def Host.perform {σ α : Type} [TaskStore σ] (request : Call α) (host : Host σ) :
    Except StoreError α × Host σ :=
  let (answer, store) := TaskStore.perform (host.ambient host.calls) request host.store
  (answer, { host with store := store, calls := host.calls + 1 })

universe u

/-- A way to call a store. -/
abbrev Client (m : Type → Type u) := {α : Type} → Call α → m (Except StoreError α)

/-- The client of a host that is part of the state. -/
def Host.client {σ : Type} [TaskStore σ] {m : Type → Type u} [MonadStateOf (Host σ) m] : Client m :=
  fun request => modifyGet (Host.perform request)

end TaskLedger
