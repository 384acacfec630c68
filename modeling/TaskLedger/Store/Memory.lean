/-
**The store in memory.** Tasks by identifier, an index by creation time, and the change feed.

* `Memory` — the tasks, their places in the order of creation, the stamp of the last write and the feed.
* `Memory.refusal?` — why a batch is refused, if it is; a refused batch changes nothing.
* `Memory.put` — writes a batch as a whole, all of it under one new stamp.
* `Memory.range` — the tasks created in a span of time, oldest first, ties by first insertion.
-/
import TaskLedger.Store.Batch
import TaskLedger.Store.Feed
import TaskLedger.Store.Version

namespace TaskLedger

open Time (Instant)

/-- The place of a task in the order of creation: its time, then the order of first insertion. -/
structure IndexKey where
  created : Instant
  sequence : Nat
deriving DecidableEq

namespace IndexKey

instance : Ord IndexKey := ⟨compareLex (compareOn created) (compareOn sequence)⟩

instance : Std.TransOrd IndexKey :=
  inferInstanceAs (Std.TransCmp (compareLex (compareOn created) (compareOn sequence)))

instance : Std.LawfulEqOrd IndexKey where
  eq_of_compare {a b} equal := by
    have parts : ((compare a.created b.created).then (compare a.sequence b.sequence)) = .eq := equal
    rw [Ordering.then_eq_eq] at parts
    cases a; cases b
    rw [mk.injEq]
    exact ⟨Std.LawfulEqOrd.eq_of_compare parts.1, Std.LawfulEqOrd.eq_of_compare parts.2⟩

end IndexKey

/-- A store in memory. -/
structure Memory where
  tasks : Table TaskId Task
  /-- The identifiers in the order of creation. -/
  order : Table IndexKey TaskId
  /-- The place of each task in that order. -/
  places : Table TaskId IndexKey
  /-- The number of insertions so far. -/
  nextSequence : Nat
  /-- The stamp of the last write. -/
  lastStamp : Option Instant
  closed : Bool
  feed : Feed
deriving DecidableEq

namespace Memory

/-- A store without tasks. -/
def ofConfig (config : StoreConfig) : Memory where
  tasks := ∅
  order := ∅
  places := ∅
  nextSequence := 0
  lastStamp := none
  closed := false
  feed := .ofConfig config

/-- Reserves an identifier for a task that has none. -/
def assignId (call : Ambient) (task : Task) (store : Memory) : Except StoreError Task :=
  if store.closed then .error .closed else call.assignId task

/-! ### Writing -/

/-- The first task of a named batch that the stored version, or a task before it with the same
identifier, does not allow. -/
def conflict? (store : Memory) : (earlier : List TaskId) → List (TaskId × Task) → Option StoreError
  | _, [] => none
  | earlier, (id, task) :: rest =>
    if id ∈ earlier then some (.concurrentUpdate id)
    else
      match checkWrite id (store.tasks.get? id) task with
      | .error error => some error
      | .ok () => store.conflict? (id :: earlier) rest

/-- Why a batch is refused. -/
def refusal? (store : Memory) (call : Ambient) (batch : List Task) : Option StoreError :=
  if store.closed then some .closed
  else
    match firstInvalid? batch with
    | some error => some error
    | none => store.conflict? [] (call.named batch)

/-- The stamp of a write. -/
def stampFor (store : Memory) (call : Ambient) : Instant :=
  nextStamp store.lastStamp call.now

/-- The tasks of a batch as a write stores them. -/
def written (store : Memory) (call : Ambient) (batch : List Task) : List (TaskId × Task) :=
  (call.named batch).map fun (id, task) => (id, { task with stamp := some (store.stampFor call) })

/-- Moves a task to its place in the order of creation; the first time it takes the next number. -/
def place (store : Memory) (id : TaskId) (created : Instant) : Memory :=
  match store.places.get? id with
  | some key =>
    if key.created = created then store
    else
      { store with
        order := (store.order.erase key).insert ⟨created, key.sequence⟩ id
        places := store.places.insert id ⟨created, key.sequence⟩ }
  | none =>
    { store with
      order := store.order.insert ⟨created, store.nextSequence⟩ id
      places := store.places.insert id ⟨created, store.nextSequence⟩
      nextSequence := store.nextSequence + 1 }

/-- Stores one task. -/
def keep (store : Memory) (entry : TaskId × Task) : Memory :=
  let placed :=
    match entry.2.created with
    | some created => store.place entry.1 created
    | none => store
  { placed with tasks := placed.tasks.insert entry.1 entry.2 }

/-- Stores a written batch and tells the feed. -/
def commit (store : Memory) (call : Ambient) (batch : List (TaskId × Task)) : Memory :=
  let kept := batch.foldl keep store
  { kept with
    lastStamp := some (store.stampFor call)
    feed := kept.feed.record call.now (batch.map (·.2)) }

/-- Writes a batch; the answer holds its tasks with their identifiers and stamps. -/
def put (call : Ambient) (batch : List Task) (store : Memory) :
    Except StoreError (List Task) × Memory :=
  match store.refusal? call batch with
  | some error => (.error error, store)
  | none =>
    let written := store.written call batch
    (.ok (written.map (·.2)), store.commit call written)

/-! ### Reading -/

/-- The stored task with an identifier. -/
def get (id : TaskId) (store : Memory) : Except StoreError (Option Task) :=
  if store.closed then .error .closed else .ok (store.tasks.get? id)

/-- The tasks created at `first` or later and before `last`. -/
def range (first last : Instant) (store : Memory) : Except StoreError (List Task) :=
  if store.closed then .error .closed
  else if last ≤ first then .ok []
  else
    .ok ((store.order.filter fun key _ => first ≤ key.created && key.created < last).values.filterMap
      store.tasks.get?)

/-! ### The feed and the end -/

/-- Does something with the feed of an open store. -/
def withFeed {α : Type} (action : Feed → Except StoreError α × Feed) (store : Memory) :
    Except StoreError α × Memory :=
  if store.closed then (.error .closed, store)
  else
    let (answer, feed) := action store.feed
    (answer, { store with feed := feed })

/-- Lets go of everything; every later call fails. -/
def close (store : Memory) : Except StoreError Unit × Memory :=
  if store.closed then (.error .closed, store)
  else
    (.ok (), { tasks := ∅, order := ∅, places := ∅, nextSequence := 0, lastStamp := none,
               closed := true, feed := store.feed.clear })

end Memory

end TaskLedger
