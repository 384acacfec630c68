/-
**Batches.** Naming and checking tasks before a store looks at what it holds.

* `Ambient` — what a call draws from its surroundings: the time and random bits.
* `Ambient.assignId` — reserves an identifier for one task.
* `Ambient.named` — the tasks of a batch with their identifiers, fresh ones where they had none.
* `firstInvalid?` — the first task of a batch that is not fit to be written.
-/
import TaskLedger.Store.Error

namespace TaskLedger

open Time (Instant)

/-- What a call draws from its surroundings. -/
structure Ambient where
  now : Instant
  /-- Random bits, as many as are asked for. -/
  random : Nat → BitVec 128

namespace Ambient

/-- The task with a fresh identifier, if it has none. -/
def assignId (call : Ambient) (task : Task) : Except StoreError Task :=
  match task.id with
  | some id => .error (.idAlreadyAssigned id)
  | none => .ok { task with id := some (.ofRandom (call.random 0)) }

/-- The tasks of a batch with their identifiers, a fresh one where a task has none. -/
def named (call : Ambient) (batch : List Task) : List (TaskId × Task) :=
  batch.zipIdx.map fun (task, place) =>
    let id := task.id.getD (.ofRandom (call.random place))
    (id, { task with id := some id })

end Ambient

/-- The error of the first task of a batch that is not fit to be written. -/
def firstInvalid? : List Task → Option StoreError
  | [] => none
  | task :: rest =>
    match task.validate with
    | .error cause => some (.invalid cause)
    | .ok () => firstInvalid? rest

end TaskLedger
