/-
**Clients of a store.** Any number of clients work at one store; each runs its operations one after another,
and their calls come in any order.

* `Script` — what a client does: a call, and how it goes on with each answer.
* `Operation` — a call, or one of the ways to update tasks. The functions of an update may call the store
  themselves and keep a state from run to run.
* `calls` — the calls that clients make when they take turns.
-/
import TaskLedger.Proofs.Store.Run
import TaskLedger.Store.Sync

namespace TaskLedger

/-! ### Scripts -/

/-- What a client does with a store until it is done. -/
inductive Script (α : Type) : Type 1 where
  | done (result : α)
  /-- Calls the store and goes on with the answer. -/
  | call {β : Type} (request : Call β) (next : Except StoreError β → Script α)

namespace Script

/-- One script after another. -/
def bind {α β : Type} : Script α → (α → Script β) → Script β
  | .done result, rest => rest result
  | .call request next, rest => .call request fun answer => (next answer).bind rest

instance : Monad Script where
  pure := .done
  bind := bind

/-- A client that keeps a state of its own. -/
def client {σ : Type} : Client (StateT σ Script) := fun request state =>
  .call request fun answer => .done (answer, state)

end Script

/-! ### Operations -/

/-- What a client can ask for. -/
inductive Operation : Type 1 where
  | call {β : Type} (request : Call β)
  | updateBatch {σ ε : Type} (lift : StoreError → ε)
    (change : StateT σ Script (Except ε (List Task))) (state : σ)
  | updateTask {σ ε : Type} (lift : StoreError → ε) (id : TaskId)
    (change : Task → StateT σ Script (Except ε Task)) (state : σ)
  | sync (report : Report)

/-- What a client does for an operation. -/
def Operation.script : Operation → Script Unit
  | .call request => .call request fun _ => .done ()
  | .updateBatch lift change state => do
    let _ ← TaskLedger.updateBatch Script.client lift change state
    pure ()
  | .updateTask lift id change state => do
    let _ ← TaskLedger.updateTask Script.client lift id change state
    pure ()
  | .sync report => do
    let _ ← syncReport Script.client report ()
    pure ()

/-- What a client does for operations, one after another. -/
def script : List Operation → Script Unit
  | [] => .done ()
  | operation :: rest => operation.script.bind fun _ => script rest

/-! ### Turns -/

/-- The calls that clients make. Each turn is that of one client, with what its call draws from the
surroundings; a client that is done makes no call. -/
def calls (store : Memory) (clients : List (Script Unit)) : List (Nat × Ambient) → List Event
  | [] => []
  | (turn, ambient) :: rest =>
    match clients[turn]? with
    | some (.call request next) =>
      let (answer, store) := store.perform ambient request
      ⟨ambient, request⟩ :: calls store (clients.set turn (next answer)) rest
    | _ => calls store clients rest

end TaskLedger
