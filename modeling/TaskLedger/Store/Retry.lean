/-
**Retries.** Reading, changing and writing tasks until no other writer comes between.

* `maxAttempts` — how often a change is tried.
* `Attempt` — how one attempt ends: with an answer, or with a conflict that another may resolve.
* `persist` — attempts until one has an answer, or as many as there may be.
* `updateBatch` — writes what a function returns.
* `updateTask` — reads one task, changes it and writes it back.

The functions may call the store themselves, and other clients may write between any two steps; both
are effects of the monad.
-/
import TaskLedger.Store.Call

namespace TaskLedger

/-- The number of attempts before a conflict is given to the caller. -/
def maxAttempts : Nat := 5

/-- How an attempt ends. -/
inductive Attempt (ε α : Type) where
  | done (answer : Except ε α)
  | conflict (error : StoreError)

/-- How an attempt ends with the answer of its write. -/
def Attempt.ofWrite {ε α : Type} (lift : StoreError → ε) : Except StoreError α → Attempt ε α
  | .ok written => .done (.ok written)
  | .error error => if error.isRetryable then .conflict error else .done (.error (lift error))

universe u

variable {m : Type → Type u} [Monad m] {ε α : Type}

/-- Attempts something, and after a conflict again, `retries` times at most. -/
def persist (lift : StoreError → ε) (attempt : m (Attempt ε α)) : (retries : Nat) → m (Except ε α)
  | 0 => do
    match ← attempt with
    | .done answer => pure answer
    | .conflict error => pure (.error (lift error))
  | retries + 1 => do
    match ← attempt with
    | .done answer => pure answer
    | .conflict _ => persist lift attempt retries

/-- One attempt to write the batch that `change` returns. -/
def attemptBatch (store : Client m) (lift : StoreError → ε) (change : m (Except ε (List Task))) :
    m (Attempt ε (List Task)) := do
  match ← change with
  | .error error => pure (.done (.error error))
  | .ok batch => return .ofWrite lift (← store (.put batch))

/-- Writes the batch that `change` returns, each attempt starting afresh. -/
def updateBatch (store : Client m) (lift : StoreError → ε) (change : m (Except ε (List Task))) :
    m (Except ε (List Task)) :=
  persist lift (attemptBatch store lift change) (maxAttempts - 1)

/-- One attempt to read a task, change it and write it back. -/
def attemptTask (store : Client m) (lift : StoreError → ε) (id : TaskId)
    (change : Task → m (Except ε Task)) : m (Attempt ε Task) := do
  match ← store (.get id) with
  | .error error => pure (.done (.error (lift error)))
  | .ok none => pure (.done (.error (lift (.notFound id))))
  | .ok (some task) =>
    match ← change task with
    | .error error => pure (.done (.error error))
    | .ok changed =>
      let answer ← store (.put [changed])
      return .ofWrite lift (answer.map fun written => written.headD changed)

/-- Reads a task, changes it and writes it back, each attempt starting from the stored version. -/
def updateTask (store : Client m) (lift : StoreError → ε) (id : TaskId)
    (change : Task → m (Except ε Task)) : m (Except ε Task) :=
  persist lift (attemptTask store lift id change) (maxAttempts - 1)

end TaskLedger
