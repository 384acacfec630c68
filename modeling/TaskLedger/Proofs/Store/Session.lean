/-
**A client among others.** The calls of one client with those that other clients make in between.

* `Traffic` — what the others call before each call of the client.
* `Traffic.client` — the client: the others' calls come first, then its own.
* `Traffic.storeAt` — the store that the others' calls alone leave.
* `persist_spec` — a rule for attempts: an invariant of the attempts that end in a conflict, and what
  the last attempt leaves.
* `attemptTask_run` — what one attempt to change a task does, step by step.
* `AttemptEnds`, `attemptEnds` — the ways in which it ends: it fails for good, meets a conflict or writes.
-/
import TaskLedger.Proofs.Store.Run
import TaskLedger.Store.Retry

namespace TaskLedger

/-! ### The others -/

/-- The surroundings of a client. What its function calls is among the others' calls. -/
structure Traffic where
  /-- What the others call before each call of the client, by its number. -/
  others : Nat → List Event
  ambient : Nat → Ambient

/-- A store that a client calls. -/
structure Session where
  store : Memory
  /-- The calls of the client so far. -/
  calls : Nat
  /-- The runs of its function so far. -/
  runs : Nat

namespace Traffic

/-- What the others have called before a call of the client. -/
def before (traffic : Traffic) (calls : Nat) : List Event :=
  (List.range calls).flatMap traffic.others

/-- The store that the others' calls alone leave. -/
def storeAt (traffic : Traffic) (start : Memory) (calls : Nat) : Memory :=
  start.after (traffic.before calls)

/-- The client; the others call first. -/
def client (traffic : Traffic) : Client (StateM Session) := fun request session =>
  let result := (session.store.after (traffic.others session.calls)).perform
    (traffic.ambient session.calls) request
  (result.1, { session with store := result.2, calls := session.calls + 1 })

theorem before_succ (traffic : Traffic) (calls : Nat) :
    traffic.before (calls + 1) = traffic.before calls ++ traffic.others calls := by
  rw [before, List.range_succ, List.flatMap_append, List.flatMap_singleton, before]

theorem after_storeAt (traffic : Traffic) (start : Memory) (calls : Nat) :
    (traffic.storeAt start calls).after (traffic.others calls) = traffic.storeAt start (calls + 1) := by
  rw [storeAt, storeAt, before_succ, Memory.after_append]

end Traffic

/-- A function on tasks, which may do something else at each run. -/
def editing {ε : Type} (edit : Nat → Task → Except ε Task) (task : Task) :
    StateM Session (Except ε Task) := fun session =>
  (edit session.runs task, { session with runs := session.runs + 1 })

/-- The function leaves the identifier and the stamp of every task as they are. -/
def KeepsVersion {ε : Type} (edit : Nat → Task → Except ε Task) : Prop :=
  ∀ run task changed, edit run task = .ok changed →
    changed.id = task.id ∧ changed.stamp = task.stamp

/-! ### Attempts -/

section Attempts

variable {σ ε α : Type} {lift : StoreError → ε} {attempt : StateM σ (Attempt ε α)}

theorem persist_zero (state : σ) :
    persist lift attempt 0 state =
      match attempt state with
      | (.done answer, next) => (answer, next)
      | (.conflict error, next) => (.error (lift error), next) := by
  simp only [persist, bind, StateT.bind]
  rcases attempt state with ⟨_ | _, next⟩ <;> rfl

theorem persist_succ (retries : Nat) (state : σ) :
    persist lift attempt (retries + 1) state =
      match attempt state with
      | (.done answer, next) => (answer, next)
      | (.conflict _, next) => persist lift attempt retries next := by
  simp only [persist, bind, StateT.bind]
  rcases attempt state with ⟨_ | _, next⟩ <;> rfl

/-- An attempt with an answer is the last one. -/
theorem persist_of_done {answer : Except ε α} {state next : σ}
    (ended : attempt state = (.done answer, next)) (retries : Nat) :
    persist lift attempt retries state = (answer, next) := by
  cases retries with
  | zero => rw [persist_zero, ended]
  | succ retries => rw [persist_succ, ended]

/-- **A rule for attempts.** `Before` holds before each attempt, by its number; `After` holds of the
answer that an attempt gives, and of the conflict that the last one ends in. -/
theorem persist_spec (Before : Nat → σ → Prop) (After : Except ε α → σ → Prop) (most : Nat)
    (done : ∀ number < most, ∀ state answer next, Before number state →
      attempt state = (.done answer, next) → After answer next)
    (again : ∀ number < most, ∀ state error next, Before number state →
      attempt state = (.conflict error, next) → Before (number + 1) next)
    (last : ∀ number, number + 1 = most → ∀ state error next, Before number state →
      attempt state = (.conflict error, next) → After (.error (lift error)) next)
    (retries number : Nat) (total : number + retries + 1 = most) (state : σ)
    (start : Before number state) :
    After (persist lift attempt retries state).1 (persist lift attempt retries state).2 := by
  -- On the retries that are left; the number of the attempt goes up as they go down.
  induction retries generalizing number state with
  | zero =>
    rw [persist_zero]
    rcases ended : attempt state with ⟨answer | error, next⟩
    · exact done number (by omega) state answer next start ended
    · exact last number total state error next start ended
  | succ retries ih =>
    rw [persist_succ]
    rcases ended : attempt state with ⟨answer | error, next⟩
    · exact done number (by omega) state answer next start ended
    · exact ih (number + 1) (by omega) next (again number (by omega) state error next start ended)

end Attempts

/-! ### Changing a task -/

/-- One attempt to change a task, by a client that is part of a state. -/
theorem attemptTask_apply {σ ε : Type} (client : Client (StateM σ)) (lift : StoreError → ε)
    (id : TaskId) (change : Task → StateM σ (Except ε Task)) (state : σ) :
    attemptTask client lift id change state =
      match client (.get id) state with
      | (.error error, seen) => (.done (.error (lift error)), seen)
      | (.ok none, seen) => (.done (.error (lift (.notFound id))), seen)
      | (.ok (some task), seen) =>
        match change task seen with
        | (.error error, ran) => (.done (.error error), ran)
        | (.ok changed, ran) =>
          let result := client (.put [changed]) ran
          (.ofWrite lift (result.1.map fun written => written.headD changed), result.2) := by
  simp only [attemptTask, bind, StateT.bind]
  rcases client (.get id) state with ⟨error | _ | task, seen⟩
  · rfl
  · rfl
  · simp only [StateT.bind, bind]
    rcases change task seen with ⟨error | changed, ran⟩ <;> rfl

section Change

variable {ε : Type} (traffic : Traffic) (lift : StoreError → ε) (id : TaskId)
  (edit : Nat → Task → Except ε Task)

/-- One attempt to change a task, in the company of the others: they call, the task is read, the function
runs, they call again, and the task is written. -/
theorem attemptTask_run (session : Session) :
    attemptTask traffic.client lift id (editing edit) session =
      let seen := session.store.after (traffic.others session.calls)
      match seen.get id with
      | .error error => (.done (.error (lift error)), ⟨seen, session.calls + 1, session.runs⟩)
      | .ok none =>
        (.done (.error (lift (.notFound id))), ⟨seen, session.calls + 1, session.runs⟩)
      | .ok (some task) =>
        match edit session.runs task with
        | .error error => (.done (.error error), ⟨seen, session.calls + 1, session.runs + 1⟩)
        | .ok changed =>
          let result := (seen.after (traffic.others (session.calls + 1))).put
            (traffic.ambient (session.calls + 1)) [changed]
          (.ofWrite lift (result.1.map fun written => written.headD changed),
            ⟨result.2, session.calls + 2, session.runs + 1⟩) := by
  have read : traffic.client (.get id) session =
      ((session.store.after (traffic.others session.calls)).get id,
        ⟨session.store.after (traffic.others session.calls), session.calls + 1, session.runs⟩) := rfl
  simp only [attemptTask_apply, read]
  rcases (session.store.after (traffic.others session.calls)).get id with error | _ | task
  · rfl
  · rfl
  · simp only [editing]
    rcases edit session.runs task with error | changed <;> rfl

/-- Why an attempt fails for good, by its number. -/
inductive FailedAt (start : Memory) (number : Nat) : ε → Prop where
  | unread (error : StoreError) :
    (traffic.storeAt start (2 * number + 1)).get id = .error error →
    FailedAt start number (lift error)
  | missing : (traffic.storeAt start (2 * number + 1)).get id = .ok none →
    FailedAt start number (lift (.notFound id))
  | unchanged (read : Task) (error : ε) :
    (traffic.storeAt start (2 * number + 1)).get id = .ok (some read) →
    edit number read = .error error → FailedAt start number error
  | refused (read changed : Task) (error : StoreError) :
    (traffic.storeAt start (2 * number + 1)).get id = .ok (some read) →
    edit number read = .ok changed →
    (traffic.storeAt start (2 * number + 2)).refusal? (traffic.ambient (2 * number + 1)) [changed] =
      some error →
    error.isRetryable = false → FailedAt start number (lift error)

/-- How an attempt ends, by its number. -/
inductive AttemptEnds (start : Memory) (number : Nat) : Attempt ε Task → Session → Prop where
  | failed (error : ε) (calls runs : Nat) : FailedAt traffic lift id edit start number error →
    2 * number < calls → calls ≤ 2 * number + 2 → runs ≤ number + 1 →
    AttemptEnds start number (.done (.error error)) ⟨traffic.storeAt start calls, calls, runs⟩
  | conflict (read changed : Task) (error : StoreError) :
    (traffic.storeAt start (2 * number + 1)).get id = .ok (some read) →
    edit number read = .ok changed →
    (traffic.storeAt start (2 * number + 2)).refusal? (traffic.ambient (2 * number + 1)) [changed] =
      some error →
    error.isRetryable = true →
    AttemptEnds start number (.conflict error)
      ⟨traffic.storeAt start (2 * number + 2), 2 * number + 2, number + 1⟩
  | written (read changed written : Task) (final : Memory) :
    (traffic.storeAt start (2 * number + 1)).get id = .ok (some read) →
    edit number read = .ok changed →
    (traffic.storeAt start (2 * number + 2)).put (traffic.ambient (2 * number + 1)) [changed] =
      (.ok [written], final) →
    AttemptEnds start number (.done (.ok written)) ⟨final, 2 * number + 2, number + 1⟩

/-- **An attempt ends in one of these ways.** -/
theorem attemptEnds (start : Memory) (number : Nat) :
    AttemptEnds traffic lift id edit start number
      (attemptTask traffic.client lift id (editing edit)
        ⟨traffic.storeAt start (2 * number), 2 * number, number⟩).1
      (attemptTask traffic.client lift id (editing edit)
        ⟨traffic.storeAt start (2 * number), 2 * number, number⟩).2 := by
  rw [attemptTask_run]
  simp only [Traffic.after_storeAt]
  rcases seen : (traffic.storeAt start (2 * number + 1)).get id with error | _ | read
  · exact .failed _ (2 * number + 1) number (.unread error seen) (by omega) (by omega) (by omega)
  · exact .failed _ (2 * number + 1) number (.missing seen) (by omega) (by omega) (by omega)
  · rcases made : edit number read with error | changed
    · simp only [made]
      exact .failed _ (2 * number + 1) (number + 1) (.unchanged read error seen made) (by omega)
        (by omega) (by omega)
    · simp only [made]
      cases refused : (traffic.storeAt start (2 * number + 2)).refusal?
          (traffic.ambient (2 * number + 1)) [changed] with
      | none =>
        have put := Memory.put_of_taken refused
        rw [put]
        exact .written read changed _ _ seen made put
      | some error =>
        rw [Memory.put_of_refused refused]
        cases retryable : error.isRetryable with
        | true =>
          simp only [Except.map, Attempt.ofWrite, if_pos retryable]
          exact .conflict read changed error seen made refused retryable
        | false =>
          simp only [Except.map, Attempt.ofWrite, retryable, Bool.false_eq_true, if_false]
          exact .failed _ (2 * number + 2) (number + 1)
            (.refused read changed error seen made refused retryable) (by omega) (by omega) (by omega)

end Change

end TaskLedger
