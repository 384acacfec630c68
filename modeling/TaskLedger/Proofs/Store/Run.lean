/-
**Runs of a store in memory.** Any number of clients call one store; a run is the list of their calls in
the order in which the store takes them.

* `Event` — a call of some client, with what it draws from its surroundings.
* `Version`, `Commit` — what a write makes of one task, and what it makes of its batch.
* `Memory.after`, `Memory.history` — the store that a run leaves, and the commits it makes.
* `Memory.Step` — everything that one call can do to a store; `step_next` says that it does no more.
* `perform_of_closed` — a closed store answers nothing.
* `run_induction` — what every step keeps holds after every run.
-/
import TaskLedger.Proofs.Store.Put
import TaskLedger.Store.Call

namespace TaskLedger

open Time (Instant)

/-! ### Calls and commits -/

/-- A call of some client. -/
structure Event where
  {answer : Type}
  ambient : Ambient
  request : Call answer

/-- A call that writes at a time. -/
def Event.putAt (now : Instant) (batch : List Task) : Event :=
  ⟨⟨now, fun place => place⟩, .put batch⟩

/-- A version of a task, as a write made it. -/
structure Version where
  id : TaskId
  /-- The task as the writer gave it, with its identifier. -/
  given : Task
  stamp : Instant
deriving DecidableEq

namespace Version

/-- The stamp of the version that the writer started from; none for a new task. -/
def base (version : Version) : Option Instant :=
  version.given.stamp

/-- The task as it is stored. -/
def task (version : Version) : Task :=
  { version.given with stamp := some version.stamp }

end Version

/-- A write that was taken. -/
structure Commit where
  now : Instant
  stamp : Instant
  versions : List Version

namespace Memory

/-- What a write makes of its batch. -/
def commitOf (store : Memory) (call : Ambient) (batch : List Task) : Commit where
  now := call.now
  stamp := store.stampFor call
  versions := (call.named batch).map fun (id, given) => ⟨id, given, store.stampFor call⟩

/-- The commits that a request makes: one if it is a write that is taken, else none. -/
def commits {α : Type} (store : Memory) (call : Ambient) : Call α → List Commit
  | .put batch =>
    match (store.put call batch).1 with
    | .ok _ => [store.commitOf call batch]
    | .error _ => []
  | _ => []

/-- The store after a call. -/
def next (store : Memory) (event : Event) : Memory :=
  (store.perform event.ambient event.request).2

/-- The store after calls. -/
def after (store : Memory) : List Event → Memory
  | [] => store
  | event :: rest => (store.next event).after rest

/-- The commits that calls make, in their order. -/
def history (store : Memory) : List Event → List Commit
  | [] => []
  | event :: rest => store.commits event.ambient event.request ++ (store.next event).history rest

theorem after_append (store : Memory) (events more : List Event) :
    store.after (events ++ more) = (store.after events).after more := by
  induction events generalizing store with
  | nil => rfl
  | cons event rest ih => exact ih (store.next event)

theorem history_append (store : Memory) (events more : List Event) :
    store.history (events ++ more) = store.history events ++ (store.after events).history more := by
  induction events generalizing store with
  | nil => rfl
  | cons event rest ih =>
    rw [List.cons_append, history, ih, history, List.append_assoc]
    rfl

theorem commits_of_taken {store : Memory} {call : Ambient} {batch : List Task}
    (taken : store.refusal? call batch = none) :
    store.commits call (.put batch) = [store.commitOf call batch] := by
  rw [commits, put_of_taken taken]

theorem commits_of_refused {store : Memory} {call : Ambient} {batch : List Task}
    {error : StoreError} (refused : store.refusal? call batch = some error) :
    store.commits call (.put batch) = [] := by
  rw [commits, put_of_refused refused]

/-- What is stored is what the commit says. -/
theorem written_eq_versions (store : Memory) (call : Ambient) (batch : List Task) :
    store.written call batch =
      (store.commitOf call batch).versions.map fun version => (version.id, version.task) := by
  rw [commitOf, List.map_map]
  rfl

/-! ### What a call can do -/

/-- What one call can do to a store, with the commits that it makes. -/
inductive Step (store : Memory) : List Commit → Memory → Prop where
  /-- At most the feed changes; this covers the reads and every call that fails. -/
  | feed (feed : Feed) : Step store [] { store with feed := feed }
  | close : store.closed = false → Step store [] store.close.2
  | write (call : Ambient) (batch : List Task) : store.refusal? call batch = none →
    Step store [store.commitOf call batch] (store.commit call (store.written call batch))

theorem closed_close (store : Memory) : store.close.2.closed = true := by
  unfold close
  split
  · assumption
  · rfl

theorem step_withFeed {α : Type} (action : Feed → Except StoreError α × Feed) (store : Memory) :
    store.Step [] (store.withFeed action).2 := by
  unfold withFeed
  split
  · exact .feed store.feed
  · exact .feed (action store.feed).2

/-- **A call does one of these things.** -/
theorem step_next (store : Memory) (event : Event) :
    store.Step (store.commits event.ambient event.request) (store.next event) := by
  obtain ⟨call, request⟩ := event
  cases request with
  | assignId task => exact .feed store.feed
  | get id => exact .feed store.feed
  | range first last => exact .feed store.feed
  | track => exact step_withFeed _ store
  | poll cursor => exact step_withFeed _ store
  | untrack cursor => exact step_withFeed _ store
  | close =>
    cases closed : store.closed with
    | false => exact .close closed
    | true =>
      have same : store.next ⟨call, .close⟩ = store := by
        show store.close.2 = store
        rw [close, if_pos closed]
      rw [same]
      exact .feed store.feed
  | put batch =>
    show store.Step (store.commits call (.put batch)) (store.put call batch).2
    cases refused : store.refusal? call batch with
    | none =>
      rw [commits_of_taken refused, put_of_taken refused]
      exact .write call batch refused
    | some error =>
      rw [commits_of_refused refused, put_of_refused refused]
      exact .feed store.feed

/-- A closed store answers nothing. -/
theorem perform_of_closed {store : Memory} (closed : store.closed = true) (call : Ambient)
    {α : Type} (request : Call α) : store.perform call request = (.error .closed, store) := by
  cases request with
  | assignId task => exact congrArg (·, store) (if_pos closed)
  | put batch => exact put_of_refused (if_pos closed)
  | get id => exact congrArg (·, store) (if_pos closed)
  | range first last => exact congrArg (·, store) (if_pos closed)
  | track => exact if_pos closed
  | poll cursor => exact if_pos closed
  | untrack cursor => exact if_pos closed
  | close => exact if_pos closed

/-- A closed store stays closed. -/
theorem Step.closed {commits : List Commit} {store next : Memory} (step : Step store commits next)
    (closed : store.closed = true) : next.closed = true := by
  cases step with
  | feed feed => exact closed
  | close isOpen => exact closed_close store
  | write call batch taken => cases closed.symm.trans (isOpen_of_taken taken)

theorem isOpen_of_after {store : Memory} {events : List Event}
    (isOpen : (store.after events).closed = false) : store.closed = false := by
  induction events generalizing store with
  | nil => exact isOpen
  | cons event rest ih =>
    refine Bool.eq_false_iff.2 fun closed => ?_
    cases (ih isOpen).symm.trans ((store.step_next event).closed closed)

theorem isOpen_of_append {store : Memory} {events more : List Event}
    (isOpen : (store.after (events ++ more)).closed = false) : (store.after events).closed = false := by
  rw [after_append] at isOpen
  exact isOpen_of_after isOpen

/-- **What every step keeps holds after every run.** -/
theorem run_induction {Holds : List Commit → Memory → Prop}
    (step : ∀ past store commits next, Holds past store → Step store commits next →
      Holds (past ++ commits) next)
    {past : List Commit} {store : Memory} (initial : Holds past store) (events : List Event) :
    Holds (past ++ store.history events) (store.after events) := by
  -- The past grows at its end by what the first call commits.
  induction events generalizing past store with
  | nil =>
    rw [history, List.append_nil]
    exact initial
  | cons event rest ih =>
    rw [history, ← List.append_assoc]
    exact ih (step past store _ _ initial (store.step_next event))

end Memory

end TaskLedger
