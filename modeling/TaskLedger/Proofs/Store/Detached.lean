/-
**A store without its database is a store in memory that takes no write.** What needs no database is
answered alike by both, call after call, however many of the others come between.

* `Call.needsDatabase`, `Call.isFitPut` — the requests that a store without its database cannot answer,
  and those among them that write.
* `Call.tasksAfter` — what has become of the caller's tasks when a call has answered.
* `Detached.Mirrors` — the two stores have the same cursors, and both are open or both closed.
* `Detached.Mirrors.next` — each call keeps that, where the store in memory is not given the writes.
* `Detached.AnswersAs`, `answers_as_memory` — what a call answers after any run, and the theorem.
-/
import TaskLedger.Proofs.Store.Run

namespace TaskLedger

/-! ### Requests -/

namespace Call

/-- The request is a write of tasks that are fit to be written. -/
def isFitPut : {α : Type} → Call α → Bool
  | _, .put batch => (firstInvalid? batch).isNone
  | _, _ => false

/-- Nobody but the database can answer the request. -/
def needsDatabase : {α : Type} → Call α → Bool
  | _, .put batch => (firstInvalid? batch).isNone
  | _, .get _ => true
  | _, .range first last => first < last
  | _, _ => false

/-- The request ends the service. -/
def isClose : {α : Type} → Call α → Bool
  | _, .close => true
  | _, _ => false

/-- The caller's tasks that a request hands over. -/
def tasks : {α : Type} → Call α → List Task
  | _, .assignId task => [task]
  | _, .put batch => batch
  | _, _ => []

/-- The caller's tasks after an answer: those that it holds, or as they were if it is an error. -/
def tasksAfter : {α : Type} → Call α → Except StoreError α → List Task
  | _, .assignId _, .ok task => [task]
  | _, .put _, .ok written => written
  | _, request, _ => request.tasks

theorem tasksAfter_error {α : Type} (request : Call α) (error : StoreError) :
    request.tasksAfter (.error error) = request.tasks := by
  cases request <;> rfl

end Call

/-! ### Closed stores -/

namespace Detached

/-- A closed store without its database answers nothing either. -/
theorem perform_of_closed {store : Detached} (closed : store.closed = true) (call : Ambient)
    {α : Type} (request : Call α) : store.perform call request = (.error .closed, store) := by
  cases request with
  | assignId task => exact congrArg (·, store) (if_pos closed)
  | put batch => exact congrArg (·, store) (if_pos closed)
  | get id => exact congrArg (·, store) (if_pos closed)
  | range first last =>
    refine congrArg (·, store) ?_
    rw [range, ask, if_pos closed, if_pos closed, ite_self]
  | track => exact if_pos closed
  | poll cursor => exact if_pos closed
  | untrack cursor => exact if_pos closed
  | close => exact if_pos closed

/-- An open store without its database fails where the database is needed, and nothing changes. -/
theorem perform_of_needsDatabase {store : Detached} (isOpen : store.closed = false) (call : Ambient)
    {α : Type} {request : Call α} (needed : request.needsDatabase = true) :
    store.perform call request = (.error .unreachable, store) := by
  have asked {β : Type} : (store.ask : Except StoreError β) = .error .unreachable := by
    rw [ask, isOpen]
    rfl
  cases request with
  | put batch =>
    refine congrArg (·, store) ?_
    rw [put, isOpen, if_neg Bool.false_ne_true, Option.isNone_iff_eq_none.1 needed]
    exact asked
  | get id => exact congrArg (·, store) asked
  | range first last =>
    refine congrArg (·, store) ?_
    rw [range, if_neg (not_le_of_gt (of_decide_eq_true needed)), asked]
  | assignId | track | poll | untrack | close => cases needed

/-! ### The two stores side by side -/

/-- A store without its database and one in memory have the same cursors, and both are open or both
closed. -/
structure Mirrors (detached : Detached) (memory : Memory) : Prop where
  closed : detached.closed = memory.closed
  feed : detached.feed = memory.feed

variable {detached : Detached} {memory : Memory}

theorem mirrors_ofConfig (config : StoreConfig) : Mirrors (ofConfig config) (.ofConfig config) :=
  ⟨rfl, rfl⟩

theorem Mirrors.withFeed (mirrors : Mirrors detached memory) {α : Type}
    (action : Feed → Except StoreError α × Feed) :
    (detached.withFeed action).1 = (memory.withFeed action).1 ∧
      Mirrors (detached.withFeed action).2 (memory.withFeed action).2 := by
  unfold Detached.withFeed Memory.withFeed
  rw [mirrors.closed, mirrors.feed]
  split
  · exact ⟨rfl, mirrors⟩
  · exact ⟨rfl, rfl, rfl⟩

/-- **What needs no database is answered alike**, and leaves the stores alike. -/
theorem Mirrors.perform (mirrors : Mirrors detached memory) (call : Ambient) {α : Type}
    {request : Call α} (unneeded : request.needsDatabase = false) :
    (detached.perform call request).1 = (memory.perform call request).1 ∧
      Mirrors (detached.perform call request).2 (memory.perform call request).2 := by
  cases request with
  | assignId task =>
    refine ⟨?_, mirrors⟩
    show detached.assignId call task = memory.assignId call task
    rw [Detached.assignId, Memory.assignId, mirrors.closed]
  | put batch =>
    show detached.put batch = (memory.put call batch).1 ∧ Mirrors detached (memory.put call batch).2
    obtain ⟨error, invalid⟩ : ∃ error, firstInvalid? batch = some error :=
      Option.isSome_iff_exists.1 (Option.isNone_eq_false_iff.1 unneeded)
    cases closed : memory.closed with
    | true =>
      rw [Memory.put_of_refused (if_pos closed), Detached.put, if_pos (mirrors.closed.trans closed)]
      exact ⟨rfl, mirrors⟩
    | false =>
      rw [Memory.put_of_refused (Memory.refusal?_of_invalid closed invalid), Detached.put,
        mirrors.closed, closed, invalid]
      exact ⟨rfl, mirrors⟩
  | get id => cases unneeded
  | range first last =>
    have empty : last ≤ first := not_lt.1 (of_decide_eq_false unneeded)
    refine ⟨?_, mirrors⟩
    show detached.range first last = memory.range first last
    rw [Detached.range, Memory.range, if_pos empty, if_pos empty, mirrors.closed]
  | track => exact mirrors.withFeed _
  | poll cursor => exact mirrors.withFeed _
  | untrack cursor => exact mirrors.withFeed _
  | close =>
    show detached.close.1 = memory.close.1 ∧ Mirrors detached.close.2 memory.close.2
    rw [Detached.close, Memory.close, mirrors.closed, mirrors.feed]
    split
    · exact ⟨rfl, mirrors⟩
    · exact ⟨rfl, rfl, rfl⟩

/-! ### Runs -/

/-- The store after a call. -/
def next (store : Detached) (event : Event) : Detached :=
  (store.perform event.ambient event.request).2

/-- The store after calls. -/
def after (store : Detached) (events : List Event) : Detached :=
  events.foldl next store

/-- What needs the database leaves the store as it is. -/
theorem next_of_needsDatabase {event : Event} (needed : event.request.needsDatabase = true) :
    detached.next event = detached := by
  cases closed : detached.closed with
  | true => rw [next, perform_of_closed closed]
  | false => rw [next, perform_of_needsDatabase closed _ needed]

/-- **A call keeps the stores alike**, if the store in memory is not given the writes. -/
theorem Mirrors.next (mirrors : Mirrors detached memory) (event : Event) :
    Mirrors (detached.next event)
      (if event.request.isFitPut then memory else memory.next event) := by
  cases needed : event.request.needsDatabase with
  | false =>
    have unfit : event.request.isFitPut = false := by
      obtain ⟨call, request⟩ := event
      cases request with
      | put batch => exact needed
      | _ => rfl
    rw [unfit]
    exact (mirrors.perform event.ambient needed).2
  | true =>
    rw [next_of_needsDatabase needed]
    -- Of these requests only a write would change the store in memory, and that it is not given.
    obtain ⟨call, request⟩ := event
    cases request with
    | put batch =>
      have fit : (Call.put batch).isFitPut = true := needed
      rw [fit]
      exact mirrors
    | get id => exact mirrors
    | range first last => exact mirrors
    | assignId | track | poll | untrack | close => cases needed

theorem Mirrors.after (mirrors : Mirrors detached memory) (events : List Event) :
    Mirrors (detached.after events)
      (memory.after (events.filter fun event => !event.request.isFitPut)) := by
  induction events generalizing detached memory with
  | nil => exact mirrors
  | cons event rest ih =>
    have step := mirrors.next event
    cases fit : event.request.isFitPut with
    | true =>
      rw [fit, if_pos rfl] at step
      rw [List.filter_cons_of_neg (by simp [fit])]
      exact ih step
    | false =>
      rw [fit, if_neg Bool.false_ne_true] at step
      rw [List.filter_cons_of_pos (by simp [fit])]
      exact ih step

/-- A store is closed by the first call that closes it, and by no other. -/
theorem closed_next (store : Detached) (event : Event) :
    (store.next event).closed = (store.closed || event.request.isClose) := by
  obtain ⟨call, request⟩ := event
  have kept {α : Type} (action : Feed → Except StoreError α × Feed) :
      (store.withFeed action).2.closed = store.closed := by
    unfold Detached.withFeed
    split <;> rfl
  cases request with
  | track => exact (kept _).trans (Bool.or_false _).symm
  | poll cursor => exact (kept _).trans (Bool.or_false _).symm
  | untrack cursor => exact (kept _).trans (Bool.or_false _).symm
  | close =>
    show store.close.2.closed = (store.closed || true)
    rw [Detached.close, Bool.or_true]
    split
    · assumption
    · rfl
  | assignId | put | get | range => exact (Bool.or_false _).symm

theorem closed_after (store : Detached) (events : List Event) :
    (store.after events).closed = (store.closed || events.any fun event => event.request.isClose) := by
  induction events generalizing store with
  | nil => exact (Bool.or_false _).symm
  | cons event rest ih =>
    rw [List.any_cons, ← Bool.or_assoc, ← closed_next]
    exact ih (store.next event)

/-! ### The theorem -/

/-- How a call of a store without its database compares with that of a store in memory. -/
structure AnswersAs (detached : Detached) (memory : Memory) (call : Ambient) {α : Type}
    (request : Call α) : Prop where
  /-- What needs no database has the same answer, and leaves the same cursors. -/
  same : request.needsDatabase = false →
    (detached.perform call request).1 = (memory.perform call request).1 ∧
      (detached.perform call request).2.feed = (memory.perform call request).2.feed
  /-- What needs it fails while the store is open; the store, its cursors and the caller's tasks stay
  as they are. -/
  unreachable : request.needsDatabase = true → detached.closed = false →
    detached.perform call request = (.error .unreachable, detached) ∧
      request.tasksAfter (detached.perform call request).1 = request.tasks
  /-- Once it is closed, both fail for that reason, whatever is asked. -/
  closed : detached.closed = true →
    (detached.perform call request).1 = .error .closed ∧
      (memory.perform call request).1 = .error .closed

/-- **The two stores agree wherever no database is needed.** Let a store without its database be given
any calls, and a store in memory the same calls but for the writes of tasks that are fit to be written;
both draw the same times and the same identifiers. Then both have the same cursors, both are closed
exactly if one of the calls was to close them, and they compare as `AnswersAs` says for whatever is
called next. -/
theorem answers_as_memory (config : StoreConfig) (events : List Event) (call : Ambient) {α : Type}
    (request : Call α) :
    let detached := (ofConfig config).after events
    let memory := (Memory.ofConfig config).after
      (events.filter fun event => !event.request.isFitPut)
    detached.AnswersAs memory call request ∧ detached.feed = memory.feed ∧
      detached.closed = memory.closed ∧
      (detached.closed = true ↔ ∃ event ∈ events, event.request.isClose = true) := by
  intro detached memory
  have mirrors : Mirrors detached memory := (mirrors_ofConfig config).after events
  refine ⟨⟨fun unneeded => ?_, fun needed isOpen => ?_, fun closed => ?_⟩, mirrors.feed,
    mirrors.closed, ?_⟩
  · obtain ⟨answer, next⟩ := mirrors.perform call unneeded
    exact ⟨answer, next.feed⟩
  · rw [perform_of_needsDatabase isOpen call needed]
    exact ⟨rfl, request.tasksAfter_error .unreachable⟩
  · rw [perform_of_closed closed, Memory.perform_of_closed (mirrors.closed.symm.trans closed)]
    exact ⟨rfl, rfl⟩
  · rw [closed_after]
    exact List.any_eq_true

end Detached

end TaskLedger
