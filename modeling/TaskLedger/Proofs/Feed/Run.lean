/-
**A feed and its clients.** Any number of clients register cursors, poll them and stop them while tasks
are recorded; a run is the list of these calls.

* `FeedCall`, `Feed.after` — the calls of a feed, and the feed that they leave.
* `FeedCall.steps`, `Feed.answers` — what happens to one cursor in a run, and the answers to its polls.
* `Feed.Slot`, `slot_next` — everything that one call can do to a cursor.
* `Feed.LastRegistered`, `exists_lastRegistered` — a registered cursor has followed all calls since it
  was last handed out.
* `Feed.AnswersNewest`, `take_answers_newest` — what a poll delivers, whatever the order of the records.
-/
import TaskLedger.Proofs.Feed.Polls

namespace TaskLedger

open Time (Instant)

/-- A call of a feed. -/
inductive FeedCall where
  | start (now : Instant) (fresh : CursorId)
  | take (now : Instant) (cursor : CursorId)
  | stop (cursor : CursorId)
  | record (now : Instant) (tasks : List Task)
  | clear

/-- What a call is to a cursor that stays registered. -/
def FeedCall.step? (cursor : CursorId) : FeedCall → Option CursorStep
  | .record _ tasks => some (.note tasks)
  | .take now id => if id = cursor then some (.poll now) else none
  | _ => none

/-- What happens to a cursor that stays registered. -/
def FeedCall.steps (cursor : CursorId) (calls : List FeedCall) : List CursorStep :=
  calls.filterMap (step? cursor)

namespace Feed

/-- The feed after a call. -/
def next (feed : Feed) : FeedCall → Feed
  | .start now fresh => (feed.start now fresh).2
  | .take now cursor => (feed.take now cursor).2
  | .stop cursor => (feed.stop cursor).2
  | .record now tasks => feed.record now tasks
  | .clear => feed.clear

/-- The feed after calls. -/
def after (feed : Feed) (calls : List FeedCall) : Feed :=
  calls.foldl next feed

/-- What a call answers to a poll of the cursor. -/
def answered (feed : Feed) (cursor : CursorId) : FeedCall → List (List Task)
  | .take now id => if id = cursor then (feed.take now id).1.toOption.toList else []
  | _ => []

/-- The answers to the polls of a cursor. -/
def answers (feed : Feed) (cursor : CursorId) : List FeedCall → List (List Task)
  | [] => []
  | call :: rest => feed.answered cursor call ++ (feed.next call).answers cursor rest

/-- The call hands out the cursor. -/
def Registers (feed : Feed) (cursor : CursorId) : FeedCall → Prop
  | .start now fresh => (feed.start now fresh).1 = .ok cursor
  | _ => False

/-- No call hands out the cursor. -/
def NoneRegisters (feed : Feed) (cursor : CursorId) : List FeedCall → Prop
  | [] => True
  | call :: rest => ¬feed.Registers cursor call ∧ (feed.next call).NoneRegisters cursor rest

theorem after_append (feed : Feed) (calls more : List FeedCall) :
    feed.after (calls ++ more) = (feed.after calls).after more :=
  List.foldl_append

theorem answers_concat (feed : Feed) (cursor : CursorId) (calls : List FeedCall) (call : FeedCall) :
    feed.answers cursor (calls ++ [call]) =
      feed.answers cursor calls ++ (feed.after calls).answered cursor call := by
  induction calls generalizing feed with
  | nil => exact List.append_nil _
  | cons first rest ih =>
    rw [List.cons_append, answers, ih, answers, List.append_assoc]
    rfl

theorem noneRegisters_concat {feed : Feed} {cursor : CursorId} {calls : List FeedCall}
    {call : FeedCall} (none : feed.NoneRegisters cursor calls)
    (last : ¬(feed.after calls).Registers cursor call) :
    feed.NoneRegisters cursor (calls ++ [call]) := by
  induction calls generalizing feed with
  | nil => exact ⟨last, trivial⟩
  | cons first rest ih => exact ⟨none.1, ih none.2 last⟩

/-! ### One call and one cursor -/

/-- How a cursor comes to be registered after a call: it was just handed out, or it was registered before
and the call left it alone, recorded tasks, or polled it. -/
inductive Slot (feed : Feed) (cursor : CursorId) (call : FeedCall) : FeedCursor → Prop where
  | registered (now : Instant) : feed.Registers cursor call → Slot feed cursor call (.ofNow now)
  | untouched (state : FeedCursor) : ¬feed.Registers cursor call →
    feed.cursors.get? cursor = some state → call.step? cursor = none →
    feed.answered cursor call = [] → Slot feed cursor call state
  | noted (state : FeedCursor) (tasks : List Task) : ¬feed.Registers cursor call →
    feed.cursors.get? cursor = some state → call.step? cursor = some (.note tasks) →
    feed.answered cursor call = [] → Slot feed cursor call (state.pushAll tasks)
  | polled (state : FeedCursor) (now : Instant) : ¬feed.Registers cursor call →
    feed.cursors.get? cursor = some state → call.step? cursor = some (.poll now) →
    feed.answered cursor call = [state.delivery] → Slot feed cursor call (state.polled now)

/-- Who is left after the idle cursors are gone was there before. -/
theorem get?_of_evictIdle {feed : Feed} {now : Instant} {cursor : CursorId} {state : FeedCursor}
    (kept : (feed.evictIdle now).cursors.get? cursor = some state) :
    feed.cursors.get? cursor = some state := by
  rw [evictIdle, Table.get?_filter, Option.filter_eq_some_iff] at kept
  exact kept.1

theorem start_of_full {feed : Feed} {now : Instant}
    (full : feed.maxCursors ≤ (feed.evictIdle now).size) (fresh : CursorId) :
    feed.start now fresh = (.error (.tooManyCursors feed.maxCursors), feed.evictIdle now) :=
  if_pos full

theorem start_of_room {feed : Feed} {now : Instant}
    (room : ¬feed.maxCursors ≤ (feed.evictIdle now).size) (fresh : CursorId) :
    feed.start now fresh = (.ok fresh, { feed.evictIdle now with
      cursors := (feed.evictIdle now).cursors.insert fresh (.ofNow now) }) :=
  if_neg room

/-- **A call does one of these things to a cursor.** -/
theorem slot_next {feed : Feed} {cursor : CursorId} {call : FeedCall} {state : FeedCursor}
    (found : (feed.next call).cursors.get? cursor = some state) : feed.Slot cursor call state := by
  cases call with
  | start now fresh =>
    rw [next] at found
    by_cases full : feed.maxCursors ≤ (feed.evictIdle now).size
    · have unregistered : ¬feed.Registers cursor (.start now fresh) := by
        rw [Registers, start_of_full full]
        exact nofun
      rw [start_of_full full] at found
      exact .untouched state unregistered (get?_of_evictIdle found) rfl rfl
    · rw [start_of_room full] at found
      by_cases own : cursor = fresh
      · subst own
        rw [Table.get?_insert_self] at found
        cases found
        exact .registered now (by rw [Registers, start_of_room full])
      · have unregistered : ¬feed.Registers cursor (.start now fresh) := by
          rw [Registers, start_of_room full]
          exact fun same => own (Except.ok.inj same).symm
        rw [Table.get?_insert_of_ne _ _ own] at found
        exact .untouched state unregistered (get?_of_evictIdle found) rfl rfl
  | take now id =>
    rw [next, take] at found
    by_cases own : cursor = id
    · subst own
      cases registered : feed.cursors.get? cursor with
      | none =>
        rw [registered] at found
        cases registered.symm.trans found
      | some before =>
        rw [registered] at found
        rw [Table.get?_insert_self] at found
        cases found
        refine .polled before now not_false registered (if_pos rfl) ?_
        rw [answered, if_pos rfl, take, registered]
        rfl
    · have same : feed.cursors.get? cursor = some state := by
        cases registered : feed.cursors.get? id with
        | none =>
          rw [registered] at found
          exact found
        | some before =>
          rw [registered] at found
          rwa [Table.get?_insert_of_ne _ _ own] at found
      exact .untouched state not_false same (if_neg (Ne.symm own)) (if_neg (Ne.symm own))
  | stop id =>
    have same : feed.cursors.get? cursor = some state := by
      rw [next, stop] at found
      cases registered : feed.cursors.get? id with
      | none =>
        rw [registered] at found
        exact found
      | some before =>
        rw [registered] at found
        by_cases own : cursor = id
        · subst own
          rw [Table.get?_erase_self] at found
          cases found
        · rwa [Table.get?_erase_of_ne _ own] at found
    exact .untouched state not_false same rfl rfl
  | record now tasks =>
    rw [next, record, Table.map, Table.get?_filterMap, Option.bind_eq_some_iff] at found
    obtain ⟨before, kept, changed⟩ := found
    cases changed
    exact .noted before tasks not_false (get?_of_evictIdle kept) rfl rfl
  | clear =>
    cases found

/-! ### A cursor since its registration -/

/-- A run since the cursor was last handed out. -/
structure LastRegistered (feed : Feed) (cursor : CursorId) (calls before : List FeedCall)
    (registration : FeedCall) (since : List FeedCall) : Prop where
  split : calls = before ++ registration :: since
  registers : (feed.after before).Registers cursor registration
  last : (feed.after (before ++ [registration])).NoneRegisters cursor since

theorem LastRegistered.concat {feed : Feed} {cursor : CursorId} {calls before since : List FeedCall}
    {registration call : FeedCall}
    (lastly : feed.LastRegistered cursor calls before registration since)
    (unregistered : ¬(feed.after calls).Registers cursor call) :
    feed.LastRegistered cursor (calls ++ [call]) before registration (since ++ [call]) := by
  refine ⟨?_, lastly.registers, noneRegisters_concat lastly.last ?_⟩
  · rw [lastly.split, List.append_assoc, List.cons_append]
  · rw [← after_append, List.append_assoc, List.singleton_append, ← lastly.split]
    exact unregistered

theorem steps_concat (cursor : CursorId) (calls : List FeedCall) (call : FeedCall) :
    FeedCall.steps cursor (calls ++ [call]) =
      FeedCall.steps cursor calls ++ (call.step? cursor).toList := by
  rw [FeedCall.steps, List.filterMap_append, FeedCall.steps]
  rfl

/-- A cursor that is handed out starts anew. -/
theorem Slot.eq_ofNow {feed : Feed} {cursor : CursorId} {call : FeedCall} {state : FeedCursor}
    (slot : feed.Slot cursor call state) (registers : feed.Registers cursor call) :
    ∃ now, state = .ofNow now := by
  cases slot with
  | registered now => exact ⟨now, rfl⟩
  | untouched _ unregistered => exact absurd registers unregistered
  | noted _ _ unregistered => exact absurd registers unregistered
  | polled _ _ unregistered => exact absurd registers unregistered

/-- Any other cursor was registered before, and has followed the call. -/
theorem Slot.exists_before {feed : Feed} {cursor : CursorId} {call : FeedCall} {state : FeedCursor}
    (slot : feed.Slot cursor call state) (unregistered : ¬feed.Registers cursor call) :
    ∃ before, feed.cursors.get? cursor = some before ∧
      ∀ steps answers, before.Follows steps answers →
        state.Follows (steps ++ (call.step? cursor).toList) (answers ++ feed.answered cursor call) := by
  cases slot with
  | registered now registers => exact absurd registers unregistered
  | untouched _ _ found step answer =>
    refine ⟨state, found, fun steps answers follows => ?_⟩
    rw [step, answer, Option.toList_none, List.append_nil, List.append_nil]
    exact follows
  | noted before tasks _ found step answer =>
    refine ⟨before, found, fun steps answers follows => ?_⟩
    rw [step, answer, List.append_nil]
    exact follows.note tasks
  | polled before now _ found step answer =>
    refine ⟨before, found, fun steps answers follows => ?_⟩
    rw [step, answer]
    exact follows.poll now

/-- **A registered cursor follows the run** since it was last handed out. -/
theorem exists_lastRegistered {feed : Feed} {cursor : CursorId}
    (fresh : feed.cursors.get? cursor = none) {calls : List FeedCall} {state : FeedCursor}
    (found : (feed.after calls).cursors.get? cursor = some state) :
    ∃ before registration since, feed.LastRegistered cursor calls before registration since ∧
      state.Follows (FeedCall.steps cursor since)
        ((feed.after (before ++ [registration])).answers cursor since) := by
  -- From the end of the run: either the last call hands the cursor out, or it was registered before it.
  induction calls using List.reverseRecOn generalizing state with
  | nil => cases fresh.symm.trans found
  | append_singleton calls call ih =>
    rw [after_append] at found
    have slot := slot_next found
    by_cases registers : (feed.after calls).Registers cursor call
    · obtain ⟨now, rfl⟩ := slot.eq_ofNow registers
      exact ⟨calls, call, [], ⟨rfl, registers, trivial⟩, FeedCursor.follows_ofNow now⟩
    · obtain ⟨earlier, registered, follow⟩ := slot.exists_before registers
      obtain ⟨before, registration, since, lastly, follows⟩ := ih registered
      refine ⟨before, registration, since ++ [call], lastly.concat registers, ?_⟩
      rw [steps_concat, answers_concat, ← after_append, List.append_assoc, List.singleton_append,
        ← lastly.split]
      exact follow _ _ follows

/-! ### A poll after any run -/

theorem take_of_registered {feed : Feed} {cursor : CursorId} {state : FeedCursor}
    (registered : feed.cursors.get? cursor = some state) (now : Instant) :
    (feed.take now cursor).1 = .ok state.delivery := by
  rw [take, registered]

theorem registered_of_take {feed : Feed} {cursor : CursorId} {now : Instant} {answer : List Task}
    (polled : (feed.take now cursor).1 = .ok answer) :
    ∃ state, feed.cursors.get? cursor = some state ∧ answer = state.delivery := by
  rw [take] at polled
  cases registered : feed.cursors.get? cursor with
  | none =>
    rw [registered] at polled
    cases polled
  | some state =>
    rw [registered] at polled
    cases polled
    exact ⟨state, rfl, rfl⟩

/-- An answer to a poll has the news since the poll before it, or since the cursor was handed out; every
poll in between was answered. -/
def AnswersNewest (feed : Feed) (cursor : CursorId) (calls : List FeedCall) (answer : List Task) :
    Prop :=
  ∃ before registration since, feed.LastRegistered cursor calls before registration since ∧
    ((feed.after (before ++ [registration])).answers cursor since).length =
      (FeedCall.steps cursor since).countP CursorStep.isPoll ∧
    NewestDelivered (CursorStep.seen (FeedCall.steps cursor since))
      (CursorStep.fresh (FeedCall.steps cursor since))
      ((feed.after (before ++ [registration])).answers cursor since) answer

theorem answersNewest_of_registered {feed : Feed} {cursor : CursorId}
    (fresh : feed.cursors.get? cursor = none) {calls : List FeedCall} {state : FeedCursor}
    (registered : (feed.after calls).cursors.get? cursor = some state) :
    feed.AnswersNewest cursor calls state.delivery := by
  obtain ⟨before, registration, since, lastly, follows⟩ := exists_lastRegistered fresh registered
  exact ⟨before, registration, since, lastly, follows.answered, follows.newestDelivered⟩

/-- **A feed takes records in any order.** After any calls, a cursor that is registered is answered, and
what it is told depends on the stamps that were recorded, not on when they came: each task whose greatest
stamp has risen since the previous poll, with the newest value. -/
theorem take_answers_newest {config : StoreConfig} {calls : List FeedCall} {cursor : CursorId}
    {state : FeedCursor}
    (registered : ((ofConfig config).after calls).cursors.get? cursor = some state) (now : Instant) :
    ∃ answer, (((ofConfig config).after calls).take now cursor).1 = .ok answer ∧
      (ofConfig config).AnswersNewest cursor calls answer :=
  ⟨state.delivery, take_of_registered registered now, answersNewest_of_registered rfl registered⟩

/-- A version of a task. -/
def versionAt (id : TaskId) (name : String) (stamp : Instant) : Task :=
  { Task.ofNew name "repo" .epoch with id := some id, stamp := some stamp }

/-- Before the first poll a version of one task is recorded after a newer one, and after it a second value
of that newer version, a newer version of another task and a task that was never written. -/
def outOfOrder : List FeedCall :=
  [.start .epoch ⟨"cursor"⟩,
    .record .epoch [versionAt ⟨"a"⟩ "first" .last, versionAt ⟨"b"⟩ "build" .epoch],
    .record .epoch [versionAt ⟨"a"⟩ "late" .epoch],
    .take .epoch ⟨"cursor"⟩,
    .record .epoch [versionAt ⟨"a"⟩ "second" .last, .ofNew "test" "repo" .epoch,
      versionAt ⟨"b"⟩ "build" .last]]

/-- The second poll tells of the other task alone. -/
theorem outOfOrder_answers_newest : ∃ state answer,
    ((ofConfig .standard).after outOfOrder).cursors.get? ⟨"cursor"⟩ = some state ∧
    (((ofConfig .standard).after outOfOrder).take .epoch ⟨"cursor"⟩).1 = .ok answer ∧
    answer = [versionAt ⟨"b"⟩ "build" .last] ∧
    (ofConfig .standard).AnswersNewest ⟨"cursor"⟩ outOfOrder answer := by
  have registered : ∃ state,
      ((ofConfig .standard).after outOfOrder).cursors.get? ⟨"cursor"⟩ = some state :=
    Option.isSome_iff_exists.1 (by decide)
  obtain ⟨state, found⟩ := registered
  obtain ⟨answer, polled, told⟩ := take_answers_newest found .epoch
  have given : (((ofConfig .standard).after outOfOrder).take .epoch ⟨"cursor"⟩).1 =
      .ok [versionAt ⟨"b"⟩ "build" .last] := by decide
  exact ⟨state, answer, found, polled, Except.ok.inj (polled.symm.trans given), told⟩

end Feed

end TaskLedger
