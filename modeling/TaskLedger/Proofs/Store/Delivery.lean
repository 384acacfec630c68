/-
**The feed delivers every write exactly once.** The stamps of a store increase, so what its feed calls
newest is what was written last: an answer to a poll has the last versions of the tasks that were
committed since the poll before it.

* `recordsOf_versions`, `rising_versions` — the versions of a run as records of the feed.
* `DeliversCommits`, `deliversCommits` — an answer that has the last versions of what was committed.
* `Memory.mem_delivery_of_written` — who is registered after a write holds what it wrote.
* `Memory.DeliversWrites`, `poll_delivers_writes` — the statement for any run, and the theorem.
-/
import TaskLedger.Proofs.Feed.Rising
import TaskLedger.Proofs.Store.FeedRun
import TaskLedger.Proofs.Store.Tracked

namespace TaskLedger

open Time (Instant)

/-! ### Versions as records -/

theorem Version.recordOf?_task {version : Version} (named : version.given.id = some version.id)
    (id : TaskId) : version.task.recordOf? id =
      if version.id = id then some (version.stamp, version.task) else none := by
  by_cases own : version.id = id
  · rw [if_pos own]
    exact Task.recordOf?_eq_some (own ▸ named) rfl
  · rw [if_neg own]
    exact Task.recordOf?_of_ne named (Ne.symm own)

section Records

variable {made : List Version} (named : ∀ version ∈ made, version.given.id = some version.id)

include named

/-- The records of a task are its versions. -/
theorem recordsOf_versions (id : TaskId) :
    recordsOf id (made.map (·.task)) =
      (made.filter fun version => version.id = id).map fun version =>
        (version.stamp, version.task) := by
  rw [recordsOf]
  induction made with
  | nil => rfl
  | cons version rest ih =>
    obtain ⟨own, others⟩ := List.forall_mem_cons.1 named
    have record := Version.recordOf?_task own id
    rw [List.map_cons]
    by_cases same : version.id = id
    · rw [if_pos same] at record
      rw [List.filterMap_cons_some record, ih others, List.filter_cons_of_pos (by simpa using same),
        List.map_cons]
    · rw [if_neg same] at record
      rw [List.filterMap_cons_none record, ih others, List.filter_cons_of_neg (by simpa using same)]

/-- While the stamps of every task increase, so do those of the records. -/
theorem rising_versions
    (increasing : made.Pairwise fun v w => v.id = w.id → v.stamp < w.stamp) :
    Rising (made.map (·.task)) := by
  refine List.pairwise_map.2 (increasing.imp_of_mem fun {v w} first second less => ?_)
  intro id s t vRecord wRecord
  obtain ⟨vNamed, vStamped, -⟩ := Task.recordOf?_eq_some_iff.1 vRecord
  obtain ⟨wNamed, wStamped, -⟩ := Task.recordOf?_eq_some_iff.1 wRecord
  cases vStamped
  cases wStamped
  have sameTask : some v.id = some w.id := by
    rw [← named v first, ← named w second]
    exact vNamed.trans wNamed.symm
  exact less (Option.some.inj sameTask)

end Records

/-! ### What an answer has -/

/-- An answer has what these commits wrote. -/
structure DeliversCommits (history : List Commit) (answer : List Task) : Prop where
  /-- The tasks of the answer are the last versions of the tasks that were committed. -/
  latest : ∀ task, task ∈ answer ↔ ∃ id, (versionsOf id history).getLast?.map (·.task) = some task
  once : (answer.map (·.id)).Nodup
  /-- They stand in the order of their first versions. -/
  ordered : answer.Pairwise fun earlier later =>
    (versions history).findIdx (fun version => version.task.id = earlier.id) <
      (versions history).findIdx fun version => version.task.id = later.id

theorem deliversCommits {seen : List Version} {history : List Commit} {entries : List (TaskId × Task)}
    (named : ∀ version ∈ seen ++ versions history, version.given.id = some version.id)
    (increasing : (seen ++ versions history).Pairwise fun v w => v.id = w.id → v.stamp < w.stamp)
    (delivers : Delivers (seen.map (·.task)) ((versions history).map (·.task)) entries) :
    DeliversCommits history (entries.map (·.2)) := by
  have rising := rising_versions named increasing
  rw [List.map_append] at rising
  have last (id : TaskId) : (recordsOf id ((versions history).map (·.task))).getLast?.map (·.2) =
      (versionsOf id history).getLast?.map (·.task) := by
    rw [recordsOf_versions fun version member => named version (List.mem_append_right seen member),
      List.getLast?_map, Option.map_map, versionsOf]
    rfl
  refine ⟨fun task => ⟨fun inside => ?_, ?_⟩, ?_, ?_⟩
  · obtain ⟨entry, member, rfl⟩ := List.mem_map.1 inside
    exact ⟨entry.1, last entry.1 ▸ rising.value_eq delivers member⟩
  · rintro ⟨id, newest⟩
    rw [← last] at newest
    have some : recordsOf id ((versions history).map (·.task)) ≠ [] := by
      rintro none
      rw [none] at newest
      cases newest
    obtain ⟨entry, member, rfl⟩ := List.mem_map.1 ((rising.listed_iff delivers id).2 some)
    have value := rising.value_eq delivers member
    exact List.mem_map.2 ⟨entry, member, Option.some.inj (value.symm.trans newest)⟩
  · have ids : (entries.map (·.2)).map (·.id) = (entries.map (·.1)).map some := by
      rw [List.map_map, List.map_map]
      exact List.map_congr_left fun entry member => delivers.id_eq member
    rw [ids]
    exact delivers.once.map (Option.some_injective _)
  · have stamped : ∀ task ∈ (versions history).map (·.task), task.stamp ≠ none :=
      List.forall_mem_map.2 fun version _ => Option.some_ne_none _
    refine List.pairwise_map.2 ((List.pairwise_map.1
      (rising.ordered stamped delivers)).imp_of_mem fun {a b} first second less => ?_)
    rw [List.findIdx_map, List.findIdx_map] at less
    rw [delivers.id_eq first, delivers.id_eq second]
    exact less

/-! ### The theorem -/

namespace Memory

/-- What a client is told when it polls a cursor after calls, by calls since it got the cursor. -/
structure DeliversWrites (start : Memory) (cursor : CursorId) (events : List Event)
    (answer : List Task) (before : List Event) (registration : Event) (since : List Event) :
    Prop where
  split : events = before ++ registration :: since
  registers : (start.after before).Registers cursor registration
  noneSince : (start.after (before ++ [registration])).NoneRegisters cursor since
  /-- Every poll in between was answered. -/
  answered : ((start.after (before ++ [registration])).answers cursor since).length =
    since.countP (Event.polls cursor)
  /-- The answer has what was committed since the previous poll. -/
  delivers : DeliversCommits
    ((start.after (before ++ registration :: throughLastPoll cursor since)).history
      (sinceLastPoll cursor since)) answer
  /-- All answers laid over what was stored at the registration are what is stored now. -/
  current : overlay (start.after before).tasks
      (((start.after (before ++ [registration])).answers cursor since).flatten ++ answer) =
    (start.after events).tasks

section Since

/- A cursor that was handed out by this store, and the calls since. -/
variable {store : Memory} {cursor : CursorId} {since : List Event} {state : FeedCursor}

theorem deliversCommits_of_follows (isOpen : (store.after since).closed = false)
    (follows : state.Follows (FeedCall.steps cursor (store.feedCalls since))
      (store.answers cursor since))
    (named : ∀ version ∈ versions (store.history since), version.given.id = some version.id)
    (increasing : (versions (store.history since)).Pairwise fun v w =>
      v.id = w.id → v.stamp < w.stamp) :
    DeliversCommits ((store.after (throughLastPoll cursor since)).history
      (sinceLastPoll cursor since)) state.delivery := by
  have delivers := follows.holds.queued
  rw [seen_feedCalls cursor isOpen, fresh_feedCalls cursor isOpen] at delivers
  rw [← history_append_since store cursor since, versions_append] at named increasing
  exact deliversCommits named increasing delivers

/-- What a write makes is part of the next answer. -/
theorem mem_delivery_of_follows {call : Ambient} {batch : List Task} {version : Version}
    (taken : (store.after since).refusal? call batch = none)
    (member : version ∈ ((store.after since).commitOf call batch).versions)
    (follows : state.Follows
      (FeedCall.steps cursor (store.feedCalls (since ++ [⟨call, .put batch⟩])))
      (store.answers cursor (since ++ [⟨call, .put batch⟩])))
    (named : ∀ version ∈ versions (store.history (since ++ [⟨call, .put batch⟩])),
      version.given.id = some version.id)
    (increasing : (versions (store.history (since ++ [⟨call, .put batch⟩]))).Pairwise fun v w =>
      v.id = w.id → v.stamp < w.stamp) :
    version.task ∈ state.delivery := by
  have isOpen : (store.after (since ++ [⟨call, .put batch⟩])).closed = false := by
    rw [after_append]
    show ((store.after since).put call batch).2.closed = false
    rw [put_of_taken taken, closed_commit]
    exact isOpen_of_taken taken
  have delivers := deliversCommits_of_follows isOpen follows named increasing
  have quiet : (⟨call, .put batch⟩ : Event).polls cursor = false := rfl
  rw [sinceLastPoll_of_not_polls quiet, throughLastPoll_of_not_polls quiet, history_concat,
    ← after_append, throughLastPoll_append_sinceLastPoll, commits_of_taken taken] at delivers
  refine (delivers.latest version.task).2 ⟨version.id, ?_⟩
  rw [versionsOf_append, versionsOf_commit_of_mem (nodup_commitOf taken) member, List.getLast?_concat]
  rfl

/-- What the client has of a task is its last version since the registration. -/
theorem get?_consumed_of_follows
    (follows : state.Follows (FeedCall.steps cursor (store.feedCalls since))
      (store.answers cursor since))
    (named : ∀ version ∈ versions (store.history since), version.given.id = some version.id)
    (increasing : (versions (store.history since)).Pairwise fun v w =>
      v.id = w.id → v.stamp < w.stamp) (id : TaskId) :
    (consumed (store.answers cursor since ++ [state.delivery])).get? id =
      (versionsOf id (store.history since)).getLast?.map (·.task) := by
  rw [follows.newestDelivered.kept, CursorStep.seen_append_fresh, noted_feedCalls,
    (rising_versions named increasing).newestOf_eq, recordsOf_versions named, List.getLast?_map,
    Option.map_map]
  rfl

end Since

section Delivery

variable {config : StoreConfig} {events : List Event} {cursor : CursorId}

theorem registered_of_poll {store : Memory} {call : Ambient} {answer : List Task}
    (polled : (store.perform call (.poll cursor)).1 = .ok answer) :
    store.closed = false ∧ ∃ state, store.feed.cursors.get? cursor = some state ∧
      answer = state.delivery := by
  cases closed : store.closed with
  | true =>
    rw [perform, withFeed_of_closed closed] at polled
    cases polled
  | false =>
    rw [perform, withFeed_of_open closed] at polled
    exact ⟨rfl, Feed.registered_of_take polled⟩

/-- A registration commits nothing. -/
theorem history_of_registers {start : Memory} {before : List Event} {registration : Event}
    (registers : (start.after before).Registers cursor registration) (since : List Event) :
    start.history (before ++ registration :: since) =
      start.history before ++ (start.after (before ++ [registration])).history since := by
  rw [List.append_cons, history_append, history_concat, commits_of_registers registers,
    List.append_nil]

/-- A cursor that is registered has followed the run since it was handed out. -/
theorem exists_follows {state : FeedCursor}
    (found : ((ofConfig config).after events).feed.cursors.get? cursor = some state) :
    ∃ before registration since, events = before ++ registration :: since ∧
      ((ofConfig config).after before).Registers cursor registration ∧
      ((ofConfig config).after (before ++ [registration])).NoneRegisters cursor since ∧
      state.Follows
        (FeedCall.steps cursor
          (((ofConfig config).after (before ++ [registration])).feedCalls since))
        (((ofConfig config).after (before ++ [registration])).answers cursor since) := by
  rw [feed_after] at found
  obtain ⟨front, call, back, lastly, follows⟩ := Feed.exists_lastRegistered rfl found
  obtain ⟨before, registration, since, rfl, rfl, made, rfl⟩ :=
    exists_split_of_feedCalls lastly.split
  have feed : ((ofConfig config).feed.after ((ofConfig config).feedCalls before ++ [call])) =
      ((ofConfig config).after (before ++ [registration])).feed := by
    rw [feed_after, feedCalls_concat, made]
    rfl
  have registers := lastly.registers
  have noneSince := lastly.last
  rw [← feed_after] at registers
  rw [feed] at noneSince follows
  refine ⟨before, registration, since, rfl, ?_, ?_, ?_⟩
  · rw [Registers, handsOut_iff]
    exact ⟨call, made, registers⟩
  · rw [noneRegisters_iff]
    exact noneSince
  · rw [answers_eq]
    exact follows

/-- **Who is registered after a write holds what it wrote.** -/
theorem mem_delivery_of_written {store : Memory} (reached : store = (ofConfig config).after events)
    (unending : ∀ commit ∈ (ofConfig config).history events, ¬commit.stamp.IsLast) {call : Ambient}
    {batch : List Task} {version : Version} {state : FeedCursor}
    (taken : store.refusal? call batch = none)
    (member : version ∈ (store.commitOf call batch).versions)
    (found : (store.next ⟨call, .put batch⟩).feed.cursors.get? cursor = some state) :
    version.task ∈ state.delivery := by
  subst reached
  have tracked := tracked_after config (events ++ [⟨call, .put batch⟩])
  have ordered := (stamped_after config (events ++ [⟨call, .put batch⟩])).pairwise_of_dropLast (by
    rwa [history_concat, commits_of_taken taken, List.dropLast_concat])
  have increasing := pairwise_versions_iff.2 (tracked.increasing ordered)
  have named := tracked.named
  have registered : ((ofConfig config).after (events ++ [⟨call, .put batch⟩])).feed.cursors.get? cursor =
      some state := by
    rw [after_append]
    exact found
  obtain ⟨before, registration, since, parts, registers, -, follows⟩ := exists_follows registered
  -- The write registers no cursor, so it is among the calls since the registration.
  rcases List.eq_nil_or_concat since with rfl | ⟨earlier, last, rfl⟩
  · obtain ⟨-, same⟩ := List.append_inj' parts rfl
    cases same
    cases registers
  · rw [List.concat_eq_append, ← List.cons_append, ← List.append_assoc] at parts
    obtain ⟨rfl, same⟩ := List.append_inj' parts rfl
    cases same
    rw [List.append_assoc, List.cons_append, history_of_registers registers, versions_append]
      at increasing named
    rw [List.append_cons, after_append] at taken member
    rw [List.concat_eq_append] at follows
    exact mem_delivery_of_follows taken member follows
      (fun version inside => named version (List.mem_append_right _ inside))
      (List.pairwise_append.1 increasing).2.1

/-- **The feed delivers every write exactly once.** While the stamps have not reached the end of the range,
an answer to a poll has what was committed since the poll before it, whatever other clients do; and
the answers of a cursor add up to what the store holds. -/
theorem poll_delivers_writes {call : Ambient} {answer : List Task}
    (unending : ∀ commit ∈ (ofConfig config).history events, ¬commit.stamp.IsLast)
    (polled : (((ofConfig config).after events).perform call (.poll cursor)).1 = .ok answer) :
    ∃ before registration since,
      (ofConfig config).DeliversWrites cursor events answer before registration since := by
  obtain ⟨isOpen, state, found, rfl⟩ := registered_of_poll polled
  obtain ⟨before, registration, since, rfl, registers, noneSince, follows⟩ := exists_follows found
  have tracked := tracked_after config (before ++ registration :: since)
  have ordered := (stamped_after config (before ++ registration :: since)).pairwise unending
  have increasing := pairwise_versions_iff.2 (tracked.increasing ordered)
  have named := tracked.named
  -- What holds of all versions holds of those since the registration.
  have whole := history_of_registers registers since
  rw [whole, versions_append] at increasing named
  replace increasing := (List.pairwise_append.1 increasing).2.1
  replace named := fun version member => named version (List.mem_append_right _ member)
  have wasOpen := isOpen_of_append isOpen
  have sinceOpen := isOpen
  rw [List.append_cons, after_append] at sinceOpen
  refine ⟨before, registration, since, rfl, registers, noneSince, ?_, ?_, Table.ext_get? fun id => ?_⟩
  · rw [follows.answered, countP_isPoll cursor sinceOpen]
  · rw [List.append_cons, after_append]
    exact deliversCommits_of_follows sinceOpen follows named increasing
  · have told := get?_consumed_of_follows follows named increasing id
    rw [consumed, List.flatten_concat] at told
    rw [get?_overlay, told, (tracked_after config before).current wasOpen, tracked.current isOpen, whole,
      versionsOf_append, List.getLast?_append, Option.map_or]

/-- A call at the start of time. -/
def asked {α : Type} (request : Call α) : Event :=
  ⟨⟨.epoch, fun place => place⟩, request⟩

/-- A client gets a cursor between two writes, and polls it; then one task is written twice more, and a
write of another is refused. -/
def watched : List Event :=
  [.putAt .epoch [writeOf ⟨"a"⟩ none],
    asked .track,
    .putAt .epoch [writeOf ⟨"b"⟩ none, writeOf ⟨"a"⟩ (some .epoch)],
    asked (.poll (.ofRandom 0)),
    .putAt .epoch [writeOf ⟨"a"⟩ (some (nextStamp (some .epoch) .epoch))],
    .putAt .epoch [writeOf ⟨"b"⟩ none],
    .putAt .epoch [writeOf ⟨"a"⟩ (some (nextStamp (some (nextStamp (some .epoch) .epoch)) .epoch))]]

/-- The second poll tells of that task once. -/
theorem watched_delivers_writes : ∃ answer,
    (∀ commit ∈ (ofConfig .standard).history watched, ¬commit.stamp.IsLast) ∧
    (((ofConfig .standard).after watched).perform ⟨.epoch, fun place => place⟩
      (.poll (.ofRandom 0))).1 = .ok answer ∧
    answer.map (·.id) = [some ⟨"a"⟩] ∧
    ∃ before registration since, (ofConfig .standard).DeliversWrites (.ofRandom 0) watched answer
      before registration since := by
  have unending : ∀ commit ∈ (ofConfig .standard).history watched, ¬commit.stamp.IsLast := by
    decide
  have told : ((((ofConfig .standard).after watched).perform ⟨.epoch, fun place => place⟩
      (.poll (.ofRandom 0))).1.map fun answer => answer.map (·.id)) = .ok [some ⟨"a"⟩] := by
    decide
  cases polled : (((ofConfig .standard).after watched).perform ⟨.epoch, fun place => place⟩
      (.poll (.ofRandom 0))).1 with
  | error error =>
    rw [polled] at told
    cases told
  | ok answer =>
    rw [polled] at told
    exact ⟨answer, unending, rfl, Except.ok.inj told, poll_delivers_writes unending polled⟩

end Delivery

end Memory

end TaskLedger
