/-
**Cursors that go unpolled.** The cursors of a feed are bounded in number, and a cursor stays until it is
stopped, the feed is cleared, or a registration or a record finds it idle.

* `StoreConfig.timedOut` — the configured seconds are exceeded, compared exactly; `isIdle_eq` says that a
  feed sees it so, also where the seconds are more than a duration holds.
* `FeedCall.ends`, `FeedCall.contact` — what a call does to a cursor, given the last contact with it.
* `Feed.lastContact?_next` — one call; `Feed.lastContact?_after_iff` — a run of them.
* `Feed.Keeps`, `Feed.keeps_after` — the bound, who is refused, and who is known.
-/
import TaskLedger.Proofs.Feed.Run
import TaskLedger.Proofs.Table

namespace TaskLedger

open Time (Instant)

/-! ### The limit -/

/-- No two instants are further apart than this. -/
theorem Time.Instant.since_le (a b : Instant) :
    a.since b ≤ (Time.lastSecond - Time.firstSecond + 3) * Time.nanosPerSecond := by
  have leap : a.leapBetween b ≤ 1 := by
    rw [leapBetween]
    split
    · exact le_refl 1
    · split <;> decide
  have after := a.le_last
  have before := b.first_le
  have nano := a.nano_lt
  rw [since]
  unfold Time.firstSecond Time.lastSecond Time.nanosPerSecond at *
  omega

/-- A time is later than the last contact with a cursor by more than the seconds that it may go unpolled. -/
def StoreConfig.timedOut (config : StoreConfig) (now last : Instant) : Bool :=
  config.idleSeconds.any fun seconds => (seconds * Time.nanosPerSecond : Nat) < now.since last

namespace Feed

/-- **The limit acts exactly as configured.** Seconds beyond the range of durations limit nothing, and no
two instants are as far apart. -/
theorem isIdle_eq {feed : Feed} {config : StoreConfig} (limit : feed.idleTimeout = config.idleTimeout)
    (now : Instant) :
    feed.isIdle now = fun cursor => config.timedOut now cursor.lastPolled := by
  funext cursor
  rw [isIdle, limit, StoreConfig.idleTimeout, StoreConfig.timedOut]
  cases config.idleSeconds with
  | none => rfl
  | some seconds =>
    by_cases short : seconds * 1000 ≤ StoreConfig.longestMillis
    · rw [Option.filter_some, if_pos (decide_eq_true short), Option.any_some]
    · have apart := now.since_le cursor.lastPolled
      have never : ¬((seconds * Time.nanosPerSecond : Nat) : Int) < now.since cursor.lastPolled := by
        unfold StoreConfig.longestMillis at short
        unfold Time.firstSecond Time.lastSecond Time.nanosPerSecond at *
        omega
      rw [Option.filter_some, if_neg (by rwa [decide_eq_true_eq]), Option.any_some,
        decide_eq_false never]

end Feed

/-! ### One call -/

/-- Records are no contact. -/
theorem FeedCursor.lastPolled_pushAll (cursor : FeedCursor) (tasks : List Task) :
    (cursor.pushAll tasks).lastPolled = cursor.lastPolled := by
  induction tasks generalizing cursor with
  | nil => rfl
  | cons task rest ih =>
    refine (ih (cursor.push task)).trans ?_
    unfold push
    split
    · split <;> rfl
    · rfl

namespace FeedCall

/-- The call ends a cursor, given the last contact with it. -/
def ends (config : StoreConfig) (cursor : CursorId) (last : Instant) : FeedCall → Bool
  | .start now _ => config.timedOut now last
  | .record now _ => config.timedOut now last
  | .stop id => id = cursor
  | .take _ _ => false
  | .clear => true

/-- The last contact with a cursor after a call: a poll of it is one. -/
def contact (cursor : CursorId) (last : Instant) : FeedCall → Instant
  | .take now id => if id = cursor then now else last
  | _ => last

/-- The last contact after calls with a cursor that was registered at a time. -/
def contactAfter (cursor : CursorId) (registered : Instant) (calls : List FeedCall) : Instant :=
  calls.foldl (contact cursor) registered

/-- No call ends the cursor that was registered at a time. -/
def Spare (config : StoreConfig) (cursor : CursorId) (registered : Instant) (calls : List FeedCall) :
    Prop :=
  ∀ front call back, calls = front ++ call :: back →
    call.ends config cursor (contactAfter cursor registered front) = false

theorem spare_concat_iff {config : StoreConfig} {cursor : CursorId} {registered : Instant}
    {calls : List FeedCall} {call : FeedCall} :
    Spare config cursor registered (calls ++ [call]) ↔ Spare config cursor registered calls ∧
      call.ends config cursor (contactAfter cursor registered calls) = false := by
  constructor
  · intro spare
    refine ⟨fun front other back split => spare front other (back ++ [call]) ?_, spare calls call [] rfl⟩
    rw [split, List.append_assoc, List.cons_append]
  · rintro ⟨spare, last⟩ front other back split
    rcases List.eq_nil_or_concat back with rfl | ⟨back, final, rfl⟩
    · obtain ⟨rfl, same⟩ := List.append_inj' split rfl
      cases same
      exact last
    · rw [List.concat_eq_append, ← List.cons_append, ← List.append_assoc] at split
      exact spare front other back (List.append_inj' split rfl).1

end FeedCall

namespace Feed

/-- The last contact with a registered cursor: its last poll, or its registration. -/
def lastContact? (feed : Feed) (cursor : CursorId) : Option Instant :=
  (feed.cursors.get? cursor).map FeedCursor.lastPolled

variable {feed : Feed} {config : StoreConfig} {cursor : CursorId}

theorem lastContact?_evictIdle (limit : feed.idleTimeout = config.idleTimeout) (now : Instant)
    (cursor : CursorId) :
    (feed.evictIdle now).lastContact? cursor =
      (feed.lastContact? cursor).filter fun last => !config.timedOut now last := by
  rw [lastContact?, evictIdle, Table.get?_filter, lastContact?, Option.filter_map, isIdle_eq limit]
  rfl

/-- A poll leaves the other cursors alone. -/
theorem get?_take_of_ne {polled : CursorId} (now : Instant) (other : cursor ≠ polled) :
    (feed.take now polled).2.cursors.get? cursor = feed.cursors.get? cursor := by
  rw [take]
  cases feed.cursors.get? polled with
  | none => rfl
  | some state => exact Table.get?_insert_of_ne _ _ other

/-- So does the removal of a cursor. -/
theorem get?_stop_of_ne {stopped : CursorId} (other : cursor ≠ stopped) :
    (feed.stop stopped).2.cursors.get? cursor = feed.cursors.get? cursor := by
  rw [stop]
  cases feed.cursors.get? stopped with
  | none => rfl
  | some state => exact Table.get?_erase_of_ne _ other

/-- A cursor is handed out where there is room. -/
theorem room_of_registers {call : FeedCall} (registers : feed.Registers cursor call) :
    ∃ now, call = .start now cursor ∧ ¬feed.maxCursors ≤ (feed.evictIdle now).size := by
  cases call with
  | start now fresh =>
    by_cases full : feed.maxCursors ≤ (feed.evictIdle now).size
    · rw [Registers, start_of_full full] at registers
      cases registers
    · rw [Registers, start_of_room full] at registers
      cases registers
      exact ⟨now, rfl, full⟩
  | take => exact registers.elim
  | stop => exact registers.elim
  | record => exact registers.elim
  | clear => exact registers.elim

/-- A registration is a contact. -/
theorem lastContact?_of_registers {call : FeedCall} (registers : feed.Registers cursor call) :
    ∃ now, call = .start now cursor ∧ (feed.next call).lastContact? cursor = some now := by
  obtain ⟨now, rfl, room⟩ := room_of_registers registers
  refine ⟨now, rfl, ?_⟩
  rw [next, start_of_room room, lastContact?, Table.get?_insert_self]
  rfl

/-- **Any other call** ends a cursor, or leaves it registered with what is then the last contact. -/
theorem lastContact?_next (limit : feed.idleTimeout = config.idleTimeout) {call : FeedCall}
    (unregistered : ¬feed.Registers cursor call) :
    (feed.next call).lastContact? cursor =
      ((feed.lastContact? cursor).filter fun last => !call.ends config cursor last).map
        fun last => call.contact cursor last := by
  cases call with
  | start now fresh =>
    have kept := lastContact?_evictIdle limit now cursor
    show _ = Option.map id _
    rw [Option.map_id, id_eq]
    by_cases full : feed.maxCursors ≤ (feed.evictIdle now).size
    · rw [next, start_of_full full]
      exact kept
    · rw [Registers, start_of_room full] at unregistered
      have other : cursor ≠ fresh := fun own => unregistered (own ▸ rfl)
      rw [next, start_of_room full, lastContact?, Table.get?_insert_of_ne _ _ other]
      exact kept
  | take now id =>
    show (feed.take now id).2.lastContact? cursor = Option.map _ (Option.filter (fun _ => true) _)
    rw [lastContact?, lastContact?]
    by_cases own : id = cursor
    · subst own
      cases found : feed.cursors.get? id with
      | none =>
        rw [take, found]
        exact congrArg (Option.map _) found
      | some state =>
        rw [take, found]
        show Option.map _ (Table.get? (Table.insert _ _ _) _) = some (if id = id then now else _)
        rw [Table.get?_insert_self, if_pos rfl]
        rfl
    · rw [get?_take_of_ne now (Ne.symm own)]
      cases feed.cursors.get? cursor with
      | none => rfl
      | some state => exact congrArg some (if_neg own).symm
  | stop stopped =>
    show (feed.stop stopped).2.lastContact? cursor =
      Option.map id (Option.filter (fun _ => !decide (stopped = cursor)) _)
    rw [Option.map_id, id_eq, lastContact?, lastContact?]
    by_cases own : stopped = cursor
    · subst own
      cases found : feed.cursors.get? stopped with
      | none =>
        rw [stop, found]
        exact congrArg (Option.map _) found
      | some state =>
        rw [stop, found, decide_eq_true rfl]
        exact congrArg (Option.map _) (Table.get?_erase_self _ _)
    · rw [get?_stop_of_ne (Ne.symm own), decide_eq_false own]
      cases feed.cursors.get? cursor <;> rfl
  | record now tasks =>
    have kept := lastContact?_evictIdle limit now cursor
    show _ = Option.map id _
    rw [Option.map_id, id_eq]
    refine Eq.trans ?_ kept
    rw [next, record, lastContact?, Table.map, Table.get?_filterMap, lastContact?]
    cases (feed.evictIdle now).cursors.get? cursor with
    | none => rfl
    | some state => exact congrArg some (state.lastPolled_pushAll tasks)
  | clear =>
    show none = _
    cases feed.lastContact? cursor <;> rfl

/-! ### The bound -/

/-- A feed has the limits of its configuration and keeps to the number of cursors. -/
structure Within (config : StoreConfig) (feed : Feed) : Prop where
  most : feed.maxCursors = config.maxCursors
  limit : feed.idleTimeout = config.idleTimeout
  size_le : feed.size ≤ config.maxCursors

theorem limits_next (feed : Feed) (call : FeedCall) :
    (feed.next call).maxCursors = feed.maxCursors ∧
      (feed.next call).idleTimeout = feed.idleTimeout := by
  cases call with
  | start now fresh =>
    rw [next, start]
    split <;> exact ⟨rfl, rfl⟩
  | take now cursor =>
    rw [next, take]
    split <;> exact ⟨rfl, rfl⟩
  | stop cursor =>
    rw [next, stop]
    split <;> exact ⟨rfl, rfl⟩
  | record now tasks => exact ⟨rfl, rfl⟩
  | clear => exact ⟨rfl, rfl⟩

theorem size_le_of_known {after : Feed} (known : ∀ cursor state, after.cursors.get? cursor = some state →
    ∃ before, feed.cursors.get? cursor = some before) : after.size ≤ feed.size := by
  have fewer : after.cursors.size ≤ (feed.cursors.entries.map (·.1)).length := by
    refine Table.size_le_length fun cursor state found => ?_
    obtain ⟨before, registered⟩ := known cursor state found
    exact List.mem_map_of_mem (Table.get?_eq_some_iff.1 registered)
  rwa [List.length_map] at fewer

/-- **A call keeps to the number of cursors**: only a registration adds one, where there is room. -/
theorem Within.next (within : feed.Within config) (call : FeedCall) :
    (feed.next call).Within config := by
  obtain ⟨most, limit⟩ := feed.limits_next call
  refine ⟨most.trans within.most, limit.trans within.limit, ?_⟩
  by_cases registration : ∃ cursor, feed.Registers cursor call
  · obtain ⟨cursor, registers⟩ := registration
    obtain ⟨now, rfl, room⟩ := room_of_registers registers
    have fewer : (feed.next (.start now cursor)).cursors.size ≤
        (cursor :: (feed.evictIdle now).cursors.entries.map (·.1)).length := by
      refine Table.size_le_length fun other state found => ?_
      rw [Feed.next, start_of_room room] at found
      by_cases own : other = cursor
      · exact own ▸ List.mem_cons_self
      · rw [Table.get?_insert_of_ne _ _ own] at found
        exact List.mem_cons_of_mem _ (List.mem_map_of_mem (Table.get?_eq_some_iff.1 found))
    rw [List.length_cons, List.length_map] at fewer
    rw [← within.most]
    exact le_trans fewer (Nat.lt_of_not_le room)
  · refine le_trans (size_le_of_known fun cursor state found => ?_) within.size_le
    obtain ⟨before, registered, -⟩ :=
      (slot_next found).exists_before fun registers => registration ⟨cursor, registers⟩
    exact ⟨before, registered⟩

theorem within_after (config : StoreConfig) (calls : List FeedCall) :
    ((ofConfig config).after calls).Within config := by
  induction calls using List.reverseRecOn with
  | nil => exact ⟨rfl, rfl, Nat.zero_le _⟩
  | append_singleton calls call ih =>
    rw [after_append]
    exact ih.next call

/-! ### Registration -/

/-- The number of cursors that are not idle. -/
def remaining (config : StoreConfig) (now : Instant) (feed : Feed) : Nat :=
  feed.cursors.entries.countP fun entry => !config.timedOut now entry.2.lastPolled

theorem size_evictIdle (limit : feed.idleTimeout = config.idleTimeout) (now : Instant) :
    (feed.evictIdle now).size = feed.remaining config now := by
  rw [remaining, List.countP_eq_length_filter, size, evictIdle, isIdle_eq limit]
  rfl

/-- **Registration fails exactly when the table is full** of cursors that are not idle. -/
theorem Within.start (within : feed.Within config) (now : Instant) (fresh : CursorId) :
    (feed.start now fresh).1 =
      if feed.remaining config now = config.maxCursors then .error (.tooManyCursors config.maxCursors)
      else .ok fresh := by
  have fewer : (feed.evictIdle now).size ≤ config.maxCursors :=
    le_trans (List.length_filter_le _ _) within.size_le
  rw [← size_evictIdle within.limit, ← within.most] at *
  by_cases full : feed.maxCursors ≤ (feed.evictIdle now).size
  · rw [start_of_full full, if_pos (le_antisymm fewer full)]
  · rw [start_of_room full, if_neg fun same => full (ge_of_eq same)]

/-! ### Runs -/

theorem noneRegisters_concat_iff {calls : List FeedCall} {call : FeedCall} :
    feed.NoneRegisters cursor (calls ++ [call]) ↔
      feed.NoneRegisters cursor calls ∧ ¬(feed.after calls).Registers cursor call := by
  refine ⟨fun none => ?_, fun both => noneRegisters_concat both.1 both.2⟩
  induction calls generalizing feed with
  | nil => exact ⟨trivial, none.1⟩
  | cons first rest ih => exact ⟨⟨none.1, (ih none.2).1⟩, (ih none.2).2⟩

/-- The last call of a run hands the cursor out, or it was handed out last before that call. -/
theorem LastRegistered.of_concat {calls before since : List FeedCall} {registration call : FeedCall}
    (lastly : feed.LastRegistered cursor (calls ++ [call]) before registration since) :
    since = [] ∧ before = calls ∧ registration = call ∧ (feed.after calls).Registers cursor call ∨
      ∃ earlier, since = earlier ++ [call] ∧
        feed.LastRegistered cursor calls before registration earlier ∧
        ¬(feed.after calls).Registers cursor call := by
  obtain ⟨split, registers, last⟩ := lastly
  rcases List.eq_nil_or_concat since with rfl | ⟨earlier, final, rfl⟩
  · obtain ⟨rfl, same⟩ := List.append_inj' split rfl
    cases same
    exact .inl ⟨rfl, rfl, rfl, registers⟩
  · rw [List.concat_eq_append] at split last
    rw [← List.cons_append, ← List.append_assoc] at split
    obtain ⟨rfl, same⟩ := List.append_inj' split rfl
    cases same
    obtain ⟨none, unregistered⟩ := noneRegisters_concat_iff.1 last
    rw [← after_append, List.append_assoc] at unregistered
    exact .inr ⟨earlier, List.concat_eq_append, ⟨rfl, registers, none⟩, unregistered⟩

/-- A cursor was handed out and no call has ended it since; `last` is the last contact with it. -/
def Alive (config : StoreConfig) (calls : List FeedCall) (cursor : CursorId) (last : Instant) : Prop :=
  ∃ before now since,
    (ofConfig config).LastRegistered cursor calls before (.start now cursor) since ∧
      FeedCall.Spare config cursor now since ∧ FeedCall.contactAfter cursor now since = last

section Alive

variable {calls : List FeedCall} {call : FeedCall} {last : Instant}

theorem alive_concat_of_registers {now : Instant}
    (registers : ((ofConfig config).after calls).Registers cursor (.start now cursor)) :
    Alive config (calls ++ [.start now cursor]) cursor last ↔ now = last := by
  constructor
  · rintro ⟨before, registered, since, lastly, -, rfl⟩
    rcases lastly.of_concat with ⟨rfl, -, same, -⟩ | ⟨earlier, -, -, unregistered⟩
    · cases same
      rfl
    · exact absurd registers unregistered
  · rintro rfl
    refine ⟨calls, now, [], ⟨rfl, registers, trivial⟩, fun front call back split => ?_, rfl⟩
    exact absurd split (List.append_ne_nil_of_right_ne_nil _ (List.cons_ne_nil _ _)).symm

theorem alive_concat (unregistered : ¬((ofConfig config).after calls).Registers cursor call) :
    Alive config (calls ++ [call]) cursor last ↔ ∃ earlier, Alive config calls cursor earlier ∧
      call.ends config cursor earlier = false ∧ call.contact cursor earlier = last := by
  constructor
  · rintro ⟨before, now, since, lastly, spare, rfl⟩
    rcases lastly.of_concat with ⟨-, -, -, registers⟩ | ⟨since, rfl, lastly, -⟩
    · exact absurd registers unregistered
    · obtain ⟨spare, spared⟩ := FeedCall.spare_concat_iff.1 spare
      refine ⟨_, ⟨before, now, since, lastly, spare, rfl⟩, spared, ?_⟩
      rw [FeedCall.contactAfter, FeedCall.contactAfter, List.foldl_append]
      rfl
  · rintro ⟨_, ⟨before, now, since, lastly, spare, rfl⟩, spared, rfl⟩
    refine ⟨before, now, since ++ [call], lastly.concat unregistered,
      FeedCall.spare_concat_iff.2 ⟨spare, spared⟩, ?_⟩
    rw [FeedCall.contactAfter, FeedCall.contactAfter, List.foldl_append]
    rfl

/-- **Registered are the cursors that no call has ended**, each with the last contact with it. -/
theorem lastContact?_after_iff : ((ofConfig config).after calls).lastContact? cursor = some last ↔
    Alive config calls cursor last := by
  induction calls using List.reverseRecOn generalizing last with
  | nil =>
    refine iff_of_false nofun ?_
    rintro ⟨before, now, since, lastly, -⟩
    exact List.append_ne_nil_of_right_ne_nil _ (List.cons_ne_nil _ _) lastly.split.symm
  | append_singleton calls call ih =>
    rw [after_append]
    show (((ofConfig config).after calls).next call).lastContact? cursor = some last ↔ _
    by_cases registers : ((ofConfig config).after calls).Registers cursor call
    · obtain ⟨now, rfl, contact⟩ := lastContact?_of_registers registers
      rw [contact, Option.some_inj, alive_concat_of_registers registers]
    · rw [lastContact?_next (within_after config calls).limit registers, alive_concat registers,
        Option.map_eq_some_iff]
      refine exists_congr fun earlier => ?_
      rw [Option.filter_eq_some_iff, ih, Bool.not_eq_true', and_assoc]

end Alive

/-! ### Who is known -/

/-- A feed answers the calls of a cursor as one that it knows, or as one that it does not. -/
structure Answers (feed : Feed) (cursor : CursorId) (known : Prop) : Prop where
  polled : known → ∀ now, ∃ tasks, (feed.take now cursor).1 = .ok tasks
  stopped : known → (feed.stop cursor).1 = .ok ()
  notPolled : ¬known → ∀ now, (feed.take now cursor).1 = .error (.unknownCursor cursor)
  notStopped : ¬known → (feed.stop cursor).1 = .error (.unknownCursor cursor)

theorem answers_iff {known : Prop} (registered : known ↔ ∃ last, feed.lastContact? cursor = some last) :
    feed.Answers cursor known := by
  rw [registered]
  cases found : feed.cursors.get? cursor with
  | none =>
    have missing : ¬∃ last, feed.lastContact? cursor = some last := by
      rw [lastContact?, found]
      rintro ⟨_, ⟨⟩⟩
    refine ⟨fun known => absurd known missing, fun known => absurd known missing, fun _ now => ?_,
      fun _ => ?_⟩
    · rw [take, found]
    · rw [stop, found]
  | some state =>
    have there : ∃ last, feed.lastContact? cursor = some last :=
      ⟨state.lastPolled, by rw [lastContact?, found, Option.map_some]⟩
    refine ⟨fun _ now => ⟨state.delivery, take_of_registered found now⟩, fun _ => ?_,
      fun unknown => absurd there unknown, fun unknown => absurd there unknown⟩
    rw [stop, found]

/-- What holds of a feed after calls, whatever times they were made at. -/
structure Keeps (config : StoreConfig) (calls : List FeedCall) (feed : Feed) : Prop where
  /-- There are never more cursors than allowed. -/
  bounded : feed.size ≤ config.maxCursors
  /-- A registration fails exactly when that many are left without the idle ones. -/
  admits : ∀ now fresh, (feed.start now fresh).1 =
    if feed.remaining config now = config.maxCursors then .error (.tooManyCursors config.maxCursors)
    else .ok fresh
  /-- The cursors are those that no call has ended, each with the last contact with it. -/
  contacts : ∀ cursor last, feed.lastContact? cursor = some last ↔ Alive config calls cursor last
  /-- They, and no others, can be polled and stopped. -/
  known : ∀ cursor, feed.Answers cursor (∃ last, Alive config calls cursor last)
  /-- A poll ends no cursor. -/
  polls : ∀ now polled cursor,
    ((feed.take now polled).2.lastContact? cursor).isSome = (feed.lastContact? cursor).isSome

/-- **The cursors are bounded in number, and the idle ones go, exactly.** -/
theorem keeps_after (config : StoreConfig) (calls : List FeedCall) :
    Keeps config calls ((ofConfig config).after calls) where
  bounded := (within_after config calls).size_le
  admits := (within_after config calls).start
  contacts _ _ := lastContact?_after_iff
  known _ := answers_iff (exists_congr fun _ => lastContact?_after_iff.symm)
  polls now polled cursor := by
    have unregistered : ¬((ofConfig config).after calls).Registers cursor (.take now polled) := not_false
    rw [← next, lastContact?_next (within_after config calls).limit unregistered, Option.isSome_map]
    cases ((ofConfig config).after calls).lastContact? cursor <;> rfl

end Feed

end TaskLedger
