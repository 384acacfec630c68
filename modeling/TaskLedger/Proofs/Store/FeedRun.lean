/-
**The feed of a store.** What the calls of a store's clients are to its feed.

* `Memory.feedCall?`, `Memory.feedCalls` — the call of the feed that a call of the store makes, if any.
* `feed_after` — the feed after a run is the feed after these calls.
* `Memory.Registers`, `Memory.answers` — the registrations of a cursor and the answers to its polls, as its
  client sees them; they are those of the feed.
* `noted_feedCalls` — what the feed records are the versions that the run commits.
* `exists_split_of_feedCalls` — a split of the feed's calls is one of the run.
-/
import TaskLedger.Proofs.Feed.Run
import TaskLedger.Proofs.Store.Lineage

namespace TaskLedger

open Time (Instant)

/-- A request polls the cursor. -/
def Call.polls {α : Type} (cursor : CursorId) : Call α → Bool
  | .poll id => id = cursor
  | _ => false

def Event.polls (cursor : CursorId) (event : Event) : Bool :=
  event.request.polls cursor

/-- The calls up to the last poll of a cursor. -/
def throughLastPoll (cursor : CursorId) (events : List Event) : List Event :=
  events.rdropWhile fun event => !event.polls cursor

/-- The calls since the last poll of a cursor. -/
def sinceLastPoll (cursor : CursorId) (events : List Event) : List Event :=
  events.rtakeWhile fun event => !event.polls cursor

section LastPoll

variable {cursor : CursorId} {event : Event}

theorem throughLastPoll_append_sinceLastPoll (cursor : CursorId) (events : List Event) :
    throughLastPoll cursor events ++ sinceLastPoll cursor events = events :=
  List.rdropWhile_append_rtakeWhile

theorem sinceLastPoll_of_polls (polls : event.polls cursor = true) (events : List Event) :
    sinceLastPoll cursor (events ++ [event]) = [] :=
  List.rtakeWhile_concat_neg _ _ _ (by rw [polls]; exact Bool.false_ne_true)

theorem sinceLastPoll_of_not_polls (other : event.polls cursor = false) (events : List Event) :
    sinceLastPoll cursor (events ++ [event]) = sinceLastPoll cursor events ++ [event] :=
  List.rtakeWhile_concat_pos _ _ _ (by rw [other]; rfl)

theorem throughLastPoll_of_not_polls (other : event.polls cursor = false) (events : List Event) :
    throughLastPoll cursor (events ++ [event]) = throughLastPoll cursor events :=
  List.rdropWhile_concat_pos _ _ _ (by rw [other]; rfl)

end LastPoll

namespace Memory

/-- The call of the feed that a request makes; a closed store makes none. -/
def feedCall? {α : Type} (store : Memory) (call : Ambient) : Call α → Option FeedCall
  | .put batch =>
    match (store.put call batch).1 with
    | .ok written => some (.record call.now written)
    | .error _ => none
  | .track => if store.closed then none else some (.start call.now (.ofRandom (call.random 0)))
  | .poll cursor => if store.closed then none else some (.take call.now cursor)
  | .untrack cursor => if store.closed then none else some (.stop cursor)
  | .close => if store.closed then none else some .clear
  | _ => none

/-- The calls of the feed that calls make. -/
def feedCalls (store : Memory) : List Event → List FeedCall
  | [] => []
  | event :: rest =>
    (store.feedCall? event.ambient event.request).toList ++ (store.next event).feedCalls rest

/-- What a request answers to a poll of the cursor. -/
def answered {α : Type} (store : Memory) (call : Ambient) (cursor : CursorId) :
    Call α → List (List Task)
  | .poll id => if id = cursor then (store.perform call (.poll id)).1.toOption.toList else []
  | _ => []

/-- The answers to the polls of a cursor. -/
def answers (store : Memory) (cursor : CursorId) : List Event → List (List Task)
  | [] => []
  | event :: rest =>
    store.answered event.ambient cursor event.request ++ (store.next event).answers cursor rest

/-- A request hands out the cursor. -/
def HandsOut {α : Type} (store : Memory) (call : Ambient) (cursor : CursorId) : Call α → Prop
  | .track => (store.perform call .track).1 = .ok cursor
  | _ => False

/-- A call registers the cursor. -/
def Registers (store : Memory) (cursor : CursorId) (event : Event) : Prop :=
  store.HandsOut event.ambient cursor event.request

/-- No call registers the cursor. -/
def NoneRegisters (store : Memory) (cursor : CursorId) : List Event → Prop
  | [] => True
  | event :: rest => ¬store.Registers cursor event ∧ (store.next event).NoneRegisters cursor rest

/-! ### One call -/

section OneCall

variable {α : Type} {store : Memory} {call : Ambient}

theorem withFeed_of_open (isOpen : store.closed = false)
    (action : Feed → Except StoreError α × Feed) :
    store.withFeed action = ((action store.feed).1, { store with feed := (action store.feed).2 }) := by
  rw [withFeed, isOpen, if_neg Bool.false_ne_true]

theorem withFeed_of_closed (closed : store.closed = true)
    (action : Feed → Except StoreError α × Feed) :
    store.withFeed action = (.error .closed, store) := by
  rw [withFeed, if_pos closed]

theorem feedCall?_of_taken {batch : List Task} (taken : store.refusal? call batch = none) :
    store.feedCall? call (.put batch) =
      some (.record call.now ((store.written call batch).map (·.2))) := by
  rw [feedCall?, put_of_taken taken]

theorem feedCall?_of_refused {batch : List Task} {error : StoreError}
    (refused : store.refusal? call batch = some error) :
    store.feedCall? call (.put batch) = none := by
  rw [feedCall?, put_of_refused refused]

theorem feed_withFeed (store : Memory) (action : Feed → Except StoreError α × Feed) :
    (store.withFeed action).2.feed = if store.closed then store.feed else (action store.feed).2 := by
  cases closed : store.closed with
  | true => rw [withFeed_of_closed closed, if_pos rfl]
  | false => rw [withFeed_of_open closed, if_neg Bool.false_ne_true]

theorem answer_withFeed (store : Memory) (action : Feed → Except StoreError α × Feed) :
    (store.withFeed action).1 = if store.closed then .error .closed else (action store.feed).1 := by
  cases closed : store.closed with
  | true => rw [withFeed_of_closed closed, if_pos rfl]
  | false => rw [withFeed_of_open closed, if_neg Bool.false_ne_true]

/-- **The feed makes the calls of the store.** -/
theorem feed_next (store : Memory) (event : Event) :
    (store.next event).feed =
      store.feed.after (store.feedCall? event.ambient event.request).toList := by
  obtain ⟨call, request⟩ := event
  cases request with
  | assignId task | get id | range first last => rfl
  | put batch =>
    show (store.put call batch).2.feed = _
    cases refused : store.refusal? call batch with
    | none =>
      rw [put_of_taken refused, feedCall?_of_taken refused]
      exact feed_commit store call _
    | some error =>
      rw [put_of_refused refused, feedCall?_of_refused refused]
      rfl
  | track | poll cursor | untrack cursor =>
    show (store.withFeed _).2.feed = _
    rw [feed_withFeed, feedCall?]
    split <;> rfl
  | close =>
    show store.close.2.feed = _
    rw [close, feedCall?]
    split <;> rfl

/-- The store answers a poll as its feed does. -/
theorem answered_eq (store : Memory) (call : Ambient) (cursor : CursorId) (request : Call α) :
    store.answered call cursor request =
      (store.feedCall? call request).toList.flatMap (store.feed.answered cursor) := by
  cases request with
  | assignId task | get id | range first last => rfl
  | put batch =>
    cases refused : store.refusal? call batch with
    | none =>
      rw [feedCall?_of_taken refused]
      rfl
    | some error =>
      rw [feedCall?_of_refused refused]
      rfl
  | poll id =>
    show (if id = cursor then (store.withFeed _).1.toOption.toList else []) = _
    rw [answer_withFeed, feedCall?]
    by_cases closed : store.closed = true
    · rw [if_pos closed, if_pos closed]
      exact ite_self []
    · rw [if_neg closed, if_neg closed]
      exact (List.append_nil _).symm
  | track | untrack cursor | close =>
    rw [feedCall?]
    split <;> rfl

/-- The store hands out a cursor when its feed does. -/
theorem handsOut_iff (store : Memory) (call : Ambient) (cursor : CursorId) (request : Call α) :
    store.HandsOut call cursor request ↔
      ∃ feedCall ∈ store.feedCall? call request, store.feed.Registers cursor feedCall := by
  cases request with
  | assignId task | get id | range first last =>
    exact iff_of_false not_false (by rintro ⟨_, ⟨⟩, _⟩)
  | put batch =>
    refine iff_of_false not_false ?_
    cases refused : store.refusal? call batch with
    | none =>
      rw [feedCall?_of_taken refused]
      rintro ⟨_, ⟨⟩, handed⟩
      exact handed
    | some error =>
      rw [feedCall?_of_refused refused]
      rintro ⟨_, ⟨⟩, _⟩
  | track =>
    show (store.withFeed _).1 = .ok cursor ↔ _
    rw [answer_withFeed, feedCall?]
    split
    · exact iff_of_false nofun (by rintro ⟨_, ⟨⟩, _⟩)
    · exact ⟨fun handed => ⟨_, rfl, handed⟩, by rintro ⟨_, ⟨⟩, handed⟩; exact handed⟩
  | poll cursor | untrack cursor | close =>
    refine iff_of_false not_false ?_
    rw [feedCall?]
    split
    · rintro ⟨_, ⟨⟩, _⟩
    · rintro ⟨_, ⟨⟩, handed⟩
      exact handed

/-- **What a call is to a cursor**: a poll, or a record of what it commits. -/
theorem steps_feedCall? (store : Memory) (cursor : CursorId) (event : Event) :
    FeedCall.steps cursor (store.feedCall? event.ambient event.request).toList =
      if store.closed = false ∧ event.polls cursor = true then [.poll event.ambient.now]
      else (store.commits event.ambient event.request).map fun commit =>
        .note (commit.versions.map (·.task)) := by
  obtain ⟨call, request⟩ := event
  cases request with
  | assignId task | get id | range first last =>
    exact (if_neg fun both => Bool.false_ne_true both.2).symm
  | put batch =>
    rw [if_neg fun both => Bool.false_ne_true both.2]
    cases refused : store.refusal? call batch with
    | none =>
      rw [feedCall?_of_taken refused, commits_of_taken refused, written_eq_versions, List.map_map]
      rfl
    | some error =>
      rw [feedCall?_of_refused refused, commits_of_refused refused]
      rfl
  | poll id =>
    rw [feedCall?]
    cases store.closed with
    | true => exact (if_neg fun both => Bool.false_ne_true both.1.symm).symm
    | false =>
      by_cases own : id = cursor
      · have step : FeedCall.step? cursor (.take call.now id) = some (.poll call.now) := if_pos own
        rw [if_neg Bool.false_ne_true, if_pos ⟨rfl, decide_eq_true own⟩, Option.toList_some,
          FeedCall.steps, List.filterMap_cons_some step]
        rfl
      · have step : FeedCall.step? cursor (.take call.now id) = none := if_neg own
        rw [if_neg Bool.false_ne_true, if_neg fun polls => own (of_decide_eq_true polls.2),
          Option.toList_some, FeedCall.steps, List.filterMap_cons_none step]
        rfl
  | track | untrack cursor | close =>
    rw [if_neg fun both => Bool.false_ne_true both.2, feedCall?]
    split <;> rfl

theorem commits_of_polls {event : Event} {cursor : CursorId} (polls : event.polls cursor = true) :
    store.commits event.ambient event.request = [] := by
  obtain ⟨call, request⟩ := event
  cases request with
  | put batch => cases polls
  | assignId task | get id | range first last | track | poll cursor | untrack cursor | close => rfl

theorem commits_of_registers {event : Event} {cursor : CursorId}
    (registers : store.Registers cursor event) :
    store.commits event.ambient event.request = [] := by
  obtain ⟨call, request⟩ := event
  cases request with
  | put batch => cases registers
  | assignId task | get id | range first last | track | poll cursor | untrack cursor | close => rfl

end OneCall

/-! ### A run -/

theorem feedCalls_concat (store : Memory) (events : List Event) (event : Event) :
    store.feedCalls (events ++ [event]) =
      store.feedCalls events ++
        ((store.after events).feedCall? event.ambient event.request).toList := by
  induction events generalizing store with
  | nil => exact List.append_nil _
  | cons first rest ih => rw [List.cons_append, feedCalls, ih, feedCalls, List.append_assoc, after]

/-- **The feed after a run.** -/
theorem feed_after (store : Memory) (events : List Event) :
    (store.after events).feed = store.feed.after (store.feedCalls events) := by
  induction events generalizing store with
  | nil => rfl
  | cons event rest ih => rw [after, ih, feed_next, feedCalls, Feed.after_append]

theorem answers_eq (store : Memory) (cursor : CursorId) (events : List Event) :
    store.answers cursor events = store.feed.answers cursor (store.feedCalls events) := by
  induction events generalizing store with
  | nil => rfl
  | cons event rest ih =>
    rw [answers, ih, answered_eq, feed_next, feedCalls]
    cases store.feedCall? event.ambient event.request with
    | none => rfl
    | some call =>
      rw [Option.toList_some, List.flatMap_singleton]
      rfl

theorem noneRegisters_iff (store : Memory) (cursor : CursorId) (events : List Event) :
    store.NoneRegisters cursor events ↔
      store.feed.NoneRegisters cursor (store.feedCalls events) := by
  induction events generalizing store with
  | nil => exact Iff.rfl
  | cons event rest ih =>
    rw [NoneRegisters, ih, Registers, handsOut_iff, feed_next, feedCalls]
    cases store.feedCall? event.ambient event.request with
    | none => simp [Feed.after]
    | some call => simp [Feed.after, Feed.NoneRegisters]

theorem noted_map_note (commits : List Commit) :
    CursorStep.noted (commits.map fun commit => .note (commit.versions.map (·.task))) =
      (versions commits).map (·.task) := by
  rw [CursorStep.noted, List.flatMap_map, versions, List.map_flatMap]
  rfl

theorem steps_feedCalls_concat (store : Memory) (cursor : CursorId) (events : List Event)
    (event : Event) :
    FeedCall.steps cursor (store.feedCalls (events ++ [event])) =
      FeedCall.steps cursor (store.feedCalls events) ++
        FeedCall.steps cursor
          ((store.after events).feedCall? event.ambient event.request).toList := by
  rw [feedCalls_concat, FeedCall.steps, List.filterMap_append, FeedCall.steps, FeedCall.steps]

theorem history_concat (store : Memory) (events : List Event) (event : Event) :
    store.history (events ++ [event]) =
      store.history events ++ (store.after events).commits event.ambient event.request := by
  rw [history_append, history, history, List.append_nil]

/-- **The feed records what the run commits.** -/
theorem noted_feedCalls (store : Memory) (cursor : CursorId) (events : List Event) :
    CursorStep.noted (FeedCall.steps cursor (store.feedCalls events)) =
      (versions (store.history events)).map (·.task) := by
  induction events using List.reverseRecOn with
  | nil => rfl
  | append_singleton events event ih =>
    rw [steps_feedCalls_concat, CursorStep.noted_append, ih, history_concat, versions_append,
      List.map_append, steps_feedCall?]
    split
    · rename_i polled
      rw [commits_of_polls polled.2]
      rfl
    · rw [noted_map_note]

/-- Of an open store every poll reaches the feed. -/
theorem countP_isPoll {store : Memory} {events : List Event} (cursor : CursorId)
    (isOpen : (store.after events).closed = false) :
    (FeedCall.steps cursor (store.feedCalls events)).countP CursorStep.isPoll =
      events.countP (Event.polls cursor) := by
  induction events using List.reverseRecOn with
  | nil => rfl
  | append_singleton events event ih =>
    have wasOpen := isOpen_of_append isOpen
    rw [steps_feedCalls_concat, List.countP_append, ih wasOpen, List.countP_append, steps_feedCall?,
      List.countP_singleton]
    cases polls : event.polls cursor with
    | true =>
      rw [if_pos ⟨wasOpen, rfl⟩, List.countP_singleton]
      rfl
    | false =>
      rw [if_neg fun both => Bool.false_ne_true both.2, List.countP_map]
      exact congrArg _ (List.countP_eq_zero.2 fun _ _ => Bool.false_ne_true)

theorem history_append_since (store : Memory) (cursor : CursorId) (events : List Event) :
    store.history (throughLastPoll cursor events) ++
        (store.after (throughLastPoll cursor events)).history (sinceLastPoll cursor events) =
      store.history events := by
  rw [← history_append, throughLastPoll_append_sinceLastPoll]

/-- What the feed recorded since the last poll is what was committed since. -/
theorem fresh_feedCalls {store : Memory} {events : List Event} (cursor : CursorId)
    (isOpen : (store.after events).closed = false) :
    CursorStep.fresh (FeedCall.steps cursor (store.feedCalls events)) =
      (versions ((store.after (throughLastPoll cursor events)).history
        (sinceLastPoll cursor events))).map (·.task) := by
  induction events using List.reverseRecOn with
  | nil => rfl
  | append_singleton events event ih =>
    have wasOpen := isOpen_of_append isOpen
    rw [steps_feedCalls_concat, steps_feedCall?]
    -- A poll leaves nothing fresh; any other call adds what it commits.
    cases polls : event.polls cursor with
    | true =>
      rw [if_pos ⟨wasOpen, rfl⟩, CursorStep.fresh_poll, sinceLastPoll_of_polls polls]
      rfl
    | false =>
      have quiet : ∀ step ∈ ((store.after events).commits event.ambient event.request).map
          (fun commit => CursorStep.note (commit.versions.map (·.task))), step.isPoll = false :=
        List.forall_mem_map.2 fun _ _ => rfl
      rw [if_neg fun both => Bool.false_ne_true both.2, CursorStep.fresh_append_of_quiet _ quiet,
        ih wasOpen, noted_map_note, sinceLastPoll_of_not_polls polls,
        throughLastPoll_of_not_polls polls, history_concat, versions_append, List.map_append,
        ← after_append, throughLastPoll_append_sinceLastPoll]

/-- What it recorded up to the last poll is what was committed up to it. -/
theorem seen_feedCalls {store : Memory} {events : List Event} (cursor : CursorId)
    (isOpen : (store.after events).closed = false) :
    CursorStep.seen (FeedCall.steps cursor (store.feedCalls events)) =
      (versions (store.history (throughLastPoll cursor events))).map (·.task) := by
  have all := CursorStep.seen_append_fresh (FeedCall.steps cursor (store.feedCalls events))
  rw [fresh_feedCalls cursor isOpen, noted_feedCalls, ← history_append_since store cursor events,
    versions_append, List.map_append] at all
  exact List.append_cancel_right all

/-- A split of the feed's calls is one of the run. -/
theorem exists_split_of_feedCalls {store : Memory} {events : List Event} {before since : List FeedCall}
    {call : FeedCall} (split : store.feedCalls events = before ++ call :: since) :
    ∃ earlier event later, events = earlier ++ event :: later ∧ store.feedCalls earlier = before ∧
      (store.after earlier).feedCall? event.ambient event.request = some call ∧
      (store.after (earlier ++ [event])).feedCalls later = since := by
  -- A call of the store makes one call of the feed at most, so no two of them share one.
  induction events generalizing store before with
  | nil => cases before <;> cases split
  | cons event rest ih =>
    rw [feedCalls] at split
    cases made : store.feedCall? event.ambient event.request with
    | none =>
      rw [made] at split
      obtain ⟨earlier, chosen, later, rfl, calls, makes, remaining⟩ := ih split
      refine ⟨event :: earlier, chosen, later, rfl, ?_, makes, remaining⟩
      rw [feedCalls, made, calls]
      rfl
    | some own =>
      rw [made] at split
      cases before with
      | nil =>
        cases split
        exact ⟨[], event, rest, rfl, rfl, made, rfl⟩
      | cons head tail =>
        obtain ⟨rfl, others⟩ := List.cons.inj split
        obtain ⟨earlier, chosen, later, rfl, calls, makes, remaining⟩ := ih others
        refine ⟨event :: earlier, chosen, later, rfl, ?_, makes, remaining⟩
        rw [feedCalls, made, calls]
        rfl

end Memory

end TaskLedger
