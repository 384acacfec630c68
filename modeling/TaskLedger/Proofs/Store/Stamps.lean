/-
**The order of stamps.** How the stamps of a run follow one another, whatever the clock shows.

* `Commit.Follows` — the stamp of a commit is the next one after that of the commit before it.
* `Memory.Stamped` — the invariant: an open store remembers the stamp of the last commit, the commits
  follow one another, and no stamp is earlier than the clock of its call.
* `Stamped.pairwise_iff` — the stamps increase unless a commit comes after one at the end of the range
  and the clock of that commit shows no later time.
-/
import TaskLedger.Proofs.Store.Run
import Mathlib.Data.List.Chain

namespace TaskLedger

open Time (Instant)

/-- A commit comes right after another. -/
def Commit.Follows (commit later : Commit) : Prop :=
  later.stamp = nextStamp (some commit.stamp) later.now

namespace Memory

/-- How a store keeps its stamps. -/
structure Stamped (past : List Commit) (store : Memory) : Prop where
  last : store.closed = false → store.lastStamp = past.getLast?.map (·.stamp)
  follows : past.IsChain Commit.Follows
  noEarlier : ∀ commit ∈ past, commit.now ≤ commit.stamp

theorem stamped_ofConfig (config : StoreConfig) : Stamped [] (ofConfig config) :=
  ⟨fun _ => rfl, .nil, fun _ member => absurd member List.not_mem_nil⟩

theorem Stamped.commit {past : List Commit} {store : Memory} (stamped : Stamped past store)
    {call : Ambient} {batch : List Task} (taken : store.refusal? call batch = none) :
    Stamped (past ++ [store.commitOf call batch])
      (store.commit call (store.written call batch)) := by
  refine ⟨fun _ => ?_, ?_, ?_⟩
  · rw [List.getLast?_concat]
    rfl
  · refine List.isChain_append.2 ⟨stamped.follows, .singleton _, ?_⟩
    rintro earlier isLast _ ⟨⟩
    show nextStamp store.lastStamp call.now = nextStamp (some earlier.stamp) call.now
    rw [stamped.last (isOpen_of_taken taken), Option.mem_def.1 isLast, Option.map_some]
  · intro commit member
    rcases List.mem_append.1 member with earlier | new
    · exact stamped.noEarlier commit earlier
    · rw [List.mem_singleton.1 new]
      exact le_nextStamp store.lastStamp call.now

/-- A step keeps the stamps in order. -/
theorem stamped_step {past commits : List Commit} {store next : Memory}
    (stamped : Stamped past store) (step : Step store commits next) :
    Stamped (past ++ commits) next := by
  cases step with
  | feed feed =>
    rw [List.append_nil]
    exact ⟨stamped.last, stamped.follows, stamped.noEarlier⟩
  | close isOpen =>
    rw [List.append_nil]
    refine ⟨fun stillOpen => ?_, stamped.follows, stamped.noEarlier⟩
    rw [closed_close] at stillOpen
    cases stillOpen
  | write call batch taken => exact stamped.commit taken

theorem stamped_run {past : List Commit} {store : Memory} (stamped : Stamped past store)
    (events : List Event) : Stamped (past ++ store.history events) (store.after events) :=
  run_induction (fun _ _ _ _ => stamped_step) stamped events

theorem stamped_after (config : StoreConfig) (events : List Event) :
    Stamped ((ofConfig config).history events) ((ofConfig config).after events) :=
  stamped_run (stamped_ofConfig config) events

section Order

variable {past : List Commit} {store : Memory}

/-- **The stamps of a run increase** exactly when no commit finds the range exhausted. -/
theorem Stamped.pairwise_iff (stamped : Stamped past store) :
    past.Pairwise (fun earlier later => earlier.stamp < later.stamp) ↔
      past.IsChain fun earlier later => ¬earlier.stamp.IsLast ∨ earlier.stamp < later.now := by
  have transitive : IsTrans Commit fun earlier later => earlier.stamp < later.stamp :=
    ⟨fun _ _ _ first second => lt_trans first second⟩
  -- Increasing is a matter of neighbours, and there `lt_nextStamp_iff` decides.
  rw [← List.isChain_iff_pairwise, List.isChain_iff_getElem, List.isChain_iff_getElem]
  refine forall₂_congr fun place inside => ?_
  have follows : (past[place]).Follows past[place + 1] :=
    List.isChain_iff_getElem.1 stamped.follows place inside
  rw [Commit.Follows] at follows
  rw [follows]
  exact lt_nextStamp_iff

end Order

/-- **Stamps increase whatever the clock does**, until the range of instants is exhausted: a stamp is
never earlier than the clock of its call, and the stamps of a run increase exactly when each commit
leaves an instant for the next one, or the clock has moved past it. -/
theorem history_stamps_increase_iff (config : StoreConfig) (events : List Event) :
    (∀ commit ∈ (ofConfig config).history events, commit.now ≤ commit.stamp) ∧
    (((ofConfig config).history events).Pairwise
        (fun earlier later => earlier.stamp < later.stamp) ↔
      ((ofConfig config).history events).IsChain fun earlier later =>
        ¬earlier.stamp.IsLast ∨ earlier.stamp < later.now) ∧
    ∀ last now, last < nextStamp (some last) now ↔ ¬last.IsLast ∨ last < now := by
  have stamped := stamped_run (stamped_ofConfig config) events
  rw [List.nil_append] at stamped
  exact ⟨stamped.noEarlier, stamped.pairwise_iff, fun _ _ => lt_nextStamp_iff⟩

/-- The second of two writes gets an earlier stamp: the first one got the last instant, and then the
clock runs back. -/
theorem history_stamps_decrease_at_last :
    nextStamp (some .last) .epoch = .epoch ∧
    ((ofConfig .standard).history
        [.putAt .last [writeOf ⟨"a"⟩ none], .putAt .epoch [writeOf ⟨"b"⟩ none]]).map (·.stamp) =
      [.last, .epoch] ∧
    ¬Instant.last < .epoch := by
  decide

end Memory

end TaskLedger
