/-
**The parts of a store agree.** A store in memory keeps its tasks, the places of the tasks in the order of
creation, that order itself, two counters and the cursors of its feed. A write changes several of them for
each task of its batch, and closing lets go of most; after every run they agree.

* `Memory.Fit` — every version that was written was fit to be written.
* `Memory.Released` — a store has let go of everything it held; `Step.released` says that only closing does
  that, and `after_of_closed` that nothing comes back.
* `Indexed.places_perm`, `Indexed.order_perm`, `Indexed.exists_dated` — the places and the order against the
  stored tasks.
* `Memory.Coherent` — all parts agree with each other and with what was committed.
* `sequence_after` — a task keeps its number while the store is open.
* `coherent_after` — the theorem.
-/
import TaskLedger.Proofs.Store.Range
import TaskLedger.Proofs.Store.Stamps

namespace TaskLedger

open Time (Instant)

namespace Memory

variable {past commits : List Commit} {store next : Memory}

/-! ### What was fit to be written -/

/-- Every version that commits wrote is fit to be written. -/
def Fit (past : List Commit) : Prop :=
  ∀ version ∈ versions past, version.task.validate = .ok ()

theorem fit_step (fit : Fit past) (step : Step store commits next) : Fit (past ++ commits) := by
  cases step with
  | feed feed =>
    rw [List.append_nil]
    exact fit
  | close isOpen =>
    rw [List.append_nil]
    exact fit
  | write call batch taken =>
    intro version member
    rw [versions_concat] at member
    rcases List.mem_append.1 member with earlier | new
    · exact fit version earlier
    · have stored : (version.id, version.task) ∈ store.written call batch := by
        rw [written_eq_versions]
        exact List.mem_map_of_mem new
      exact validate_of_mem_written taken stored

theorem fit_after (config : StoreConfig) (events : List Event) :
    Fit ((ofConfig config).history events) := by
  have initial : Fit [] := fun _ member => absurd member List.not_mem_nil
  exact @run_induction (fun past _ => Fit past) (fun _ _ _ _ => fit_step) [] (ofConfig config) initial
    events

/-! ### Closed stores -/

/-- The store has let go of everything it held. -/
structure Released (store : Memory) : Prop where
  tasks : store.tasks = ∅
  order : store.order = ∅
  places : store.places = ∅
  next : store.nextSequence = 0
  last : store.lastStamp = none
  cursors : store.feed.cursors = ∅

theorem released_close (isOpen : store.closed = false) : Released store.close.2 := by
  unfold close
  rw [isOpen]
  exact ⟨rfl, rfl, rfl, rfl, rfl, rfl⟩

/-- **Only closing closes a store**, and then it lets go of everything. -/
theorem Step.released (step : Step store commits next) (isOpen : store.closed = false)
    (closed : next.closed = true) : Released next := by
  cases step with
  | feed feed => cases isOpen.symm.trans closed
  | close isOpen => exact released_close isOpen
  | write call batch taken =>
    rw [closed_commit] at closed
    cases isOpen.symm.trans closed

/-- **Nothing comes back**: every call leaves a closed store as it is. -/
theorem after_of_closed (closed : store.closed = true) (events : List Event) :
    store.after events = store := by
  induction events with
  | nil => rfl
  | cons event rest ih =>
    have same : store.next event = store :=
      congrArg Prod.snd (perform_of_closed closed event.ambient event.request)
    rw [after, same, ih]

theorem released_after (config : StoreConfig) (events : List Event)
    (closed : ((ofConfig config).after events).closed = true) :
    Released ((ofConfig config).after events) := by
  induction events using List.reverseRecOn with
  | nil => cases closed
  | append_singleton events event ih =>
    rw [after_append] at closed ⊢
    cases before : ((ofConfig config).after events).closed with
    | true =>
      rw [after_of_closed before]
      exact ih before
    | false => exact (step_next _ event).released before closed

/-! ### The order of creation -/

namespace Indexed

variable {ids : List TaskId} {id : TaskId} {key : IndexKey} {task : Task}

/-- What has arrived is what is stored. -/
theorem keys_perm (indexed : Indexed ids store) : ids.Perm store.tasks.keys := by
  refine (List.perm_ext_iff_of_nodup indexed.distinct store.tasks.nodup_keys).2 fun id => ?_
  rw [indexed.stored]
  exact Table.mem_keys_iff.symm

theorem order_perm (indexed : Indexed ids store) : store.order.values.Perm store.tasks.keys :=
  indexed.values_perm.trans indexed.keys_perm

theorem places_perm (indexed : Indexed ids store) : store.places.keys.Perm store.tasks.keys := by
  refine List.Perm.trans ?_ indexed.keys_perm
  refine (List.perm_ext_iff_of_nodup store.places.nodup_keys indexed.distinct).2 fun id => ?_
  rw [← Table.keys, Table.mem_keys_iff, Option.isSome_iff_exists]
  constructor
  · rintro ⟨key, placed⟩
    exact List.mem_of_getElem? ((indexed.placed key id).1 placed).1
  · intro listed
    obtain ⟨key, placed, -⟩ := indexed.exists_place listed
    exact ⟨key, placed⟩

/-- A stored task has a place at its creation time. -/
theorem exists_dated (indexed : Indexed ids store) (stored : store.tasks.get? id = some task) :
    ∃ key, store.places.get? id = some key ∧ task.created = some key.created := by
  have listed : id ∈ ids := (indexed.stored id).2 (by rw [stored]; rfl)
  obtain ⟨key, placed, -, dated⟩ := indexed.exists_place listed
  unfold createdOf? at dated
  rw [stored, Option.bind_some] at dated
  exact ⟨key, placed, dated⟩

/-- The rank of a task is all there is to its number. -/
theorem sequence_eq (indexed : Indexed ids store) {rank : Nat} (ranked : ids[rank]? = some id)
    (placed : store.places.get? id = some key) : key.sequence = rank := by
  have again := ((indexed.placed key id).1 placed).1
  obtain ⟨inside, -⟩ := List.getElem?_eq_some_iff.1 again
  exact (List.getElem?_inj inside indexed.distinct).1 (again.trans ranked.symm)

end Indexed

/-- **A task keeps its number** while the store is open, wherever it moves. -/
theorem sequence_after (config : StoreConfig) (events more : List Event)
    (isOpen : ((ofConfig config).after (events ++ more)).closed = false) {id : TaskId} {key : IndexKey}
    (placed : ((ofConfig config).after events).places.get? id = some key) :
    ∃ later, ((ofConfig config).after (events ++ more)).places.get? id = some later ∧
      later.sequence = key.sequence := by
  have ranked := ((indexed_after config events (isOpen_of_append isOpen)).placed key id).1 placed |>.1
  obtain ⟨rest, indexed⟩ := exists_indexed_append config events more isOpen
  obtain ⟨inside, -⟩ := List.getElem?_eq_some_iff.1 ranked
  have still : (arrivals ((ofConfig config).history events) ++ rest)[key.sequence]? = some id := by
    rw [List.getElem?_append_left inside]
    exact ranked
  obtain ⟨later, placedLater, -⟩ := indexed.exists_place (List.mem_of_getElem? still)
  exact ⟨later, placedLater, indexed.sequence_eq still placedLater⟩

/-! ### The parts together -/

/-- The parts of a store agree with each other and with what was committed. -/
structure Coherent (past : List Commit) (store : Memory) : Prop where
  placed : store.places.keys.Perm store.tasks.keys
  ordered : store.order.values.Perm store.tasks.keys
  inverse : ∀ key id, store.order.get? key = some id ↔ store.places.get? id = some key
  dated : ∀ id task, store.tasks.get? id = some task →
    ∃ key, store.places.get? id = some key ∧ task.created = some key.created
  /-- The number of a task is its rank among those that have ever been written. -/
  ranked : ∀ id key, store.places.get? id = some key → (arrivals past)[key.sequence]? = some id
  distinct : ∀ id id' key key', store.places.get? id = some key → store.places.get? id' = some key' →
    key.sequence = key'.sequence → id = id'
  below : ∀ id key, store.places.get? id = some key → key.sequence < store.nextSequence
  counted : store.nextSequence ≤ (arrivals past).length
  named : ∀ id task, store.tasks.get? id = some task → task.id = some id
  valid : ∀ id task, store.tasks.get? id = some task → task.validate = .ok ()
  /-- No stored stamp is later than the last one, unless stamps have come to the end of the range. -/
  stamped : (∀ commit ∈ past, ¬commit.stamp.IsLast) → ∀ id task, store.tasks.get? id = some task →
    ∃ stamp last, task.stamp = some stamp ∧ store.lastStamp = some last ∧ stamp ≤ last
  released : store.closed = true → Released store

/-- In an open store the stamp of a stored task is not later than the last one. -/
theorem exists_stamps (tracked : Tracked past store) (stamped : Stamped past store)
    (isOpen : store.closed = false) (unending : ∀ commit ∈ past, ¬commit.stamp.IsLast) {id : TaskId}
    {task : Task} (stored : store.tasks.get? id = some task) :
    ∃ stamp last, task.stamp = some stamp ∧ store.lastStamp = some last ∧ stamp ≤ last := by
  obtain ⟨version, member, rfl, -⟩ := tracked.exists_version isOpen stored
  obtain ⟨commit, inside, own⟩ := List.mem_flatMap.1 (mem_versionsOf.1 member).1
  have increasing := stamped.pairwise unending
  rcases List.eq_nil_or_concat past with rfl | ⟨front, last, rfl⟩
  · cases inside
  refine ⟨version.stamp, last.stamp, rfl, ?_, ?_⟩
  · rw [stamped.last isOpen, List.concat_eq_append, List.getLast?_concat]
    rfl
  · rw [tracked.stamps commit inside version own]
    rw [List.concat_eq_append] at inside increasing
    rcases List.mem_append.1 inside with earlier | isLast
    · exact le_of_lt ((List.pairwise_append.1 increasing).2.2 commit earlier last (.head _))
    · rw [List.mem_singleton.1 isLast]

theorem coherent_of_open (isOpen : store.closed = false) (indexed : Indexed (arrivals past) store)
    (tracked : Tracked past store) (stamped : Stamped past store) (fit : Fit past) :
    Coherent past store where
  placed := indexed.places_perm
  ordered := indexed.order_perm
  inverse key id := (indexed.ordered key id).trans (indexed.placed key id).symm
  dated _ _ := indexed.exists_dated
  ranked id key placed := ((indexed.placed key id).1 placed).1
  distinct id id' key key' placed placed' same := by
    have first := ((indexed.placed key id).1 placed).1
    have second := ((indexed.placed key' id').1 placed').1
    rw [same, second] at first
    exact (Option.some.inj first).symm
  below id key placed := by
    rw [indexed.next]
    exact (List.getElem?_eq_some_iff.1 ((indexed.placed key id).1 placed).1).1
  counted := le_of_eq indexed.next
  named _ _ := tracked.id_of_get? isOpen
  valid _ _ stored := by
    obtain ⟨version, member, rfl, -⟩ := tracked.exists_version isOpen stored
    exact fit version (mem_versionsOf.1 member).1
  stamped unending _ _ := exists_stamps tracked stamped isOpen unending
  released closed := by cases isOpen.symm.trans closed

/-- Where nothing is held there is nothing to disagree. -/
theorem coherent_of_released (released : Released store) : Coherent past store := by
  have tasks (id : TaskId) : store.tasks.get? id = none := by rw [released.tasks, Table.get?_empty]
  have places (id : TaskId) : store.places.get? id = none := by rw [released.places, Table.get?_empty]
  refine ⟨?_, ?_, fun key id => ?_, ?_, ?_, ?_, ?_, ?_, ?_, ?_, ?_, fun _ => released⟩
  · rw [released.places, released.tasks]
    exact .nil
  · rw [released.order, released.tasks]
    exact .nil
  · rw [released.order, Table.get?_empty, places]
    exact iff_of_false nofun nofun
  · exact fun id _ stored => nomatch (tasks id).symm.trans stored
  · exact fun id _ placed => nomatch (places id).symm.trans placed
  · exact fun id _ _ _ placed => nomatch (places id).symm.trans placed
  · exact fun id _ placed => nomatch (places id).symm.trans placed
  · rw [released.next]
    exact Nat.zero_le _
  · exact fun id _ stored => nomatch (tasks id).symm.trans stored
  · exact fun id _ stored => nomatch (tasks id).symm.trans stored
  · exact fun _ id _ stored => nomatch (tasks id).symm.trans stored

/-- **The parts of a store agree after every run.** Moreover a task keeps its number for as long as the store
is open, and a closed store answers no call and stays as it is. -/
theorem coherent_after (config : StoreConfig) (events : List Event) :
    let store := (ofConfig config).after events
    Coherent ((ofConfig config).history events) store ∧
      (∀ more, (store.after more).closed = false → ∀ id key, store.places.get? id = some key →
        ∃ later, (store.after more).places.get? id = some later ∧ later.sequence = key.sequence) ∧
      (store.closed = true → (∀ more, store.after more = store) ∧
        ∀ (call : Ambient) (α : Type) (request : Call α),
          store.perform call request = (.error .closed, store)) := by
  intro store
  refine ⟨?_, fun more isOpen id key placed => ?_, fun closed => ?_⟩
  · cases closed : store.closed with
    | true => exact coherent_of_released (released_after config events closed)
    | false =>
      exact coherent_of_open closed (indexed_after config events closed) (tracked_after config events)
        (stamped_after config events) (fit_after config events)
  · rw [← after_append] at isOpen ⊢
    exact sequence_after config events more isOpen placed
  · exact ⟨after_of_closed closed, fun call _ request => perform_of_closed closed call request⟩

/-- Two tasks stand at one time, where one of them has come back to; then the service ends. -/
theorem coherent_after_movedBack :
    let store := (ofConfig .standard).after movedBack
    let ended := store.after [⟨⟨.epoch, fun place => place⟩, .close⟩]
    Coherent ((ofConfig .standard).history movedBack) store ∧ store.places.size = 2 ∧
      (∀ commit ∈ (ofConfig .standard).history movedBack, ¬commit.stamp.IsLast) ∧
      ended.closed = true ∧ Released ended := by
  refine ⟨(coherent_after .standard movedBack).1, by decide, by decide, by decide, ?_⟩
  rw [← after_append]
  exact (coherent_after .standard (movedBack ++ [_])).1.released (by decide)

end Memory

end TaskLedger
