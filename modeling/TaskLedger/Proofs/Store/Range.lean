/-
**Reading a span of time.** What a store in memory answers when it is asked for the tasks of a span.

* `IndexKey.compare_eq_lt_iff` — one place comes before another by time, and by rank at the same time.
* `Indexed.values_perm`, `Indexed.values_stable` — the order of creation lists each stored task once, by
  creation time, and those of one time as they arrived.
* `Indexed.inOrder_eq` — that is the stored tasks in the order of arrival, sorted by creation time.
* `range_exact` — a span is read from this list: the tasks created in it, each as it is stored now.
-/
import TaskLedger.Proofs.Sorting
import TaskLedger.Proofs.Store.CreationOrder
import Mathlib.Data.List.Nodup
import Mathlib.Data.Option.Basic

namespace TaskLedger

open Time (Instant)

/-! ### Comparing -/

theorem IndexKey.compare_eq_lt_iff {a b : IndexKey} :
    compare a b = .lt ↔ a.created < b.created ∨ a.created = b.created ∧ a.sequence < b.sequence := by
  show (compare a.created b.created).then (compare a.sequence b.sequence) = .lt ↔ _
  rw [Ordering.then_eq_lt, Instant.compare_eq_lt_iff, Std.LawfulEqOrd.compare_eq_iff_eq, Nat.compare_eq_lt]

namespace Task

theorem createdNoLater_trans (a b c : Task) (first : a.createdNoLater b)
    (second : b.createdNoLater c) : a.createdNoLater c := by
  unfold createdNoLater at *
  grind

theorem createdNoLater_total (a b : Task) : a.createdNoLater b || b.createdNoLater a := by
  unfold createdNoLater
  cases a.created <;> cases b.created <;> simp [le_total]

/-- The task was created at `first` or later and before `last`. -/
def createdWithin (first last : Instant) (task : Task) : Bool :=
  task.created.any fun created => first ≤ created && created < last

theorem createdWithin_iff {first last : Instant} {task : Task} :
    task.createdWithin first last ↔
      ∃ created, task.created = some created ∧ first ≤ created ∧ created < last := by
  simp [createdWithin, Option.any_eq_true]

theorem createdWithin_of_le {first last : Instant} (empty : last ≤ first) (task : Task) :
    task.createdWithin first last = false := by
  rw [createdWithin, Option.any_eq_false]
  intro created _
  grind

end Task

namespace Memory

/-- The stored task, or a blank one where nothing is stored. -/
def stored (store : Memory) (id : TaskId) : Task :=
  (store.tasks.get? id).getD .blank

/-- The stored tasks in the order of creation. -/
def inOrder (store : Memory) : List Task :=
  store.order.values.filterMap store.tasks.get?

namespace Indexed

variable {ids : List TaskId} {store : Memory}

theorem stands_of_mem (indexed : Indexed ids store) {key : IndexKey} {id : TaskId}
    (member : (key, id) ∈ store.order.entries) : Stands ids store key id :=
  (indexed.ordered key id).1 (Table.get?_eq_some_iff.2 member)

/-- A task that is listed is stored. -/
theorem get?_of_mem (indexed : Indexed ids store) {id : TaskId} (listed : id ∈ ids) :
    store.tasks.get? id = some (store.stored id) := by
  obtain ⟨task, found⟩ := Option.isSome_iff_exists.1 ((indexed.stored id).1 listed)
  rw [Memory.stored, found, Option.getD_some]

/-- A task that stands somewhere was created at the time of the place. -/
theorem created_of_stands (indexed : Indexed ids store) {key : IndexKey} {id : TaskId}
    (stands : Stands ids store key id) : (store.stored id).created = some key.created := by
  have dated := stands.2
  rwa [createdOf?, indexed.get?_of_mem (List.mem_of_getElem? stands.1), Option.bind_some] at dated

/-- **Each stored task stands once** in the order of creation. -/
theorem values_perm (indexed : Indexed ids store) : store.order.values.Perm ids := by
  have distinct : store.order.values.Nodup := by
    refine List.pairwise_map.2 (store.order.ascending.imp_of_mem ?_)
    intro a b memberA memberB before same
    have placedA := (indexed.placed a.1 a.2).2 (indexed.stands_of_mem memberA)
    have placedB := (indexed.placed b.1 b.2).2 (indexed.stands_of_mem memberB)
    rw [same, placedB] at placedA
    exact Table.ne_of_compare_lt before (Option.some.inj placedA).symm
  refine (List.perm_ext_iff_of_nodup distinct indexed.distinct).2 fun id => ?_
  constructor
  · intro listed
    obtain ⟨⟨key, _⟩, member, rfl⟩ := List.mem_map.1 listed
    exact List.mem_of_getElem? (indexed.stands_of_mem member).1
  · intro listed
    obtain ⟨key, -, stands⟩ := indexed.exists_place listed
    have ordered := Table.get?_eq_some_iff.1 ((indexed.ordered key id).2 stands)
    exact List.mem_map.2 ⟨(key, id), ordered, rfl⟩

/-- **The order of creation** ascends by creation time, and tasks of one time stand as they arrived. -/
theorem values_stable (indexed : Indexed ids store) :
    store.order.values.Pairwise fun a b =>
      (store.stored a).createdNoLater (store.stored b) ∧
        ((store.stored b).createdNoLater (store.stored a) → ids.idxOf a < ids.idxOf b) := by
  have rank {key : IndexKey} {id : TaskId} (stands : Stands ids store key id) :
      ids.idxOf id = key.sequence := by
    obtain ⟨inside, rfl⟩ := List.getElem?_eq_some_iff.1 stands.1
    exact indexed.distinct.idxOf_getElem _ inside
  refine List.pairwise_map.2 (store.order.ascending.imp_of_mem ?_)
  intro a b memberA memberB before
  have standsA := indexed.stands_of_mem memberA
  have standsB := indexed.stands_of_mem memberB
  rw [IndexKey.compare_eq_lt_iff] at before
  simp only [Task.createdNoLater, indexed.created_of_stands standsA, indexed.created_of_stands standsB,
    rank standsA, rank standsB, decide_eq_true_eq]
  grind

/-- **The tasks in the order of creation** are those stored, in the order of arrival, sorted by creation
time. -/
theorem inOrder_eq (indexed : Indexed ids store) :
    store.inOrder = Task.sortByCreated (ids.filterMap store.tasks.get?) := by
  have all {listed : List TaskId} (part : listed ⊆ ids) :
      listed.filterMap store.tasks.get? = listed.map store.stored := by
    rw [← List.filterMap_eq_map]
    exact List.filterMap_congr fun id member => indexed.get?_of_mem (part member)
  have arrived : ids.Pairwise fun a b => ids.idxOf a < ids.idxOf b := by
    rw [List.pairwise_iff_getElem]
    intro i j insideI insideJ before
    rwa [indexed.distinct.idxOf_getElem, indexed.distinct.idxOf_getElem]
  have sorted : store.order.values =
      ids.mergeSort fun a b => (store.stored a).createdNoLater (store.stored b) :=
    eq_mergeSort_of_stable (fun _ _ _ => Task.createdNoLater_trans _ _ _)
      (fun _ _ => Task.createdNoLater_total _ _) (fun _ _ => Nat.lt_asymm) arrived indexed.values_perm
      indexed.values_stable
  rw [inOrder, all indexed.values_perm.subset, all (List.Subset.refl ids), Task.sortByCreated, sorted]
  exact List.map_mergeSort fun _ _ _ _ => rfl

/-- A span is read from the tasks in the order of creation. -/
theorem range_eq (indexed : Indexed ids store) (isOpen : store.closed = false) (first last : Instant) :
    store.range first last = .ok (store.inOrder.filter (Task.createdWithin first last)) := by
  rw [range, isOpen, if_neg (by simp)]
  split
  · next empty =>
    rw [List.filter_eq_nil_iff.2 fun task _ => by simp [Task.createdWithin_of_le empty]]
  · rw [inOrder, Table.values, Table.values, Table.filter, List.filterMap_map, List.filterMap_map,
      List.filterMap_filter, List.filter_filterMap]
    congr 1
    refine List.filterMap_congr fun entry member => ?_
    have stands := indexed.stands_of_mem member
    have found := indexed.get?_of_mem (List.mem_of_getElem? stands.1)
    simp only [Function.comp, found, Option.filter_some, Task.createdWithin,
      indexed.created_of_stands stands, Option.any_some]

theorem mem_inOrder (indexed : Indexed ids store) {task : Task} :
    task ∈ store.inOrder ↔ ∃ id, store.tasks.get? id = some task := by
  rw [inOrder, List.mem_filterMap]
  refine ⟨fun ⟨id, _, found⟩ => ⟨id, found⟩, fun ⟨id, found⟩ => ⟨id, ?_, found⟩⟩
  rw [indexed.values_perm.mem_iff, indexed.stored, found, Option.isSome_some]

/-- No identifier stands twice in the order of creation. -/
theorem nodup_inOrder (indexed : Indexed ids store)
    (named : ∀ id task, store.tasks.get? id = some task → task.id = some id) :
    (store.inOrder.map (·.id)).Nodup := by
  have ids_eq : store.inOrder.map (·.id) = store.order.values.map some := by
    rw [inOrder, List.map_filterMap, ← List.filterMap_eq_map]
    refine List.filterMap_congr fun id member => ?_
    have found := indexed.get?_of_mem (indexed.values_perm.subset member)
    rw [found, Option.map_some, named id _ found, Function.comp]
  rw [ids_eq]
  exact List.Nodup.map (Option.some_injective _) (indexed.values_perm.nodup_iff.2 indexed.distinct)

end Indexed

/-! ### The theorem -/

/-- A stored task bears the identifier under which it is stored. -/
theorem Tracked.id_of_get? {past : List Commit} {store : Memory} (tracked : Tracked past store)
    (isOpen : store.closed = false) {id : TaskId} {task : Task}
    (found : store.tasks.get? id = some task) : task.id = some id := by
  obtain ⟨version, -, -, own⟩ := tracked.exists_version isOpen found
  exact own

/-- **A span of time is read exactly.** After any run that leaves the store open, the answer is the stored
tasks in the order in which each was first written, sorted by their current creation time, those outside
the span left out: each stored task that was created in the span, once, and as it is stored now. -/
theorem range_exact (config : StoreConfig) (events : List Event) (first last : Instant)
    (isOpen : ((ofConfig config).after events).closed = false) :
    let store := (ofConfig config).after events
    let arrived := (arrivals ((ofConfig config).history events)).filterMap store.tasks.get?
    ∃ answer, store.range first last = .ok answer ∧
      answer = (Task.sortByCreated arrived).filter (Task.createdWithin first last) ∧
      (∀ task, task ∈ answer ↔
        (∃ id, store.get id = .ok (some task)) ∧
          ∃ created, task.created = some created ∧ first ≤ created ∧ created < last) ∧
      (answer.map (·.id)).Nodup ∧
      (last ≤ first → answer = []) := by
  intro store arrived
  have indexed := indexed_after config events isOpen
  have named (id : TaskId) (task : Task) (found : store.tasks.get? id = some task) :
      task.id = some id :=
    (tracked_after config events).id_of_get? isOpen found
  refine ⟨_, indexed.range_eq isOpen first last, ?_, fun task => ?_, ?_, fun empty => ?_⟩
  · rw [indexed.inOrder_eq]
  · have reads (id : TaskId) : store.get id = .ok (store.tasks.get? id) :=
      if_neg (by simp [store, isOpen])
    rw [List.mem_filter, indexed.mem_inOrder, Task.createdWithin_iff]
    simp only [reads, Except.ok.injEq, store]
  · exact (indexed.nodup_inOrder named).sublist (List.filter_sublist.map _)
  · exact List.filter_eq_nil_iff.2 fun task _ => by simp [Task.createdWithin_of_le empty]

/-- Two tasks are written at one creation time; the first moves away from it and back again. -/
def movedBack : List Event :=
  [.putAt .epoch [writeOf ⟨"b"⟩ none, writeOf ⟨"a"⟩ none],
    .putAt .epoch [{ writeOf ⟨"b"⟩ (some .epoch) with created := some .last }],
    .putAt .epoch [writeOf ⟨"b"⟩ (some (nextStamp (some .epoch) .epoch))]]

theorem range_movedBack :
    ((ofConfig .standard).after movedBack).closed = false ∧
      ∃ answer, ((ofConfig .standard).after movedBack).range .epoch .last = .ok answer ∧
        answer.map (·.id) = [some ⟨"b"⟩, some ⟨"a"⟩] ∧ (answer.map (·.id)).Nodup := by
  have isOpen : ((ofConfig .standard).after movedBack).closed = false := by decide
  obtain ⟨answer, read, -, -, distinct, -⟩ := range_exact .standard movedBack .epoch .last isOpen
  have ids : (((ofConfig .standard).after movedBack).range .epoch .last).map (·.map (·.id)) =
      .ok [some ⟨"b"⟩, some ⟨"a"⟩] := by decide
  rw [read] at ids
  exact ⟨isOpen, answer, read, Except.ok.inj ids, distinct⟩

end Memory

end TaskLedger
