/-
**Independent writers.** Two batches that name their tasks, and no task of both, can be put in either
order: neither changes whether the other is taken, and the store is left as good as the same.

* `refusal?_congr` — whether such a batch is taken is seen from what is stored under its identifiers.
* `unstamped_put` — it gets the same answer before and after the other batch, but for the stamp.
* `Overlaid.trans`, `Overlaid.forget_get?` — the tasks of both batches lie over those stored before; what
  lies over the same tasks is the same, but for the stamps of the tasks laid over.
* `Rearranged`, `range_rearranged` — stores that two runs leave from one store answer a span alike when
  they hold the same tasks; only tasks that are new in both can change places.
* `put_put_of_disjoint` — the two orders compared.
-/
import TaskLedger.Proofs.Store.Range
import Mathlib.Data.List.Lattice

namespace TaskLedger

open Time (Instant)

/-! ### Leaving stamps out -/

namespace Task

/-- The task without its stamp. -/
def unstamped (task : Task) : Task :=
  { task with stamp := none }

/-- The task, without its stamp if it is one of those that were just written. -/
def forget (written : List TaskId) (task : Task) : Task :=
  if task.id.any (· ∈ written) then task.unstamped else task

variable {written : List TaskId} {task : Task} {id : TaskId}

theorem forget_of_mem (own : task.id = some id) (listed : id ∈ written) :
    task.forget written = task.unstamped := by
  rw [forget, own, Option.any_some, if_pos (decide_eq_true listed)]

@[simp] theorem id_forget (written : List TaskId) (task : Task) : (task.forget written).id = task.id := by
  unfold forget
  split <;> rfl

@[simp] theorem created_forget (written : List TaskId) (task : Task) :
    (task.forget written).created = task.created := by
  unfold forget
  split <;> rfl

theorem createdNoLater_forget (written : List TaskId) (a b : Task) :
    (a.forget written).createdNoLater (b.forget written) = a.createdNoLater b := by
  rw [createdNoLater, createdNoLater, created_forget, created_forget]

theorem id_eq_of_unstamped {other : Task} (same : task.unstamped = other.unstamped) : task.id = other.id :=
  congrArg (·.id) same

end Task

/-- The tasks of an answer; none if there is no answer. -/
def tasksIn : Except StoreError (List Task) → List Task
  | .ok tasks => tasks
  | .error _ => []

theorem tasksIn_map (answer : Except StoreError (List Task)) :
    tasksIn (answer.map (·.map Task.unstamped)) = (tasksIn answer).map Task.unstamped := by
  cases answer <;> rfl

/-! ### Batches that name their tasks -/

section Given

variable {batch : List Task} (given : ∀ task ∈ batch, task.id.isSome)

include given

namespace Ambient

/-- Every call names such a batch alike. -/
theorem named_eq_of_given (call call' : Ambient) : call.named batch = call'.named batch := by
  rw [named_eq, named_eq]
  refine List.map_congr_left fun entry member => ?_
  obtain ⟨id, own⟩ := Option.isSome_iff_exists.1 (given _ (List.fst_mem_of_mem_zipIdx member))
  rw [withId, withId, idOf_of_some own, idOf_of_some own]

theorem mem_named_ids_of_given (call : Ambient) {id : TaskId} :
    id ∈ (call.named batch).map (·.1) ↔ id ∈ batch.filterMap (·.id) := by
  have nothing : call.generated batch = [] := by
    rw [generated, List.map_eq_nil_iff, List.filter_eq_nil_iff]
    intro entry member missing
    have named := given _ (List.fst_mem_of_mem_zipIdx member)
    rw [Option.isNone_iff_eq_none.1 missing] at named
    cases named
  rw [(call.named_ids_perm batch).mem_iff, nothing, List.append_nil]

end Ambient

namespace Memory

omit given in
theorem conflict?_congr {store other : Memory} {entries : List (TaskId × Task)}
    (same : ∀ id ∈ entries.map (·.1), store.tasks.get? id = other.tasks.get? id)
    (earlier : List TaskId) : store.conflict? earlier entries = other.conflict? earlier entries := by
  induction entries generalizing earlier with
  | nil => rfl
  | cons entry rest ih =>
    rw [List.map_cons, List.forall_mem_cons] at same
    rw [conflict?, conflict?, same.1]
    simp only [ih same.2]

/-- **Whether a batch is taken** is seen from what is stored under its identifiers. -/
theorem refusal?_congr {store other : Memory} (closed : store.closed = other.closed)
    (same : ∀ id ∈ batch.filterMap (·.id), store.tasks.get? id = other.tasks.get? id)
    (call call' : Ambient) : store.refusal? call batch = other.refusal? call' batch := by
  have conflicts : store.conflict? [] (call.named batch) = other.conflict? [] (call'.named batch) := by
    rw [Ambient.named_eq_of_given given call call']
    refine conflict?_congr (fun id member => same id ?_) []
    exact (Ambient.mem_named_ids_of_given given call').1 member
  rw [refusal?, refusal?, closed, conflicts]

theorem mem_ids_of_tasksIn {store : Memory} {call : Ambient} {task : Task} {id : TaskId}
    (member : task ∈ tasksIn (store.put call batch).1) (own : task.id = some id) :
    id ∈ batch.filterMap (·.id) := by
  cases refused : store.refusal? call batch with
  | some error =>
    rw [put_of_refused refused] at member
    cases member
  | none =>
    rw [put_of_taken refused] at member
    obtain ⟨⟨id', task'⟩, inside, rfl⟩ := List.mem_map.1 member
    obtain rfl : id' = id := Option.some.inj ((id_of_mem_written store call batch inside).symm.trans own)
    rw [← Ambient.mem_named_ids_of_given given call, ← written_ids store]
    exact List.mem_map_of_mem inside

/-- A batch that is judged alike is answered alike, but for the stamp. -/
theorem unstamped_put_congr {store other : Memory} {call call' : Ambient}
    (judged : store.refusal? call batch = other.refusal? call' batch) :
    (store.put call batch).1.map (·.map Task.unstamped) =
      (other.put call' batch).1.map (·.map Task.unstamped) := by
  cases refused : store.refusal? call batch with
  | some error => rw [put_of_refused refused, put_of_refused (judged.symm.trans refused)]
  | none =>
    rw [put_of_taken refused, put_of_taken (judged.symm.trans refused), written, written,
      Ambient.named_eq_of_given given call call']
    simp only [Except.map, List.map_map]
    rfl

end Memory

end Given

/-! ### One batch after another -/

namespace Memory

section Put

variable (store : Memory) (call : Ambient) (batch : List Task)

theorem closed_put : (store.put call batch).2.closed = store.closed := by
  cases refused : store.refusal? call batch with
  | some error => rw [put_of_refused refused]
  | none => rw [put_of_taken refused, closed_commit]

/-- After a write the answer lies over what was stored. -/
theorem overlaid_put : store.Overlaid (store.put call batch).2 (tasksIn (store.put call batch).1) := by
  cases refused : store.refusal? call batch with
  | some error =>
    rw [put_of_refused refused]
    exact ⟨fun task member => absurd member List.not_mem_nil, fun id _ => rfl⟩
  | none =>
    rw [put_of_taken refused]
    exact overlaid_commit refused

end Put

/-- **A batch gets the same answer before and after a batch of other tasks**, but for the stamp. -/
theorem unstamped_put (store : Memory) {a b : List Task} (givenA : ∀ task ∈ a, task.id.isSome)
    (givenB : ∀ task ∈ b, task.id.isSome)
    (apart : (a.filterMap (·.id)).Disjoint (b.filterMap (·.id))) (first second alone : Ambient) :
    ((store.put first a).2.put second b).1.map (·.map Task.unstamped) =
      (store.put alone b).1.map (·.map Task.unstamped) := by
  refine unstamped_put_congr givenB (refusal?_congr givenB (closed_put store first a) ?_ second alone)
  intro id listed
  refine (overlaid_put store first a).others id fun task member own => ?_
  exact apart (mem_ids_of_tasksIn givenA member own) listed

namespace Overlaid

variable {store middle one two : Memory} {tasks more : List Task}

/-- What lies over other tasks hides nothing of them. -/
theorem trans (first : store.Overlaid middle tasks) (second : middle.Overlaid one more)
    (apart : (tasks.filterMap (·.id)).Disjoint (more.filterMap (·.id))) :
    store.Overlaid one (tasks ++ more) := by
  constructor
  · intro task member id own
    rcases List.mem_append.1 member with below | above
    · rw [second.others id fun other inside same => ?_]
      · exact first.written task below id own
      · exact apart (List.mem_filterMap.2 ⟨task, below, own⟩) (List.mem_filterMap.2 ⟨other, inside, same⟩)
    · exact second.written task above id own
  · intro id absent
    rw [second.others id fun task member => absent task (List.mem_append_right _ member),
      first.others id fun task member => absent task (List.mem_append_left _ member)]

/-- **What lies over the same tasks is the same**, but for the stamps of the tasks laid over. -/
theorem forget_get? (first : store.Overlaid one tasks) (second : store.Overlaid two more)
    (same : (tasks.map Task.unstamped).Perm (more.map Task.unstamped)) (id : TaskId) :
    (one.tasks.get? id).map (Task.forget (tasks.filterMap (·.id))) =
      (two.tasks.get? id).map (Task.forget (tasks.filterMap (·.id))) := by
  by_cases listed : id ∈ tasks.filterMap (·.id)
  · obtain ⟨task, member, own⟩ := List.mem_filterMap.1 listed
    obtain ⟨other, inside, alike⟩ := List.mem_map.1 (same.subset (List.mem_map_of_mem member))
    have own' : other.id = some id := (Task.id_eq_of_unstamped alike).trans own
    rw [first.written task member id own, second.written other inside id own', Option.map_some,
      Option.map_some, Task.forget_of_mem own listed, Task.forget_of_mem own' listed, alike]
  · rw [first.others id fun task member own => listed (List.mem_filterMap.2 ⟨task, member, own⟩),
      second.others id fun other inside own => ?_]
    obtain ⟨task, member, alike⟩ := List.mem_map.1 (same.symm.subset (List.mem_map_of_mem inside))
    exact listed (List.mem_filterMap.2 ⟨task, member, (Task.id_eq_of_unstamped alike).trans own⟩)

end Overlaid

/-- After two batches of different tasks both answers lie over what was stored. -/
theorem overlaid_put_put (store : Memory) {a b : List Task} (givenA : ∀ task ∈ a, task.id.isSome)
    (givenB : ∀ task ∈ b, task.id.isSome)
    (apart : (a.filterMap (·.id)).Disjoint (b.filterMap (·.id))) (first second : Ambient) :
    store.Overlaid ((store.put first a).2.put second b).2
      (tasksIn (store.put first a).1 ++ tasksIn ((store.put first a).2.put second b).1) := by
  refine (overlaid_put store first a).trans (overlaid_put _ second b) fun id inA inB => ?_
  obtain ⟨task, member, own⟩ := List.mem_filterMap.1 inA
  obtain ⟨other, member', own'⟩ := List.mem_filterMap.1 inB
  exact apart (mem_ids_of_tasksIn givenA member own) (mem_ids_of_tasksIn givenB member' own')

end Memory

/-! ### Reading a span after either order -/

/-- What is listed last has no rank below what was listed first, so two names that change ranks when the
list goes on in another way were not listed yet. -/
theorem not_mem_of_idxOf_swapped {α : Type} [DecidableEq α] {listed rest rest' : List α} {x y : α}
    (before : (listed ++ rest).idxOf x < (listed ++ rest).idxOf y)
    (after : (listed ++ rest').idxOf y < (listed ++ rest').idxOf x) : x ∉ listed ∧ y ∉ listed := by
  rw [List.idxOf_append, List.idxOf_append] at before after
  have inside (name : α) (member : name ∈ listed) : listed.idxOf name < listed.length :=
    List.idxOf_lt_length_iff.2 member
  grind

theorem Task.created_eq_of_noLater {a b : Task} (first : a.createdNoLater b)
    (second : b.createdNoLater a) : a.created = b.created := by
  unfold createdNoLater at first second
  grind

/-- A store holds nothing under the identifier of the task. -/
def Memory.Lacks (store : Memory) (task : Task) : Prop :=
  ∃ id, task.id = some id ∧ store.get id = .ok none

/-- Two answers about a span, of stores that go on from one: the same tasks, and two of them change places
only if both are new and were created at the same time. -/
structure Rearranged (start : Memory) (answer answer' : List Task) : Prop where
  same : answer.Perm answer'
  swapped : ∀ x y, [x, y].Sublist answer → [y, x].Sublist answer' →
    x.created = y.created ∧ start.Lacks x ∧ start.Lacks y

namespace Memory

namespace Indexed

variable {ids ids' : List TaskId} {one two : Memory} {written : List TaskId}
  (indexed : Indexed ids one) (named : ∀ id task, one.tasks.get? id = some task → task.id = some id)

include indexed named

/-- The tasks in the order of creation, two at a time. -/
theorem pairwise_inOrder : (one.inOrder.map (Task.forget written)).Pairwise fun x y =>
    x.createdNoLater y ∧ (y.createdNoLater x →
      ∀ i j, x.id = some i → y.id = some j → ids.idxOf i < ids.idxOf j) := by
  refine List.pairwise_map.2 (List.pairwise_filterMap.2 (indexed.values_stable.imp ?_))
  intro i j ⟨ascends, tie⟩ x found y found'
  rw [Memory.stored, Memory.stored, found, found', Option.getD_some, Option.getD_some] at ascends tie
  rw [Task.createdNoLater_forget, Task.createdNoLater_forget, Task.id_forget, Task.id_forget]
  refine ⟨ascends, fun back i' j' own own' => ?_⟩
  obtain rfl : i = i' := Option.some.inj ((named i x found).symm.trans own)
  obtain rfl : j = j' := Option.some.inj ((named j y found').symm.trans own')
  exact tie back

theorem exists_id_of_mem_inOrder {task : Task} (member : task ∈ one.inOrder.map (Task.forget written)) :
    ∃ id, task.id = some id := by
  obtain ⟨held, inside, rfl⟩ := List.mem_map.1 member
  obtain ⟨id, found⟩ := indexed.mem_inOrder.1 inside
  exact ⟨id, (Task.id_forget written held).trans (named id held found)⟩

theorem nodup_inOrder_forget : (one.inOrder.map (Task.forget written)).Nodup := by
  refine List.Nodup.of_map (·.id) ?_
  rw [List.map_map]
  simpa only [Function.comp_def, Task.id_forget] using indexed.nodup_inOrder named

/-- Stores with the same tasks list the same tasks. -/
theorem inOrder_perm (indexed' : Indexed ids' two)
    (named' : ∀ id task, two.tasks.get? id = some task → task.id = some id)
    (same : ∀ id, (one.tasks.get? id).map (Task.forget written) =
      (two.tasks.get? id).map (Task.forget written)) :
    (one.inOrder.map (Task.forget written)).Perm (two.inOrder.map (Task.forget written)) := by
  have mem_iff {ids : List TaskId} {store : Memory} (indexed : Indexed ids store) (task : Task) :
      task ∈ store.inOrder.map (Task.forget written) ↔
        ∃ id, (store.tasks.get? id).map (Task.forget written) = some task := by
    simp only [List.mem_map, indexed.mem_inOrder, Option.map_eq_some_iff]
    grind
  refine (List.perm_ext_iff_of_nodup (indexed.nodup_inOrder_forget named)
    (indexed'.nodup_inOrder_forget named')).2 fun task => ?_
  rw [mem_iff indexed, mem_iff indexed']
  simp only [same]

end Indexed

/-- Two tasks that stand in one order and in the other were created at the same time, and neither is among
those that arrived first in both. -/
theorem Indexed.swapped {listed rest rest' : List TaskId} {one two : Memory} {written : List TaskId}
    (indexed : Indexed (listed ++ rest) one) (indexed' : Indexed (listed ++ rest') two)
    (named : ∀ id task, one.tasks.get? id = some task → task.id = some id)
    (named' : ∀ id task, two.tasks.get? id = some task → task.id = some id) {x y : Task}
    (before : [x, y].Sublist (one.inOrder.map (Task.forget written)))
    (after : [y, x].Sublist (two.inOrder.map (Task.forget written))) :
    x.created = y.created ∧
      ∃ i j, x.id = some i ∧ y.id = some j ∧ i ∉ listed ∧ j ∉ listed := by
  obtain ⟨ascends, tie⟩ := List.pairwise_iff_forall_sublist.1 (indexed.pairwise_inOrder named) before
  obtain ⟨ascends', tie'⟩ := List.pairwise_iff_forall_sublist.1 (indexed'.pairwise_inOrder named') after
  have first : x ∈ [x, y] := .head _
  have second : y ∈ [x, y] := .tail _ (.head _)
  obtain ⟨i, ownX⟩ := indexed.exists_id_of_mem_inOrder named (before.subset first)
  obtain ⟨j, ownY⟩ := indexed.exists_id_of_mem_inOrder named (before.subset second)
  exact ⟨Task.created_eq_of_noLater ascends ascends', i, j, ownX, ownY,
    not_mem_of_idxOf_swapped (tie ascends' i j ownX ownY) (tie' ascends j i ownY ownX)⟩

theorem id_of_get?_after (config : StoreConfig) (events : List Event)
    (isOpen : ((ofConfig config).after events).closed = false) (id : TaskId) (task : Task)
    (found : ((ofConfig config).after events).tasks.get? id = some task) : task.id = some id :=
  (tracked_after config events).id_of_get? isOpen found

/-- **Two runs that go on from one store** answer a span alike if the stores that they leave hold the same
tasks, but for the stamps of those written. -/
theorem range_rearranged (config : StoreConfig) (events more more' : List Event) {written : List TaskId}
    (isOpen : ((ofConfig config).after (events ++ more)).closed = false)
    (isOpen' : ((ofConfig config).after (events ++ more')).closed = false)
    (same : ∀ id,
      (((ofConfig config).after (events ++ more)).tasks.get? id).map (Task.forget written) =
        (((ofConfig config).after (events ++ more')).tasks.get? id).map (Task.forget written))
    (first last : Instant) :
    ∃ answer answer', ((ofConfig config).after (events ++ more)).range first last = .ok answer ∧
      ((ofConfig config).after (events ++ more')).range first last = .ok answer' ∧
      Rearranged ((ofConfig config).after events) (answer.map (Task.forget written))
        (answer'.map (Task.forget written)) := by
  have startOpen := isOpen_of_append isOpen
  have started := indexed_after config events startOpen
  obtain ⟨rest, indexed⟩ := exists_indexed_append config events more isOpen
  obtain ⟨rest', indexed'⟩ := exists_indexed_append config events more' isOpen'
  have named := id_of_get?_after config (events ++ more) isOpen
  have named' := id_of_get?_after config (events ++ more') isOpen'
  -- Both stores rank the tasks of the start alike, so what changes ranks has arrived since.
  have lacks {task : Task} {id : TaskId} (own : task.id = some id)
      (new : id ∉ arrivals ((ofConfig config).history events)) :
      ((ofConfig config).after events).Lacks task := by
    rw [started.stored, Option.not_isSome_iff_eq_none] at new
    refine ⟨id, own, ?_⟩
    rw [get, startOpen, if_neg Bool.false_ne_true, new]
  refine ⟨_, _, indexed.range_eq isOpen first last, indexed'.range_eq isOpen' first last, ?_, ?_⟩
  · have within : Task.createdWithin first last ∘ Task.forget written = Task.createdWithin first last := by
      funext task
      rw [Function.comp, Task.createdWithin, Task.created_forget, Task.createdWithin]
    have perm := (indexed.inOrder_perm named indexed' named' same).filter (Task.createdWithin first last)
    rwa [List.filter_map, List.filter_map, within] at perm
  · intro x y before after
    obtain ⟨created, i, j, ownX, ownY, newX, newY⟩ := indexed.swapped indexed' named named'
      (before.trans (List.filter_sublist.map _)) (after.trans (List.filter_sublist.map _))
    exact ⟨created, lacks ownX newX, lacks ownY newY⟩

/-! ### The theorem -/

/-- **Independent writers do not disturb each other.** Two batches name all their tasks, and none in common.
After any run each of them gets the same answer whether it is put first or second, but for the stamps that
are given, and the same error if it is refused. What is stored under each identifier then is the same for
both orders, but for the stamps of the tasks that were just written, and so are the tasks of every span;
there two tasks change places only if both are new and were created at the same time. -/
theorem put_put_of_disjoint (config : StoreConfig) (events : List Event) {a b : List Task}
    (named : ∀ task ∈ a ++ b, task.id.isSome)
    (apart : (a.filterMap (·.id)).Disjoint (b.filterMap (·.id)))
    (firstA secondB firstB secondA : Ambient) :
    let start := (ofConfig config).after events
    let putA := start.put firstA a
    let putAB := putA.2.put secondB b
    let putB := start.put firstB b
    let putBA := putB.2.put secondA a
    let forget := Task.forget ((tasksIn putA.1 ++ tasksIn putAB.1).filterMap (·.id))
    putA.1.map (·.map Task.unstamped) = putBA.1.map (·.map Task.unstamped) ∧
    putB.1.map (·.map Task.unstamped) = putAB.1.map (·.map Task.unstamped) ∧
    (∀ id, (putAB.2.get id).map (·.map forget) = (putBA.2.get id).map (·.map forget)) ∧
    ∀ first last,
      (putAB.2.range first last = .error .closed ∧ putBA.2.range first last = .error .closed) ∨
      ∃ answer answer', putAB.2.range first last = .ok answer ∧ putBA.2.range first last = .ok answer' ∧
        Rearranged start (answer.map forget) (answer'.map forget) := by
  intro start putA putAB putB putBA forget
  obtain ⟨namedA, namedB⟩ := List.forall_mem_append.1 named
  have apart' := List.Disjoint.symm apart
  have answersA : putA.1.map (·.map Task.unstamped) = putBA.1.map (·.map Task.unstamped) :=
    (unstamped_put start namedB namedA apart' firstB secondA firstA).symm
  have answersB : putB.1.map (·.map Task.unstamped) = putAB.1.map (·.map Task.unstamped) :=
    (unstamped_put start namedA namedB apart firstA secondB firstB).symm
  -- In either order the answers lie over the start, and they differ in their stamps only.
  have laid : ((tasksIn putA.1 ++ tasksIn putAB.1).map Task.unstamped).Perm
      ((tasksIn putB.1 ++ tasksIn putBA.1).map Task.unstamped) := by
    rw [List.map_append, List.map_append, ← tasksIn_map, ← tasksIn_map, answersA, ← answersB,
      tasksIn_map, tasksIn_map]
    exact List.perm_append_comm
  have same := (overlaid_put_put start namedA namedB apart firstA secondB).forget_get?
    (overlaid_put_put start namedB namedA apart' firstB secondA) laid
  have closedAB : putAB.2.closed = start.closed := by rw [closed_put, closed_put]
  have closedBA : putBA.2.closed = start.closed := by rw [closed_put, closed_put]
  refine ⟨answersA, answersB, fun id => ?_, fun first last => ?_⟩
  · rw [get, get, closedAB, closedBA]
    split
    · rfl
    · exact congrArg Except.ok (same id)
  · cases closed : start.closed with
    | true =>
      left
      rw [range, range, closedAB, closedBA, if_pos closed, if_pos closed]
      exact ⟨rfl, rfl⟩
    | false =>
      right
      have runAB : (ofConfig config).after (events ++ [⟨firstA, .put a⟩, ⟨secondB, .put b⟩]) = putAB.2 :=
        after_append _ _ _
      have runBA : (ofConfig config).after (events ++ [⟨firstB, .put b⟩, ⟨secondA, .put a⟩]) = putBA.2 :=
        after_append _ _ _
      have spans := range_rearranged config events [⟨firstA, .put a⟩, ⟨secondB, .put b⟩]
        [⟨firstB, .put b⟩, ⟨secondA, .put a⟩] (by rw [runAB, closedAB, closed])
        (by rw [runBA, closedBA, closed]) (by rw [runAB, runBA]; exact same) first last
      rwa [runAB, runBA] at spans

/-- An update of a stored task and an insertion. -/
def updateAndInsertion : List Task :=
  [writeOf ⟨"stored"⟩ (some .epoch), writeOf ⟨"a"⟩ none]

/-- Two insertions at one time change places with their batches, and nothing else shows the order. -/
theorem put_put_insertions :
    let call : Ambient := ⟨.epoch, fun place => place⟩
    let start := (ofConfig .standard).after [.putAt .epoch [writeOf ⟨"stored"⟩ none]]
    let afterAB := ((start.put call updateAndInsertion).2.put call [writeOf ⟨"b"⟩ none]).2
    let afterBA := ((start.put call [writeOf ⟨"b"⟩ none]).2.put call updateAndInsertion).2
    let forget := Task.forget [⟨"stored"⟩, ⟨"a"⟩, ⟨"b"⟩]
    (∀ task ∈ updateAndInsertion ++ [writeOf ⟨"b"⟩ none], task.id.isSome) ∧
    (updateAndInsertion.filterMap (·.id)).Disjoint [⟨"b"⟩] ∧
    (afterAB.range .epoch .last).map (·.map (·.id)) = .ok [some ⟨"stored"⟩, some ⟨"a"⟩, some ⟨"b"⟩] ∧
    (afterBA.range .epoch .last).map (·.map (·.id)) = .ok [some ⟨"stored"⟩, some ⟨"b"⟩, some ⟨"a"⟩] ∧
    ∀ id, (afterAB.get id).map (·.map forget) = (afterBA.get id).map (·.map forget) := by
  intro call start afterAB afterBA forget
  have named : ∀ task ∈ updateAndInsertion ++ [writeOf ⟨"b"⟩ none], task.id.isSome := by decide
  have apart : (updateAndInsertion.filterMap (·.id)).Disjoint [⟨"b"⟩] :=
    List.disjoint_left.2 (by decide)
  have written : [⟨"stored"⟩, ⟨"a"⟩, ⟨"b"⟩] = (tasksIn (start.put call updateAndInsertion).1 ++
      tasksIn ((start.put call updateAndInsertion).2.put call [writeOf ⟨"b"⟩ none]).1).filterMap
        (·.id) := by decide
  have compared := put_put_of_disjoint .standard [.putAt .epoch [writeOf ⟨"stored"⟩ none]] named apart
    call call call call
  refine ⟨named, apart, by decide, by decide, fun id => ?_⟩
  rw [show forget = _ from congrArg Task.forget written]
  exact compared.2.2.1 id

end Memory

end TaskLedger
