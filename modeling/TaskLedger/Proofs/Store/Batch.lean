/-
**Batches before a store looks at them.** How a call names the tasks of a batch, and which task makes
it invalid.

* `Ambient.idOf` — the identifier under which a task of a batch is written: its own, else a fresh one.
* `Ambient.Fresh` — the identifiers that a call generates for a batch are not in use: not stored, not
  in the batch, and no two of them equal.
* `named_ids_perm` — the identifiers of a named batch are those given and those generated.
* `Task.validate_eq_ok_iff` — when a task is fit to be written.
* `firstInvalid?_eq_none_iff`, `firstInvalid?_eq_some_iff` — a batch is refused for the first of its
  tasks that is not fit to be written, and only then.
-/
import TaskLedger.Store.Memory
import Mathlib.Data.List.Perm.Basic

namespace TaskLedger

/-! ### Naming -/

namespace Ambient

/-- The identifier under which a call writes a task that stands at a place of a batch. -/
def idOf (call : Ambient) (entry : Task × Nat) : TaskId :=
  entry.1.id.getD (.ofRandom (call.random entry.2))

/-- The task with its identifier. -/
def withId (call : Ambient) (entry : Task × Nat) : Task :=
  { entry.1 with id := some (call.idOf entry) }

theorem named_eq (call : Ambient) (batch : List Task) :
    call.named batch = batch.zipIdx.map fun entry => (call.idOf entry, call.withId entry) := rfl

theorem mem_named {call : Ambient} {batch : List Task} {entry : Task × Nat}
    (member : entry ∈ batch.zipIdx) : (call.idOf entry, call.withId entry) ∈ call.named batch :=
  List.mem_map_of_mem member

theorem idOf_of_some {call : Ambient} {entry : Task × Nat} {id : TaskId}
    (given : entry.1.id = some id) : call.idOf entry = id := by
  rw [idOf, given, Option.getD_some]

theorem idOf_of_none {call : Ambient} {entry : Task × Nat} (missing : entry.1.id = none) :
    call.idOf entry = .ofRandom (call.random entry.2) := by
  rw [idOf, missing, Option.getD_none]

/-- The identifiers that a call generates for a batch. -/
def generated (call : Ambient) (batch : List Task) : List TaskId :=
  (batch.zipIdx.filter fun entry => entry.1.id.isNone).map fun entry =>
    .ofRandom (call.random entry.2)

/-- The identifiers that a call generates for a batch are not in use. -/
structure Fresh (call : Ambient) (batch : List Task) (store : Memory) : Prop where
  unstored : ∀ id ∈ call.generated batch, store.tasks.get? id = none
  ungiven : ∀ id ∈ call.generated batch, ∀ task ∈ batch, task.id ≠ some id
  distinct : (call.generated batch).Nodup

theorem idOf_mem_generated {call : Ambient} {batch : List Task} {entry : Task × Nat}
    (member : entry ∈ batch.zipIdx) (missing : entry.1.id = none) :
    call.idOf entry ∈ call.generated batch := by
  rw [idOf_of_none missing]
  exact List.mem_map.2 ⟨entry, List.mem_filter.2 ⟨member, by rw [missing]; rfl⟩, rfl⟩

theorem ids_perm (call : Ambient) (entries : List (Task × Nat)) :
    (entries.map call.idOf).Perm
      (entries.filterMap (fun entry => entry.1.id) ++
        (entries.filter fun entry => entry.1.id.isNone).map fun entry =>
          .ofRandom (call.random entry.2)) := by
  induction entries with
  | nil => exact .nil
  | cons entry rest ih =>
    cases given : entry.1.id with
    | some id =>
      rw [List.map_cons, idOf_of_some given, List.filterMap_cons,
        List.filter_cons_of_neg (by simp [given])]
      simp only [given, List.cons_append]
      exact ih.cons id
    | none =>
      rw [List.map_cons, idOf_of_none given, List.filterMap_cons,
        List.filter_cons_of_pos (by simp [given]), List.map_cons]
      simp only [given]
      exact (ih.cons _).trans List.perm_middle.symm

/-- **The identifiers of a named batch** are those given and those generated. -/
theorem named_ids_perm (call : Ambient) (batch : List Task) :
    ((call.named batch).map (·.1)).Perm (batch.filterMap (·.id) ++ call.generated batch) := by
  have given : batch.zipIdx.filterMap (fun entry => entry.1.id) = batch.filterMap (·.id) := by
    conv_rhs => rw [← List.zipIdx_map_fst 0 batch]
    rw [List.filterMap_map]
    rfl
  have perm := ids_perm call batch.zipIdx
  rw [given] at perm
  rw [named_eq, List.map_map]
  exact perm

/-- With fresh identifiers, a named batch repeats one exactly when the batch as given does. -/
theorem named_nodup_iff {call : Ambient} {batch : List Task} {store : Memory}
    (fresh : call.Fresh batch store) :
    ((call.named batch).map (·.1)).Nodup ↔ (batch.filterMap (·.id)).Nodup := by
  rw [(call.named_ids_perm batch).nodup_iff, List.nodup_append]
  constructor
  · exact fun parts => parts.1
  · intro given
    refine ⟨given, fresh.distinct, ?_⟩
    rintro id inBatch _ inGenerated rfl
    obtain ⟨task, member, own⟩ := List.mem_filterMap.1 inBatch
    exact fresh.ungiven id inGenerated task member own

/-! ### The start of a batch -/

/-- The start of a batch is named alike whatever follows. -/
theorem named_append (call : Ambient) (front : List Task) (task : Task) (back : List Task) :
    call.named (front ++ task :: back) =
      call.named front ++ (call.idOf (task, front.length), call.withId (task, front.length)) ::
        (back.zipIdx (front.length + 1)).map fun entry => (call.idOf entry, call.withId entry) := by
  rw [named_eq, named_eq, List.zipIdx_append, List.map_append, Nat.zero_add, List.zipIdx_cons,
    List.map_cons]

/-- A named batch splits where the batch does. -/
theorem exists_split_of_named {call : Ambient} {batch : List Task}
    {front back : List (TaskId × Task)} {id : TaskId} {task : Task}
    (split : call.named batch = front ++ (id, task) :: back) :
    ∃ front' task' back', batch = front' ++ task' :: back' ∧ front = call.named front' ∧
      id = call.idOf (task', front'.length) ∧ task = call.withId (task', front'.length) := by
  have inside : front.length < batch.length := by
    have total := congrArg List.length split
    simp only [named_eq, List.length_map, List.length_zipIdx, List.length_append,
      List.length_cons] at total
    omega
  have whole : batch = batch.take front.length ++ batch[front.length] ::
      batch.drop (front.length + 1) := by
    rw [List.getElem_cons_drop, List.take_append_drop]
  have short : (batch.take front.length).length = front.length := List.length_take_of_le (Nat.le_of_lt inside)
  rw [whole, named_append] at split
  have same : (call.named (batch.take front.length)).length = front.length := by
    rw [named_eq, List.length_map, List.length_zipIdx, short]
  obtain ⟨starts, ends⟩ := List.append_inj split same
  obtain ⟨pair, -⟩ := List.cons.inj ends
  obtain ⟨ids, tasks⟩ := Prod.mk.inj pair
  exact ⟨_, _, _, whole, starts.symm, ids.symm, tasks.symm⟩

theorem generated_append (call : Ambient) (front back : List Task) :
    call.generated (front ++ back) =
      call.generated front ++
        ((back.zipIdx front.length).filter fun entry => entry.1.id.isNone).map fun entry =>
          .ofRandom (call.random entry.2) := by
  rw [generated, generated, List.zipIdx_append, List.filter_append, List.map_append, Nat.zero_add]

theorem Fresh.front {call : Ambient} {front back : List Task} {store : Memory}
    (fresh : call.Fresh (front ++ back) store) : call.Fresh front store := by
  have part : call.generated front ⊆ call.generated (front ++ back) := by
    rw [generated_append]
    exact List.subset_append_left _ _
  refine ⟨fun id member => fresh.unstored id (part member), fun id member task inFront =>
    fresh.ungiven id (part member) task (List.mem_append_left _ inFront), ?_⟩
  have distinct := fresh.distinct
  rw [generated_append] at distinct
  exact (List.nodup_append.1 distinct).1

/-- With fresh identifiers, a task of a batch repeats one exactly when a task before it was given the
same. -/
theorem idOf_mem_front_iff {call : Ambient} {front : List Task} {task : Task} {back : List Task}
    {store : Memory} (fresh : call.Fresh (front ++ task :: back) store) :
    call.idOf (task, front.length) ∈ (call.named front).map (·.1) ↔
      ∃ earlier ∈ front, earlier.id = some (call.idOf (task, front.length)) := by
  rw [(call.named_ids_perm front).mem_iff, List.mem_append, List.mem_filterMap]
  constructor
  · rintro (given | inFront)
    · exact given
    · exfalso
      cases own : (task, front.length).1.id with
      | some id =>
        rw [idOf_of_some own] at inFront
        have member : id ∈ call.generated (front ++ task :: back) := by
          rw [generated_append]
          exact List.mem_append_left _ inFront
        exact fresh.ungiven id member task (by simp) own
      | none =>
        have distinct := fresh.distinct
        rw [generated_append, List.zipIdx_cons, List.filter_cons_of_pos (by rw [own]; rfl),
          List.map_cons] at distinct
        rw [idOf_of_none own] at inFront
        exact (List.nodup_append.1 distinct).2.2 _ inFront _ (.head _) rfl
  · exact .inl

end Ambient

/-! ### Validity -/

/-- **A task is fit to be written** if it has a creation time and did not finish before its start. -/
theorem Task.validate_eq_ok_iff {task : Task} :
    task.validate = .ok () ↔ task.created.isSome ∧ ∀ started finished, task.started = some started →
      task.finished = some finished → ¬finished < started := by
  unfold validate
  cases task.created with
  | none => simp
  | some created =>
    cases task.started with
    | none => simp
    | some started =>
      cases task.finished with
      | none => simp
      | some finished => simp

theorem firstInvalid?_eq_none_iff {batch : List Task} :
    firstInvalid? batch = none ↔ ∀ task ∈ batch, task.validate = .ok () := by
  induction batch with
  | nil => simp [firstInvalid?]
  | cons task rest ih =>
    rw [firstInvalid?, List.forall_mem_cons]
    cases valid : task.validate with
    | ok _ => simpa using ih
    | error cause => simp

/-- A batch is invalid for the first task that is. -/
theorem firstInvalid?_eq_some_iff {batch : List Task} {error : StoreError} :
    firstInvalid? batch = some error ↔
      ∃ front task back cause, batch = front ++ task :: back ∧
        (∀ earlier ∈ front, earlier.validate = .ok ()) ∧ task.validate = .error cause ∧
        error = .invalid cause := by
  induction batch with
  | nil => simp [firstInvalid?]
  | cons task rest ih =>
    rw [firstInvalid?]
    cases valid : task.validate with
    | error cause =>
      simp only [Option.some.injEq]
      constructor
      · rintro rfl
        exact ⟨[], task, rest, cause, rfl, by simp, valid, rfl⟩
      · rintro ⟨front, first, back, cause', split, earlier, invalid, rfl⟩
        cases front with
        | nil =>
          obtain ⟨rfl, rfl⟩ := List.cons.inj split
          rw [valid] at invalid
          rw [Except.error.inj invalid]
        | cons head front =>
          obtain ⟨rfl, -⟩ := List.cons.inj split
          rw [earlier task (.head _)] at valid
          cases valid
    | ok _ =>
      simp only [ih]
      constructor
      · rintro ⟨front, first, back, cause, rfl, earlier, invalid, rfl⟩
        exact ⟨task :: front, first, back, cause, rfl, List.forall_mem_cons.2 ⟨valid, earlier⟩,
          invalid, rfl⟩
      · rintro ⟨front, first, back, cause, split, earlier, invalid, rfl⟩
        cases front with
        | nil =>
          obtain ⟨rfl, rfl⟩ := List.cons.inj split
          rw [valid] at invalid
          cases invalid
        | cons head front =>
          obtain ⟨rfl, rfl⟩ := List.cons.inj split
          exact ⟨front, first, back, cause, rfl, (List.forall_mem_cons.1 earlier).2, invalid, rfl⟩

end TaskLedger
