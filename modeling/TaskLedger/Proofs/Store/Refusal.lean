/-
**Which batches a store in memory takes.** The conditions on a batch, said without the passes that
check them, and the error of the first task that breaks one.

* `WriteAllowed`, `WriteRefused` — what the stored version, or its absence, asks of a write, and the
  error when it is not met; `checkWrite` decides between the two.
* `Memory.Accepts` — the store is open, every task is fit to be written, no identifier is given twice
  and every task is allowed by its stored version.
* `Memory.Refusal` — the error of a refused batch: the store is closed, else the first invalid task,
  else the first task that repeats an identifier or is not allowed.
* `refusal?_eq_none_iff`, `refusal?_eq_some_iff` — with fresh identifiers, a batch is taken exactly
  when it is accepted, and else refused with that error.
-/
import TaskLedger.Proofs.Store.Batch

namespace TaskLedger

/-! ### One task -/

/-- What a write asks of a task, given the stored version of it. -/
structure WriteAllowed (stored : Option Task) (task : Task) : Prop where
  /-- A task that is not stored carries no stamp. -/
  inserted : stored = none → task.stamp = none
  /-- A stored task carries the stored stamp, and a status that the stored one can become. -/
  updated : ∀ version, stored = some version →
    task.stamp = version.stamp ∧ version.status.canBecome task.status = true

/-- The error of a write that the stored version does not allow. -/
inductive WriteRefused (id : TaskId) (task : Task) : Option Task → StoreError → Prop where
  | inserted : task.stamp ≠ none → WriteRefused id task none (.concurrentUpdate id)
  | stale (version : Task) : task.stamp ≠ version.stamp →
    WriteRefused id task (some version) (.concurrentUpdate id)
  | backwards (version : Task) : task.stamp = version.stamp →
    version.status.canBecome task.status = false →
    WriteRefused id task (some version) (.invalid (.statusStep id version.status task.status))

theorem writeAllowed_none_iff {task : Task} : WriteAllowed none task ↔ task.stamp = none :=
  ⟨fun allowed => allowed.inserted rfl, fun bare => ⟨fun _ => bare, fun _ => nofun⟩⟩

theorem writeAllowed_some_iff {version task : Task} :
    WriteAllowed (some version) task ↔
      task.stamp = version.stamp ∧ version.status.canBecome task.status = true := by
  constructor
  · exact fun allowed => allowed.updated version rfl
  · intro current
    refine ⟨nofun, ?_⟩
    rintro _ ⟨⟩
    exact current

instance decidableWriteAllowed (task : Task) :
    (stored : Option Task) → Decidable (WriteAllowed stored task)
  | none => decidable_of_iff _ writeAllowed_none_iff.symm
  | some _ => decidable_of_iff _ writeAllowed_some_iff.symm

theorem checkWrite_eq_ok_iff {id : TaskId} {stored : Option Task} {task : Task} :
    checkWrite id stored task = .ok () ↔ WriteAllowed stored task := by
  cases stored with
  | none =>
    rw [writeAllowed_none_iff, checkWrite]
    cases task.stamp <;> simp
  | some version =>
    rw [writeAllowed_some_iff, checkWrite]
    by_cases current : version.stamp = task.stamp
    · simp [current]
    · simp [current, Ne.symm current]

theorem checkWrite_eq_error_iff {id : TaskId} {stored : Option Task} {task : Task}
    {error : StoreError} :
    checkWrite id stored task = .error error ↔ WriteRefused id task stored error := by
  constructor
  · intro refused
    cases stored with
    | none =>
      rw [checkWrite] at refused
      split at refused
      · cases refused
      · rename_i stamped
        cases refused
        exact .inserted (by simpa using stamped)
    | some version =>
      rw [checkWrite] at refused
      split at refused
      · rename_i stale
        cases refused
        exact .stale version (Ne.symm stale)
      · rename_i current
        split at refused
        · cases refused
        · rename_i step
          cases refused
          exact .backwards version (Decidable.not_not.1 current).symm (by simpa using step)
  · intro refused
    cases refused with
    | inserted stamped => rw [checkWrite, if_neg (by simpa using stamped)]
    | stale version stale => rw [checkWrite, if_pos (Ne.symm stale)]
    | backwards version current step =>
      rw [checkWrite, if_neg (by simp [current]), if_neg (by simp [step])]

namespace Memory

/-! ### A named batch -/

theorem conflict?_eq_none_iff {store : Memory} {earlier : List TaskId}
    {entries : List (TaskId × Task)} :
    store.conflict? earlier entries = none ↔
      (∀ entry ∈ entries, entry.1 ∉ earlier) ∧ (entries.map (·.1)).Nodup ∧
        ∀ entry ∈ entries, WriteAllowed (store.tasks.get? entry.1) entry.2 := by
  induction entries generalizing earlier with
  | nil => simp [conflict?]
  | cons entry rest ih =>
    obtain ⟨id, task⟩ := entry
    rw [conflict?, List.forall_mem_cons, List.forall_mem_cons, List.map_cons, List.nodup_cons]
    by_cases repeated : id ∈ earlier
    · simp [repeated]
    · rw [if_neg repeated]
      cases checked : checkWrite id (store.tasks.get? id) task with
      | error error =>
        have refused : ¬WriteAllowed (store.tasks.get? id) task := fun allowed => by
          rw [checkWrite_eq_ok_iff.2 allowed] at checked
          cases checked
        simp [refused]
      | ok _ =>
        have allowed := checkWrite_eq_ok_iff.1 checked
        simp only [ih, List.mem_cons, not_or, List.mem_map, not_exists, not_and]
        grind

/-- The end of a batch is looked at when its start is allowed. -/
theorem conflict?_append (store : Memory) (earlier : List TaskId)
    (front back : List (TaskId × Task)) :
    store.conflict? earlier (front ++ back) =
      (store.conflict? earlier front).or
        (store.conflict? ((front.map (·.1)).reverse ++ earlier) back) := by
  induction front generalizing earlier with
  | nil => rfl
  | cons entry rest ih =>
    obtain ⟨id, task⟩ := entry
    rw [List.cons_append, conflict?, conflict?]
    by_cases repeated : id ∈ earlier
    · rw [if_pos repeated, if_pos repeated]
      rfl
    · rw [if_neg repeated, if_neg repeated]
      cases checkWrite id (store.tasks.get? id) task with
      | error error => rfl
      | ok _ => simp only [ih, List.map_cons, List.reverse_cons, List.append_assoc, List.cons_append,
          List.nil_append]

/-- A conflict is that of one task, the ones before it being allowed. -/
theorem conflict?_eq_some_iff {store : Memory} {earlier : List TaskId}
    {entries : List (TaskId × Task)} {error : StoreError} :
    store.conflict? earlier entries = some error ↔
      ∃ front id task back, entries = front ++ (id, task) :: back ∧
        store.conflict? earlier front = none ∧
        (id ∈ front.map (·.1) ++ earlier ∧ error = .concurrentUpdate id ∨
          id ∉ front.map (·.1) ++ earlier ∧
            WriteRefused id task (store.tasks.get? id) error) := by
  constructor
  · intro found
    induction entries generalizing earlier with
    | nil => cases found
    | cons entry rest ih =>
      obtain ⟨id, task⟩ := entry
      rw [conflict?] at found
      split at found
      · rename_i repeated
        exact ⟨[], id, task, rest, rfl, rfl, .inl ⟨repeated, (Option.some.inj found).symm⟩⟩
      · rename_i single
        split at found
        · rename_i cause refused
          rw [checkWrite_eq_error_iff] at refused
          exact ⟨[], id, task, rest, rfl, rfl, .inr ⟨single, Option.some.inj found ▸ refused⟩⟩
        · rename_i allowed
          obtain ⟨front, id', task', back, rfl, quiet, cause⟩ := ih found
          refine ⟨(id, task) :: front, id', task', back, rfl, ?_, ?_⟩
          · rw [conflict?, if_neg single, allowed]
            exact quiet
          · simpa [or_left_comm, or_assoc, and_assoc, and_left_comm] using cause
  · rintro ⟨front, id, task, back, rfl, quiet, cause⟩
    rw [conflict?_append, quiet, Option.none_or, conflict?]
    have same : id ∈ (front.map (·.1)).reverse ++ earlier ↔ id ∈ front.map (·.1) ++ earlier := by
      simp
    rcases cause with ⟨repeated, rfl⟩ | ⟨single, refused⟩
    · rw [if_pos (same.2 repeated)]
    · rw [if_neg (mt same.1 single), checkWrite_eq_error_iff.2 refused]

/-! ### A batch as it is given -/

/-- The stored version of a task. -/
def storedFor (store : Memory) (task : Task) : Option Task :=
  task.id.bind store.tasks.get?

/-- What a store asks of a batch. -/
structure Accepts (store : Memory) (batch : List Task) : Prop where
  isOpen : store.closed = false
  valid : ∀ task ∈ batch, task.validate = .ok ()
  /-- No identifier is given twice. -/
  distinct : (batch.filterMap (·.id)).Nodup
  allowed : ∀ task ∈ batch, WriteAllowed (store.storedFor task) task

theorem accepts_iff {store : Memory} {batch : List Task} :
    store.Accepts batch ↔
      store.closed = false ∧ (∀ task ∈ batch, task.validate = .ok ()) ∧
        (batch.filterMap (·.id)).Nodup ∧
        ∀ task ∈ batch, WriteAllowed (store.storedFor task) task :=
  ⟨fun accepts => ⟨accepts.isOpen, accepts.valid, accepts.distinct, accepts.allowed⟩,
    fun ⟨isOpen, valid, distinct, allowed⟩ => ⟨isOpen, valid, distinct, allowed⟩⟩

instance (store : Memory) (batch : List Task) : Decidable (store.Accepts batch) :=
  decidable_of_iff _ accepts_iff.symm

/-- Why a store refuses a batch: it is closed, else the first task that is not fit to be written, else
the first task that repeats an identifier or is not allowed. -/
inductive Refusal (store : Memory) (call : Ambient) (batch : List Task) : StoreError → Prop where
  | closed : store.closed = true → Refusal store call batch .closed
  | invalid (front : List Task) (task : Task) (back : List Task) (cause : InvalidTask) :
    store.closed = false → batch = front ++ task :: back →
    (∀ earlier ∈ front, earlier.validate = .ok ()) → task.validate = .error cause →
    Refusal store call batch (.invalid cause)
  | repeated (front : List Task) (task : Task) (back : List Task) :
    (∀ other ∈ batch, other.validate = .ok ()) → batch = front ++ task :: back →
    store.Accepts front →
    (∃ earlier ∈ front, earlier.id = some (call.idOf (task, front.length))) →
    Refusal store call batch (.concurrentUpdate (call.idOf (task, front.length)))
  | notAllowed (front : List Task) (task : Task) (back : List Task) (error : StoreError) :
    (∀ other ∈ batch, other.validate = .ok ()) → batch = front ++ task :: back →
    store.Accepts front →
    (∀ earlier ∈ front, earlier.id ≠ some (call.idOf (task, front.length))) →
    WriteRefused (call.idOf (task, front.length)) task (store.storedFor task) error →
    Refusal store call batch error

section Named

variable {store : Memory} {call : Ambient} {batch : List Task}

theorem get?_idOf (fresh : call.Fresh batch store) {entry : Task × Nat}
    (member : entry ∈ batch.zipIdx) :
    store.tasks.get? (call.idOf entry) = store.storedFor entry.1 := by
  cases own : entry.1.id with
  | some id => rw [Ambient.idOf_of_some own, storedFor, own, Option.bind_some]
  | none =>
    rw [fresh.unstored _ (Ambient.idOf_mem_generated member own), storedFor, own, Option.bind_none]

/-- What is asked of a named task is asked of the task as given. -/
theorem writeAllowed_withId {stored : Option Task} {entry : Task × Nat} :
    WriteAllowed stored (call.withId entry) ↔ WriteAllowed stored entry.1 := by
  cases stored with
  | none => rw [writeAllowed_none_iff, writeAllowed_none_iff, Ambient.withId]
  | some version => rw [writeAllowed_some_iff, writeAllowed_some_iff, Ambient.withId]

theorem writeRefused_withId {id : TaskId} {stored : Option Task} {entry : Task × Nat}
    {error : StoreError} :
    WriteRefused id (call.withId entry) stored error ↔ WriteRefused id entry.1 stored error := by
  rw [← checkWrite_eq_error_iff, ← checkWrite_eq_error_iff]
  cases stored <;> rfl

theorem conflict?_named_eq_none_iff (fresh : call.Fresh batch store) :
    store.conflict? [] (call.named batch) = none ↔
      (batch.filterMap (·.id)).Nodup ∧
        ∀ task ∈ batch, WriteAllowed (store.storedFor task) task := by
  rw [conflict?_eq_none_iff, Ambient.named_nodup_iff fresh]
  constructor
  · rintro ⟨-, distinct, each⟩
    refine ⟨distinct, fun task member => ?_⟩
    obtain ⟨place, found⟩ := List.mem_iff_getElem?.1 member
    have entry : (task, place) ∈ batch.zipIdx := List.mk_mem_zipIdx_iff_getElem?.2 found
    have allowed := each _ (Ambient.mem_named entry)
    rwa [get?_idOf fresh entry, writeAllowed_withId] at allowed
  · rintro ⟨distinct, each⟩
    refine ⟨fun _ _ => List.not_mem_nil, distinct, ?_⟩
    rw [Ambient.named_eq, List.forall_mem_map]
    intro entry member
    rw [get?_idOf fresh member, writeAllowed_withId]
    exact each entry.1 (List.fst_mem_of_mem_zipIdx member)

/-- The first offence of a batch, in terms of the tasks as given. -/
theorem conflict?_named_eq_some_iff (fresh : call.Fresh batch store) {error : StoreError} :
    store.conflict? [] (call.named batch) = some error ↔
      ∃ front task back, batch = front ++ task :: back ∧
        (front.filterMap (·.id)).Nodup ∧
        (∀ earlier ∈ front, WriteAllowed (store.storedFor earlier) earlier) ∧
        ((∃ earlier ∈ front, earlier.id = some (call.idOf (task, front.length))) ∧
            error = .concurrentUpdate (call.idOf (task, front.length)) ∨
          (¬∃ earlier ∈ front, earlier.id = some (call.idOf (task, front.length))) ∧
            WriteRefused (call.idOf (task, front.length)) task (store.storedFor task) error) := by
  have entry (front : List Task) (task : Task) (back : List Task) :
      (task, front.length) ∈ (front ++ task :: back).zipIdx :=
    List.mk_mem_zipIdx_iff_getElem?.2 (by simp)
  rw [conflict?_eq_some_iff]
  constructor
  · rintro ⟨_, _, _, _, split, quiet, cause⟩
    obtain ⟨front, task, back, rfl, rfl, rfl, rfl⟩ := Ambient.exists_split_of_named split
    obtain ⟨distinct, allowed⟩ := (conflict?_named_eq_none_iff fresh.front).1 quiet
    rw [List.append_nil, Ambient.idOf_mem_front_iff fresh, get?_idOf fresh (entry front task back),
      writeRefused_withId] at cause
    exact ⟨front, task, back, rfl, distinct, allowed, cause⟩
  · rintro ⟨front, task, back, rfl, distinct, allowed, cause⟩
    have quiet := (conflict?_named_eq_none_iff fresh.front).2 ⟨distinct, allowed⟩
    refine ⟨_, _, _, _, call.named_append front task back, quiet, ?_⟩
    rw [List.append_nil, Ambient.idOf_mem_front_iff fresh, get?_idOf fresh (entry front task back),
      writeRefused_withId]
    exact cause

/-- An open store refuses a valid batch for a conflict only. -/
theorem refusal?_of_valid (isOpen : store.closed = false)
    (valid : ∀ task ∈ batch, task.validate = .ok ()) :
    store.refusal? call batch = store.conflict? [] (call.named batch) := by
  rw [refusal?, isOpen, if_neg Bool.false_ne_true, firstInvalid?_eq_none_iff.2 valid]

theorem refusal?_of_invalid (isOpen : store.closed = false) {error : StoreError}
    (invalid : firstInvalid? batch = some error) : store.refusal? call batch = some error := by
  rw [refusal?, isOpen, if_neg Bool.false_ne_true, invalid]

/-- **A batch is taken exactly when it is accepted.** -/
theorem refusal?_eq_none_iff (fresh : call.Fresh batch store) :
    store.refusal? call batch = none ↔ store.Accepts batch := by
  constructor
  · intro taken
    cases closed : store.closed with
    | true => rw [refusal?, if_pos closed] at taken; cases taken
    | false =>
      cases invalid : firstInvalid? batch with
      | some error => rw [refusal?_of_invalid closed invalid] at taken; cases taken
      | none =>
        have valid := firstInvalid?_eq_none_iff.1 invalid
        rw [refusal?_of_valid closed valid] at taken
        obtain ⟨distinct, allowed⟩ := (conflict?_named_eq_none_iff fresh).1 taken
        exact ⟨closed, valid, distinct, allowed⟩
  · intro accepts
    rw [refusal?_of_valid accepts.isOpen accepts.valid]
    exact (conflict?_named_eq_none_iff fresh).2 ⟨accepts.distinct, accepts.allowed⟩

/-- **A refused batch names the error of its first offence.** -/
theorem refusal?_eq_some_iff (fresh : call.Fresh batch store) {error : StoreError} :
    store.refusal? call batch = some error ↔ store.Refusal call batch error := by
  constructor
  · intro refused
    cases closed : store.closed with
    | true =>
      rw [refusal?, if_pos closed] at refused
      cases refused
      exact .closed closed
    | false =>
      cases invalid : firstInvalid? batch with
      | some cause =>
        rw [refusal?_of_invalid closed invalid] at refused
        cases refused
        obtain ⟨front, task, back, cause, split, valid, broken, rfl⟩ :=
          firstInvalid?_eq_some_iff.1 invalid
        exact .invalid front task back cause closed split valid broken
      | none =>
        have valid := firstInvalid?_eq_none_iff.1 invalid
        rw [refusal?_of_valid closed valid] at refused
        obtain ⟨front, task, back, rfl, distinct, allowed, cause⟩ :=
          (conflict?_named_eq_some_iff fresh).1 refused
        have accepts : store.Accepts front :=
          ⟨closed, fun other member => valid other (List.mem_append_left _ member), distinct,
            allowed⟩
        rcases cause with ⟨earlier, rfl⟩ | ⟨single, refused⟩
        · exact .repeated front task back valid rfl accepts earlier
        · exact .notAllowed front task back error valid rfl accepts
            (fun earlier member same => single ⟨earlier, member, same⟩) refused
  · intro refusal
    cases refusal with
    | closed closed => rw [refusal?, if_pos closed]
    | invalid front task back cause isOpen split valid broken =>
      exact refusal?_of_invalid isOpen
        (firstInvalid?_eq_some_iff.2 ⟨front, task, back, cause, split, valid, broken, rfl⟩)
    | repeated front task back valid split accepts earlier =>
      rw [refusal?_of_valid accepts.isOpen valid]
      exact (conflict?_named_eq_some_iff fresh).2
        ⟨front, task, back, split, accepts.distinct, accepts.allowed, .inl ⟨earlier, rfl⟩⟩
    | notAllowed front task back _ valid split accepts single refused =>
      rw [refusal?_of_valid accepts.isOpen valid]
      refine (conflict?_named_eq_some_iff fresh).2
        ⟨front, task, back, split, accepts.distinct, accepts.allowed, .inr ⟨?_, refused⟩⟩
      rintro ⟨earlier, member, same⟩
      exact single earlier member same

end Named

end Memory

end TaskLedger
