/-
**No update is lost.** Whatever the clients and the clock do, the commits of a store keep every version
of a task on one line, and of the writes that start from one version only one is taken.

* `eq_nil_of_last` — a version with the stamp of the last one is the last one.
* `Lineage.base_ne_last` — no version is made from the last one yet.
* `Memory.NoLostUpdate`, `no_lost_update` — the statement, for every run whose stamps have not reached
  the end of the range.
* `stale_write_taken_or_other_error` — its limits: at the end of the range an update can be lost, and
  what else is wrong with a write comes before a conflict.
-/
import TaskLedger.Proofs.Store.Tracked

namespace TaskLedger

open Time (Instant)

/-! ### The last version -/

/-- The version that has the stamp of the last one is the last one. -/
theorem eq_nil_of_last {before later : List Version} {version : Version}
    (increasing : (before ++ version :: later).Pairwise fun v w => v.stamp < w.stamp)
    (last : (before ++ version :: later).getLast?.map (·.stamp) = some version.stamp) :
    later = [] := by
  rcases List.eq_nil_or_concat' later with rfl | ⟨rest, newest, rfl⟩
  · rfl
  -- A version after it would have a later stamp than the last one has.
  · exfalso
    have after := (List.pairwise_append.1 increasing).2.1
    have less : version.stamp < newest.stamp :=
      List.rel_of_pairwise_cons after List.mem_concat_self
    rw [← List.cons_append, ← List.append_assoc, List.getLast?_concat, Option.map_some, Option.some.injEq] at last
    exact absurd last (ne_of_gt less)

/-- No version is made from the last one. -/
theorem Lineage.base_ne_last {versions : List Version} (lineage : Lineage versions)
    (increasing : versions.Pairwise fun v w => v.stamp < w.stamp) {version : Version}
    (member : version ∈ versions) : version.base ≠ versions.getLast?.map (·.stamp) := by
  obtain ⟨place, inside, rfl⟩ := List.getElem_of_mem member
  have last : versions.getLast? = some versions[versions.length - 1] := by
    rw [List.getLast?_eq_getElem?, List.getElem?_eq_getElem (by omega)]
  rw [last, Option.map_some]
  cases place with
  | zero =>
    rw [lineage.base_zero inside]
    exact nofun
  | succ place =>
    rw [lineage.base_succ inside]
    have stamps := List.pairwise_iff_getElem.1 increasing place (versions.length - 1) (by omega)
      (by omega) (by omega)
    exact fun same => absurd (Option.some.inj same) (ne_of_lt stamps)

namespace Memory

/-! ### Writes that start from a version -/

section Writes

variable {past : List Commit} {store : Memory} {call : Ambient}

/-- A write that is taken starts from the current version. -/
theorem Tracked.current_of_base (tracked : Tracked past store)
    (ordered : past.Pairwise fun earlier later => earlier.stamp < later.stamp)
    {batch : List Task} (taken : store.refusal? call batch = none) {new : Version}
    (written : new ∈ (store.commitOf call batch).versions) {before later : List Version}
    {version : Version} (split : versions past = before ++ version :: later)
    (sameTask : new.id = version.id) (base : new.base = some version.stamp) :
    store.tasks.get? version.id = some version.task ∧ ∀ other ∈ later, other.id ≠ version.id := by
  have current := tracked.current (isOpen_of_taken taken) version.id
  have parts : versionsOf version.id past = before.filter (fun other => other.id = version.id) ++
      version :: later.filter fun other => other.id = version.id := by
    rw [versionsOf, split, List.filter_append, List.filter_cons_of_pos (by simp)]
  have increasing := tracked.increasing ordered version.id
  have last : (versionsOf version.id past).getLast?.map (·.stamp) = some version.stamp := by
    rw [← base, base_of_mem_commitOf taken written, sameTask, current, Option.bind_map,
      Option.map_eq_bind]
    rfl
  rw [parts] at increasing last
  have newest := eq_nil_of_last increasing last
  constructor
  · rw [current, parts, newest, List.getLast?_concat, Option.map_some]
  · intro other member
    simpa using List.filter_eq_nil_iff.1 newest other member

/-- A write that starts where a version did is refused. -/
theorem Tracked.refusal?_of_used (tracked : Tracked past store)
    (ordered : past.Pairwise fun earlier later => earlier.stamp < later.stamp)
    {front back : List Task} {task : Task} {version : Version}
    (member : version ∈ versions past) (sameTask : task.id = some version.id)
    (base : task.stamp = version.base) :
    ∃ error, store.refusal? call (front ++ task :: back) = some error ∧
      ((∀ other ∈ front ++ task :: back, other.validate = .ok ()) →
        store.refusal? call front = none → error = .concurrentUpdate version.id) := by
  have named : call.idOf (task, front.length) = version.id := Ambient.idOf_of_some sameTask
  -- The stored version is not the one that the write starts from.
  have stale (isOpen : store.closed = false) :
      checkWrite version.id (store.tasks.get? version.id) (call.withId (task, front.length)) =
        .error (.concurrentUpdate version.id) := by
    refine checkWrite_of_stamp_ne ?_
    show task.stamp ≠ _
    have used := (tracked.lineage version.id).base_ne_last (tracked.increasing ordered version.id)
      (mem_versionsOf.2 ⟨member, rfl⟩)
    rw [tracked.current isOpen, Option.bind_map, base]
    rw [Option.map_eq_bind] at used
    exact used
  cases refused : store.refusal? call (front ++ task :: back) with
  | none =>
    exfalso
    have quiet := conflict?_of_taken refused
    rw [Ambient.named_append, conflict?_append, Option.or_eq_none_iff] at quiet
    have single := quiet.2
    rw [conflict?, named, stale (isOpen_of_taken refused)] at single
    split at single <;> cases single
  | some error =>
    refine ⟨error, rfl, fun valid quiet => ?_⟩
    have isOpen := isOpen_of_taken quiet
    rw [refusal?_of_valid isOpen valid, Ambient.named_append, conflict?_append,
      conflict?_of_taken quiet, Option.none_or, conflict?, named, stale isOpen] at refused
    split at refused <;> cases refused <;> rfl

end Writes

/-! ### The theorem -/

/-- No update of a task is lost. -/
structure NoLostUpdate (history : List Commit) (store : Memory) : Prop where
  /-- The versions of a task form one chain, each made from the one before it. -/
  lineage : ∀ id, Lineage (versionsOf id history)
  increasing : ∀ id, (versionsOf id history).Pairwise fun v w => v.stamp < w.stamp
  /-- A write that is taken starts from the version that is current: from the one that is stored, and
  after which there is no other. -/
  current : ∀ call batch, (∃ answer, (store.put call batch).1 = .ok answer) →
    ∀ new ∈ (store.commitOf call batch).versions, ∀ before version later,
      versions history = before ++ version :: later → new.id = version.id →
      new.base = some version.stamp →
      store.tasks.get? version.id = some version.task ∧ ∀ other ∈ later, other.id ≠ version.id
  /-- Of the writes that start from one version at most one is taken, and so of the insertions. -/
  once : (versions history).Pairwise fun v w => v.id = w.id → v.base ≠ w.base
  /-- Every later write that starts there fails and changes nothing. The error is that of a concurrent
  update, unless the store is closed, a task of the batch is not fit to be written or the tasks before
  it are refused. -/
  refused : ∀ call front task back, ∀ version ∈ versions history,
    task.id = some version.id → task.stamp = version.base →
    ∃ error, store.put call (front ++ task :: back) = (.error error, store) ∧
      ((∀ other ∈ front ++ task :: back, other.validate = .ok ()) →
        store.refusal? call front = none → error = .concurrentUpdate version.id)

/-- **No update is lost**, for any clients, any order of their calls and any clock, while the stamps
have not reached the end of the range of instants. -/
theorem no_lost_update {config : StoreConfig} {events : List Event}
    (unending : ∀ commit ∈ (ofConfig config).history events, ¬commit.stamp.IsLast) :
    NoLostUpdate ((ofConfig config).history events) ((ofConfig config).after events) := by
  have stamped := stamped_run (stamped_ofConfig config) events
  have tracked := tracked_run (tracked_ofConfig config) events
  rw [List.nil_append] at stamped tracked
  have ordered := stamped.pairwise unending
  refine ⟨tracked.lineage, tracked.increasing ordered, ?_, ?_, ?_⟩
  · rintro call batch ⟨answer, written⟩ new member before version later split sameTask base
    exact tracked.current_of_base ordered (refusal?_of_put_ok written) member split sameTask base
  · exact pairwise_versions_iff.2 fun id =>
      (tracked.lineage id).pairwise_base_ne (tracked.increasing ordered id)
  · intro call front task back version member sameTask base
    obtain ⟨error, refused, cause⟩ := tracked.refusal?_of_used ordered member sameTask base
    exact ⟨error, put_of_refused refused, cause⟩

/-- Two tasks are written, the second one is done; then the first is written once more. -/
def contested : List Event :=
  [.putAt .epoch [writeOf ⟨"a"⟩ none, { writeOf ⟨"b"⟩ none with status := .success }],
    .putAt .epoch [writeOf ⟨"a"⟩ (some .epoch)]]

/-- Of two writers that start from one version, the second one is refused. -/
theorem second_writer_refused :
    (∀ commit ∈ (ofConfig .standard).history contested, ¬commit.stamp.IsLast) ∧
    ((ofConfig .standard).after contested).put ⟨.epoch, fun place => place⟩
        [writeOf ⟨"a"⟩ (some .epoch)] =
      (.error (.concurrentUpdate ⟨"a"⟩), (ofConfig .standard).after contested) := by
  have unending : ∀ commit ∈ (ofConfig .standard).history contested, ¬commit.stamp.IsLast := by
    decide
  refine ⟨unending, ?_⟩
  have first : ⟨⟨"a"⟩, writeOf ⟨"a"⟩ (some .epoch), nextStamp (some .epoch) .epoch⟩ ∈
      versions ((ofConfig .standard).history contested) := by decide
  obtain ⟨error, failed, cause⟩ := (no_lost_update unending).refused ⟨.epoch, fun place => place⟩
    [] (writeOf ⟨"a"⟩ (some .epoch)) [] _ first rfl rfl
  rw [← cause (by decide) rfl]
  exact failed

/-- The limits of the theorem. With the clock stopped at the end of the range, at either of the two
instants, two writes that start from one version are both taken. And a write that starts from an old version fails with
another error when its task is not fit to be written, when a task before it goes back to an earlier
status, and when the store is closed. -/
theorem stale_write_taken_or_other_error :
    (∀ now ∈ [Instant.last, .lastLeap], (versions ((ofConfig .standard).history
        [.putAt now [writeOf ⟨"a"⟩ none], .putAt now [writeOf ⟨"a"⟩ (some now)],
          .putAt now [writeOf ⟨"a"⟩ (some now)]])).map (·.base) = [none, some now, some now]) ∧
    (((ofConfig .standard).after contested).put ⟨.epoch, fun place => place⟩
      [{ writeOf ⟨"a"⟩ (some .epoch) with created := none }]).1 =
      .error (.invalid (.missingCreated "a")) ∧
    (((ofConfig .standard).after contested).put ⟨.epoch, fun place => place⟩
      [writeOf ⟨"b"⟩ (some .epoch), writeOf ⟨"a"⟩ (some .epoch)]).1 =
      .error (.invalid (.statusStep ⟨"b"⟩ .success .pending)) ∧
    (((ofConfig .standard).after contested).close.2.put ⟨.epoch, fun place => place⟩
      [writeOf ⟨"a"⟩ (some .epoch)]).1 = .error .closed := by
  decide

end Memory

end TaskLedger
