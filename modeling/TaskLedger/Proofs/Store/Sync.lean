/-
**A report and the store.** A client that is alone with a store brings a report into it.

* `Host.sync` — the client reads the task that the report names and writes it back.
* `SyncEnds`, `syncEnds` — the ways in which that ends. No one comes between the read and the write, so
  the write finds the version that was read, and what it can still object to is the task itself.
* `SyncWrites`, `syncWrites_of_taken` — what it does to the store when the write is taken.
* `Synced`, `sync_exact` — a report is written by one commit of the task that it names, or changes
  nothing; and when it is brought again, it changes nothing.
-/
import TaskLedger.Proofs.Report.Stream
import TaskLedger.Proofs.Store.Conflict
import TaskLedger.Proofs.Store.Delivery
import TaskLedger.Proofs.Store.Session
import TaskLedger.Store.Sync

namespace TaskLedger

open Time (Instant)

/-! ### The calls -/

/-- A client that is alone with a store. -/
def Host.alone : Client (StateM (Host Memory)) :=
  Host.client (σ := Memory)

/-- That client brings a report into the store. -/
def Host.sync (report : Report) (host : Host Memory) : Except SyncError Bool × Host Memory :=
  syncReport Host.alone report host

/-- What is answered when the change of a task has ended. -/
def syncAnswer : Except SyncStop Task → Except SyncError Bool
  | .ok _ => .ok true
  | .error .unchanged => .ok false
  | .error (.failed cause) => .error cause

/-- What the second of the next calls draws from the surroundings, which is a write. -/
def Host.atWrite (host : Host Memory) : Ambient :=
  host.ambient (host.calls + 1)

/-- The calls that change a task: one reads it, one writes it. -/
def Host.changing (host : Host Memory) (id : TaskId) (changed : Task) : List Event :=
  [⟨host.ambient host.calls, .get id⟩, ⟨host.atWrite, .put [changed]⟩]

namespace Host

variable {host : Host Memory} {report : Report} {id : TaskId}

theorem attemptTask_alone {ε : Type} (lift : StoreError → ε) (id : TaskId)
    (change : Task → Except ε Task) (host : Host Memory) :
    attemptTask alone lift id (fun task => pure (change task)) host =
      match host.store.get id with
      | .error error => (.done (.error (lift error)), { host with calls := host.calls + 1 })
      | .ok none => (.done (.error (lift (.notFound id))), { host with calls := host.calls + 1 })
      | .ok (some task) =>
        match change task with
        | .error error => (.done (.error error), { host with calls := host.calls + 1 })
        | .ok changed =>
          let result := host.store.put host.atWrite [changed]
          (.ofWrite lift (result.1.map fun written => written.headD changed),
            ⟨result.2, host.ambient, host.calls + 2⟩) := by
  have read : alone (.get id) host =
      (host.store.get id, { host with calls := host.calls + 1 }) := rfl
  have ran (task : Task) (state : Host Memory) :
      (pure (change task) : StateM (Host Memory) (Except ε Task)) state = (change task, state) := rfl
  rw [attemptTask_apply, read]
  rcases host.store.get id with error | _ | task
  · rfl
  · rfl
  · simp only [ran]
    cases change task <;> rfl

theorem sync_of_unnamed {cause : ReportError}
    (unnamed : report.requiredTag TagKey.id = .error cause) (host : Host Memory) :
    host.sync report = (.error (.report cause), host) := by
  unfold sync syncReport
  rw [unnamed]
  rfl

/-- The first attempt is the last one if it has an answer. -/
theorem sync_of_done (named : report.requiredTag TagKey.id = .ok id.text)
    {answer : Except SyncStop Task} {next : Host Memory}
    (ended : attemptTask alone (fun cause => .failed (.store cause)) id
      (fun task => pure (report.change task)) host = (.done answer, next)) :
    host.sync report = (syncAnswer answer, next) := by
  have changed : updateTask alone (fun cause => .failed (.store cause)) id
      (fun task => pure (report.change task)) host = (answer, next) :=
    persist_of_done ended (maxAttempts - 1)
  unfold sync syncReport
  simp only [named, bind, StateT.bind, changed]
  rcases answer with (_ | cause) | written <;> rfl

end Host

/-! ### The ways in which it ends -/

/-- A report names a stored task. -/
structure Report.Finds (report : Report) (store : Memory) (id : TaskId) (stored : Task) : Prop where
  named : report.requiredTag TagKey.id = .ok id.text
  read : store.get id = .ok (some stored)

/-- A merge leaves the identifier under which a task is stored. -/
theorem Report.Finds.id_of_reconcile {past : List Commit} {store : Memory} {report : Report}
    {id : TaskId} {stored updated : Task} (finds : report.Finds store id stored)
    (tracked : Memory.Tracked past store) (merge : stored.reconcile report = .ok updated) :
    updated.id = some id := by
  obtain ⟨isOpen, found⟩ := Memory.get_eq_ok finds.read
  obtain ⟨-, -, -, named⟩ := tracked.exists_version isOpen found
  obtain ⟨reading, -, -, rfl⟩ := Task.reconcile_eq_ok_iff.1 merge
  rw [(Task.keeps_merged stored reading).id (by simp [named]), named]

/-- How a client that is alone with a store brings a report into it. -/
inductive SyncEnds (report : Report) (host : Host Memory) :
    Except SyncError Bool → Host Memory → Prop where
  | unnamed (cause : ReportError) : report.requiredTag TagKey.id = .error cause →
    SyncEnds report host (.error (.report cause)) host
  | closed (id : TaskId) : report.requiredTag TagKey.id = .ok id.text → host.store.closed = true →
    SyncEnds report host (.error (.store .closed)) { host with calls := host.calls + 1 }
  | missing (id : TaskId) : report.requiredTag TagKey.id = .ok id.text →
    host.store.get id = .ok none →
    SyncEnds report host (.error (.store (.notFound id))) { host with calls := host.calls + 1 }
  | contradicted (id : TaskId) (stored : Task) (cause : ReportError) :
    report.Finds host.store id stored → stored.applyReport report = .error cause →
    SyncEnds report host (.error (.report cause)) { host with calls := host.calls + 1 }
  | unchanged (id : TaskId) (stored : Task) : report.Finds host.store id stored →
    stored.applyReport report = .ok (false, stored) →
    SyncEnds report host (.ok false) { host with calls := host.calls + 1 }
  | invalid (id : TaskId) (stored updated : Task) (cause : InvalidTask) :
    report.Finds host.store id stored → stored.applyReport report = .ok (true, updated) →
    updated.validate = .error cause →
    SyncEnds report host (.error (.store (.invalid cause))) { host with calls := host.calls + 2 }
  | backwards (id : TaskId) (stored updated : Task) : report.Finds host.store id stored →
    stored.applyReport report = .ok (true, updated) →
    stored.status.canBecome updated.status = false →
    SyncEnds report host (.error (.store (.invalid (.statusStep id stored.status updated.status))))
      { host with calls := host.calls + 2 }
  | written (id : TaskId) (stored updated : Task) : report.Finds host.store id stored →
    stored.applyReport report = .ok (true, updated) →
    host.store.refusal? host.atWrite [updated] = none →
    SyncEnds report host (.ok true)
      ⟨host.store.after (host.changing id updated), host.ambient, host.calls + 2⟩

namespace Host

variable {host : Host Memory} {report : Report} {id : TaskId} {stored updated : Task}

/-- A report without news is answered after the read. -/
theorem sync_of_no_news (finds : report.Finds host.store id stored)
    (same : stored.reconcile report = .ok stored) :
    host.sync report = (.ok false, { host with calls := host.calls + 1 }) := by
  have applied : stored.applyReport report = .ok (false, stored) :=
    Task.applyReport_eq_ok_iff.2 ⟨same, by simp⟩
  have ended := attemptTask_alone (fun cause => SyncStop.failed (.store cause)) id report.change host
  simp only [finds.read, Report.change, applied] at ended
  exact sync_of_done finds.named ended

/-- A report with news is answered as its write is, unless that meets a conflict. -/
theorem sync_of_news (finds : report.Finds host.store id stored)
    (applied : stored.applyReport report = .ok (true, updated))
    {result : Except StoreError (List Task)} {final : Memory} {answer : Except SyncStop Task}
    (put : host.store.put host.atWrite [updated] = (result, final))
    (ended : Attempt.ofWrite (fun cause => .failed (.store cause))
      (result.map fun written => written.headD updated) = .done answer) :
    host.sync report = (syncAnswer answer, ⟨final, host.ambient, host.calls + 2⟩) := by
  refine sync_of_done finds.named ?_
  simp only [attemptTask_alone, finds.read, Report.change, applied, put, ended]

theorem sync_of_invalid (finds : report.Finds host.store id stored)
    (applied : stored.applyReport report = .ok (true, updated)) {cause : InvalidTask}
    (refused : host.store.refusal? host.atWrite [updated] = some (.invalid cause)) :
    host.sync report = (.error (.store (.invalid cause)), { host with calls := host.calls + 2 }) :=
  sync_of_news finds applied (Memory.put_of_refused refused) rfl

/-- A write that is taken comes right after the read. -/
theorem after_changing (id : TaskId)
    (taken : host.store.refusal? host.atWrite [updated] = none) :
    host.store.after (host.changing id updated) =
      host.store.commit host.atWrite (host.store.written host.atWrite [updated]) := by
  show (host.store.put host.atWrite [updated]).2 = _
  rw [Memory.put_of_taken taken]

theorem sync_of_taken (finds : report.Finds host.store id stored)
    (applied : stored.applyReport report = .ok (true, updated))
    (taken : host.store.refusal? host.atWrite [updated] = none) :
    host.sync report =
      (.ok true, ⟨host.store.after (host.changing id updated), host.ambient, host.calls + 2⟩) := by
  rw [after_changing id taken]
  exact sync_of_news finds applied (Memory.put_of_taken taken) rfl

section Ends

variable {past : List Commit} (tracked : Memory.Tracked past host.store)

include tracked

/-- What is read is still there when it is written, so only the task itself can be at fault. -/
theorem syncEnds_of_news (finds : report.Finds host.store id stored)
    (applied : stored.applyReport report = .ok (true, updated)) :
    SyncEnds report host (host.sync report).1 (host.sync report).2 := by
  obtain ⟨merge, -⟩ := Task.applyReport_eq_ok_iff.1 applied
  have write := Memory.refusal?_of_current finds.read (finds.id_of_reconcile tracked merge)
    (Task.stamp_of_reconcile merge) host.atWrite
  cases valid : updated.validate with
  | error cause =>
    rw [valid] at write
    rw [sync_of_invalid finds applied write]
    exact .invalid id stored updated cause finds applied valid
  | ok _ =>
    cases step : stored.status.canBecome updated.status with
    | false =>
      simp only [valid, step] at write
      rw [sync_of_invalid finds applied write]
      exact .backwards id stored updated finds applied step
    | true =>
      simp only [valid, step] at write
      rw [sync_of_taken finds applied write]
      exact .written id stored updated finds applied write

/-- **Bringing a report into a store ends in one of these ways.** -/
theorem syncEnds (report : Report) :
    SyncEnds report host (host.sync report).1 (host.sync report).2 := by
  cases names : report.requiredTag TagKey.id with
  | error cause =>
    rw [sync_of_unnamed names]
    exact .unnamed cause names
  | ok text =>
    have named : report.requiredTag TagKey.id = .ok (TaskId.mk text).text := names
    have attempt := attemptTask_alone (fun cause => SyncStop.failed (.store cause)) ⟨text⟩
      report.change host
    rcases read : host.store.get ⟨text⟩ with cause | _ | stored
    · obtain ⟨closed, rfl⟩ := Memory.get_eq_error read
      rw [read] at attempt
      rw [sync_of_done named attempt]
      exact .closed ⟨text⟩ named closed
    · rw [read] at attempt
      rw [sync_of_done named attempt]
      exact .missing ⟨text⟩ named read
    · have finds : report.Finds host.store ⟨text⟩ stored := ⟨named, read⟩
      rcases applied : stored.applyReport report with cause | ⟨_ | _, updated⟩
      · simp only [read, Report.change, applied] at attempt
        rw [sync_of_done named attempt]
        exact .contradicted ⟨text⟩ stored cause finds applied
      · obtain ⟨merge, same⟩ := Task.applyReport_eq_ok_iff.1 applied
        obtain rfl : updated = stored := by simpa using same
        rw [sync_of_no_news finds merge]
        exact .unchanged ⟨text⟩ updated finds applied
      · exact syncEnds_of_news tracked finds applied

end Ends

end Host

/-! ### The theorem -/

/-- A report is written: the task that it names, as the report makes it of what was stored, under a new
stamp. -/
structure SyncWrites (past : List Commit) (report : Report) (host final : Host Memory) (id : TaskId)
    (stored updated : Task) (stamp : Instant) : Prop where
  finds : report.Finds host.store id stored
  applied : stored.applyReport report = .ok (true, updated)
  calls : final = ⟨host.store.after (host.changing id updated), host.ambient, host.calls + 2⟩
  /-- One commit, and nothing in it but that task. -/
  committed : host.store.history (host.changing id updated) =
    [⟨host.atWrite.now, stamp, [⟨id, updated, stamp⟩]⟩]
  tasks : final.store.tasks = host.store.tasks.insert id { updated with stamp := some stamp }
  noEarlier : host.atWrite.now ≤ stamp
  fresh : ∀ commit ∈ past, commit.stamp < stamp
  /-- The cursors that are not idle stay registered, and each of them holds the task. -/
  recorded : final.store.feed = host.store.feed.record host.atWrite.now
    [{ updated with stamp := some stamp }]
  told : ∀ cursor state, final.store.feed.cursors.get? cursor = some state →
    { updated with stamp := some stamp } ∈ state.delivery

/-- What it means to bring a report into a store. -/
structure Synced (past : List Commit) (report : Report) (host : Host Memory)
    (answer : Except SyncError Bool) (final : Host Memory) : Prop where
  ends : SyncEnds report host answer final
  written : answer = .ok true →
    ∃ id stored updated stamp, SyncWrites past report host final id stored updated stamp
  unchanged : answer ≠ .ok true → final.store = host.store
  noConflict : ∀ id, answer ≠ .error (.store (.concurrentUpdate id))
  /-- The same report once more, at any time, has no news. -/
  repeated : ∀ wrote, answer = .ok wrote → ∀ again : Host Memory, again.store = final.store →
    again.sync report = (.ok false, { again with calls := again.calls + 1 })

section Theorem

variable {config : StoreConfig} {past : List Event} {report : Report} {host : Host Memory} {id : TaskId}
  {stored updated : Task}

theorem syncWrites_of_taken (reached : host.store = (Memory.ofConfig config).after past)
    (unending : ∀ commit ∈ (Memory.ofConfig config).history past, ¬commit.stamp.IsLast)
    (finds : report.Finds host.store id stored)
    (applied : stored.applyReport report = .ok (true, updated))
    (taken : host.store.refusal? host.atWrite [updated] = none) :
    SyncWrites ((Memory.ofConfig config).history past) report host
      ⟨host.store.after (host.changing id updated), host.ambient, host.calls + 2⟩ id stored updated
      (host.store.stampFor host.atWrite) := by
  have tracked : Memory.Tracked _ host.store := reached ▸ Memory.tracked_after config past
  have named := finds.id_of_reconcile tracked (Task.applyReport_eq_ok_iff.1 applied).1
  have after := Host.after_changing id taken
  have commits := Memory.commits_of_taken taken
  have commit : host.store.commitOf host.atWrite [updated] = ⟨host.atWrite.now,
      host.store.stampFor host.atWrite, [⟨id, updated, host.store.stampFor host.atWrite⟩]⟩ :=
    congrArg (Commit.mk _ _) (Memory.commitOf_single named)
  rw [Memory.written_single named] at after
  constructor
  case finds => exact finds
  case applied => exact applied
  case calls => rfl
  case committed =>
    rw [← commit, ← commits]
    exact List.append_nil _
  case tasks =>
    rw [after]
    exact Memory.tasks_commit host.store host.atWrite _
  case noEarlier =>
    exact le_nextStamp host.store.lastStamp host.atWrite.now
  case fresh =>
    have stamped := Memory.stamped_after config (past ++ [⟨host.atWrite, .put [updated]⟩])
    rw [Memory.history_concat, ← reached, commits] at stamped
    have ordered := stamped.pairwise_of_dropLast (by rwa [List.dropLast_concat])
    have increasing := (List.pairwise_append.1 ordered).2.2
    exact fun commit member => increasing commit member _ (List.mem_singleton_self _)
  case recorded =>
    rw [after]
    exact Memory.feed_commit host.store host.atWrite _
  case told =>
    intro cursor state found
    have member : ⟨id, updated, host.store.stampFor host.atWrite⟩ ∈
        (host.store.commitOf host.atWrite [updated]).versions := by
      rw [commit]
      exact List.mem_singleton_self _
    exact Memory.mem_delivery_of_written reached unending taken member found

/-- What was written has no more news. -/
theorem SyncWrites.sync_again {past : List Commit} {final again : Host Memory} {stamp : Instant}
    (writes : SyncWrites past report host final id stored updated stamp)
    (same : again.store = final.store) (isOpen : final.store.closed = false) :
    again.sync report = (.ok false, { again with calls := again.calls + 1 }) := by
  obtain ⟨merge, -⟩ := Task.applyReport_eq_ok_iff.1 writes.applied
  refine Host.sync_of_no_news ⟨writes.finds.named, ?_⟩ (Task.reconcile_again merge (some stamp))
  rw [same, Memory.get, isOpen, if_neg Bool.false_ne_true, writes.tasks, Table.get?_insert_self]

/-- **Syncing a report is exact and repeatable.** For a client that is alone with a store, while the stamps
have not reached the end of the range, a report is written by one commit, of the task that it names, and
every registered cursor holds what was written; or it changes nothing. There is no conflict, and a report
that was brought before has no more news. -/
theorem sync_exact (reached : host.store = (Memory.ofConfig config).after past)
    (unending : ∀ commit ∈ (Memory.ofConfig config).history past, ¬commit.stamp.IsLast) :
    Synced ((Memory.ofConfig config).history past) report host (host.sync report).1
      (host.sync report).2 := by
  have tracked : Memory.Tracked _ host.store := reached ▸ Memory.tracked_after config past
  have ends := Host.syncEnds tracked report
  generalize (host.sync report).1 = answer, (host.sync report).2 = final at ends
  constructor
  case ends => exact ends
  case written =>
    rintro rfl
    cases ends with
    | written id stored updated finds applied taken =>
      exact ⟨id, stored, updated, _, syncWrites_of_taken reached unending finds applied taken⟩
  case unchanged =>
    intro differ
    cases ends with
    | written => exact absurd rfl differ
    | _ => rfl
  case noConflict =>
    rintro id rfl
    cases ends
  case repeated =>
    rintro wrote rfl again same
    cases ends with
    | unchanged id stored finds applied =>
      refine Host.sync_of_no_news ⟨finds.named, ?_⟩ (Task.applyReport_eq_ok_iff.1 applied).1
      rw [same]
      exact finds.read
    | written id stored updated finds applied taken =>
      refine (syncWrites_of_taken reached unending finds applied taken).sync_again same ?_
      rw [Host.after_changing id taken, Memory.closed_commit]
      exact Memory.isOpen_of_taken taken

/-- A task is inserted, and a client gets a cursor. -/
def tracking : List Event :=
  [.putAt .epoch [Memory.writeOf ⟨"a"⟩ none], Memory.asked .track]

/-- A store after that. -/
def Host.watching : Host Memory :=
  ⟨(Memory.ofConfig .standard).after tracking, fun _ => ⟨.epoch, fun place => place⟩, 0⟩

/-- The job of that task has started. -/
def Report.running : Report :=
  { Report.blank with
    state := "RUNNING", rawTags := ["sk_id:a"], created := some "1970-01-01T00:00:00",
    started := some "1970-01-01T00:00:05" }

/-- That report is written, and the cursor stays registered. -/
theorem running_synced :
    (∀ commit ∈ (Memory.ofConfig .standard).history tracking, ¬commit.stamp.IsLast) ∧
    (Host.watching.sync .running).1.toOption = some true ∧
    (Host.watching.sync .running).2.store.feed.size = 1 ∧
    Synced ((Memory.ofConfig .standard).history tracking) .running .watching
      (Host.watching.sync .running).1 (Host.watching.sync .running).2 := by
  have unending : ∀ commit ∈ (Memory.ofConfig .standard).history tracking, ¬commit.stamp.IsLast := by
    decide
  exact ⟨unending, by decide +kernel, by decide +kernel, sync_exact rfl unending⟩

end Theorem

end TaskLedger
