/-
**Reading, changing and writing a task at one instant.** A client that reads a task, changes it and
writes it back, again after a conflict, leaves the run of the other clients' calls with its own write at
the end, made from the version that was then current.

* `replay` — the edits of the versions of a task, one after another.
* `ChangedAt` — a task was changed at one instant of a run; `changedAt_of_put`.
* `ChangeFails` — the ways to fail: an attempt fails for good, or others come between in every one.
* `Tried`, `tried_updateTask` — what the attempts leave: every one but the last was overtaken.
* `Linearized`, `updateTask_linearized` — the statement and the theorem.
-/
import TaskLedger.Proofs.Store.Conflict
import TaskLedger.Proofs.Store.Session

namespace TaskLedger

/-! ### Edits one after another -/

/-- The edits of versions, applied to a task one after another, each stamped. -/
def replay (edits : Version → Task → Task) (task : Task) (later : List Version) : Task :=
  later.foldl (fun task version => { edits version task with stamp := some version.stamp }) task

/-- Versions that were each edited from the one before are replayed to the last one. -/
theorem getLast?_eq_replay {edits : Version → Task → Task} {first : Version} {later : List Version}
    (edited : (first :: later).IsChain fun v w => w.given = edits w v.task) :
    (first :: later).getLast?.map (·.task) = some (replay edits first.task later) := by
  induction later generalizing first with
  | nil => rfl
  | cons next rest ih =>
    rw [List.isChain_cons_cons] at edited
    have step : { edits next first.task with stamp := some next.stamp } = next.task := by
      rw [← edited.1]
      rfl
    rw [List.getLast?_cons_cons, ih edited.2, replay, replay, List.foldl_cons, step]

/-! ### The instant of the change -/

/-- A task was changed at one instant of a run: the others' calls are made, then the changed task is
written. -/
structure ChangedAt (config : StoreConfig) (others : List Event) (call : Ambient) (id : TaskId)
    (read changed written : Task) (final : Memory) : Prop where
  /-- What was changed is the version that the write finds. -/
  current : ((Memory.ofConfig config).after others).tasks.get? id = some read
  stamped : written =
    { changed with stamp := some (((Memory.ofConfig config).after others).stampFor call) }
  run : final = (Memory.ofConfig config).after (others ++ [⟨call, .put [changed]⟩])
  stored : final.tasks.get? id = some written
  /-- The versions of the others stay; the written one follows them. -/
  extended : versionsOf id ((Memory.ofConfig config).history (others ++ [⟨call, .put [changed]⟩])) =
    versionsOf id ((Memory.ofConfig config).history others) ++
      [⟨id, changed, ((Memory.ofConfig config).after others).stampFor call⟩]
  lineage : Lineage
    (versionsOf id ((Memory.ofConfig config).history (others ++ [⟨call, .put [changed]⟩])))
  /-- When every writer edits the version whose stamp it gives, the stored task is what all the edits
  make of the first version, in the order of the commits. -/
  replayed : ∀ (edits : Version → Task → Task) (first : Version) (later : List Version),
    versionsOf id ((Memory.ofConfig config).history (others ++ [⟨call, .put [changed]⟩])) =
      first :: later →
    (∀ v ∈ first :: later, ∀ w ∈ first :: later, w.base = some v.stamp → w.given = edits w v.task) →
    final.tasks.get? id = some (replay edits first.task later)

theorem changedAt_of_put {config : StoreConfig} {others : List Event} {call : Ambient} {id : TaskId}
    {read changed written : Task} {final : Memory}
    (current : ((Memory.ofConfig config).after others).tasks.get? id = some read)
    (named : changed.id = some id)
    (put : ((Memory.ofConfig config).after others).put call [changed] = (.ok [written], final)) :
    ChangedAt config others call id read changed written final := by
  have taken : ((Memory.ofConfig config).after others).refusal? call [changed] = none :=
    Memory.refusal?_of_put_ok (by rw [put])
  have member : ⟨id, changed, ((Memory.ofConfig config).after others).stampFor call⟩ ∈
      (((Memory.ofConfig config).after others).commitOf call [changed]).versions := by
    rw [Memory.commitOf_single named]
    exact List.mem_singleton_self _
  have stamped : written =
      { changed with stamp := some (((Memory.ofConfig config).after others).stampFor call) } := by
    rw [Memory.put_of_taken taken, Memory.written_single named] at put
    cases put
    rfl
  have stored : final.tasks.get? id = some written := by
    have kept := Memory.get?_commit_of_mem taken member
    rw [Memory.put_of_taken taken] at put
    rw [← (Prod.mk.inj put).2, stamped]
    exact kept
  have extended : versionsOf id
      ((Memory.ofConfig config).history (others ++ [⟨call, .put [changed]⟩])) =
      versionsOf id ((Memory.ofConfig config).history others) ++
        [⟨id, changed, ((Memory.ofConfig config).after others).stampFor call⟩] := by
    rw [Memory.history_append, Memory.history, Memory.commits_of_taken taken, Memory.history,
      List.append_nil, versionsOf_append]
    exact congrArg _ (versionsOf_commit_of_mem (Memory.nodup_commitOf taken) member)
  have lineage := (Memory.tracked_run (Memory.tracked_ofConfig config)
    (others ++ [⟨call, .put [changed]⟩])).lineage id
  rw [List.nil_append] at lineage
  refine ⟨current, stamped, ?_, stored, extended, lineage, ?_⟩
  · rw [Memory.after_append]
    exact (congrArg (·.2) put).symm
  · intro edits first later split edited
    have chained : (first :: later).IsChain fun v w => w.given = edits w v.task :=
      (split ▸ lineage.linked).imp_of_mem_imp fun v w vMember wMember => edited v vMember w wMember
    rw [stored, ← getLast?_eq_replay chained, ← split, extended, List.getLast?_concat, Option.map_some,
      stamped]
    rfl

/-! ### The attempts -/

/-- The others write the task between the two calls of an attempt. -/
def Traffic.Overtakes (traffic : Traffic) (start : Memory) (id : TaskId) (number : Nat) : Prop :=
  versionsOf id ((traffic.storeAt start (2 * number + 1)).history
    (traffic.others (2 * number + 1))) ≠ []

/-- Before an attempt, all the earlier ones were overtaken and the client has changed nothing. -/
structure Traffic.Waiting (traffic : Traffic) (start : Memory) (id : TaskId) (number : Nat)
    (session : Session) : Prop where
  unchanged : session = ⟨traffic.storeAt start (2 * number), 2 * number, number⟩
  overtaken : ∀ earlier < number, traffic.Overtakes start id earlier

/-- Why a task is not changed: an attempt fails for good, or every attempt is overtaken. -/
inductive ChangeFails {ε : Type} (traffic : Traffic) (lift : StoreError → ε) (id : TaskId)
    (edit : Nat → Task → Except ε Task) (start : Memory) (final : Session) : ε → Prop where
  | attempt (number : Nat) (error : ε) : FailedAt traffic lift id edit start number error →
    2 * number < final.calls → final.calls ≤ 2 * number + 2 →
    ChangeFails traffic lift id edit start final error
  | overtaken (error : StoreError) : error.isRetryable = true → final.runs = maxAttempts →
    (∀ number < maxAttempts, traffic.Overtakes start id number) →
    ChangeFails traffic lift id edit start final (lift error)

/-- What attempts to change a task leave. An attempt calls the store twice, to read and to write. -/
structure Tried {ε : Type} (traffic : Traffic) (lift : StoreError → ε) (id : TaskId)
    (edit : Nat → Task → Except ε Task) (start : Memory) (answer : Except ε Task) (final : Session) :
    Prop where
  changed : ∀ written, answer = .ok written → ∃ number read changed,
    final.runs = number + 1 ∧ final.calls = 2 * number + 2 ∧
    (traffic.storeAt start (2 * number + 1)).get id = .ok (some read) ∧
    edit number read = .ok changed ∧
    (traffic.storeAt start (2 * number + 2)).put (traffic.ambient (2 * number + 1)) [changed] =
      (.ok [written], final.store)
  failed : ∀ error, answer = .error error → final.store = traffic.storeAt start final.calls ∧
    ChangeFails traffic lift id edit start final error
  retried : ∀ number, 2 * (number + 1) < final.calls → traffic.Overtakes start id number
  runs : final.runs ≤ maxAttempts

section Attempts

variable {ε : Type} {traffic : Traffic} {lift : StoreError → ε} {id : TaskId}
  {edit : Nat → Task → Except ε Task} {past : List Commit}

/-- A task that is changed keeps its identifier. -/
theorem named_of_read {number : Nat} {store : Memory} (tracked : Memory.Tracked past store)
    (keeps : KeepsVersion edit) {read changed : Task}
    (seen : store.get id = .ok (some read)) (made : edit number read = .ok changed) :
    changed.id = some id := by
  obtain ⟨isOpen, stored⟩ := Memory.get_eq_ok seen
  obtain ⟨-, -, -, named⟩ := tracked.exists_version isOpen stored
  rw [(keeps number read changed made).1, named]

/-- An attempt that gives an answer is the last one. -/
theorem tried_of_done {start : Memory} {number : Nat} (few : number < maxAttempts)
    (overtaken : ∀ earlier < number, traffic.Overtakes start id earlier) {answer : Except ε Task}
    {final : Session}
    (ends : AttemptEnds traffic lift id edit start number (.done answer) final) :
    Tried traffic lift id edit start answer final := by
  cases ends with
  | failed error calls runs cause made fewCalls fewRuns =>
    refine ⟨(by rintro _ ⟨⟩), ?_, fun earlier more => overtaken earlier ?_, ?_⟩
    · rintro _ ⟨⟩
      exact ⟨rfl, .attempt number error cause made fewCalls⟩
    · have more : 2 * (earlier + 1) < calls := more
      omega
    · show runs ≤ maxAttempts
      omega
  | written read changed written final seen made put =>
    refine ⟨?_, (by rintro _ ⟨⟩), fun earlier more => overtaken earlier ?_, few⟩
    · rintro _ ⟨⟩
      exact ⟨number, read, changed, rfl, rfl, seen, made, put⟩
    · have more : 2 * (earlier + 1) < 2 * number + 2 := more
      omega

/-- An attempt that ends in a conflict was overtaken, and the client has still changed nothing. -/
theorem waiting_of_conflict {start : Memory} (tracked : Memory.Tracked past start)
    (keeps : KeepsVersion edit) {number : Nat}
    (overtaken : ∀ earlier < number, traffic.Overtakes start id earlier) {error : StoreError}
    {next : Session}
    (ends : AttemptEnds traffic lift id edit start number (.conflict error) next) :
    traffic.Waiting start id (number + 1) next ∧ error.isRetryable = true := by
  cases ends with
  | conflict read changed _ seen made refused retryable =>
    have trackedRead := Memory.tracked_run tracked (traffic.before (2 * number + 1))
    have here : traffic.Overtakes start id number := by
      rw [← Traffic.after_storeAt traffic start (2 * number + 1)] at refused
      exact trackedRead.written_of_conflict seen (named_of_read trackedRead keeps seen made)
        (keeps number read changed made).2 refused retryable
    refine ⟨⟨rfl, fun earlier before => ?_⟩, retryable⟩
    rcases Nat.lt_succ_iff_lt_or_eq.1 before with less | rfl
    · exact overtaken earlier less
    · exact here

/-- **Attempts are overtaken, all but the last one.** -/
theorem tried_updateTask {start : Memory} (tracked : Memory.Tracked past start) (traffic : Traffic)
    (lift : StoreError → ε) (id : TaskId) (keeps : KeepsVersion edit) :
    Tried traffic lift id edit start
      (updateTask traffic.client lift id (editing edit) ⟨start, 0, 0⟩).1
      (updateTask traffic.client lift id (editing edit) ⟨start, 0, 0⟩).2 := by
  refine persist_spec (traffic.Waiting start id) (Tried traffic lift id edit start) maxAttempts
    ?_ ?_ ?_ (maxAttempts - 1) 0 rfl ⟨start, 0, 0⟩ ⟨rfl, by omega⟩
  · rintro number few _ answer next ⟨rfl, overtaken⟩ ended
    have ends := attemptEnds traffic lift id edit start number
    rw [ended] at ends
    exact tried_of_done few overtaken ends
  · rintro number few _ error next ⟨rfl, overtaken⟩ ended
    have ends := attemptEnds traffic lift id edit start number
    rw [ended] at ends
    exact (waiting_of_conflict tracked keeps overtaken ends).1
  · rintro number last _ error next ⟨rfl, overtaken⟩ ended
    have ends := attemptEnds traffic lift id edit start number
    rw [ended] at ends
    -- The conflict of the last attempt is answered: all of them were overtaken.
    obtain ⟨⟨rfl, overtakenToo⟩, retryable⟩ := waiting_of_conflict tracked keeps overtaken ends
    rw [last] at overtakenToo ⊢
    refine ⟨(by rintro _ ⟨⟩), ?_, fun earlier more => overtakenToo earlier ?_, le_refl _⟩
    · rintro _ ⟨⟩
      exact ⟨rfl, .overtaken error retryable rfl overtakenToo⟩
    · have more : 2 * (earlier + 1) < 2 * maxAttempts := more
      omega

end Attempts

/-! ### The theorem -/

/-- A client reads a task, changes it and writes it back, as if at one instant. -/
structure Linearized {ε : Type} (config : StoreConfig) (past : List Event) (traffic : Traffic)
    (lift : StoreError → ε) (id : TaskId) (edit : Nat → Task → Except ε Task) (answer : Except ε Task)
    (final : Session) : Prop where
  /-- A task that is answered was changed at one instant, by the last run of the function. -/
  changed : ∀ written, answer = .ok written → 0 < final.runs ∧ final.calls = 2 * final.runs ∧
    ∃ read changed, edit (final.runs - 1) read = .ok changed ∧
      ChangedAt config (past ++ traffic.before final.calls) (traffic.ambient (final.calls - 1)) id
        read changed written final.store
  /-- After an error the store, with its feed, is what the others' calls alone leave. -/
  failed : ∀ error, answer = .error error →
    final.store = (Memory.ofConfig config).after (past ++ traffic.before final.calls) ∧
    ChangeFails traffic lift id edit ((Memory.ofConfig config).after past) final error
  /-- An attempt is followed by another only if the others wrote the task between its two calls. -/
  retried : ∀ number, 2 * (number + 1) < final.calls →
    traffic.Overtakes ((Memory.ofConfig config).after past) id number
  runs : final.runs ≤ maxAttempts

theorem history_before_succ (config : StoreConfig) (past : List Event) (traffic : Traffic)
    (calls : Nat) :
    (Memory.ofConfig config).history (past ++ traffic.before (calls + 1)) =
      (Memory.ofConfig config).history (past ++ traffic.before calls) ++
        (traffic.storeAt ((Memory.ofConfig config).after past) calls).history
          (traffic.others calls) := by
  rw [Traffic.before_succ, ← List.append_assoc, Memory.history_append, Memory.after_append,
    Traffic.storeAt]

theorem tracked_storeAt (config : StoreConfig) (past : List Event) (traffic : Traffic) (calls : Nat) :
    Memory.Tracked ((Memory.ofConfig config).history (past ++ traffic.before calls))
      (traffic.storeAt ((Memory.ofConfig config).after past) calls) := by
  have tracked := Memory.tracked_run (Memory.tracked_ofConfig config) (past ++ traffic.before calls)
  rw [List.nil_append, Memory.after_append] at tracked
  exact tracked

/-- **Reading, changing and writing a task back happens at one instant**, whatever other clients do
between any two calls, while the stamps have not reached the end of the range of instants. The function
may do something else at each run, but it keeps the identifier and the stamp. -/
theorem updateTask_linearized {ε : Type} {config : StoreConfig} {past : List Event}
    {traffic : Traffic} {lift : StoreError → ε} {id : TaskId} {edit : Nat → Task → Except ε Task}
    {answer : Except ε Task} {final : Session}
    (keeps : KeepsVersion edit)
    (ran : updateTask traffic.client lift id (editing edit)
      ⟨(Memory.ofConfig config).after past, 0, 0⟩ = (answer, final))
    (unending : ∀ commit ∈ (Memory.ofConfig config).history (past ++ traffic.before final.calls),
      ¬commit.stamp.IsLast) :
    Linearized config past traffic lift id edit answer final := by
  have tracked := Memory.tracked_run (Memory.tracked_ofConfig config) past
  have tried : Tried traffic lift id edit ((Memory.ofConfig config).after past) answer final := by
    have whole := tried_updateTask tracked traffic lift id keeps
    rw [ran] at whole
    exact whole
  refine ⟨?_, ?_, tried.retried, tried.runs⟩
  · intro written answered
    obtain ⟨number, read, changed, runs, calls, seen, made, put⟩ := tried.changed written answered
    have trackedRead := tracked_storeAt config past traffic (2 * number + 1)
    have named := named_of_read trackedRead keeps seen made
    have ordered := (Memory.stamped_run (Memory.stamped_ofConfig config)
      (past ++ traffic.before final.calls)).pairwise unending
    rw [List.nil_append, calls, history_before_succ] at ordered
    have taken := Memory.refusal?_of_put_ok (congrArg (·.1) put)
    rw [← Traffic.after_storeAt] at taken
    have current := trackedRead.current_of_read ordered seen named
      (keeps number read changed made).2 taken
    rw [Traffic.after_storeAt] at current
    rw [Traffic.storeAt, ← Memory.after_append] at put current
    have lastRun : final.runs - 1 = number := by omega
    have lastCall : final.calls - 1 = 2 * number + 1 := by omega
    refine ⟨by omega, by omega, read, changed, ?_, ?_⟩
    · rw [lastRun]
      exact made
    · rw [lastCall, calls]
      exact changedAt_of_put current named put
  · intro error answered
    refine ⟨?_, (tried.failed error answered).2⟩
    rw [(tried.failed error answered).1, Traffic.storeAt, Memory.after_append]

/-- Another writer comes between the read and the write of the first attempt. -/
def rival : Traffic where
  others calls := if calls = 1 then [.putAt .epoch [Memory.writeOf ⟨"a"⟩ (some .epoch)]] else []
  ambient _ := ⟨.epoch, fun place => place⟩

/-- The task starts to run. -/
def startRunning (_ : Nat) (task : Task) : Except StoreError Task :=
  .ok { task with status := .running }

/-- A run of the client that meets the other writer. -/
def rivalled : Except StoreError Task × Session :=
  updateTask rival.client id ⟨"a"⟩ (editing startRunning)
    ⟨(Memory.ofConfig .standard).after [.putAt .epoch [Memory.writeOf ⟨"a"⟩ none]], 0, 0⟩

/-- The second attempt starts from the version that the other writer made. -/
theorem second_attempt_linearized :
    Linearized .standard [.putAt .epoch [Memory.writeOf ⟨"a"⟩ none]] rival id ⟨"a"⟩ startRunning
      rivalled.1 rivalled.2 ∧ rivalled.2.runs = 2 := by
  have ran : updateTask rival.client id ⟨"a"⟩ (editing startRunning)
      ⟨(Memory.ofConfig .standard).after [.putAt .epoch [Memory.writeOf ⟨"a"⟩ none]], 0, 0⟩ =
      (rivalled.1, rivalled.2) := rfl
  refine ⟨updateTask_linearized ?_ ran ?_, by decide⟩
  · rintro run task _ ⟨⟩
    exact ⟨rfl, rfl⟩
  · decide

end TaskLedger
