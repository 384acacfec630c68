/-
**What a report says, and what it makes of a task.** Merging a report falls into two halves. Reading
its texts asks nothing of the task; what was read is then put together with what is recorded.

* `Reading`, `Report.Reads` — what a report says once its texts are read.
* `Task.Agrees` — what identifies a task is the same on both sides, wherever both have it.
* `Task.merged` — the task with what was read.
* `reconcile_eq_ok_iff` — a report is merged exactly when it can be read and agrees with the task, and
  the result is `merged`.
* `merged_merged`, `Agrees.merged` — another report of the same job leaves the identity as it is, so
  that what is merged last decides.
* `reconcile_again` — a report that was merged has no more news.
-/
import TaskLedger.Report.Reconcile

namespace TaskLedger

open Time (Instant)

theorem bind_eq_ok_iff {ε α β : Type} {first : Except ε α} {next : α → Except ε β} {result : β} :
    (first >>= next) = .ok result ↔ ∃ value, first = .ok value ∧ next value = .ok result := by
  cases first <;> simp [bind, Except.bind]

/-! ### Reading -/

/-- What a report says. -/
structure Reading where
  tags : Tags
  created : Instant
  jobId : String
  status : Status
  output : Option String
  started : Option Instant
  finished : Option Instant

/-- The time that a text of a report stands for. -/
def timeOf? (value : String) : Option Instant :=
  (Instant.readStrict? value.toList).or (Instant.readZoneless? value.toList)

theorem readTime_eq (field value task : String) :
    readTime field value task =
      (timeOf? value).elim (.error (.invalidTime field value task)) .ok := by
  unfold readTime timeOf?
  cases Instant.readStrict? value.toList with
  | some time => rfl
  | none => cases Instant.readZoneless? value.toList <;> rfl

theorem readTime_eq_ok_iff {field value task : String} {time : Instant} :
    readTime field value task = .ok time ↔ timeOf? value = some time := by
  rw [readTime_eq]
  cases timeOf? value <;> simp

namespace Report

/-- The text that says when the job ended; only a mishap may end without completing. -/
def endText (report : Report) (status : Status) : Option String :=
  (given report.completed).or (if status = .mishap then given report.abandoned else none)

/-- A report says this, whatever task it is about. -/
structure Reads (report : Report) (reading : Reading) : Prop where
  tags : report.tags = .ok reading.tags
  created : timeOf? (report.created.getD "") = some reading.created
  jobId : reading.jobId = report.jobId
  status : ∃ state, JobState.parse report.state = .ok state ∧
    reading.status = state.status report.failed
  output : reading.output = report.output
  started : reading.started.map some = (given report.started).map timeOf?
  finished : reading.finished.map some = (report.endText reading.status).map timeOf?

/-! ### The parts of a merge -/

/-- A recorded text, or the reported one where the recorded is empty. -/
def mergedText (recorded : String) (reported : Option String) : String :=
  if recorded = "" then reported.getD "" else recorded

/-- A recorded identifier, or the reported one where none is recorded. -/
def mergedId (recorded : Option TaskId) (reported : Option String) : Option TaskId :=
  recorded.or ((given reported).map TaskId.mk)

theorem given_some (value : String) :
    given (some value) = if value = "" then none else some value := by
  by_cases empty : value = "" <;> simp [given, empty]

section Parts

variable {field task : String}

theorem filledText_eq_ok_iff {recorded filled : String} {reported : Option String} :
    filledText field task recorded reported = .ok filled ↔
      (∀ value ∈ reported, recorded = "" ∨ recorded = value) ∧
        mergedText recorded reported = filled := by
  unfold filledText mergedText
  cases reported with
  | none => by_cases empty : recorded = "" <;> simp [empty]
  | some value =>
    by_cases empty : recorded = ""
    · simp [empty]
    · by_cases same : recorded = value <;> simp [empty, same]

theorem filledId_eq_ok_iff {recorded filled : Option TaskId} {reported : Option String} :
    filledId field task recorded reported = .ok filled ↔
      (∀ value ∈ reported, ∀ id ∈ recorded, id.text = value) ∧
        mergedId recorded reported = filled := by
  unfold filledId mergedId
  cases reported with
  | none => simp [given]
  | some value =>
    cases recorded with
    | none => by_cases empty : value = "" <;> simp [given_some, empty]
    | some id => by_cases same : id.text = value <;> simp [same]

theorem filledCreated_eq_ok_iff {recorded filled : Option Instant} {reported : Instant} :
    filledCreated task recorded reported = .ok filled ↔
      (∀ time ∈ recorded, time = reported) ∧ recorded.or (some reported) = filled := by
  unfold filledCreated
  cases recorded with
  | none => simp
  | some time => by_cases same : time = reported <;> simp [same]

theorem filledJob_eq_ok_iff {recorded filled : Option String} {reported : String} :
    filledJob task recorded reported = .ok filled ↔
      (∀ job ∈ recorded, job = reported) ∧ recorded.or (given (some reported)) = filled := by
  unfold filledJob
  cases recorded with
  | none => simp [given_some]
  | some job => by_cases same : job = reported <;> simp [same]

theorem replacedTime_eq_ok_iff {recorded next : Option Instant} {reported : Option String} :
    replacedTime field task recorded reported = .ok next ↔
      ∃ time : Option Instant, time.map some = (given reported).map timeOf? ∧
        time.or recorded = next := by
  unfold replacedTime
  cases given reported with
  | none => simp
  | some value =>
    simp only [readTime_eq, Option.map_some]
    cases timeOf? value <;> simp [Except.map]

theorem replacedFinished_eq_ok_iff {report : Report} {status : Status}
    {recorded next : Option Instant} :
    report.replacedFinished task status recorded = .ok next ↔
      ∃ time : Option Instant, time.map some = (report.endText status).map timeOf? ∧
        time.or recorded = next := by
  unfold replacedFinished endText
  cases completed : given report.completed with
  | none =>
    cases status <;> simp [replacedTime_eq_ok_iff, completed]
  | some value => simp [replacedTime_eq_ok_iff, completed]

end Parts

end Report

/-! ### Merging -/

namespace Task

/-- What identifies a task is the same in a report, wherever both have it. -/
structure Agrees (task : Task) (reading : Reading) : Prop where
  id : ∀ value ∈ reading.tags.first? TagKey.id, ∀ id ∈ task.id, id.text = value
  name : ∀ value ∈ reading.tags.first? TagKey.name, task.name = "" ∨ task.name = value
  repo : ∀ value ∈ reading.tags.first? TagKey.repo, task.repo = "" ∨ task.repo = value
  retryOf : ∀ value ∈ reading.tags.first? TagKey.retryOf, ∀ id ∈ task.retryOf, id.text = value
  revision : ∀ value ∈ reading.tags.first? TagKey.revision,
    task.revision = "" ∨ task.revision = value
  created : ∀ time ∈ task.created, time = reading.created
  jobId : ∀ job ∈ task.jobId, job = reading.jobId

/-- The start of a task: one that ended without a start starts when it ends. -/
def startOr (status : Status) (started finished : Option Instant) : Option Instant :=
  if status.isDone && started.isNone then finished else started

/-- The task with what a report says. -/
def merged (task : Task) (reading : Reading) : Task :=
  let finished := reading.finished.or task.finished
  { task with
    id := Report.mergedId task.id (reading.tags.first? TagKey.id)
    name := Report.mergedText task.name (reading.tags.first? TagKey.name)
    repo := Report.mergedText task.repo (reading.tags.first? TagKey.repo)
    retryOf := Report.mergedId task.retryOf (reading.tags.first? TagKey.retryOf)
    revision := Report.mergedText task.revision (reading.tags.first? TagKey.revision)
    parents := Report.parents reading.tags
    created := task.created.or (some reading.created)
    jobId := task.jobId.or (Report.given (some reading.jobId))
    status := reading.status
    output := reading.output
    started := startOr reading.status (reading.started.or task.started) finished
    finished := finished }

/-- **A report is merged** exactly when it can be read and agrees with the task. -/
theorem reconcile_eq_ok_iff {task updated : Task} {report : Report} :
    task.reconcile report = .ok updated ↔
      ∃ reading, report.Reads reading ∧ task.Agrees reading ∧ task.merged reading = updated := by
  simp only [reconcile, bind_eq_ok_iff, Report.filledId_eq_ok_iff, Report.filledText_eq_ok_iff,
    readTime_eq_ok_iff, Report.filledCreated_eq_ok_iff, Report.filledJob_eq_ok_iff,
    Report.replacedTime_eq_ok_iff, Report.replacedFinished_eq_ok_iff]
  constructor
  · rintro ⟨tags, tagsRead, id, ⟨idAgrees, rfl⟩, name, ⟨nameAgrees, rfl⟩, repo, ⟨repoAgrees, rfl⟩,
      retryOf, ⟨retryAgrees, rfl⟩, revision, ⟨revisionAgrees, rfl⟩, created, createdRead,
      _, ⟨createdAgrees, rfl⟩, job, ⟨jobAgrees, rfl⟩, state, stateRead, _, ⟨started, startRead, rfl⟩,
      _, ⟨finished, finishRead, rfl⟩, result⟩
    exact ⟨⟨tags, created, report.jobId, state.status report.failed, report.output, started, finished⟩,
      ⟨tagsRead, createdRead, rfl, ⟨state, stateRead, rfl⟩, rfl, startRead, finishRead⟩,
      ⟨idAgrees, nameAgrees, repoAgrees, retryAgrees, revisionAgrees, createdAgrees, jobAgrees⟩,
      Except.ok.inj result⟩
  · rintro ⟨⟨tags, created, job, status, output, started, finished⟩,
      ⟨tagsRead, createdRead, rfl, ⟨state, stateRead, rfl⟩, rfl, startRead, finishRead⟩, agrees, rfl⟩
    exact ⟨tags, tagsRead, _, ⟨agrees.id, rfl⟩, _, ⟨agrees.name, rfl⟩, _, ⟨agrees.repo, rfl⟩,
      _, ⟨agrees.retryOf, rfl⟩, _, ⟨agrees.revision, rfl⟩, created, createdRead,
      _, ⟨agrees.created, rfl⟩, _, ⟨agrees.jobId, rfl⟩, state, stateRead, _, ⟨started, startRead, rfl⟩,
      _, ⟨finished, finishRead, rfl⟩, rfl⟩

theorem reconcile_eq_ok {task : Task} {report : Report} {reading : Reading}
    (reads : report.Reads reading) (agrees : task.Agrees reading) :
    task.reconcile report = .ok (task.merged reading) :=
  reconcile_eq_ok_iff.2 ⟨reading, reads, agrees, rfl⟩

theorem stamp_of_reconcile {task updated : Task} {report : Report}
    (merge : task.reconcile report = .ok updated) : updated.stamp = task.stamp := by
  obtain ⟨reading, -, -, rfl⟩ := reconcile_eq_ok_iff.1 merge
  rfl

/-- Applying a report is merging it, and telling whether that made a difference. -/
theorem applyReport_eq_ok_iff {task updated : Task} {report : Report} {changed : Bool} :
    task.applyReport report = .ok (changed, updated) ↔
      task.reconcile report = .ok updated ∧ changed = decide (updated ≠ task) := by
  unfold applyReport
  cases task.reconcile report with
  | error cause => simp [Except.map]
  | ok result =>
    simp only [Except.map, Except.ok.injEq, Prod.mk.injEq]
    constructor
    · rintro ⟨rfl, rfl⟩
      exact ⟨rfl, rfl⟩
    · rintro ⟨rfl, rfl⟩
      exact ⟨rfl, rfl⟩

end Task

/-! ### Merging again -/

/-- Two reports are about one job. -/
structure Reading.SameJob (reading other : Reading) : Prop where
  tags : reading.tags = other.tags
  created : reading.created = other.created
  jobId : reading.jobId = other.jobId

namespace Report

@[simp] theorem mergedText_mergedText (recorded : String) (reported : Option String) :
    mergedText (mergedText recorded reported) reported = mergedText recorded reported := by
  unfold mergedText
  split <;> simp_all

@[simp] theorem mergedId_mergedId (recorded : Option TaskId) (reported : Option String) :
    mergedId (mergedId recorded reported) reported = mergedId recorded reported := by
  simp [mergedId, Option.or_assoc]

/-- Where they agree, the merged text is the reported one. -/
theorem mergedText_some {recorded value : String} (agrees : recorded = "" ∨ recorded = value) :
    mergedText recorded (some value) = value := by
  unfold mergedText
  split <;> simp_all

/-- Where they agree, the merged identifier is the reported one. -/
theorem mergedId_some {recorded : Option TaskId} {value : String}
    (agrees : ∀ id ∈ recorded, id.text = value) (nonempty : value ≠ "") :
    mergedId recorded (some value) = some ⟨value⟩ := by
  cases recorded with
  | none => simp [mergedId, given_some, nonempty]
  | some id =>
    rw [← agrees id rfl]
    rfl

theorem mergedText_agrees {recorded : String} {reported : Option String}
    (agrees : ∀ value ∈ reported, recorded = "" ∨ recorded = value) :
    ∀ value ∈ reported, mergedText recorded reported = "" ∨ mergedText recorded reported = value := by
  rintro value ⟨⟩
  exact .inr (mergedText_some (agrees value rfl))

theorem mergedId_agrees {recorded : Option TaskId} {reported : Option String}
    (agrees : ∀ value ∈ reported, ∀ id ∈ recorded, id.text = value) :
    ∀ value ∈ reported, ∀ id ∈ mergedId recorded reported, id.text = value := by
  rintro value ⟨⟩
  cases recorded with
  | none => simp [mergedId, given_some]
  | some id => exact agrees value rfl

end Report

namespace Task

variable {task : Task} {reading other : Reading}

/-- A task agrees with a report also after another one of the same job. -/
theorem Agrees.merged (agrees : task.Agrees reading) (same : other.SameJob reading) :
    (task.merged other).Agrees reading := by
  obtain ⟨tags, created, jobId⟩ := same
  constructor
  case id => simpa [Task.merged, tags] using Report.mergedId_agrees agrees.id
  case name => simpa [Task.merged, tags] using Report.mergedText_agrees agrees.name
  case repo => simpa [Task.merged, tags] using Report.mergedText_agrees agrees.repo
  case retryOf => simpa [Task.merged, tags] using Report.mergedId_agrees agrees.retryOf
  case revision => simpa [Task.merged, tags] using Report.mergedText_agrees agrees.revision
  case created =>
    intro time recorded
    rcases Option.or_eq_some_iff.1 recorded with known | ⟨-, new⟩
    · exact agrees.created time known
    · rw [← Option.some.inj new, created]
  case jobId =>
    intro job recorded
    rcases Option.or_eq_some_iff.1 recorded with known | ⟨-, new⟩
    · exact agrees.jobId job known
    · rw [Report.given_some] at new
      split at new <;> simp_all

/-- A second report of one job leaves what the first one filled in, and its own state and times count. -/
theorem merged_merged (same : other.SameJob reading) :
    (task.merged other).merged reading =
      { task.merged reading with
        finished := reading.finished.or (task.merged other).finished
        started := startOr reading.status (reading.started.or (task.merged other).started)
          (reading.finished.or (task.merged other).finished) } := by
  obtain ⟨tags, created, jobId⟩ := same
  simp [Task.merged, tags, created, jobId, Option.or_assoc]

theorem startOr_twice (status : Status) (reported recorded finished : Option Instant) :
    startOr status (reported.or (startOr status (reported.or recorded) finished)) finished =
      startOr status (reported.or recorded) finished := by
  cases reported with
  | some time => simp [startOr]
  | none =>
    unfold startOr
    cases status.isDone <;> cases recorded <;> cases finished <;> rfl

/-- **The same report twice** is the report once. -/
theorem merged_self (task : Task) (reading : Reading) :
    (task.merged reading).merged reading = task.merged reading := by
  have finished : reading.finished.or (task.merged reading).finished =
      (task.merged reading).finished := by
    simp [merged, ← Option.or_assoc]
  have started : startOr reading.status (reading.started.or (task.merged reading).started)
      (task.merged reading).finished = (task.merged reading).started :=
    startOr_twice reading.status reading.started task.started _
  rw [merged_merged ⟨rfl, rfl, rfl⟩, finished, started]

/-- **A report that says when the job started and ended** overrules an earlier one of the same job. -/
theorem merged_of_complete (same : other.SameJob reading) (started : reading.started ≠ none)
    (finished : reading.finished ≠ none) :
    (task.merged other).merged reading = task.merged reading := by
  obtain ⟨start, isStart⟩ := Option.ne_none_iff_exists'.1 started
  obtain ⟨finish, isFinish⟩ := Option.ne_none_iff_exists'.1 finished
  rw [merged_merged same]
  simp [merged, startOr, isStart, isFinish]

/-- **A report that was merged has no more news**, whatever stamp the task gets. -/
theorem reconcile_again {report : Report} {updated : Task}
    (merge : task.reconcile report = .ok updated) (stamp : Option Instant) :
    { updated with stamp := stamp }.reconcile report = .ok { updated with stamp := stamp } := by
  obtain ⟨reading, reads, agrees, rfl⟩ := reconcile_eq_ok_iff.1 merge
  obtain ⟨id, name, repo, retryOf, revision, created, jobId⟩ := agrees.merged ⟨rfl, rfl, rfl⟩
  have same := congrArg (fun merged : Task => { merged with stamp := stamp }) (merged_self task reading)
  exact reconcile_eq_ok_iff.2
    ⟨reading, reads, ⟨id, name, repo, retryOf, revision, created, jobId⟩, same⟩

end Task

end TaskLedger
