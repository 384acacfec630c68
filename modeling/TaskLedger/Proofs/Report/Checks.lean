/-
**The checks of a report.** Which reports a task takes, what the answer to any other is, and what a report
makes of the task that takes it.

* `Report.values`, `Report.value?` — what the tags of a report say of a key.
* `Task.Consistent` — nothing in a report speaks against the task, and all that it needs can be read.
* `Check`, `Check.objection?` — the checks in their order, and the error of each that fails.
* `Task.ReportedAs` — the task that a report asks for.
* `Report.reading`, `reconcile_eq` — merging a report is to make all checks and then the merge; each part of
  it is a check of its own with a value for the case that it passes (`checked`).
* `applyReport_exact` — the statement.
-/
import TaskLedger.Proofs.Report.Stream
import TaskLedger.Proofs.Report.Tags

namespace TaskLedger

open Time (Instant)
open Report (given mergedId mergedText)

namespace Report

/-- What the tags of a report say of a key, in their order. -/
def values (report : Report) (key : String) : List String :=
  report.rawTags.filterMap (Tags.valueFor? key)

/-- What the first tag with a key says. -/
def value? (report : Report) (key : String) : Option String :=
  (report.values key).head?

/-- The state of a report means this status. -/
def Means (report : Report) (status : Status) : Prop :=
  ∃ state : JobState, state.name = report.state ∧ state.status report.failed = status

instance (report : Report) (status : Status) : Decidable (report.Means status) :=
  decidable_of_iff (∃ state ∈ JobState.all, state.name = report.state ∧
    state.status report.failed = status) <| by simp [Means, JobState.mem_all]

end Report

/-! ### What is asked of a report -/

/-- A text that a report gives says a time. -/
def SaysTime (text : Option String) : Prop :=
  ∀ value ∈ text, (timeOf? value).isSome

/-- A recorded text is empty, or is what a report says. -/
def AgreesWith (recorded : String) (reported : Option String) : Prop :=
  recorded = "" ∨ ∀ value ∈ reported, recorded = value

/-- There is no recorded identifier, or it is what a report says. -/
def Names (recorded : Option TaskId) (reported : Option String) : Prop :=
  ∀ id ∈ recorded, ∀ value ∈ reported, id.text = value

/-- Nothing in a report speaks against the task, and all that is needed of it can be read. -/
structure Task.Consistent (task : Task) (report : Report) : Prop where
  tags : ∀ tag ∈ report.rawTags, ':' ∈ tag.toList
  id : Names task.id (report.value? TagKey.id)
  name : AgreesWith task.name (report.value? TagKey.name)
  repo : AgreesWith task.repo (report.value? TagKey.repo)
  retryOf : Names task.retryOf (report.value? TagKey.retryOf)
  revision : AgreesWith task.revision (report.value? TagKey.revision)
  created : ∃ reported, timeOf? (report.created.getD "") = some reported ∧
    ∀ recorded ∈ task.created, recorded = reported
  jobId : ∀ recorded ∈ task.jobId, recorded = report.jobId
  state : ∃ status, report.Means status
  started : SaysTime (given report.started)
  completed : SaysTime (given report.completed)
  /-- When the job was given up counts for a mishap that did not complete. -/
  abandoned : given report.completed = none → report.Means .mishap → SaysTime (given report.abandoned)

/-- The checks of a report. -/
inductive Check where
  | tags
  | id
  | name
  | repo
  | retryOf
  | revision
  | createdText
  | created
  | jobId
  | state
  | started
  | completed
  | abandoned
deriving DecidableEq

/-- The checks in their order. -/
def Check.all : List Check :=
  [.tags, .id, .name, .repo, .retryOf, .revision, .createdText, .created, .jobId, .state, .started,
    .completed, .abandoned]

theorem Check.mem_all (check : Check) : check ∈ Check.all := by
  cases check <;> decide

/-- Both texts are there and differ. -/
def mismatch? (field task : String) (recorded reported : Option String) : Option ReportError :=
  recorded.bind fun was => reported.bind fun now =>
    if was = now then none else some (.identityMismatch field task was now)

/-- The text is there and says no time. -/
def unreadable? (field task : String) (text : Option String) : Option ReportError :=
  text.bind fun value =>
    if (timeOf? value).isSome then none else some (.invalidTime field value task)

/-- What a check objects to, each check on its own. -/
def Check.objection? (task : Task) (report : Report) : Check → Option ReportError
  | .tags => (report.rawTags.find? fun tag => ':' ∉ tag.toList).map .malformedTag
  | .id => mismatch? "Id" task.label (task.id.map (·.text)) (report.value? TagKey.id)
  | .name => mismatch? "Name" task.label (given (some task.name)) (report.value? TagKey.name)
  | .repo => mismatch? "Repo" task.label (given (some task.repo)) (report.value? TagKey.repo)
  | .retryOf =>
    mismatch? "RetryOf" task.label (task.retryOf.map (·.text)) (report.value? TagKey.retryOf)
  | .revision =>
    mismatch? "Revision" task.label (given (some task.revision)) (report.value? TagKey.revision)
  | .createdText => unreadable? "created_ts" task.label (some (report.created.getD ""))
  | .created =>
    task.created.bind fun was => (timeOf? (report.created.getD "")).bind fun now =>
      if was = now then none
      else some (.creationTimeChanged task.label (String.ofList was.offsetText)
        (String.ofList now.offsetText))
  | .jobId => mismatch? "SwarmingTaskId" task.label task.jobId (some report.jobId)
  | .state =>
    if ∃ state ∈ JobState.all, state.name = report.state then none
    else some (.unknownState report.state)
  | .started => unreadable? "started_ts" task.label (given report.started)
  | .completed => unreadable? "completed_ts" task.label (given report.completed)
  | .abandoned =>
    if given report.completed = none ∧ report.Means .mishap then
      unreadable? "abandoned_ts" task.label (given report.abandoned)
    else none

/-- The task that a report asks for. -/
structure Task.ReportedAs (task : Task) (report : Report) (updated : Task) : Prop where
  id : updated.id = task.id.or ((given (report.value? TagKey.id)).map TaskId.mk)
  name : updated.name = if task.name = "" then (report.value? TagKey.name).getD "" else task.name
  repo : updated.repo = if task.repo = "" then (report.value? TagKey.repo).getD "" else task.repo
  retryOf : updated.retryOf =
    task.retryOf.or ((given (report.value? TagKey.retryOf)).map TaskId.mk)
  revision : updated.revision =
    if task.revision = "" then (report.value? TagKey.revision).getD "" else task.revision
  parents : updated.parents.Perm ((report.values TagKey.parent).map TaskId.mk)
  sorted : updated.parents.Pairwise fun a b => (compare a b).isLE = true
  created : updated.created = task.created.or (timeOf? (report.created.getD ""))
  jobId : updated.jobId = task.jobId.or (given (some report.jobId))
  status : report.Means updated.status
  output : updated.output = given (report.outputs.map (·.digest))
  finished : updated.finished =
    ((report.endText updated.status).bind timeOf?).or task.finished
  /-- A task that is done without a start started when it finished. -/
  started : updated.started =
    if updated.isDone ∧ given report.started = none ∧ task.started = none then updated.finished
    else ((given report.started).bind timeOf?).or task.started
  commits : updated.commits = task.commits
  stamp : updated.stamp = task.stamp

/-! ### One check after another -/

/-- A value, unless there is an objection. -/
def checked {α : Type} (objection : Option ReportError) (value : α) : Except ReportError α :=
  objection.elim (.ok value) .error

section Checked

variable {α β : Type} {objection later : Option ReportError} {value : α} {result : β}

theorem checked_none (value : α) : checked none value = .ok value := rfl

/-- **The first of two checks decides** where it fails. -/
theorem checked_bind {next : α → Except ReportError β}
    (continues : objection = none → next value = checked later result) :
    (checked objection value >>= next) = checked (objection.or later) result := by
  cases objection with
  | none => exact continues rfl
  | some error => rfl

theorem checked_eq_ok_iff {other : α} :
    checked objection value = .ok other ↔ objection = none ∧ value = other := by
  cases objection <;> simp [checked]

theorem checked_eq_error_iff {error : ReportError} :
    checked objection value = .error error ↔ objection = some error := by
  cases objection <;> simp [checked]

end Checked

theorem splitTag?_eq_none_iff {tag : String} : splitTag? tag = none ↔ ':' ∉ tag.toList := by
  have none : tag.toList.dropWhile (· != ':') = [] ↔ ':' ∉ tag.toList := by
    rw [List.dropWhile_eq_nil_iff]
    exact ⟨fun others colon => by simpa using others ':' colon,
      fun absent c member => by simpa using fun same : c = ':' => absent (same ▸ member)⟩
  rw [← none, splitTag?]
  cases tag.toList.dropWhile (· != ':') <;> simp

theorem JobState.parse_eq_ok_iff {raw : String} {state : JobState} :
    JobState.parse raw = .ok state ↔ state.name = raw := by
  unfold parse
  constructor
  · intro parsed
    split at parsed
    · rename_i found
      cases parsed
      simpa using List.find?_some found
    · cases parsed
  · rintro rfl
    cases state <;> decide

theorem JobState.parse_eq_error {raw : String} (unknown : ∀ state : JobState, state.name ≠ raw) :
    JobState.parse raw = .error (.unknownState raw) := by
  rw [parse, List.find?_eq_none.2 fun state _ => by simpa using unknown state]

namespace Report

section Parts

variable {field task : String}

theorem tags_eq_checked (report : Report) (about : Task) :
    report.tags =
      checked (Check.tags.objection? about report) (report.rawTags.filterMap splitTag?) := by
  show report.tags = checked ((report.rawTags.find? _).map _) _
  unfold Report.tags
  induction report.rawTags with
  | nil => rfl
  | cons tag rest ih =>
    rw [List.mapM_cons, ih]
    cases split : splitTag? tag with
    | none =>
      rw [List.find?_cons_of_pos (by simpa using splitTag?_eq_none_iff.1 split)]
      rfl
    | some pair =>
      have colon : ':' ∈ tag.toList := by
        by_contra none
        rw [splitTag?_eq_none_iff.2 none] at split
        cases split
      rw [List.find?_cons_of_neg (by simpa using colon), List.filterMap_cons_some split]
      cases rest.find? _ <;> rfl

theorem filledText_eq_checked (recorded : String) (reported : Option String) :
    filledText field task recorded reported =
      checked (mismatch? field task (given (some recorded)) reported)
        (mergedText recorded reported) := by
  unfold filledText mergedText mismatch?
  rw [given_some]
  cases reported with
  | none => by_cases empty : recorded = "" <;> simp [empty, checked]
  | some value =>
    by_cases empty : recorded = ""
    · simp [empty, checked]
    · simp only [if_neg empty, Option.bind_some]
      split <;> rfl

theorem filledId_eq_checked (recorded : Option TaskId) (reported : Option String) :
    filledId field task recorded reported =
      checked (mismatch? field task (recorded.map (·.text)) reported)
        (mergedId recorded reported) := by
  unfold filledId mergedId mismatch?
  cases reported with
  | none => cases recorded <;> simp [given, checked]
  | some value =>
    cases recorded with
    | none => by_cases empty : value = "" <;> simp [given_some, empty, checked]
    | some id => by_cases same : id.text = value <;> simp [same, checked]

theorem readTime_eq_checked (value : String) :
    readTime field value task =
      checked (unreadable? field task (some value)) ((timeOf? value).getD default) := by
  rw [readTime_eq, unreadable?]
  cases read : timeOf? value <;> simp [read, checked]

theorem filledJob_eq_checked (recorded : Option String) (reported : String) :
    filledJob task recorded reported =
      checked (mismatch? "SwarmingTaskId" task recorded (some reported))
        (recorded.or (given (some reported))) := by
  unfold filledJob mismatch?
  cases recorded with
  | none => simp [given_some, checked]
  | some job => by_cases same : job = reported <;> simp [same, checked]

theorem replacedTime_eq_checked (recorded : Option Instant) (reported : Option String) :
    replacedTime field task recorded reported =
      checked (unreadable? field task (given reported))
        (((given reported).bind timeOf?).or recorded) := by
  unfold replacedTime
  cases given reported with
  | none => rfl
  | some value =>
    simp only [readTime_eq_checked, unreadable?, Option.bind_some]
    cases timeOf? value <;> rfl

theorem filledCreated_eq_checked {text : String} {time : Instant} (read : timeOf? text = some time)
    (recorded : Option Instant) :
    filledCreated task recorded time =
      checked (recorded.bind fun was => (timeOf? text).bind fun now =>
        if was = now then none
        else some (.creationTimeChanged task (String.ofList was.offsetText)
          (String.ofList now.offsetText)))
        (recorded.or (some time)) := by
  unfold filledCreated
  rw [read]
  cases recorded with
  | none => rfl
  | some was => by_cases same : was = time <;> simp [same, checked]

theorem parse_eq_checked (report : Report) (about : Task) :
    JobState.parse report.state =
      checked (Check.state.objection? about report)
        ((JobState.parse report.state).toOption.getD default) := by
  show _ = checked (if ∃ state ∈ JobState.all, state.name = report.state then _ else _) _
  split
  · rename_i known
    obtain ⟨state, -, named⟩ := known
    rw [JobState.parse_eq_ok_iff.2 named]
    rfl
  · rename_i unknown
    rw [JobState.parse_eq_error fun state named => unknown ⟨state, JobState.mem_all state, named⟩]
    rfl

theorem replacedFinished_eq_checked (report : Report) (status : Status) (recorded : Option Instant) :
    report.replacedFinished task status recorded =
      checked ((unreadable? "completed_ts" task (given report.completed)).or
        (if given report.completed = none ∧ status = .mishap then
          unreadable? "abandoned_ts" task (given report.abandoned)
        else none))
        (((report.endText status).bind timeOf?).or recorded) := by
  unfold replacedFinished endText
  simp only [replacedTime_eq_checked]
  cases completed : given report.completed with
  | some text => simp
  | none => by_cases mishap : status = .mishap <;> simp [mishap, unreadable?]

end Parts

/-- What a report says, as far as it can be read. -/
def reading (report : Report) : Reading :=
  let status := ((JobState.parse report.state).toOption.getD default).status report.failed
  { tags := report.rawTags.filterMap splitTag?
    created := (timeOf? (report.created.getD "")).getD default
    jobId := report.jobId
    status := status
    output := report.output
    started := (given report.started).bind timeOf?
    finished := (report.endText status).bind timeOf? }

theorem all_reading (report : Report) (key : String) :
    report.reading.tags.all key = report.values key :=
  Tags.all_filterMap_splitTag? report.rawTags key

theorem first?_reading (report : Report) (key : String) :
    report.reading.tags.first? key = report.value? key := by
  rw [Tags.first?, all_reading, value?]

/-- A state that is known means the status that is read. -/
theorem means_iff {report : Report} {about : Task}
    (known : Check.state.objection? about report = none) (status : Status) :
    report.Means status ↔ report.reading.status = status := by
  have parsed := parse_eq_checked report about
  rw [known, checked_none] at parsed
  constructor
  · rintro ⟨state, named, rfl⟩
    show ((JobState.parse report.state).toOption.getD default).status report.failed = _
    rw [JobState.parse_eq_ok_iff.2 named]
    rfl
  · rintro rfl
    exact ⟨_, JobState.parse_eq_ok_iff.1 parsed, rfl⟩

end Report

theorem exists_time_of_readable {field task value : String}
    (readable : unreadable? field task (some value) = none) : ∃ time, timeOf? value = some time := by
  rw [unreadable?, Option.bind_some] at readable
  split at readable
  · rename_i read
    exact Option.isSome_iff_exists.1 read
  · cases readable

theorem findSome?_cons_or {α β : Type} (f : α → Option β) (first : α) (rest : List α) :
    (first :: rest).findSome? f = (f first).or (rest.findSome? f) := by
  rw [List.findSome?_cons]
  cases f first <;> rfl

namespace Task

/-- **Merging a report** is to make all checks and then the merge. -/
theorem reconcile_eq (task : Task) (report : Report) :
    task.reconcile report =
      checked (Check.all.findSome? (Check.objection? task report)) (task.merged report.reading) := by
  have first (key : String) :
      Tags.first? (report.rawTags.filterMap splitTag?) key = report.value? key :=
    report.first?_reading key
  simp only [Check.all, findSome?_cons_or, List.findSome?_nil]
  simp only [reconcile, Report.tags_eq_checked report task, Report.filledId_eq_checked,
    Report.filledText_eq_checked, Report.readTime_eq_checked, Report.filledJob_eq_checked,
    Report.replacedTime_eq_checked, Report.replacedFinished_eq_checked]
  refine checked_bind fun _ => ?_
  simp only [first]
  -- The five checks of the tags' values, then that of the text of the creation time.
  iterate 5 refine checked_bind fun _ => ?_
  refine checked_bind fun readable => ?_
  obtain ⟨time, read⟩ := exists_time_of_readable readable
  have created : (timeOf? (report.created.getD "")).getD default = time := by
    rw [read, Option.getD_some]
  rw [created, Report.filledCreated_eq_checked read]
  iterate 2 refine checked_bind fun _ => ?_
  rw [Report.parse_eq_checked report task]
  refine checked_bind fun known => ?_
  refine checked_bind fun _ => ?_
  -- Of the times of the end, one is asked for at most.
  have abandoned : Check.abandoned.objection? task report =
      if given report.completed = none ∧ report.reading.status = .mishap then
        unreadable? "abandoned_ts" task.label (given report.abandoned)
      else none := by
    simp only [Check.objection?, Report.means_iff known]
  rw [abandoned, ← Option.or_assoc]
  refine checked_bind fun _ => ?_
  rw [checked_none, merged]
  simp only [Report.first?_reading]
  rw [show report.reading.created = time from created]
  rfl

end Task

/-! ### What the checks ask for -/

section Passing

variable {field task : String}

theorem mismatch?_eq_none_iff {recorded reported : Option String} :
    mismatch? field task recorded reported = none ↔
      ∀ was ∈ recorded, ∀ now ∈ reported, was = now := by
  simp [mismatch?]

theorem mismatch?_given_eq_none_iff {recorded : String} {reported : Option String} :
    mismatch? field task (given (some recorded)) reported = none ↔ AgreesWith recorded reported := by
  rw [mismatch?_eq_none_iff, Report.given_some, AgreesWith]
  by_cases empty : recorded = "" <;> simp [empty]

theorem mismatch?_text_eq_none_iff {recorded : Option TaskId} {reported : Option String} :
    mismatch? field task (recorded.map (·.text)) reported = none ↔ Names recorded reported := by
  rw [mismatch?_eq_none_iff, Names]
  cases recorded <;> simp

theorem unreadable?_eq_none_iff {text : Option String} :
    unreadable? field task text = none ↔ SaysTime text := by
  simp [unreadable?, SaysTime, Option.isSome_iff_ne_none]

end Passing

namespace Task

variable {task : Task} {report : Report}

/-- **No check objects** to a report exactly when it is consistent with the task. -/
theorem consistent_iff :
    (∀ check, Check.objection? task report check = none) ↔ task.Consistent report := by
  constructor
  · intro passes
    obtain ⟨time, read⟩ := exists_time_of_readable (passes .createdText)
    constructor
    case tags => simpa [Check.objection?] using passes .tags
    case id => exact mismatch?_text_eq_none_iff.1 (passes .id)
    case name => exact mismatch?_given_eq_none_iff.1 (passes .name)
    case repo => exact mismatch?_given_eq_none_iff.1 (passes .repo)
    case retryOf => exact mismatch?_text_eq_none_iff.1 (passes .retryOf)
    case revision => exact mismatch?_given_eq_none_iff.1 (passes .revision)
    case created => exact ⟨time, read, by simpa [Check.objection?, read] using passes .created⟩
    case jobId => simpa using mismatch?_eq_none_iff.1 (passes .jobId)
    case state => exact ⟨_, (Report.means_iff (passes .state) _).2 rfl⟩
    case started => exact unreadable?_eq_none_iff.1 (passes .started)
    case completed => exact unreadable?_eq_none_iff.1 (passes .completed)
    case abandoned =>
      intro absent mishap
      have passed := passes .abandoned
      rw [Check.objection?, if_pos ⟨absent, mishap⟩] at passed
      exact unreadable?_eq_none_iff.1 passed
  · intro consistent check
    obtain ⟨time, read, same⟩ := consistent.created
    cases check with
    | tags => simpa [Check.objection?] using consistent.tags
    | id => exact mismatch?_text_eq_none_iff.2 consistent.id
    | name => exact mismatch?_given_eq_none_iff.2 consistent.name
    | repo => exact mismatch?_given_eq_none_iff.2 consistent.repo
    | retryOf => exact mismatch?_text_eq_none_iff.2 consistent.retryOf
    | revision => exact mismatch?_given_eq_none_iff.2 consistent.revision
    | createdText => exact unreadable?_eq_none_iff.2 (by simp [SaysTime, read])
    | created => simpa [Check.objection?, read] using same
    | jobId => exact mismatch?_eq_none_iff.2 (by simpa using consistent.jobId)
    | state =>
      obtain ⟨_, state, named, -⟩ := consistent.state
      exact if_pos ⟨state, JobState.mem_all state, named⟩
    | started => exact unreadable?_eq_none_iff.2 consistent.started
    | completed => exact unreadable?_eq_none_iff.2 consistent.completed
    | abandoned =>
      rw [Check.objection?]
      split
      · rename_i asked
        exact unreadable?_eq_none_iff.2 (consistent.abandoned asked.1 asked.2)
      · rfl

/-- **A merge is what a consistent report asks for.** -/
theorem reportedAs_merged (consistent : task.Consistent report) :
    task.ReportedAs report (task.merged report.reading) := by
  have known := consistent_iff.2 consistent .state
  obtain ⟨time, read, -⟩ := consistent.created
  have first := report.first?_reading
  constructor
  case id | retryOf =>
    show mergedId _ _ = _
    rw [first]
    rfl
  case name | repo | revision =>
    show mergedText _ _ = _
    rw [first]
    rfl
  case parents =>
    show (Report.parents report.reading.tags).Perm _
    rw [Report.parents, Report.all_reading]
    exact List.mergeSort_perm _ _
  case sorted => exact Report.pairwise_parents report.reading.tags
  case created =>
    show task.created.or (some ((timeOf? (report.created.getD "")).getD default)) = _
    rw [read]
    rfl
  case status => exact (Report.means_iff known _).2 rfl
  case started =>
    have readable := consistent.started
    show startOr _ (((given report.started).bind timeOf?).or task.started) _ = _
    unfold startOr
    cases reported : given report.started with
    | none => cases task.started <;> simp [isDone, merged]
    | some text =>
      obtain ⟨start, isStart⟩ := Option.isSome_iff_exists.1 (readable text reported)
      simp [isStart]
  all_goals rfl

/-! ### Applying a report -/

theorem applyReport_eq (task : Task) (report : Report) :
    task.applyReport report =
      checked (Check.all.findSome? (Check.objection? task report))
        (decide (task.merged report.reading ≠ task), task.merged report.reading) := by
  rw [applyReport, reconcile_eq]
  cases Check.all.findSome? _ <;> rfl

/-- The error is that of the first check that objects. -/
def FirstObjection (task : Task) (report : Report) (error : ReportError) : Prop :=
  ∃ earlier check later, Check.all = earlier ++ check :: later ∧
    Check.objection? task report check = some error ∧
    ∀ other ∈ earlier, Check.objection? task report other = none

/-- **A report is applied exactly if it is consistent with the task**, and then the task is what the report
asks for. Any other report leaves the task as it is, with the error of the first check that fails. -/
theorem applyReport_exact (task : Task) (report : Report) :
    ((∃ changed updated, task.applyReport report = .ok (changed, updated)) ↔
      task.Consistent report) ∧
    (∀ error, task.applyReport report = .error error ↔ task.FirstObjection report error) ∧
    (∀ error, task.applyReport report = .error error → task.afterReport report = task) ∧
    ∀ changed updated, task.applyReport report = .ok (changed, updated) →
      task.ReportedAs report updated ∧ (changed = true ↔ updated ≠ task) ∧
        task.afterReport report = updated := by
  have passes : Check.all.findSome? (Check.objection? task report) = none ↔ task.Consistent report := by
    rw [List.findSome?_eq_none_iff, ← consistent_iff]
    exact ⟨fun none check => none check check.mem_all, fun none check _ => none check⟩
  refine ⟨?_, fun error => ?_, fun error refused => ?_, ?_⟩
  · rw [applyReport_eq, ← passes]
    constructor
    · rintro ⟨changed, updated, applied⟩
      exact (checked_eq_ok_iff.1 applied).1
    · intro none
      exact ⟨_, _, checked_eq_ok_iff.2 ⟨none, rfl⟩⟩
  · rw [applyReport_eq, checked_eq_error_iff, List.findSome?_eq_some_iff]
    rfl
  · rw [afterReport, refused]
  · intro changed updated applied
    have after : task.afterReport report = updated := by rw [afterReport, applied]
    rw [applyReport_eq, checked_eq_ok_iff, Prod.mk.injEq] at applied
    obtain ⟨none, rfl, rfl⟩ := applied
    exact ⟨reportedAs_merged (passes.1 none), decide_eq_true_iff, after⟩

end Task

end TaskLedger
