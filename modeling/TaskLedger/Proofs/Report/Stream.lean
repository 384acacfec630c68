/-
**Streams of reports.** A task gets report after report; one that is refused leaves it as it is.

* `Task.afterReports` — the task after a stream of reports.
* `Task.Keeps`, `keeps_afterReports` — what identifies a task is written once, whatever the reports say.
* `identity_write_once` — that, with the start of a task that has ended.
* `Report.SameJob`, `Report.IsComplete` — reports of one job; a report that says when it started and ended.
* `reports_converge` — of the reports of one job only the last complete one counts. Each report before it
  either is refused or leaves the task with the identity that the last one asks for
  (`reconcile_afterReport`), so nothing is left of it but what the last one overwrites.
* `applyReport_again` — a report that was applied has nothing new to say.
-/
import TaskLedger.Proofs.Report.Reading

namespace TaskLedger

open Time (Instant)

namespace Task

/-- The task after a report; one that is refused leaves it as it is. -/
def afterReport (task : Task) (report : Report) : Task :=
  match task.applyReport report with
  | .ok (_, updated) => updated
  | .error _ => task

/-- The task after reports, one after another. -/
def afterReports (task : Task) (reports : List Report) : Task :=
  reports.foldl afterReport task

/-- A report is merged, or leaves the task as it is. -/
theorem afterReport_cases (task : Task) (report : Report) :
    (∃ reading, report.Reads reading ∧ task.Agrees reading ∧
      task.afterReport report = task.merged reading) ∨ task.afterReport report = task := by
  unfold afterReport
  cases applied : task.applyReport report with
  | error cause => exact .inr rfl
  | ok result =>
    obtain ⟨merge, -⟩ := applyReport_eq_ok_iff.1 applied
    obtain ⟨reading, reads, agrees, result⟩ := reconcile_eq_ok_iff.1 merge
    exact .inl ⟨reading, reads, agrees, result.symm⟩

/-! ### What is written once -/

/-- What is recorded of a task stays. -/
structure Keeps (before after : Task) : Prop where
  id : before.id ≠ none → after.id = before.id
  retryOf : before.retryOf ≠ none → after.retryOf = before.retryOf
  created : before.created ≠ none → after.created = before.created
  jobId : before.jobId ≠ none → after.jobId = before.jobId
  name : before.name ≠ "" → after.name = before.name
  repo : before.repo ≠ "" → after.repo = before.repo
  revision : before.revision ≠ "" → after.revision = before.revision
  commits : after.commits = before.commits
  stamp : after.stamp = before.stamp
  started : before.started ≠ none → after.started ≠ none
  finished : before.finished ≠ none → after.finished ≠ none

theorem Keeps.refl (task : Task) : task.Keeps task := by
  constructor <;> simp

theorem Keeps.trans {a b c : Task} (first : a.Keeps b) (second : b.Keeps c) : a.Keeps c := by
  -- Each recorded field passes through the middle task unchanged.
  have through {α : Type} {field : Task → α} {empty : α}
      (keeps : field a ≠ empty → field b = field a) (keeps' : field b ≠ empty → field c = field b)
      (recorded : field a ≠ empty) : field c = field a := by
    rw [keeps' (by rwa [keeps recorded]), keeps recorded]
  exact {
    id := through first.id second.id
    retryOf := through first.retryOf second.retryOf
    created := through first.created second.created
    jobId := through first.jobId second.jobId
    name := through first.name second.name
    repo := through first.repo second.repo
    revision := through first.revision second.revision
    commits := second.commits.trans first.commits
    stamp := second.stamp.trans first.stamp
    started := second.started ∘ first.started
    finished := second.finished ∘ first.finished }

theorem or_eq_self {α : Type} {recorded reported : Option α} (known : recorded ≠ none) :
    recorded.or reported = recorded :=
  Option.or_of_isSome (Option.isSome_iff_ne_none.2 known)

/-- A merge keeps what is recorded. -/
theorem keeps_merged (task : Task) (reading : Reading) : task.Keeps (task.merged reading) where
  id := or_eq_self
  retryOf := or_eq_self
  created := or_eq_self
  jobId := or_eq_self
  name known := if_neg known
  repo known := if_neg known
  revision known := if_neg known
  commits := rfl
  stamp := rfl
  started known := by
    cases started : task.started with
    | none => exact absurd started known
    | some time => cases reading.started <;> simp [merged, startOr, started]
  finished known := by
    simp [merged, known]

theorem keeps_afterReport (task : Task) (report : Report) : task.Keeps (task.afterReport report) := by
  rcases task.afterReport_cases report with ⟨reading, -, -, merge⟩ | refused
  · rw [merge]
    exact keeps_merged task reading
  · rw [refused]
    exact Keeps.refl task

/-- **What is recorded stays** through a stream of reports. -/
theorem keeps_afterReports (task : Task) (reports : List Report) :
    task.Keeps (task.afterReports reports) := by
  induction reports generalizing task with
  | nil => exact Keeps.refl task
  | cons report rest ih => exact (keeps_afterReport task report).trans (ih _)

/-- A task that a report leaves ended has a start. -/
theorem started_of_merged {task : Task} {reading : Reading}
    (isDone : (task.merged reading).isDone = true) (finished : (task.merged reading).finished ≠ none) :
    (task.merged reading).started ≠ none := by
  have status : reading.status.isDone = true := isDone
  show startOr reading.status (reading.started.or task.started) (task.merged reading).finished ≠ none
  unfold startOr
  split
  · exact finished
  · rename_i given
    simpa [status] using given

/-- **The identity of a task is written once.** Between any two moments of a stream of reports what was
recorded stays, and a task that a report leaves in a final status with an end has a start. -/
theorem identity_write_once (task : Task) (earlier later : List Report) :
    (task.afterReports earlier).Keeps (task.afterReports (earlier ++ later)) ∧
    ∀ report changed updated,
      (task.afterReports earlier).applyReport report = .ok (changed, updated) →
      updated.isDone = true → updated.finished ≠ none → updated.started ≠ none := by
  constructor
  · rw [afterReports, afterReports, List.foldl_append]
    exact keeps_afterReports _ later
  · intro report changed updated applied
    obtain ⟨merge, -⟩ := applyReport_eq_ok_iff.1 applied
    obtain ⟨reading, -, -, rfl⟩ := reconcile_eq_ok_iff.1 merge
    exact started_of_merged

end Task

/-! ### Reports of one job -/

namespace Report

/-- Two reports are about one job: they have the same tags, identifier and creation time. -/
structure SameJob (report other : Report) : Prop where
  tags : report.rawTags = other.rawTags
  jobId : report.jobId = other.jobId
  created : report.created = other.created

/-- A report says when the job started and when it completed. -/
structure IsComplete (report : Report) : Prop where
  started : given report.started ≠ none
  completed : given report.completed ≠ none

variable {report other : Report} {reading reading' : Reading}

/-- What reports of one job say of its identity is the same. -/
theorem SameJob.reads (same : report.SameJob other) (reads : report.Reads reading)
    (reads' : other.Reads reading') : reading.SameJob reading' := by
  have tags : report.tags = other.tags := by rw [Report.tags, Report.tags, same.tags]
  rw [reads.tags, reads'.tags] at tags
  have created := reads.created
  rw [same.created, reads'.created] at created
  refine ⟨Except.ok.inj tags, (Option.some.inj created).symm, ?_⟩
  rw [reads.jobId, reads'.jobId, same.jobId]

theorem IsComplete.started_ne_none (complete : report.IsComplete) (reads : report.Reads reading) :
    reading.started ≠ none := by
  intro absent
  have started := reads.started
  rw [absent] at started
  exact complete.started (Option.map_eq_none_iff.1 started.symm)

theorem IsComplete.finished_ne_none (complete : report.IsComplete) (reads : report.Reads reading) :
    reading.finished ≠ none := by
  intro absent
  have finished := reads.finished
  rw [absent, endText, Task.or_eq_self complete.completed] at finished
  exact complete.completed (Option.map_eq_none_iff.1 finished.symm)

end Report

namespace Task

/-- **An earlier report of the job makes no difference** to what a complete one leaves. -/
theorem reconcile_afterReport {task final : Task} {report last : Report} (complete : last.IsComplete)
    (same : report.SameJob last) (merge : task.reconcile last = .ok final) :
    (task.afterReport report).reconcile last = .ok final := by
  obtain ⟨reading, reads, agrees, rfl⟩ := reconcile_eq_ok_iff.1 merge
  rcases task.afterReport_cases report with ⟨earlier, readsEarlier, -, merged⟩ | refused
  · have sameJob := same.reads readsEarlier reads
    rw [merged, ← merged_of_complete sameJob (complete.started_ne_none reads)
      (complete.finished_ne_none reads)]
    exact reconcile_eq_ok reads (agrees.merged sameJob)
  · rw [refused]
    exact merge

/-- **Reports of one job converge to the last complete one**, whatever came before it, in whatever order
and how much of it was refused. -/
theorem reports_converge {task final : Task} {changed : Bool} {earlier : List Report} {last : Report}
    (complete : last.IsComplete) (sameJob : ∀ report ∈ earlier, report.SameJob last)
    (applied : task.applyReport last = .ok (changed, final)) :
    ∃ changed', (task.afterReports earlier).applyReport last = .ok (changed', final) := by
  suffices merged : (task.afterReports earlier).reconcile last = .ok final from
    ⟨_, applyReport_eq_ok_iff.2 ⟨merged, rfl⟩⟩
  have merge := (applyReport_eq_ok_iff.1 applied).1
  clear applied
  induction earlier generalizing task with
  | nil => exact merge
  | cons report rest ih =>
    obtain ⟨same, sameRest⟩ := List.forall_mem_cons.1 sameJob
    exact ih sameRest (reconcile_afterReport complete same merge)

/-- A job that was given up before it started, as far as the backend knew then. -/
def givenUp : Report :=
  { Report.blank with
    jobId := "job", state := "CANCELED", rawTags := ["sk_id:a", "sk_name:build"],
    created := some "2026-10-19T12:00:00", abandoned := some "2026-10-19T12:30:00" }

/-- The same job, which ran after all. -/
def ran : Report :=
  { givenUp with
    state := "COMPLETED", abandoned := none,
    started := some "2026-10-19T12:10:00", completed := some "2026-10-19T12:20:00" }

/-- The first report sets a start that the last one replaces; the one in between is refused. -/
theorem ran_after_givenUp : ∃ changed final changed',
    ran.IsComplete ∧ (∀ report ∈ [givenUp, { givenUp with state := "LOST" }], report.SameJob ran) ∧
    blank.applyReport ran = .ok (changed, final) ∧
    (blank.afterReport givenUp).started ≠ none ∧ (blank.afterReport givenUp).started ≠ final.started ∧
    (blank.afterReports [givenUp, { givenUp with state := "LOST" }]).applyReport ran =
      .ok (changed', final) := by
  have complete : ran.IsComplete := ⟨by decide, by decide⟩
  have sameJob : ∀ report ∈ [givenUp, { givenUp with state := "LOST" }], report.SameJob ran := by
    intro report member
    simp only [List.mem_cons, List.not_mem_nil, or_false] at member
    rcases member with rfl | rfl <;> exact ⟨rfl, rfl, rfl⟩
  have starts : (blank.afterReport givenUp).started ≠ none ∧
      ((blank.applyReport ran).toOption.all fun result =>
        (blank.afterReport givenUp).started ≠ result.2.started) = true ∧
      (blank.applyReport ran).toOption.isSome = true := by decide
  cases applied : blank.applyReport ran with
  | error cause =>
    rw [applied] at starts
    cases starts.2.2
  | ok result =>
    obtain ⟨changed', again⟩ := reports_converge complete sameJob applied
    rw [applied] at starts
    exact ⟨_, _, changed', complete, sameJob, rfl, starts.1, of_decide_eq_true starts.2.1, again⟩

/-! ### The same report again -/

/-- **Applying a report is idempotent.** A report that was applied once is applied again without any
change, and it says of itself whether it made a difference. -/
theorem applyReport_again {task updated : Task} {report : Report} {changed : Bool}
    (applied : task.applyReport report = .ok (changed, updated)) :
    updated.applyReport report = .ok (false, updated) ∧ (changed = false ↔ updated = task) := by
  obtain ⟨merge, news⟩ := applyReport_eq_ok_iff.1 applied
  have again : updated.reconcile report = .ok updated := reconcile_again merge updated.stamp
  constructor
  · exact applyReport_eq_ok_iff.2 ⟨again, by simp⟩
  · rw [news, decide_eq_false_iff_not, Decidable.not_not]

/-- A job that was given up fills in the identity, the end and, from it, the start of a blank task; the
second time there is nothing left to fill in. -/
theorem givenUp_again : ∃ updated, blank.applyReport givenUp = .ok (true, updated) ∧
    updated.started = updated.finished ∧ updated.started ≠ none ∧
    updated.applyReport givenUp = .ok (false, updated) := by
  have first : ((blank.applyReport givenUp).toOption.all fun result =>
      result.1 = true ∧ result.2.started = result.2.finished ∧ result.2.started ≠ none) = true ∧
      (blank.applyReport givenUp).toOption.isSome = true := by decide
  cases applied : blank.applyReport givenUp with
  | error cause =>
    rw [applied] at first
    cases first.2
  | ok result =>
    obtain ⟨changed, updated⟩ := result
    rw [applied] at first
    obtain ⟨rfl, started, known⟩ := of_decide_eq_true first.1
    exact ⟨updated, rfl, started, known, (applyReport_again applied).1⟩

end Task

end TaskLedger
