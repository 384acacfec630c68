/-
**The comments of a repository by what identifies them.** A repository holds comments of three kinds, by
what they are about and when they were made.

* `Subject`, `Comment.subject`, `Comment.time` — what a comment is about, and its time.
* `RepoComments.at?` — the comment about a subject of a time.
* `RepoComments.Tidy` — the repository has its label, no group is empty and all of them ascend.
* `RepoComments.inserts_add`, `RepoComments.erases_remove` — adding and removing a comment.
* `RepoComments.at?_since`, `RepoComments.mem_under_iff` — what the recent comments are, and how they are
  filed.
-/
import TaskLedger.Comment.Repo
import TaskLedger.Proofs.Comment.Group

namespace TaskLedger

open Time (Instant)

/-! ### What identifies a comment -/

/-- What a comment of a repository is about. -/
inductive Subject where
  | task (name commit : String)
  | spec (name : String)
  | commit (commit : String)
deriving DecidableEq

namespace Comment

def subject : Comment → Subject
  | .task comment => .task comment.name comment.commit
  | .spec comment => .spec comment.name
  | .commit comment => .commit comment.commit

def time : Comment → Instant
  | .task comment => comment.time
  | .spec comment => comment.time
  | .commit comment => comment.time

/-- What identifies the comment, for messages. -/
def identity : Comment → String
  | .task comment => comment.identity
  | .spec comment => comment.identity
  | .commit comment => comment.identity

end Comment

namespace RepoComments

/-- The comment about a subject of a time. -/
def at? (comments : RepoComments) : Subject × Instant → Option Comment
  | (.task name commit, time) =>
    (comments.onTasks.within Groups.at? (name, commit, time)).map .task
  | (.spec name, time) => (Groups.at? comments.onSpecs (name, time)).map .spec
  | (.commit commit, time) => (Groups.at? comments.onCommits (commit, time)).map .commit

/-- The comments of a repository are in order. -/
structure Tidy (repo : String) (comments : RepoComments) : Prop where
  label : comments.repo = repo
  onTasks : comments.onTasks.Every fun _ groups => groups.isEmpty = false ∧ groups.Tidy
  onSpecs : comments.onSpecs.Tidy
  onCommits : comments.onCommits.Tidy

theorem tidy_ofRepo (repo : String) : Tidy repo (ofRepo repo) :=
  ⟨rfl, Table.every_empty _, Table.every_empty _, Table.every_empty _⟩

/-! ### The three kinds -/

variable {repo : String}

theorem part_tasks (comments : RepoComments) :
    Part (Table.within Groups.at?) at? (fun onTasks => { comments with onTasks := onTasks })
      (fun (name, commit, time) => (.task name commit, time)) Comment.task where
  wrap_injective _ _ same := Comment.task.inj same
  place_injective := by
    rintro ⟨_, _, _⟩ ⟨_, _, _⟩ same
    cases same
    rfl
  own _ _ := rfl
  others _ _ key apart := by
    obtain ⟨subject, time⟩ := key
    cases subject with
    | task name commit => exact absurd rfl (apart (name, commit, time))
    | spec name => rfl
    | commit commit => rfl

theorem part_specs (comments : RepoComments) :
    Part Groups.at? at? (fun onSpecs => { comments with onSpecs := onSpecs })
      (fun (name, time) => (.spec name, time)) Comment.spec where
  wrap_injective _ _ same := Comment.spec.inj same
  place_injective := by
    rintro ⟨_, _⟩ ⟨_, _⟩ same
    cases same
    rfl
  own _ _ := rfl
  others _ _ key apart := by
    obtain ⟨subject, time⟩ := key
    cases subject with
    | task name commit => rfl
    | spec name => exact absurd rfl (apart (name, time))
    | commit commit => rfl

theorem part_commits (comments : RepoComments) :
    Part Groups.at? at? (fun onCommits => { comments with onCommits := onCommits })
      (fun (commit, time) => (.commit commit, time)) Comment.commit where
  wrap_injective _ _ same := Comment.commit.inj same
  place_injective := by
    rintro ⟨_, _⟩ ⟨_, _⟩ same
    cases same
    rfl
  own _ _ := rfl
  others _ _ key apart := by
    obtain ⟨subject, time⟩ := key
    cases subject with
    | task name commit => rfl
    | spec name => rfl
    | commit commit => exact absurd rfl (apart (commit, time))

/-! ### Adding and removing -/

variable {comments : RepoComments}

theorem isEmpty_of_at? {κ : Type} [Dated κ] {groups : Groups κ} {key : String × Instant}
    {comment : κ} (there : groups.at? key = some comment) : groups.isEmpty = false := by
  refine Bool.eq_false_iff.2 fun empty => ?_
  have none : groups.get? key.1 = none := by
    rw [Table.get?, List.isEmpty_iff.1 empty]
    rfl
  rw [Groups.at?, Table.within, none] at there
  cases there

theorem at?_of_isEmpty {κ : Type} [Dated κ] {groups : Groups κ} (empty : groups.isEmpty = true)
    (key : String × Instant) : groups.at? key = none := by
  rw [← Option.not_isSome_iff_eq_none, Option.isSome_iff_exists]
  rintro ⟨comment, there⟩
  exact Bool.false_ne_true ((isEmpty_of_at? there).symm.trans empty)

/-- **A comment is added** under what identifies it. -/
theorem inserts_add (tidy : Tidy repo comments) (comment : Comment) :
    Inserts at? (Tidy repo) (comment.subject, comment.time) comment ⟨comment.identity⟩ comments
      (comments.add comment) := by
  cases comment with
  | task comment =>
    have groups : ((comments.onTasks.get? comment.name).getD ∅).Tidy :=
      Table.Every.getD (fun name groups held => (tidy.onTasks name groups held).2) (Table.every_empty _)
    have inner := (Groups.inserts_add groups comment.commit comment).imp fun after sound there =>
      And.intro (isEmpty_of_at? there) sound
    have outer := inner.insert tidy.onTasks fun _ => rfl
    have sound (onTasks : Table String (Groups TaskComment))
        (every : onTasks.Every fun _ groups => groups.isEmpty = false ∧ groups.Tidy) :
        Tidy repo { comments with onTasks := onTasks } :=
      ⟨tidy.label, every, tidy.onSpecs, tidy.onCommits⟩
    have whole := outer.lift (part_tasks comments) sound
    rw [add]
    generalize Groups.add comment.commit comment _ = outcome at whole
    cases outcome <;> exact whole
  | spec comment =>
    have inner := Groups.inserts_add tidy.onSpecs comment.name comment
    exact inner.lift (part_specs comments) fun onSpecs sound =>
      ⟨tidy.label, tidy.onTasks, sound, tidy.onCommits⟩
  | commit comment =>
    have inner := Groups.inserts_add tidy.onCommits comment.commit comment
    exact inner.lift (part_commits comments) fun onCommits sound =>
      ⟨tidy.label, tidy.onTasks, tidy.onSpecs, sound⟩

/-- **A comment is removed** by what identifies it. -/
theorem erases_remove (tidy : Tidy repo comments) (comment : Comment) :
    Erases at? (Tidy repo) (comment.subject, comment.time) comments (comments.remove comment) := by
  cases comment with
  | task comment =>
    rw [remove]
    cases held : comments.onTasks.get? comment.name with
    | none =>
      refine .absent ?_ tidy
      show (comments.onTasks.within Groups.at? (comment.name, comment.commit, comment.time)).map
        Comment.task = none
      rw [Table.within_of_none held]
      rfl
    | some groups =>
      have inner := Groups.erases_remove (tidy.onTasks comment.name groups held).2 comment.commit
        comment.time
      have outer := inner.prune held tidy.onTasks (fun empty => at?_of_isEmpty empty)
        fun left => ⟨left, inner.sound⟩
      exact outer.lift (part_tasks comments) fun onTasks sound =>
        ⟨tidy.label, sound, tidy.onSpecs, tidy.onCommits⟩
  | spec comment =>
    have inner := Groups.erases_remove tidy.onSpecs comment.name comment.time
    exact inner.lift (part_specs comments) fun onSpecs sound =>
      ⟨tidy.label, tidy.onTasks, sound, tidy.onCommits⟩
  | commit comment =>
    have inner := Groups.erases_remove tidy.onCommits comment.commit comment.time
    exact inner.lift (part_commits comments) fun onCommits sound =>
      ⟨tidy.label, tidy.onTasks, tidy.onSpecs, sound⟩

/-! ### Recent comments -/

/-- The comments about a subject. -/
def under (comments : RepoComments) : Subject → List Comment
  | .task name commit =>
    (((comments.onTasks.get? name).bind fun groups => groups.get? commit).getD []).map .task
  | .spec name => ((comments.onSpecs.get? name).getD []).map .spec
  | .commit commit => ((comments.onCommits.get? commit).getD []).map .commit

/-- What is filed under a subject is what is there by its time. -/
theorem mem_under_iff (tidy : Tidy repo comments) {subject : Subject} {comment : Comment} :
    comment ∈ comments.under subject ↔ comments.at? (subject, comment.time) = some comment := by
  cases subject with
  | task name commit =>
    show comment ∈ List.map _ _ ↔ Option.map _ (Table.within _ _ _) = _
    rw [List.mem_map, Option.map_eq_some_iff]
    refine exists_congr fun own => and_congr_left ?_
    rintro rfl
    cases held : comments.onTasks.get? name with
    | none =>
      rw [Table.within_of_none held]
      exact iff_of_false List.not_mem_nil nofun
    | some groups =>
      rw [Table.within_of_some held]
      exact Groups.mem_group_iff (tidy.onTasks name groups held).2
  | spec name =>
    show comment ∈ List.map _ _ ↔ Option.map _ (Groups.at? _ _) = _
    rw [List.mem_map, Option.map_eq_some_iff]
    refine exists_congr fun own => and_congr_left ?_
    rintro rfl
    exact Groups.mem_group_iff tidy.onSpecs
  | commit commit =>
    show comment ∈ List.map _ _ ↔ Option.map _ (Groups.at? _ _) = _
    rw [List.mem_map, Option.map_eq_some_iff]
    refine exists_congr fun own => and_congr_left ?_
    rintro rfl
    exact Groups.mem_group_iff tidy.onCommits

theorem tidy_since (tidy : Tidy repo comments) (start : Instant) :
    Tidy repo (comments.since start) := by
  refine ⟨tidy.label, Table.Every.filterMap fun name groups held kept recent => ?_,
    Groups.tidy_since tidy.onSpecs start, Groups.tidy_since tidy.onCommits start⟩
  rw [recentOfName?] at recent
  cases empty : (groups.since start).isEmpty with
  | true =>
    rw [if_pos empty] at recent
    cases recent
  | false =>
    rw [if_neg (Bool.eq_false_iff.1 empty)] at recent
    cases recent
    exact ⟨empty, Groups.tidy_since (tidy.onTasks name groups held).2 start⟩

/-- **The recent comments** are those that are not too early. -/
theorem at?_since (tidy : Tidy repo comments) (start : Instant) (key : Subject × Instant) :
    (comments.since start).at? key =
      (comments.at? key).filter fun comment => start ≤ comment.time := by
  obtain ⟨subject, time⟩ := key
  cases subject with
  | task name commit =>
    have recent : comments.onTasks.Every fun _ groups => ∀ place,
        ((recentOfName? start groups).bind fun after => after.at? place) =
          (groups.at? place).filter fun comment => start ≤ Dated.time comment := by
      intro name groups held place
      rw [← Groups.at?_since (tidy.onTasks name groups held).2, recentOfName?]
      split
      · rename_i empty
        rw [at?_of_isEmpty empty]
        rfl
      · rfl
    show ((comments.onTasks.filterMap (recentOfName? start)).within Groups.at? (name, commit, time)).map
      Comment.task = Option.filter _ (Option.map _ _)
    rw [Table.within_filterMap recent, Option.filter_map]
    rfl
  | spec name =>
    show (Groups.at? (comments.onSpecs.since start) (name, time)).map Comment.spec =
      Option.filter _ (Option.map _ _)
    rw [Groups.at?_since tidy.onSpecs, Option.filter_map]
    rfl
  | commit commit =>
    show (Groups.at? (comments.onCommits.since start) (commit, time)).map Comment.commit =
      Option.filter _ (Option.map _ _)
    rw [Groups.at?_since tidy.onCommits, Option.filter_map]
    rfl

end RepoComments

end TaskLedger
