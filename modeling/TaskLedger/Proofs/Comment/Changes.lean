/-
**The comments of a repository are in canonical form.** Comments are put into a repository and taken out
of it one after another, and what remains is determined by which comments those are.

* `Groups.addInPlace_eq`, `RepoComments.addInPlace_eq` — a change in place does what the change of a copy does,
  and a refusal changes nothing, though the group of the comment is made first.
* `RepoComments.after` — a repository after a row of changes, refused ones among them.
* `RepoComments.contents` — all comments of a repository.
* `RepoComments.Filed` — every comment stands under what it is about; with `Tidy` that holds after all
  changes, and makes `contents` tell repositories apart.
* `RepoComments.canonical` — the theorem; comments on one thing at one time have an order also when they name
  different repositories (`ordered_of_repos`).
-/
import TaskLedger.Proofs.Comment.Canonical
import TaskLedger.Proofs.Table
import Mathlib.Data.List.Find

namespace TaskLedger

open Time (Instant)

/-! ### Changes in place -/

section InPlace

variable {S : Type}

/-- The answer to a change and the state after it, which a refusal leaves as it was. -/
def settled (before : S) : Except Conflict (Bool × S) → Except Conflict Bool × S
  | .ok (changed, after) => (.ok changed, after)
  | .error conflict => (.error conflict, before)

variable {κ : Type} [Dated κ] [DecidableEq κ]

/-- Only a group that was there refuses a comment. -/
theorem Groups.exists_of_add_error {groups : Groups κ} {key : String} {comment : κ}
    {conflict : Conflict} (refused : groups.add key comment = .error conflict) :
    ∃ group, groups.get? key = some group := by
  cases held : groups.get? key with
  | some group => exact ⟨group, rfl⟩
  | none =>
    rw [Groups.add, held] at refused
    cases refused

theorem Groups.addInPlace_eq (groups : Groups κ) (key : String) (comment : κ) :
    groups.addInPlace key comment = settled groups (groups.add key comment) := by
  cases outcome : groups.add key comment with
  | ok changed =>
    rw [Groups.add] at outcome
    rw [Groups.addInPlace]
    generalize Group.add comment ((groups.get? key).getD []) = added at outcome
    cases added with
    | ok pair =>
      cases outcome
      rfl
    | error conflict => cases outcome
  | error conflict =>
    obtain ⟨group, held⟩ := Groups.exists_of_add_error outcome
    rw [Groups.add, held] at outcome
    rw [Groups.addInPlace, held]
    generalize added : Group.add comment _ = result at outcome
    cases result with
    | ok pair => cases outcome
    | error refusal =>
      cases outcome
      show (Except.error conflict, groups.insert key group) = _
      rw [Table.insert_of_get? held]
      rfl

/-- **A refusal changes nothing**, though its group is made first. -/
theorem RepoComments.addInPlace_eq (comments : RepoComments) (comment : Comment) :
    comments.addInPlace comment = settled comments (comments.add comment) := by
  cases comment with
  | task comment =>
    rw [addInPlace, add, Groups.addInPlace_eq]
    cases outcome : Groups.add comment.commit comment _ with
    | ok changed => rfl
    | error conflict =>
      obtain ⟨group, filed⟩ := Groups.exists_of_add_error outcome
      cases held : comments.onTasks.get? comment.name with
      | none =>
        rw [held] at filed
        cases filed
      | some groups =>
        show (Except.error conflict, RepoComments.mk comments.repo
          (comments.onTasks.insert comment.name groups) comments.onSpecs comments.onCommits) = _
        rw [Table.insert_of_get? held]
        rfl
  | spec comment =>
    rw [addInPlace, add, Groups.addInPlace_eq]
    cases Groups.add comment.name comment comments.onSpecs <;> rfl
  | commit comment =>
    rw [addInPlace, add, Groups.addInPlace_eq]
    cases Groups.add comment.commit comment comments.onCommits <;> rfl

end InPlace

/-! ### What is stored -/

theorem Groups.mem_flatten_iff {κ : Type} {groups : Groups κ} {comment : κ} :
    comment ∈ groups.values.flatten ↔ ∃ key, comment ∈ (groups.get? key).getD [] := by
  rw [List.mem_flatten]
  constructor
  · rintro ⟨group, member, stored⟩
    obtain ⟨key, held⟩ := Table.mem_values_iff.1 member
    exact ⟨key, by rwa [held, Option.getD_some]⟩
  · rintro ⟨key, stored⟩
    cases held : groups.get? key with
    | none =>
      rw [held] at stored
      cases stored
    | some group =>
      rw [held] at stored
      exact ⟨group, Table.mem_values_iff.2 ⟨key, held⟩, stored⟩

/-- What tells the comments of one repository apart. Comments that name another repository are taken like
its own. -/
def Comment.place (comment : Comment) : Subject × Instant :=
  (comment.subject, comment.time)

namespace RepoComments

/-- All comments of a repository. -/
def contents (comments : RepoComments) : List Comment :=
  (comments.onTasks.values.flatMap fun groups => groups.values.flatten).map .task ++
    comments.onSpecs.values.flatten.map .spec ++ comments.onCommits.values.flatten.map .commit

/-- Every comment stands under what it is about. -/
def Filed (comments : RepoComments) : Prop :=
  ∀ place comment, comments.at? place = some comment → comment.place = place

variable {repo : String} {comments : RepoComments}

theorem mem_contents_iff_under {comment : Comment} :
    comment ∈ comments.contents ↔ ∃ subject, comment ∈ comments.under subject := by
  rw [contents, List.mem_append, List.mem_append, List.mem_map, List.mem_map, List.mem_map]
  constructor
  · rintro ((⟨own, stored, rfl⟩ | ⟨own, stored, rfl⟩) | ⟨own, stored, rfl⟩)
    · obtain ⟨groups, held, stored⟩ := List.mem_flatMap.1 stored
      obtain ⟨name, held⟩ := Table.mem_values_iff.1 held
      obtain ⟨commit, stored⟩ := Groups.mem_flatten_iff.1 stored
      refine ⟨.task name commit, List.mem_map_of_mem ?_⟩
      rwa [held, Option.bind_some]
    · obtain ⟨name, stored⟩ := Groups.mem_flatten_iff.1 stored
      exact ⟨.spec name, List.mem_map_of_mem stored⟩
    · obtain ⟨commit, stored⟩ := Groups.mem_flatten_iff.1 stored
      exact ⟨.commit commit, List.mem_map_of_mem stored⟩
  · rintro ⟨subject, member⟩
    cases subject with
    | task name commit =>
      obtain ⟨own, stored, rfl⟩ := List.mem_map.1 member
      cases held : comments.onTasks.get? name with
      | none =>
        rw [held] at stored
        cases stored
      | some groups =>
        rw [held, Option.bind_some] at stored
        have listed : own ∈ comments.onTasks.values.flatMap fun groups => groups.values.flatten :=
          List.mem_flatMap.2 ⟨groups, Table.mem_values_iff.2 ⟨name, held⟩,
            Groups.mem_flatten_iff.2 ⟨commit, stored⟩⟩
        exact .inl (.inl ⟨own, listed, rfl⟩)
    | spec name =>
      obtain ⟨own, stored, rfl⟩ := List.mem_map.1 member
      exact .inl (.inr ⟨own, Groups.mem_flatten_iff.2 ⟨name, stored⟩, rfl⟩)
    | commit commit =>
      obtain ⟨own, stored, rfl⟩ := List.mem_map.1 member
      exact .inr ⟨own, Groups.mem_flatten_iff.2 ⟨commit, stored⟩, rfl⟩

/-- **What is stored is what is found** under its place. -/
theorem mem_contents_iff (tidy : Tidy repo comments) (filed : Filed comments) {comment : Comment} :
    comment ∈ comments.contents ↔ comments.at? comment.place = some comment := by
  rw [mem_contents_iff_under]
  constructor
  · rintro ⟨subject, member⟩
    have found := (mem_under_iff tidy).1 member
    rwa [filed _ comment found]
  · exact fun found => ⟨comment.subject, (mem_under_iff tidy).2 found⟩

/-- **Repositories with the same comments are the same.** -/
theorem ext_contents {a b : RepoComments} (tidyA : Tidy repo a) (tidyB : Tidy repo b)
    (filedA : Filed a) (filedB : Filed b)
    (same : ∀ comment, comment ∈ a.contents ↔ comment ∈ b.contents) : a = b := by
  refine ext_at? tidyA tidyB (funext fun place => Option.ext fun comment => ?_)
  constructor
  · intro found
    have own := filedA place comment found
    rw [← own] at found ⊢
    exact (mem_contents_iff tidyB filedB).1 ((same comment).1 ((mem_contents_iff tidyA filedA).2 found))
  · intro found
    have own := filedB place comment found
    rw [← own] at found ⊢
    exact (mem_contents_iff tidyA filedA).1 ((same comment).2 ((mem_contents_iff tidyB filedB).2 found))

/-! ### One change -/

/-- A change made in place, with whatever answer. -/
def changed (comments : RepoComments) : CommentChange → RepoComments
  | .put comment => (comments.addInPlace comment).2
  | .delete comment => (comments.remove comment).2

/-- What is found after a comment was put in: it, if nothing was there. -/
theorem at?_put (tidy : Tidy repo comments) (comment : Comment) :
    Tidy repo (comments.changed (.put comment)) ∧
      ∀ place, (comments.changed (.put comment)).at? place =
        (comments.at? place).or (if comment.place = place then some comment else none) := by
  have inserts : Inserts at? (Tidy repo) comment.place comment _ _ _ := inserts_add tidy comment
  rw [changed, addInPlace_eq]
  cases there : comments.at? comment.place with
  | none =>
    obtain ⟨after, made, sound, reads⟩ := inserts.added there
    rw [made]
    refine ⟨sound, fun place => ?_⟩
    show after.at? place = _
    by_cases own : comment.place = place
    · rw [reads, ← own, Function.update_self, there, Option.none_or, if_pos rfl]
    · rw [reads, Function.update_of_ne (Ne.symm own), if_neg own, Option.or_none]
  | some stored =>
    have unchanged : (settled comments (comments.add comment)).2 = comments := by
      by_cases same : stored = comment
      · rw [inserts.kept (there.trans (congrArg some same))]
        rfl
      · rw [inserts.rejected stored there same]
        rfl
    rw [unchanged]
    refine ⟨tidy, fun place => ?_⟩
    by_cases own : comment.place = place
    · rw [← own, there, Option.some_or]
    · rw [if_neg own, Option.or_none]

/-- **A change keeps the comments in order**, each under what it is about. -/
theorem sound_changed (tidy : Tidy repo comments) (filed : Filed comments) (change : CommentChange) :
    Tidy repo (comments.changed change) ∧ Filed (comments.changed change) := by
  cases change with
  | put comment =>
    obtain ⟨sound, reads⟩ := at?_put tidy comment
    refine ⟨sound, fun place stored found => ?_⟩
    rw [reads, Option.or_eq_some_iff] at found
    rcases found with old | ⟨-, new⟩
    · exact filed place stored old
    · split at new
      · rename_i own
        cases new
        exact own
      · cases new
  | delete comment =>
    have erases : Erases at? (Tidy repo) comment.place comments _ := erases_remove tidy comment
    refine ⟨erases.sound, fun place stored found => filed place stored ?_⟩
    rw [changed, erases.erased] at found
    by_cases own : place = comment.place
    · rw [own, Function.update_self] at found
      cases found
    · rwa [Function.update_of_ne own] at found

/-! ### Rows of changes -/

/-- A repository after changes. -/
def after (comments : RepoComments) (changes : List CommentChange) : RepoComments :=
  changes.foldl changed comments

theorem sound_after (repo : String) (changes : List CommentChange) :
    Tidy repo ((ofRepo repo).after changes) ∧ Filed ((ofRepo repo).after changes) := by
  induction changes using List.reverseRecOn with
  | nil =>
    refine ⟨tidy_ofRepo repo, fun place comment found => ?_⟩
    have nothing := (CommentBook.at?_ofRepo repo place).symm.trans found
    cases nothing
  | append_singleton changes change ih =>
    rw [after, List.foldl_append]
    exact sound_changed ih.1 ih.2 change

/-- What is found after comments were put in: the first of each place, if nothing was there. -/
theorem at?_puts (tidy : Tidy repo comments) (puts : List Comment) :
    Tidy repo (comments.after (puts.map .put)) ∧
      ∀ place, (comments.after (puts.map .put)).at? place =
        (comments.at? place).or (puts.find? fun comment => comment.place = place) := by
  induction puts generalizing comments with
  | nil => exact ⟨tidy, fun place => (Option.or_none).symm⟩
  | cons comment rest ih =>
    obtain ⟨sound, reads⟩ := at?_put tidy comment
    obtain ⟨soundRest, readsRest⟩ := ih sound
    refine ⟨soundRest, fun place => ?_⟩
    show (after (comments.changed _) _).at? place = _
    rw [readsRest, reads, Option.or_assoc, List.find?_cons]
    by_cases own : comment.place = place
    · rw [if_pos own, decide_eq_true own, Option.some_or]
    · rw [if_neg own, decide_eq_false own, Option.none_or]

/-- **The order of comments with different places does not matter.** -/
theorem after_puts_perm (tidy : Tidy repo comments) {puts puts' : List Comment}
    (perm : puts.Perm puts') (distinct : (puts.map Comment.place).Nodup) :
    comments.after (puts.map .put) = comments.after (puts'.map .put) := by
  obtain ⟨sound, reads⟩ := at?_puts tidy puts
  obtain ⟨sound', reads'⟩ := at?_puts tidy puts'
  refine ext_at? sound sound' (funext fun place => ?_)
  rw [reads, reads', List.find?_eq_find?_of_perm perm]
  intro a first b second
  refine List.inj_on_of_nodup_map distinct first.1 second.1 ?_
  exact (of_decide_eq_true first.2).trans (of_decide_eq_true second.2).symm

/-- **A removal takes back what was added.** -/
theorem remove_added (tidy : Tidy repo comments) {comment : Comment}
    (added : (comments.addInPlace comment).1 = .ok true) :
    (comments.addInPlace comment).2.remove comment = (true, comments) := by
  have inserts : Inserts at? (Tidy repo) comment.place comment _ _ _ := inserts_add tidy comment
  rw [addInPlace_eq] at added ⊢
  cases there : comments.at? comment.place with
  | some stored =>
    by_cases same : stored = comment
    · rw [inserts.kept (there.trans (congrArg some same))] at added
      cases added
    · rw [inserts.rejected stored there same] at added
      cases added
  | none =>
    obtain ⟨more, made, sound, reads⟩ := inserts.added there
    rw [made]
    have erases : Erases at? (Tidy repo) comment.place more _ := erases_remove sound comment
    refine Prod.ext ?_ (ext_at? erases.sound tidy ?_)
    · show (more.remove comment).1 = true
      rw [erases.found, reads, Function.update_self]
      rfl
    · show (more.remove comment).2.at? = _
      rw [erases.erased, reads, Function.update_idem, ← there, Function.update_eq_self]

/-- The comments of a repository are a canonical form of their set, whatever was put in and taken out. -/
structure Canonical (repo : String) : Prop where
  /-- The comments that are stored determine everything. -/
  determined : ∀ changes changes' : List CommentChange,
    (∀ comment, comment ∈ ((ofRepo repo).after changes).contents ↔
      comment ∈ ((ofRepo repo).after changes').contents) →
    (ofRepo repo).after changes = (ofRepo repo).after changes'
  /-- Comments with different places may be put in in any order. -/
  unordered : ∀ (changes : List CommentChange) (puts puts' : List Comment), puts.Perm puts' →
    (puts.map Comment.place).Nodup →
    (ofRepo repo).after (changes ++ puts.map .put) = (ofRepo repo).after (changes ++ puts'.map .put)
  /-- No group is empty, and the times in each strictly ascend. -/
  tidy : ∀ changes, Tidy repo ((ofRepo repo).after changes)
  /-- The removal of a comment that was just added brings back what was there before. -/
  restored : ∀ changes comment, (((ofRepo repo).after changes).addInPlace comment).1 = .ok true →
    (((ofRepo repo).after changes).addInPlace comment).2.remove comment =
      (true, (ofRepo repo).after changes)

/-- **A repository is a canonical form of its set of comments.** -/
theorem canonical (repo : String) : Canonical repo where
  determined changes changes' same :=
    ext_contents (sound_after repo changes).1 (sound_after repo changes').1
      (sound_after repo changes).2 (sound_after repo changes').2 same
  unordered changes puts puts' perm distinct := by
    rw [after, List.foldl_append, after, List.foldl_append]
    exact after_puts_perm (sound_after repo changes).1 perm distinct
  tidy changes := (sound_after repo changes).1
  restored changes comment added := remove_added (sound_after repo changes).1 added

/-- A comment on the commit `c1`, made at the start of 1970. -/
def commitRemark (repo message : String) : Comment :=
  .commit ⟨repo, "c1", .epoch, "user", message⟩

/-- A comment on the tasks of one name, made when the range ends. -/
def specRemark (message : String) : Comment :=
  .spec ⟨"a", "build", .last, "user", true, false, message⟩

/-- A comment on a task at the commit `c1`, made when the range ends. -/
def taskRemark (message : String) : Comment :=
  .task ⟨"a", "build", "c1", .last, none, "user", message⟩

/-- A comment is put in, refused with another content, and taken out again, so that nothing is left. Then three
comments may come in either order, and one that was added can be taken back. -/
theorem canonical_remarks :
    let changes : List CommentChange :=
      [.put (specRemark "x"), .put (specRemark "y"), .delete (specRemark "z")]
    let puts := [commitRemark "a" "x", specRemark "x", taskRemark "x"]
    puts.Perm puts.reverse ∧ (puts.map Comment.place).Nodup ∧
      (ofRepo "a").after (changes ++ puts.map .put) =
        (ofRepo "a").after (changes ++ puts.reverse.map .put) ∧
      (((ofRepo "a").after changes).addInPlace (taskRemark "x")).1 = .ok true ∧
      (((ofRepo "a").after changes).addInPlace (taskRemark "x")).2.remove (taskRemark "x") =
        (true, (ofRepo "a").after changes) ∧
      (ofRepo "a").after changes = (ofRepo "a").after [] := by
  intro changes puts
  have perm : puts.Perm puts.reverse := (List.reverse_perm puts).symm
  have distinct : (puts.map Comment.place).Nodup := by decide
  have added : (((ofRepo "a").after changes).addInPlace (taskRemark "x")).1 = .ok true := by
    decide +kernel
  have same : ∀ comment, comment ∈ ((ofRepo "a").after changes).contents ↔
      comment ∈ ((ofRepo "a").after []).contents := by
    have nothing : ((ofRepo "a").after changes).contents = ((ofRepo "a").after []).contents := by
      decide +kernel
    intro comment
    rw [nothing]
  exact ⟨perm, distinct, (canonical "a").unordered changes puts puts.reverse perm distinct,
    added, (canonical "a").restored changes (taskRemark "x") added,
    (canonical "a").determined changes [] same⟩

/-- **Comments that differ in the repository alone have an order:** the second of them is refused, whichever that
is, though the repository is part of what identifies a comment. -/
theorem ordered_of_repos :
    (commitRemark "a" "x").repo ≠ (commitRemark "b" "x").repo ∧
      (commitRemark "a" "x").place = (commitRemark "b" "x").place ∧
      (ofRepo "a").after [.put (commitRemark "a" "x"), .put (commitRemark "b" "x")] ≠
        (ofRepo "a").after [.put (commitRemark "b" "x"), .put (commitRemark "a" "x")] := by
  decide +kernel

end RepoComments

end TaskLedger
