/-
**Comments in order are determined by what is found in them.** Two states that are in order and answer
every lookup alike are the same state, so what is read of a repository depends on its comments alone and
not on how they came there.

* `Table.ext_within` — a table of states that are not empty and determined by their lookups.
* `Group.ext_at?`, `Groups.ext_at?`, `RepoComments.ext_at?` — the same for each layer of a repository.
* `CommentBook.since_congr` — books with the same comments answer every read alike.
-/
import TaskLedger.Proofs.Comment.Box
import Mathlib.Data.List.Sort

namespace TaskLedger

open Time (Instant)

/-- A table of states is determined by what is found in it, if no state is empty and each is determined by
what is found in it. -/
theorem Table.ext_within {S ι V : Type} {read : S → ι → Option V} {Sound : S → Prop}
    (determined : ∀ a b, Sound a → Sound b → read a = read b → a = b)
    (inhabited : ∀ a, Sound a → ∃ place value, read a place = some value) {a b : Table String S}
    (soundA : a.Every fun _ => Sound) (soundB : b.Every fun _ => Sound)
    (same : a.within read = b.within read) : a = b := by
  have sameAt (key : String) (place : ι) : a.within read (key, place) = b.within read (key, place) :=
    congrFun same (key, place)
  refine ext_get? fun key => ?_
  cases heldA : a.get? key with
  | none =>
    cases heldB : b.get? key with
    | none => rfl
    | some state =>
      obtain ⟨place, value, found⟩ := inhabited state (soundB key state heldB)
      have missing := sameAt key place
      rw [within_of_none heldA, within_of_some heldB, found] at missing
      cases missing
  | some state =>
    cases heldB : b.get? key with
    | none =>
      obtain ⟨place, value, found⟩ := inhabited state (soundA key state heldA)
      have missing := sameAt key place
      rw [within_of_none heldB, within_of_some heldA, found] at missing
      cases missing
    | some other =>
      refine congrArg some (determined state other (soundA key state heldA) (soundB key other heldB) ?_)
      funext place
      have equal := sameAt key place
      rwa [within_of_some heldA, within_of_some heldB] at equal

/-! ### Groups -/

section Groups

variable {κ : Type} [Dated κ]

theorem Group.ext_at? {a b : List κ} (ascendingA : Ascending a) (ascendingB : Ascending b)
    (same : at? a = at? b) : a = b := by
  have antisymm : Std.Antisymm fun a b : κ => Dated.time a < Dated.time b :=
    ⟨fun _ _ before behind => absurd before (lt_asymm behind)⟩
  have irrefl : Std.Irrefl fun a b : κ => Dated.time a < Dated.time b := ⟨fun _ => lt_irrefl _⟩
  refine List.Pairwise.eq_of_mem_iff ascendingA ascendingB fun comment => ?_
  have foundA : at? a (Dated.time comment) = some comment ↔ comment ∈ a :=
    (at?_eq_some_iff ascendingA).trans (and_iff_left rfl)
  have foundB : at? b (Dated.time comment) = some comment ↔ comment ∈ b :=
    (at?_eq_some_iff ascendingB).trans (and_iff_left rfl)
  rw [← foundA, ← foundB, same]

theorem Group.exists_at? {group : List κ} (nonempty : group ≠ []) (ascending : Ascending group) :
    ∃ time comment, at? group time = some comment := by
  obtain ⟨comment, member⟩ := List.exists_mem_of_ne_nil group nonempty
  exact ⟨Dated.time comment, comment, (at?_eq_some_iff ascending).2 ⟨member, rfl⟩⟩

theorem Groups.ext_at? {a b : Groups κ} (tidyA : Tidy a) (tidyB : Tidy b)
    (same : at? a = at? b) : a = b :=
  Table.ext_within (fun _ _ soundA soundB => Group.ext_at? soundA.2 soundB.2)
    (fun _ sound => Group.exists_at? sound.1 sound.2) tidyA tidyB same

theorem Groups.exists_at? {groups : Groups κ} (nonempty : groups.isEmpty = false)
    (tidy : Tidy groups) : ∃ key comment, groups.at? key = some comment := by
  obtain ⟨⟨key, group⟩, member⟩ := List.exists_mem_of_ne_nil groups.entries
    fun empty => Bool.false_ne_true (nonempty.symm.trans (List.isEmpty_iff.2 empty))
  have held : groups.get? key = some group := Table.get?_eq_some_iff.2 member
  obtain ⟨time, comment, found⟩ := Group.exists_at? (tidy key group held).1 (tidy key group held).2
  exact ⟨(key, time), comment, (Table.within_of_some held time).trans found⟩

end Groups

/-! ### Repositories and books -/

/-- **The comments of a repository in order are determined by what is found.** -/
theorem RepoComments.ext_at? {repo : String} {a b : RepoComments} (tidyA : Tidy repo a)
    (tidyB : Tidy repo b) (same : a.at? = b.at?) : a = b := by
  have tasks : a.onTasks.within Groups.at? = b.onTasks.within Groups.at? := by
    funext ⟨name, commit, time⟩
    have equal := congrFun same (.task name commit, time)
    exact Option.map_injective (fun _ _ => Comment.task.inj) equal
  have specs : Groups.at? a.onSpecs = Groups.at? b.onSpecs := by
    funext ⟨name, time⟩
    have equal := congrFun same (.spec name, time)
    exact Option.map_injective (fun _ _ => Comment.spec.inj) equal
  have commits : Groups.at? a.onCommits = Groups.at? b.onCommits := by
    funext ⟨commit, time⟩
    have equal := congrFun same (.commit commit, time)
    exact Option.map_injective (fun _ _ => Comment.commit.inj) equal
  have onTasks : a.onTasks = b.onTasks :=
    Table.ext_within (fun _ _ soundA soundB => Groups.ext_at? soundA.2 soundB.2)
      (fun _ sound => Groups.exists_at? sound.1 sound.2) tidyA.onTasks tidyB.onTasks tasks
  have onSpecs := Groups.ext_at? tidyA.onSpecs tidyB.onSpecs specs
  have onCommits := Groups.ext_at? tidyA.onCommits tidyB.onCommits commits
  have label : a.repo = b.repo := tidyA.label.trans tidyB.label.symm
  cases a
  cases b
  cases label
  cases onTasks
  cases onSpecs
  cases onCommits
  rfl

/-- **A read depends on the comments alone.** -/
theorem CommentBook.since_congr {a b : CommentBook} (tidyA : a.Tidy) (tidyB : b.Tidy)
    (same : a.at? = b.at?) (start : Instant) (repo : String) :
    a.since start repo = b.since start repo := by
  refine RepoComments.ext_at? (tidy_since tidyA start repo) (tidy_since tidyB start repo) ?_
  funext key
  rw [at?_since tidyA, at?_since tidyB, same]

end TaskLedger
