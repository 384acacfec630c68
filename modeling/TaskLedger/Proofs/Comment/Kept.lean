/-
**What changes keep of every group.** A change of a book adds a comment to one group or takes one out of it. A
property that survives this in a group survives it in the book.

* `GroupProperty.IsKept` — changes keep the property in a group, if the times of new comments are admitted.
* `Groups.EveryGroup`, `RepoComments.EveryGroup`, `CommentBook.EveryGroup` — the property of all groups, layer
  by layer.
* `CommentBook.EveryGroup.apply`, `CommentBox.everyGroup_changes` — changes of a book keep it, and so do those
  of a box, whatever its writer makes of them.
-/
import TaskLedger.Proofs.Comment.Box

namespace TaskLedger

open Time (Instant)

/-- A property of groups of comments, whatever they are comments on. -/
abbrev GroupProperty := (κ : Type) → [Dated κ] → List κ → Prop

/-- The property is kept by changes that only put in comments with admitted times. -/
structure GroupProperty.IsKept (Holds : GroupProperty) (Admits : Instant → Prop) : Prop where
  nil : ∀ (κ : Type) [Dated κ], Holds κ []
  sublist : ∀ {κ : Type} [Dated κ] {left group : List κ}, left.Sublist group → Holds κ group →
    Holds κ left
  add : ∀ {κ : Type} [Dated κ] [DecidableEq κ] {comment : κ} {changed : Bool} {group after : List κ},
    Group.add comment group = .ok (changed, after) → Admits (Dated.time comment) → Holds κ group →
    Holds κ after

/-- A comment that the change puts in has an admitted time. -/
def CommentChange.PutsIn (Admits : Instant → Prop) : CommentChange → Prop
  | .put comment => Admits comment.time
  | .delete _ => True

variable {Holds : GroupProperty} {Admits : Instant → Prop} {changed : Bool}

theorem Group.remove_sublist {κ : Type} [Dated κ] (time : Instant) (group : List κ) :
    (remove time group).2.Sublist group := by
  unfold remove
  split
  · exact List.eraseIdx_sublist _ _
  · exact List.Sublist.refl group

/-! ### Groups -/

namespace Groups

variable {κ : Type} [Dated κ]

/-- The property holds of all groups. -/
def EveryGroup (Holds : GroupProperty) : Groups κ → Prop :=
  Table.Every fun _ group => Holds κ group

variable {groups after : Groups κ} {comment : κ} {key : String}

theorem EveryGroup.add [DecidableEq κ] (kept : Holds.IsKept Admits) (every : groups.EveryGroup Holds)
    (admitted : Admits (Dated.time comment))
    (added : Groups.add key comment groups = .ok (changed, after)) : after.EveryGroup Holds := by
  obtain ⟨⟨_, group⟩, inner, ⟨⟩⟩ := exists_of_map_eq_ok added
  have before : Holds κ ((groups.get? key).getD []) := Table.Every.getD every (kept.nil κ)
  exact Table.Every.insert every (kept.add inner admitted before)

theorem EveryGroup.remove (kept : Holds.IsKept Admits) (every : groups.EveryGroup Holds) (key : String)
    (time : Instant) : (Groups.remove key time groups).2.EveryGroup Holds := by
  unfold Groups.remove
  cases held : groups.get? key with
  | none => exact every
  | some group =>
    show EveryGroup Holds (put key (Group.remove time group).2 groups)
    unfold put
    split
    · exact Table.Every.erase every
    · have left := kept.sublist (Group.remove_sublist time group) (every key group held)
      exact Table.Every.insert every left

end Groups

/-! ### Repositories -/

namespace RepoComments

/-- The property holds of all groups of a repository. -/
structure EveryGroup (Holds : GroupProperty) (comments : RepoComments) : Prop where
  onTasks : comments.onTasks.Every fun _ groups => groups.EveryGroup Holds
  onSpecs : comments.onSpecs.EveryGroup Holds
  onCommits : comments.onCommits.EveryGroup Holds

theorem everyGroup_ofRepo (repo : String) : (ofRepo repo).EveryGroup Holds :=
  ⟨Table.every_empty _, Table.every_empty _, Table.every_empty _⟩

variable {comments after : RepoComments} {comment : Comment}

theorem EveryGroup.add (kept : Holds.IsKept Admits) (every : comments.EveryGroup Holds)
    (admitted : Admits comment.time) (added : comments.add comment = .ok (changed, after)) :
    after.EveryGroup Holds := by
  cases comment with
  | task comment =>
    obtain ⟨⟨_, groups⟩, inner, ⟨⟩⟩ := exists_of_map_eq_ok added
    have before : ((comments.onTasks.get? comment.name).getD ∅).EveryGroup Holds :=
      Table.Every.getD every.onTasks (Table.every_empty _)
    exact { every with onTasks := every.onTasks.insert (before.add kept admitted inner) }
  | spec comment =>
    obtain ⟨⟨_, groups⟩, inner, ⟨⟩⟩ := exists_of_map_eq_ok added
    exact { every with onSpecs := every.onSpecs.add kept admitted inner }
  | commit comment =>
    obtain ⟨⟨_, groups⟩, inner, ⟨⟩⟩ := exists_of_map_eq_ok added
    exact { every with onCommits := every.onCommits.add kept admitted inner }

theorem EveryGroup.remove (kept : Holds.IsKept Admits) (every : comments.EveryGroup Holds)
    (comment : Comment) : (comments.remove comment).2.EveryGroup Holds := by
  cases comment with
  | task comment =>
    rw [RepoComments.remove]
    cases held : comments.onTasks.get? comment.name with
    | none => exact every
    | some groups =>
      have left := (every.onTasks comment.name groups held).remove kept comment.commit comment.time
      refine { every with onTasks := ?_ }
      show Table.Every _ (if (groups.remove comment.commit comment.time).2.isEmpty then _ else _)
      split
      · exact every.onTasks.erase
      · exact every.onTasks.insert left
  | spec comment => exact { every with onSpecs := every.onSpecs.remove kept comment.name comment.time }
  | commit comment =>
    exact { every with onCommits := every.onCommits.remove kept comment.commit comment.time }

end RepoComments

/-! ### Books -/

namespace CommentBook

/-- The property holds of all groups of all repositories. -/
def EveryGroup (Holds : GroupProperty) : CommentBook → Prop :=
  Table.Every fun _ comments => comments.EveryGroup Holds

variable {book after : CommentBook}

theorem EveryGroup.add (kept : Holds.IsKept Admits) (every : book.EveryGroup Holds) {comment : Comment}
    (admitted : Admits comment.time) (added : book.add comment = .ok (changed, after)) :
    after.EveryGroup Holds := by
  obtain ⟨⟨_, comments⟩, inner, ⟨⟩⟩ := exists_of_map_eq_ok added
  have before : ((book.get? comment.repo).getD (.ofRepo comment.repo)).EveryGroup Holds :=
    Table.Every.getD every (RepoComments.everyGroup_ofRepo comment.repo)
  exact Table.Every.insert every (before.add kept admitted inner)

theorem EveryGroup.remove (kept : Holds.IsKept Admits) (every : book.EveryGroup Holds)
    (comment : Comment) : (book.remove comment).2.EveryGroup Holds := by
  rw [CommentBook.remove]
  cases held : book.get? comment.repo with
  | none => exact every
  | some comments =>
    exact Table.Every.insert every ((every comment.repo comments held).remove kept comment)

/-- **A change keeps the property**, unless it is refused. -/
theorem EveryGroup.apply (kept : Holds.IsKept Admits) (every : book.EveryGroup Holds)
    {change : CommentChange} (admitted : change.PutsIn Admits)
    (applied : CommentBook.apply book change = .ok (changed, after)) : after.EveryGroup Holds := by
  cases change with
  | put comment => exact every.add kept admitted applied
  | delete comment =>
    have left : book.remove comment = (changed, after) := Except.ok.inj applied
    have sound := every.remove kept comment
    rwa [left] at sound

end CommentBook

/-! ### Boxes -/

namespace CommentBox

variable {ω : Type}

/-- After a change the book is the old one or the one that the change makes of it. -/
theorem book_change (change : CommentChange) (box : CommentBox ω) :
    (box.change change).2.book = box.book ∨
      ∃ changed, box.book.apply change = .ok (changed, (box.change change).2.book) := by
  unfold CommentBox.change
  -- A broken box changes nothing; else it depends on the writer whether the new book stays.
  split
  · exact .inl rfl
  cases applied : box.book.apply change with
  | error conflict => exact .inl rfl
  | ok outcome =>
    obtain ⟨changed, after⟩ := outcome
    dsimp only
    cases box.writer with
    | none => exact .inr ⟨changed, rfl⟩
    | some writer =>
      dsimp only
      split
      · unfold save
        rcases writer after box.device with ⟨_ | error | _, device⟩
        · exact .inr ⟨changed, rfl⟩
        · exact .inl rfl
        · exact .inl rfl
      · exact .inl rfl

theorem everyGroup_change (kept : Holds.IsKept Admits) {box : CommentBox ω}
    (every : box.book.EveryGroup Holds) {change : CommentChange} (admitted : change.PutsIn Admits) :
    (box.change change).2.book.EveryGroup Holds := by
  rcases book_change change box with same | ⟨_, applied⟩
  · rw [same]
    exact every
  · exact every.apply kept admitted applied

/-- All changes together keep the property. -/
theorem everyGroup_changes (kept : Holds.IsKept Admits) {changes : List CommentChange}
    (admitted : ∀ change ∈ changes, change.PutsIn Admits) {box : CommentBox ω}
    (every : box.book.EveryGroup Holds) :
    (respond CommentBox.change changes box).2.book.EveryGroup Holds := by
  induction changes generalizing box with
  | nil => exact every
  | cons change rest ih =>
    obtain ⟨first, others⟩ := List.forall_mem_cons.1 admitted
    exact ih others (everyGroup_change kept every first)

end CommentBox

end TaskLedger
