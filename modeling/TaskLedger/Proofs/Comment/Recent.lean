/-
**No recent comment is left out.** A read skips the front of every group up to a place found by bisection.
That loses nothing as long as no comment stands behind a later one, and no change ever destroys such an
order, wherever the comments came from.

* `Groups.InOrder`, `RepoComments.InOrder`, `CommentBook.InOrder` — the order of a group, layer by layer. It
  asks for less than `Tidy`: times may be equal, groups empty, and a repository may bear any label.
* `GroupProperty.isKept_inOrder`, `CommentBox.inOrder_changes` — changes keep the order.
* `CommentBook.ReadsAs` — an answer has under each subject what is stored there and is not too early.
* `CommentBox.leaves_nothing_out` — the theorem, for a box whose comments were in order at first.
* `Snapshot.inOrder_sessions` — snapshots that start in order stay in order when boxes are opened on them, if no
  comment is put in whose time lies in a leap second in the middle of a minute.
* `Group.inOrder_iff_since` — what the order is needed for, and `Snapshot.loses_later_remark`, a snapshot
  without it.
-/
import TaskLedger.Proofs.Comment.Snapshot
import TaskLedger.Comment.Folder

namespace TaskLedger

open Time (Instant)

variable {changed : Bool}

/-! ### Groups -/

section Groups

variable {κ : Type} [Dated κ]

namespace Group

variable {group after : List κ} {comment : κ}

/-- A comment is put behind the earlier ones and before the later ones. -/
theorem InOrder.add [DecidableEq κ] (inOrder : InOrder group)
    (added : Group.add comment group = .ok (changed, after)) : InOrder after := by
  have split : Bisection.SplitAt _ group (find group (Dated.time comment)) :=
    Bisection.splitAt_searchList (inOrder.ascends (Dated.time comment))
  unfold Group.add at added
  generalize find group (Dated.time comment) = found at added split
  cases split with
  | present front item back same before behind =>
    dsimp only at added
    split at added
    · cases added
      exact inOrder
    · cases added
  | absent front back before behind =>
    dsimp only at added
    rw [insertIdx_length] at added
    cases added
    apply pairwise_between inOrder
    · intro other member
      exact le_of_lt (compare_lt_iff_lt.1 (before other member))
    · intro other member
      exact le_of_lt (compare_gt_iff_gt.1 (behind other member))

end Group

namespace Groups

/-- All groups are in order. -/
def InOrder : Groups κ → Prop :=
  Table.Every fun _ group => Group.InOrder group

variable {groups : Groups κ}

/-- Under each key a read finds what is not too early. -/
theorem getD_get?_since (inOrder : InOrder groups) (start : Instant) (key : String) :
    ((groups.since start).get? key).getD [] =
      ((groups.get? key).getD []).filter fun comment => start ≤ Dated.time comment := by
  rw [since, Table.get?_filterMap]
  cases held : groups.get? key with
  | none => rfl
  | some group =>
    show (recent? start group).getD [] = group.filter _
    rw [← Group.since_eq (inOrder key group held), recent?]
    split
    · rename_i empty
      exact (List.isEmpty_iff.1 empty).symm
    · rfl

end Groups

end Groups

/-- The order is kept, whatever the times of new comments. -/
theorem GroupProperty.isKept_inOrder :
    IsKept (fun _ _ group => Group.InOrder group) fun _ => True where
  nil _ := .nil
  sublist part inOrder := inOrder.sublist part
  add added _ inOrder := inOrder.add added

/-! ### Repositories -/

namespace RepoComments

/-- All groups of a repository are in order. -/
structure InOrder (comments : RepoComments) : Prop where
  onTasks : comments.onTasks.Every fun _ groups => groups.InOrder
  onSpecs : comments.onSpecs.InOrder
  onCommits : comments.onCommits.InOrder

theorem inOrder_ofRepo (repo : String) : (ofRepo repo).InOrder :=
  ⟨Table.every_empty _, Table.every_empty _, Table.every_empty _⟩

variable {comments : RepoComments}

theorem inOrder_iff :
    comments.InOrder ↔ comments.EveryGroup fun _ _ group => Group.InOrder group :=
  ⟨fun inOrder => ⟨inOrder.onTasks, inOrder.onSpecs, inOrder.onCommits⟩,
    fun every => ⟨every.onTasks, every.onSpecs, every.onCommits⟩⟩

/-- A name of tasks whose groups have nothing recent is left out, which no subject notices. -/
theorem bind_recentOfName? (start : Instant) (groups : Groups TaskComment) (commit : String) :
    ((recentOfName? start groups).bind fun kept => kept.get? commit) =
      (groups.since start).get? commit := by
  rw [recentOfName?]
  split
  · rename_i empty
    rw [Table.get?, List.isEmpty_iff.1 empty]
    rfl
  · rfl

/-- **The recent comments of a repository** about each subject are those that are not too early. -/
theorem under_since (inOrder : comments.InOrder) (start : Instant) (subject : Subject) :
    (comments.since start).under subject =
      (comments.under subject).filter fun comment => start ≤ comment.time := by
  cases subject with
  | task name commit =>
    unfold under
    dsimp only [since]
    rw [Table.get?_filterMap, List.filter_map]
    cases held : comments.onTasks.get? name with
    | none => rfl
    | some groups =>
      rw [Option.bind_some, bind_recentOfName?,
        Groups.getD_get?_since (inOrder.onTasks name groups held)]
      rfl
  | spec name =>
    unfold under
    dsimp only [since]
    rw [Groups.getD_get?_since inOrder.onSpecs, List.filter_map]
    rfl
  | commit commit =>
    unfold under
    dsimp only [since]
    rw [Groups.getD_get?_since inOrder.onCommits, List.filter_map]
    rfl

end RepoComments

/-! ### Books -/

namespace CommentBook

/-- The comments of all repositories are in order. -/
def InOrder : CommentBook → Prop :=
  Table.Every fun _ comments => comments.InOrder

/-- The comments about a subject that are stored for a repository. -/
def under (book : CommentBook) (repo : String) : Subject → List Comment :=
  ((book.get? repo).getD (.ofRepo repo)).under

/-- An answer has about every subject what is stored for the repository and not too early, in the same
order, and nothing else. -/
def ReadsAs (book : CommentBook) (start : Instant) (repo : String) (answer : RepoComments) : Prop :=
  ∀ subject, answer.under subject =
    (book.under repo subject).filter fun comment => start ≤ comment.time

variable {book : CommentBook}

theorem inOrder_iff : book.InOrder ↔ book.EveryGroup fun _ _ group => Group.InOrder group :=
  forall₃_congr fun _ _ _ => RepoComments.inOrder_iff

theorem InOrder.readsAs (inOrder : book.InOrder) (start : Instant) (repo : String) :
    book.ReadsAs start repo (book.since start repo) := by
  intro subject
  unfold since under
  cases held : book.get? repo with
  | none => cases subject <;> rfl
  | some comments => exact RepoComments.under_since (inOrder repo comments held) start subject

end CommentBook

/-! ### Boxes -/

namespace CommentBox

variable {ω : Type}

/-- All changes together keep the order. -/
theorem inOrder_changes (changes : List CommentChange) {box : CommentBox ω}
    (inOrder : box.book.InOrder) : (respond CommentBox.change changes box).2.book.InOrder := by
  rw [CommentBook.inOrder_iff] at inOrder ⊢
  refine everyGroup_changes GroupProperty.isKept_inOrder (fun change _ => ?_) inOrder
  cases change <;> trivial

/-- **Nothing recent is left out.** A box starts with any comments that are in order and has any writer.
Whatever is changed in it then, and whatever the writer makes of that, the comments stay in order; and unless
the writer has crashed, every later read answers for each repository asked, in turn, all comments that are
stored for it and not too early. -/
theorem leaves_nothing_out {book : CommentBook} (inOrder : book.InOrder) (writer : CommentWriter ω)
    (device : ω) (changes : List CommentChange) :
    let box := (respond CommentBox.change changes (ofWriter book writer device)).2
    box.book.InOrder ∧ ∀ repos start,
      if box.broken then box.read repos start = .error brokenError
      else ∃ answers, box.read repos start = .ok answers ∧
        List.Forall₂ (box.book.ReadsAs start) repos answers := by
  intro box
  have last : box.book.InOrder := inOrder_changes changes inOrder
  refine ⟨last, fun repos start => ?_⟩
  unfold read
  split
  · rfl
  · refine ⟨_, rfl, ?_⟩
    rw [List.forall₂_map_right_iff, List.forall₂_same]
    exact fun repo _ => last.readsAs start repo

/-! ### A book with one group -/

/-- A book with comments on one commit. -/
def remarksBook (group : List CommitComment) : CommentBook :=
  (∅ : CommentBook).insert "repo"
    { RepoComments.ofRepo "repo" with onCommits := (∅ : Groups CommitComment).insert "c1" group }

/-- A comment on the commit. -/
def remark (time : Instant) : CommitComment :=
  ⟨"repo", "c1", time, "user", "message"⟩

theorem inOrder_remarksBook {group : List CommitComment} (inOrder : Group.InOrder group) :
    (remarksBook group).InOrder :=
  Table.Every.insert (Table.every_empty _) { RepoComments.inOrder_ofRepo "repo" with
    onCommits := Table.Every.insert (Table.every_empty _) inOrder }

/-- Two comments of one time and a later one are in order, and a fourth one is put behind them. -/
theorem leaves_nothing_out_remarks :
    let book := remarksBook [remark .epoch, remark .epoch, remark .last]
    book.InOrder ∧
      let box := (respond CommentBox.change [.put (.commit (remark .lastLeap))]
        (ofWriter book (fun _ device => (.taken, device)) ())).2
      box.broken = false ∧ (box.book.under "repo" (.commit "c1")).length = 4 ∧ box.book.InOrder ∧
        ∀ repos start,
          if box.broken then box.read repos start = .error brokenError
          else ∃ answers, box.read repos start = .ok answers ∧
            List.Forall₂ (box.book.ReadsAs start) repos answers := by
  intro book
  have inOrder : book.InOrder := inOrder_remarksBook (by unfold Group.InOrder; decide)
  exact ⟨inOrder, by decide +kernel, by decide +kernel, leaves_nothing_out inOrder _ () _⟩

end CommentBox

/-! ### Snapshots -/

namespace Snapshot

variable {φ : Type} [FileSystem φ] {Apart : String → String → Prop} {fileName : String} {files : φ}
  {book : CommentBook}

/-- A box is opened on a snapshot, changes are made, and it is closed. -/
def session (fileName : String) (files : φ) (changes : List CommentChange) : φ :=
  match openBox fileName files with
  | .ok box => (respond CommentBox.change changes box).2.device
  | .error _ => files

/-- **Snapshots stay in order.** If a snapshot has its comments in order, then after any number of boxes
that were opened on it one after another it is loaded, and its comments are in order. The comments that are put
in need their leap seconds in place, since others are loaded at later times than they were sorted by. -/
theorem inOrder_sessions (laws : FileSystem.Laws φ Apart) (loaded : load fileName files = .ok book)
    (inOrder : book.InOrder) {sessions : List (List CommentChange)}
    (inPlace : ∀ changes ∈ sessions, ∀ change ∈ changes, change.PutsIn Instant.LeapsInPlace) :
    ∃ last, load fileName (sessions.foldl (session fileName) files) = .ok last ∧ last.InOrder := by
  induction sessions generalizing files book with
  | nil => exact ⟨book, loaded, inOrder⟩
  | cons changes rest ih =>
    have opened : session fileName files changes =
        (respond CommentBox.change changes (.ofWriter book (writer fileName) files)).2.device := by
      rw [session, openBox, loaded]
      rfl
    obtain ⟨first, others⟩ := List.forall_mem_cons.1 inPlace
    have own := CommentBook.asRead_eq_self_iff.2 (leapsInPlace_changes loaded first)
    have reloaded := ((keeps_ofWriter loaded).changes laws changes).holds
    rw [own, ← opened] at reloaded
    exact ih reloaded (CommentBox.inOrder_changes changes inOrder) others

end Snapshot

/-! ### Without order -/

/-- Of a later and an earlier comment none is read from the later time on. -/
theorem Group.since_of_inversion {κ : Type} [Dated κ] {later earlier : κ}
    (inversion : Dated.time earlier < Dated.time later) :
    since (Dated.time later) [later, earlier] = [] := by
  simp [since, Bisection.partitionPoint, Bisection.searchList, Bisection.search, Bisection.narrow,
    Bisection.Found.place, inversion]

/-- **The order is what a read needs**: a group and whatever is left of it are read in full, from any time
on, exactly if the group is in order. -/
theorem Group.inOrder_iff_since {κ : Type} [Dated κ] {group : List κ} :
    InOrder group ↔ ∀ left, left.Sublist group → ∀ comment ∈ left, ∀ start ≤ Dated.time comment,
      comment ∈ since start left := by
  constructor
  · intro inOrder left part comment member start recent
    rw [since_eq (inOrder.sublist part), List.mem_filter]
    exact ⟨member, decide_eq_true recent⟩
  · intro full
    apply List.pairwise_iff_forall_sublist.2
    -- Two comments out of order are what is left when all others are gone.
    intro a b part
    by_contra inversion
    have lost := full [a, b] part a List.mem_cons_self _ (le_refl _)
    rw [since_of_inversion (not_le.1 inversion)] at lost
    exact List.not_mem_nil lost

namespace Snapshot

open CommentBox (remark remarksBook)

/-- A folder with the snapshot of a book. -/
def folderWith (book : CommentBook) : Folder :=
  ⟨(∅ : Table String ByteArray).insert "comments.json" (Text.bytes (text book))⟩

theorem load_folderWith (book : CommentBook) :
    load "comments.json" (folderWith book) = .ok book.asRead := by
  have leads : Folder.empty.resolve "comments.json" = .file "comments.json" := rfl
  have content : FileSystem.read "comments.json" (folderWith book) = .ok (Text.bytes (text book)) :=
    Folder.read_of_file (Folder.resolve_of_file leads) (Table.get?_insert_self ..)
  rw [load, content]
  simp only [ofContent?_text]

/-- **Without order a comment is lost.** The box that is opened on a snapshot with a later comment before an
earlier one stores both, and a read from the time of the later one on answers none. -/
theorem loses_later_remark :
    ∃ box, openBox "comments.json" (folderWith (remarksBook [remark .last, remark .epoch])) = .ok box ∧
      .commit (remark .last) ∈ box.book.under "repo" (.commit "c1") ∧
      box.read ["repo"] (Comment.commit (remark .last)).time = .ok [.ofRepo "repo"] := by
  rw [openBox, load_folderWith]
  exact ⟨_, rfl, List.mem_cons_self, rfl⟩

end Snapshot

end TaskLedger
