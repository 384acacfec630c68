/-
**The format of snapshots.** The text of a comment book is read back as that book, up to leap seconds out of
place.

* `TaskComment.asRead`, `SpecComment.asRead`, `CommitComment.asRead`, `RepoComments.asRead`,
  `CommentBook.asRead` — what is read from the text of a record: the times are those that their texts show.
* `TaskComment.isFaithful_shape`, `SpecComment.isFaithful_shape`, `CommitComment.isFaithful_shape`,
  `RepoComments.isFaithful_shape`, `CommentBook.isFaithful_shape` — no record of a book loses anything else.
* `CommentBook.LeapsInPlace`, `CommentBook.asRead_eq_self_iff` — the books that are read as themselves;
  `GroupProperty.isKept_leapsInPlace` says that changes keep them so.
* `Snapshot.ofContent?_text`, `Snapshot.leapsInPlace_of_ofContent?` — a file with the text of a book holds the
  book as it is read, and whatever a file holds is read as itself.
-/
import TaskLedger.Comment.Snapshot
import TaskLedger.Proofs.Codec.Format
import TaskLedger.Proofs.Comment.Kept

namespace TaskLedger

open Json (Shape)
open Json.RecordField (restores_defaulted restores_needed)
open Json.Shape (isFaithful_flag isFaithful_instant isFaithful_listOf isFaithful_optional
  isFaithful_record isFaithful_string isFaithful_tableOf)
open Time (Instant)

/-! ### The records -/

/-- The comment at the time that the text of its time shows. -/
def TaskComment.asRead (comment : TaskComment) : TaskComment :=
  { comment with time := comment.time.asRead }

theorem TaskComment.isFaithful_shape : shape.IsFaithful asRead := by
  have text := isFaithful_string
  have someTask := isFaithful_optional TaskId.isFaithful_shape fun _ => Json.noConfusion
  refine isFaithful_record (by decide) (.cons (restores_needed text ?_) <|
    .cons (restores_needed text ?_) <| .cons (restores_needed text ?_) <|
    .cons (restores_needed isFaithful_instant ?_) <| .cons (restores_defaulted someTask ?_) <|
    .cons (restores_needed text ?_) <| .cons (restores_needed text ?_) .nil) (by decide) ?_
  all_goals intros; simp [asRead]

/-- The comment at the time that the text of its time shows. -/
def SpecComment.asRead (comment : SpecComment) : SpecComment :=
  { comment with time := comment.time.asRead }

theorem SpecComment.isFaithful_shape : shape.IsFaithful asRead := by
  have text := isFaithful_string
  refine isFaithful_record (by decide) (.cons (restores_needed text ?_) <|
    .cons (restores_needed text ?_) <| .cons (restores_needed isFaithful_instant ?_) <|
    .cons (restores_needed text ?_) <| .cons (restores_defaulted isFaithful_flag ?_) <|
    .cons (restores_defaulted isFaithful_flag ?_) <| .cons (restores_needed text ?_) .nil) (by decide) ?_
  all_goals intros; simp [asRead]

/-- The comment at the time that the text of its time shows. -/
def CommitComment.asRead (comment : CommitComment) : CommitComment :=
  { comment with time := comment.time.asRead }

theorem CommitComment.isFaithful_shape : shape.IsFaithful asRead := by
  have text := isFaithful_string
  refine isFaithful_record (by decide) (.cons (restores_needed text ?_) <|
    .cons (restores_needed text ?_) <| .cons (restores_needed isFaithful_instant ?_) <|
    .cons (restores_needed text ?_) <| .cons (restores_needed text ?_) .nil) (by decide) ?_
  all_goals intros; simp [asRead]

/-- The repository with every comment at the time that the text of its time shows. -/
def RepoComments.asRead (comments : RepoComments) : RepoComments where
  repo := comments.repo
  onTasks := comments.onTasks.map (Table.map (List.map TaskComment.asRead))
  onSpecs := comments.onSpecs.map (List.map SpecComment.asRead)
  onCommits := comments.onCommits.map (List.map CommitComment.asRead)

theorem RepoComments.isFaithful_shape : shape.IsFaithful asRead := by
  have onTasks := isFaithful_tableOf (isFaithful_tableOf (isFaithful_listOf TaskComment.isFaithful_shape))
  have onSpecs := isFaithful_tableOf (isFaithful_listOf SpecComment.isFaithful_shape)
  have onCommits := isFaithful_tableOf (isFaithful_listOf CommitComment.isFaithful_shape)
  refine isFaithful_record (by decide) (.cons (restores_defaulted isFaithful_string ?_) <|
    .cons (restores_defaulted onTasks ?_) <| .cons (restores_defaulted onSpecs ?_) <|
    .cons (restores_defaulted onCommits ?_) .nil) rfl ?_
  all_goals intros; simp [asRead]

/-- The book with every comment at the time that the text of its time shows. -/
def CommentBook.asRead : CommentBook → CommentBook :=
  Table.map RepoComments.asRead

theorem CommentBook.isFaithful_shape : shape.IsFaithful asRead :=
  isFaithful_tableOf RepoComments.isFaithful_shape

/-! ### Books that are read as themselves -/

/-- The comments of a group were made at times with their leap seconds in place. -/
def Group.LeapsInPlace : GroupProperty := fun _ _ group =>
  ∀ comment ∈ group, (Dated.time comment).LeapsInPlace

/-- Comments with times in place keep it so. -/
theorem GroupProperty.isKept_leapsInPlace : IsKept Group.LeapsInPlace Instant.LeapsInPlace where
  nil _ := List.forall_mem_nil _
  sublist part inPlace comment member := inPlace comment (part.subset member)
  add added admitted inPlace := by
    unfold Group.add at added
    split at added
    · split at added <;> cases added
      exact inPlace
    · cases added
      intro comment member
      rcases List.eq_or_mem_of_mem_insertIdx member with rfl | member
      · exact admitted
      · exact inPlace comment member

section AsRead

variable {κ : Type} [Dated κ] {asRead : κ → κ}

theorem Group.map_asRead_eq_self_iff
    (own : ∀ comment, asRead comment = comment ↔ (Dated.time comment).LeapsInPlace) {group : List κ} :
    group.map asRead = group ↔ LeapsInPlace κ group := by
  have each : group.map asRead = group.map id ↔ ∀ comment ∈ group, asRead comment = comment :=
    List.map_inj_left
  rw [List.map_id] at each
  rw [each]
  exact forall₂_congr fun comment _ => own comment

theorem Groups.map_asRead_eq_self_iff
    (own : ∀ comment, asRead comment = comment ↔ (Dated.time comment).LeapsInPlace) {groups : Groups κ} :
    groups.map (List.map asRead) = groups ↔ groups.EveryGroup Group.LeapsInPlace := by
  rw [Table.map_eq_self_iff]
  exact forall₃_congr fun _ _ _ => Group.map_asRead_eq_self_iff own

end AsRead

theorem TaskComment.asRead_eq_self_iff (comment : TaskComment) :
    comment.asRead = comment ↔ comment.time.LeapsInPlace := by
  cases comment
  simp [asRead, Instant.asRead_eq_self_iff]

theorem SpecComment.asRead_eq_self_iff (comment : SpecComment) :
    comment.asRead = comment ↔ comment.time.LeapsInPlace := by
  cases comment
  simp [asRead, Instant.asRead_eq_self_iff]

theorem CommitComment.asRead_eq_self_iff (comment : CommitComment) :
    comment.asRead = comment ↔ comment.time.LeapsInPlace := by
  cases comment
  simp [asRead, Instant.asRead_eq_self_iff]

theorem RepoComments.asRead_eq_self_iff {comments : RepoComments} :
    comments.asRead = comments ↔ comments.EveryGroup Group.LeapsInPlace := by
  have onTasks : comments.onTasks.map (Table.map (List.map TaskComment.asRead)) = comments.onTasks ↔
      comments.onTasks.Every fun _ groups => groups.EveryGroup Group.LeapsInPlace := by
    rw [Table.map_eq_self_iff]
    exact forall₃_congr fun _ _ _ => Groups.map_asRead_eq_self_iff TaskComment.asRead_eq_self_iff
  have onSpecs : comments.onSpecs.map (List.map SpecComment.asRead) = comments.onSpecs ↔
      comments.onSpecs.EveryGroup Group.LeapsInPlace :=
    Groups.map_asRead_eq_self_iff SpecComment.asRead_eq_self_iff
  have onCommits : comments.onCommits.map (List.map CommitComment.asRead) = comments.onCommits ↔
      comments.onCommits.EveryGroup Group.LeapsInPlace :=
    Groups.map_asRead_eq_self_iff CommitComment.asRead_eq_self_iff
  constructor
  · intro same
    exact ⟨onTasks.1 (congrArg RepoComments.onTasks same), onSpecs.1 (congrArg RepoComments.onSpecs same),
      onCommits.1 (congrArg RepoComments.onCommits same)⟩
  · intro every
    rw [asRead, onTasks.2 every.onTasks, onSpecs.2 every.onSpecs, onCommits.2 every.onCommits]

namespace CommentBook

/-- All comments were made at times with their leap seconds in place. -/
def LeapsInPlace (book : CommentBook) : Prop :=
  book.EveryGroup Group.LeapsInPlace

/-- **A book is read as itself** exactly if its times have their leap seconds in place. -/
theorem asRead_eq_self_iff {book : CommentBook} : book.asRead = book ↔ book.LeapsInPlace := by
  unfold asRead
  rw [Table.map_eq_self_iff]
  exact forall₃_congr fun _ _ _ => RepoComments.asRead_eq_self_iff

end CommentBook

/-! ### The file -/

theorem fromUTF8?_bytes (text : List Char) :
    String.fromUTF8? (Text.bytes text) = some (String.ofList text) :=
  dif_pos (String.ofList text).isValidUTF8

namespace Snapshot

/-- **A file with the text of a book holds the book** as it is read. -/
theorem ofContent?_text (book : CommentBook) : ofContent? (Text.bytes (text book)) = some book.asRead := by
  have spelled := Json.spelledBy_spelled .indented (CommentBook.isFaithful_shape.wellFormed book)
  have parsed : Json.ofText? (text book) = some (CommentBook.shape.write book) :=
    Json.ofText?_spelledBy spelled
  rw [ofContent?, fromUTF8?_bytes]
  simp only [Option.bind_eq_bind, Option.bind_some, String.toList_ofList, parsed,
    CommentBook.isFaithful_shape.read_write]

/-- Whatever a file holds is read as itself. -/
theorem leapsInPlace_of_ofContent? {content : ByteArray} {book : CommentBook}
    (held : ofContent? content = some book) : book.LeapsInPlace := by
  unfold ofContent? at held
  obtain ⟨text, -, parsed⟩ := Option.bind_eq_some_iff.1 held
  obtain ⟨v, -, read⟩ := Option.bind_eq_some_iff.1 parsed
  exact CommentBook.asRead_eq_self_iff.1 (CommentBook.isFaithful_shape.fixed v book read)

end Snapshot

end TaskLedger
