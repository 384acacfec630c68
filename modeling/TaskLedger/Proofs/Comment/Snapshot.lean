/-
**A snapshot is the live book.** A comment box that keeps its book in a snapshot can be stopped after any
change: what the snapshot holds then is what the box held.

* `Writes`, `writes_write` — the three things that writing a snapshot comes to.
* `Writes.load_of_ok`, `Writes.load_of_error` — a snapshot that was written is loaded as the book is read; one
  that could not be written is still loaded as it was before.
* `Keeps` — the invariant: the box answers, writes to the snapshot, and the snapshot holds its book.
* `Keeps.change`, `Keeps.changes` — it is kept by every change, and so by all of them.
* `load_eq_asRead` — the theorem, for any place for files that keeps the laws: what is loaded is the book of the
  box, exactly if no comment in it was made in a leap second in the middle of a minute.
* `load_eq_asRead_frail` — in a folder, for every name of a snapshot and every pattern of faults.
-/
import TaskLedger.Proofs.Comment.Box
import TaskLedger.Proofs.Comment.Files
import TaskLedger.Proofs.Comment.Format

namespace TaskLedger.Snapshot

open Time (Instant)

variable {φ : Type} [FileSystem φ] {Apart : String → String → Prop} {fileName : String}
  {files after : φ} {book : CommentBook}

/-! ### Writing and loading -/

theorem load_congr (same : FileSystem.read fileName after = FileSystem.read fileName files) :
    load fileName after = load fileName files := by
  rw [load, load, same]

/-- **Whatever is loaded is read as itself.** -/
theorem leapsInPlace_of_load (loaded : load fileName files = .ok book) : book.LeapsInPlace := by
  unfold load at loaded
  split at loaded
  · cases loaded
    exact Table.every_empty _
  · cases loaded
  · split at loaded
    · rename_i held
      cases loaded
      exact leapsInPlace_of_ofContent? held
    · cases loaded

/-- What the two steps of writing a snapshot come to. -/
inductive Writes (fileName : String) (book : CommentBook) (files : φ) :
    Except CommentError Unit → φ → Prop where
  | unwritten {after : φ} :
    FileSystem.write (stagingName fileName) (Text.bytes (text book)) files = (false, after) →
    Writes fileName book files (.error (.persistence "snapshot cannot be written")) after
  | unreplaced {between after : φ} :
    FileSystem.write (stagingName fileName) (Text.bytes (text book)) files = (true, between) →
    FileSystem.rename (stagingName fileName) fileName between = (false, after) →
    Writes fileName book files (.error (.persistence "snapshot cannot be replaced")) after
  | replaced {between after : φ} :
    FileSystem.write (stagingName fileName) (Text.bytes (text book)) files = (true, between) →
    FileSystem.rename (stagingName fileName) fileName between = (true, after) →
    Writes fileName book files (.ok ()) after

theorem writes_write (fileName : String) (book : CommentBook) (files : φ) :
    Writes fileName book files (write fileName book files).1 (write fileName book files).2 := by
  rw [write]
  rcases written : FileSystem.write (stagingName fileName) (Text.bytes (text book)) files
    with ⟨_ | _, between⟩
  · exact .unwritten written
  · dsimp only
    rcases renamed : FileSystem.rename (stagingName fileName) fileName between with ⟨_ | _, after⟩
    · exact .unreplaced written renamed
    · exact .replaced written renamed

/-- **A snapshot that was written** is loaded as the book is read. -/
theorem Writes.load_of_ok (laws : FileSystem.Laws φ Apart)
    (writes : Writes fileName book files (.ok ()) after) : load fileName after = .ok book.asRead := by
  cases writes with
  | replaced written renamed =>
    rw [load, laws.read_rename (laws.read_write written) renamed]
    simp only [ofContent?_text]

/-- **A snapshot that could not be written** is loaded as before. -/
theorem Writes.load_of_error (laws : FileSystem.Laws φ Apart) {error : CommentError}
    (writes : Writes fileName book files (.error error) after) :
    load fileName after = load fileName files := by
  have apart := laws.apart_sibling fileName
  cases writes with
  | unwritten written => exact load_congr (laws.read_write_apart apart written)
  | unreplaced written renamed =>
    have staged := load_congr (laws.read_write_apart apart written)
    exact (load_congr (laws.read_rename_failed renamed)).trans staged

/-! ### The box -/

/-- The box answers, and keeps its book in the snapshot. -/
structure Keeps (fileName : String) (box : CommentBox φ) : Prop where
  writer : box.writer = some (writer fileName)
  intact : box.broken = false
  holds : load fileName box.device = .ok box.book.asRead

variable {box : CommentBox φ}

theorem keeps_ofWriter (loaded : load fileName files = .ok book) :
    Keeps fileName (.ofWriter book (writer fileName) files) := by
  have own := CommentBook.asRead_eq_self_iff.2 (leapsInPlace_of_load loaded)
  exact ⟨rfl, rfl, loaded.trans (congrArg Except.ok own.symm)⟩

/-- A changed book is kept if it could be written, and else the old one is. -/
theorem Keeps.save (laws : FileSystem.Laws φ Apart) (keeps : Keeps fileName box)
    (changed : CommentBook) : Keeps fileName (box.save (Snapshot.writer fileName) changed).2 := by
  have writes := writes_write fileName changed box.device
  rw [CommentBox.save, Snapshot.writer]
  rcases written : write fileName changed box.device with ⟨answer, device⟩
  rw [written] at writes
  cases answer with
  | ok _ => exact ⟨keeps.writer, keeps.intact, writes.load_of_ok laws⟩
  | error error =>
    exact ⟨keeps.writer, keeps.intact, (writes.load_of_error laws).trans keeps.holds⟩

/-- **Every change keeps the book in the snapshot**, also one that fails. -/
theorem Keeps.change (laws : FileSystem.Laws φ Apart) (keeps : Keeps fileName box)
    (change : CommentChange) : Keeps fileName (box.change change).2 := by
  rw [CommentBox.change, if_neg (Bool.eq_false_iff.1 keeps.intact)]
  cases box.book.apply change with
  | error conflict => exact keeps
  | ok outcome =>
    obtain ⟨changed, after⟩ := outcome
    dsimp only
    rw [keeps.writer]
    cases changed with
    | false => exact keeps
    | true => exact keeps.save laws after

/-- All changes together keep it. -/
theorem Keeps.changes (laws : FileSystem.Laws φ Apart) (keeps : Keeps fileName box)
    (changes : List CommentChange) : Keeps fileName (respond CommentBox.change changes box).2 :=
  respond_keeps (fun change _ keeps => keeps.change laws change) changes keeps

/-- The book of such a box is read as itself, if no comment is put in with a leap second out of place. -/
theorem leapsInPlace_changes (loaded : load fileName files = .ok book) {changes : List CommentChange}
    (admitted : ∀ change ∈ changes, change.PutsIn Instant.LeapsInPlace) :
    (respond CommentBox.change changes (.ofWriter book (writer fileName) files)).2.book.LeapsInPlace :=
  CommentBox.everyGroup_changes GroupProperty.isKept_leapsInPlace admitted (leapsInPlace_of_load loaded)

/-- **A reloaded snapshot is the live book**, up to leap seconds out of place. In any place for files that keeps
the laws, whichever of its steps fail: a box that starts with the book of a snapshot and is saved there makes
any changes, and then loading the snapshot succeeds and gives the book of the box, every comment at the time
that its text shows. That is the book itself exactly if no time in it lies in a leap second in the middle of a
minute, which holds if no comment with such a time is put in. -/
theorem load_eq_asRead (laws : FileSystem.Laws φ Apart) (loaded : load fileName files = .ok book)
    (changes : List CommentChange) :
    let box := (respond CommentBox.change changes (.ofWriter book (writer fileName) files)).2
    load fileName box.device = .ok box.book.asRead ∧
      (load fileName box.device = .ok box.book ↔ box.book.LeapsInPlace) ∧
      ((∀ change ∈ changes, change.PutsIn Instant.LeapsInPlace) → box.book.LeapsInPlace) := by
  intro box
  have held : load fileName box.device = .ok box.book.asRead :=
    ((keeps_ofWriter loaded).changes laws changes).holds
  refine ⟨held, ?_, leapsInPlace_changes loaded⟩
  rw [held, Except.ok.injEq]
  exact CommentBook.asRead_eq_self_iff

/-- A comment on a commit. -/
def remarkAt (time : Instant) (message : String) : CommentChange :=
  .put (.commit ⟨"repo", "c1", time, "user", message⟩)

/-- Three comments on a commit, none of them in a leap second. -/
def remarks : List CommentChange :=
  ["a", "b", "c"].map (remarkAt .epoch)

/-- An empty folder that refuses the first rename and then leaves a damaged file. -/
def frailFolder : Frail Folder :=
  ⟨.empty, [.absent, .refused, .torn .empty]⟩

/-- Two comments cannot be kept, since a rename fails and then a write; the third one is. -/
theorem load_eq_asRead_remarks :
    load "comments.json" frailFolder = .ok ∅ ∧
      let (answers, box) :=
        respond CommentBox.change remarks (.ofWriter ∅ (writer "comments.json") frailFolder)
      answers.map Except.isOk = [false, false, true] ∧
        load "comments.json" box.device = .ok box.book := by
  have loaded : load "comments.json" frailFolder = .ok ∅ := rfl
  have inPlace : ∀ change ∈ remarks, change.PutsIn Instant.LeapsInPlace :=
    List.forall_mem_map.2 fun _ _ => (by decide : Instant.epoch.LeapsInPlace)
  obtain ⟨-, exact, kept⟩ := load_eq_asRead Folder.laws.frail loaded remarks
  exact ⟨loaded, rfl, exact.2 (kept inPlace)⟩

/-- A comment made in a leap second in the middle of a minute is put in and kept, and loaded with another
time. -/
theorem load_moves_midMinute :
    load "comments.json" Folder.empty = .ok ∅ ∧
      let (answers, box) := respond CommentBox.change [remarkAt .midMinute "a"]
        (.ofWriter ∅ (writer "comments.json") Folder.empty)
      answers.map Except.isOk = [true] ∧ load "comments.json" box.device ≠ .ok box.book := by
  have loaded : load "comments.json" Folder.empty = .ok ∅ := rfl
  have held := ((keeps_ofWriter loaded).changes Folder.laws [remarkAt .midMinute "a"]).holds
  refine ⟨loaded, rfl, fun same => ?_⟩
  have moved := Except.ok.inj (held.symm.trans same)
  exact absurd moved (by decide +kernel)

/-- **In a folder** this holds for every name of a snapshot, and whatever faults its steps have. -/
theorem load_eq_asRead_frail (folder : Folder) (faults : List Fault) (fileName : String)
    (loaded : load fileName folder = .ok book) (changes : List CommentChange) :
    let box := (respond CommentBox.change changes
      (.ofWriter book (writer fileName) (Frail.mk folder faults))).2
    load fileName box.device = .ok box.book.asRead := by
  have keeps : Keeps fileName (.ofWriter book (writer fileName) (Frail.mk folder faults)) :=
    keeps_ofWriter loaded
  exact (keeps.changes Folder.laws.frail changes).holds

end TaskLedger.Snapshot
