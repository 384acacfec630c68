/-
**Snapshots.** The comments of all repositories in one file.

* `FileSystem` — what snapshots need of a place for files.
* `Snapshot.write` — writes a sibling first and renames it into place, so that no reader sees half a
  snapshot.
* `Snapshot.load` — the book in a snapshot; a missing file is an empty book.
* `Snapshot.writer` — the writer of a comment box that keeps its book in a snapshot.
-/
import TaskLedger.Comment.Box
import TaskLedger.Json.Reader
import TaskLedger.Json.Writer

namespace TaskLedger

/-- A file cannot be read. -/
inductive ReadFailure where
  /-- It does not exist. -/
  | missing
  | unreadable
deriving DecidableEq

/-- A place for files. -/
class FileSystem (φ : Type) where
  /-- The content of a file. -/
  read : String → φ → Except ReadFailure ByteArray
  /-- Replaces the content of a file; says whether that succeeded. -/
  write : String → ByteArray → φ → Bool × φ
  /-- Renames a file, replacing the target; says whether that succeeded. -/
  rename : (source target : String) → φ → Bool × φ

namespace Snapshot

variable {φ : Type} [FileSystem φ]

/-- The text of a snapshot. -/
def text (book : CommentBook) : List Char :=
  (CommentBook.shape.write book).indented

/-- The book that the content of a file holds. -/
def ofContent? (content : ByteArray) : Option CommentBook := do
  let text ← String.fromUTF8? content
  let json ← Json.ofText? text.toList
  CommentBook.shape.read json

/-- Reads the snapshot with a file name. -/
def load (fileName : String) (files : φ) : Except CommentError CommentBook :=
  match FileSystem.read fileName files with
  | .error .missing => .ok ∅
  | .error .unreadable => .error (.persistence "snapshot cannot be read")
  | .ok content =>
    match ofContent? content with
    | some book => .ok book
    | none => .error (.persistence "snapshot is malformed")

/-- The name of the sibling that is written first. -/
def stagingName (fileName : String) : String :=
  fileName ++ ".tmp"

/-- Replaces the snapshot with a file name. -/
def write (fileName : String) (book : CommentBook) (files : φ) : Except CommentError Unit × φ :=
  match FileSystem.write (stagingName fileName) (Text.bytes (text book)) files with
  | (false, files) => (.error (.persistence "snapshot cannot be written"), files)
  | (true, files) =>
    match FileSystem.rename (stagingName fileName) fileName files with
    | (false, files) => (.error (.persistence "snapshot cannot be replaced"), files)
    | (true, files) => (.ok (), files)

/-- A writer that keeps the book in a snapshot. -/
def writer (fileName : String) : CommentWriter φ := fun book files =>
  match write fileName book files with
  | (.ok (), files) => (.taken, files)
  | (.error error, files) => (.failed error, files)

/-- A box with the book of a snapshot, kept there from now on. -/
def openBox (fileName : String) (files : φ) : Except CommentError (CommentBox φ) :=
  (load fileName files).map fun book => .ofWriter book (writer fileName) files

end Snapshot

end TaskLedger
