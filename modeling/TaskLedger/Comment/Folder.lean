/-
**A folder.** A place for files without subfolders, which no path can leave.

* `Folder.resolve` — what a path leads to, one part after another.
* `Folder` is a `FileSystem`.
-/
import TaskLedger.Comment.Snapshot

namespace TaskLedger

/-- The files of a folder. -/
structure Folder where
  files : Table String ByteArray

/-- What a path leads to. -/
inductive Target where
  | file (name : String)
  /-- The folder itself. -/
  | folder
  /-- Nothing is there, and nothing can be put there. -/
  | nowhere
  /-- The path leaves the folder, or no file can have it. -/
  | forbidden
deriving DecidableEq

namespace Folder

/-- A folder without files. -/
def empty : Folder :=
  ⟨∅⟩

/-- The most bytes that the name of a file may have. -/
def longestName : Nat := 255

/-- The most bytes that a path may have. -/
def longestPath : Nat := 4095

/-- Follows the parts of a path. A part that is empty or a point stays in the folder; a part after a
name would need a subfolder of that name. -/
def follow (folder : Folder) : List (List Char) → Target
  | [] => .folder
  | part :: rest =>
    if part = [] ∨ part = ['.'] then folder.follow rest
    else if part = ['.', '.'] then .forbidden
    else
      let name := String.ofList part
      if longestName < name.utf8ByteSize then .forbidden
      else if rest.isEmpty then .file name
      else if folder.files.contains name then .forbidden
      else .nowhere

/-- What a path leads to. -/
def resolve (folder : Folder) (path : String) : Target :=
  match path.toList with
  | [] => .nowhere
  | first :: rest =>
    if longestPath < path.utf8ByteSize ∨ first = '/' ∨ '\x00' ∈ first :: rest then .forbidden
    else folder.follow ((first :: rest).splitOn '/')

/-- The content of a file. -/
def read (path : String) (folder : Folder) : Except ReadFailure ByteArray :=
  match folder.resolve path with
  | .file name =>
    match folder.files.get? name with
    | some content => .ok content
    | none => .error .missing
  | .nowhere => .error .missing
  | .folder => .error .unreadable
  | .forbidden => .error .unreadable

/-- Replaces the content of a file. -/
def write (path : String) (content : ByteArray) (folder : Folder) : Bool × Folder :=
  match folder.resolve path with
  | .file name => (true, ⟨folder.files.insert name content⟩)
  | _ => (false, folder)

/-- Renames a file. -/
def rename (source target : String) (folder : Folder) : Bool × Folder :=
  match folder.resolve source, folder.resolve target with
  | .file sourceName, .file targetName =>
    match folder.files.get? sourceName with
    | some content => (true, ⟨(folder.files.erase sourceName).insert targetName content⟩)
    | none => (false, folder)
  | _, _ => (false, folder)

instance : FileSystem Folder := ⟨read, write, rename⟩

end Folder

end TaskLedger
