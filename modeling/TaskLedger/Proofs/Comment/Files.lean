/-
**Places for files.** What snapshots rely on in a place for files, and two places that keep it.

* `FileSystem.Laws` — a file that was written holds what was written, and writing it leaves the others
  alone; a rename replaces its target as a whole or does nothing.
* `Folder.apart_stagingName` — the sibling of a snapshot is never the snapshot itself, whatever its name.
* `Folder.laws` — a folder keeps the laws, where two paths are apart if they lead to different files.
* `Frail`, `FileSystem.Laws.frail` — a place that keeps the laws still does when its steps fail, in any
  pattern, and leave damaged files behind.
-/
import TaskLedger.Comment.Folder

namespace TaskLedger

/-- What is relied on in a place for files, given which paths lead to different files. -/
structure FileSystem.Laws (φ : Type) [FileSystem φ] (Apart : String → String → Prop) : Prop where
  /-- A path and its sibling lead to different files. -/
  apart_sibling : ∀ path, Apart (Snapshot.stagingName path) path
  /-- A file holds what was written to it. -/
  read_write : ∀ {path content} {files after : φ},
    FileSystem.write path content files = (true, after) → FileSystem.read path after = .ok content
  /-- Writing a file leaves the others alone, also when it fails. -/
  read_write_apart : ∀ {path other content succeeded} {files after : φ}, Apart path other →
    FileSystem.write path content files = (succeeded, after) →
      FileSystem.read other after = FileSystem.read other files
  /-- The target of a rename holds what the source held. -/
  read_rename : ∀ {source target content} {files after : φ},
    FileSystem.read source files = .ok content →
    FileSystem.rename source target files = (true, after) → FileSystem.read target after = .ok content
  /-- A rename that fails changes no file. -/
  read_rename_failed : ∀ {source target path} {files after : φ},
    FileSystem.rename source target files = (false, after) →
      FileSystem.read path after = FileSystem.read path files

/-! ### Paths of a folder -/

namespace Folder

variable {folder after : Folder}

theorem follow_of_file {parts : List (List Char)} {name : String}
    (leads : folder.follow parts = .file name) : after.follow parts = .file name := by
  induction parts with
  | nil => cases leads
  | cons part rest ih =>
    simp only [follow] at leads ⊢
    grind

/-- A path that leads to a file leads there whatever files there are. -/
theorem resolve_of_file {path name : String} (leads : folder.resolve path = .file name) :
    after.resolve path = .file name := by
  unfold resolve at leads ⊢
  grind [follow_of_file]

/-- A path that is not empty is followed, unless no file can have it. -/
theorem resolve_eq (folder : Folder) {path : String} (full : path.toList ≠ []) :
    folder.resolve path =
      if longestPath < path.utf8ByteSize ∨ path.toList.head? = some '/' ∨ '\x00' ∈ path.toList then
        .forbidden
      else folder.follow (path.toList.splitOn '/') := by
  unfold resolve
  cases letters : path.toList with
  | nil => exact absurd letters full
  | cons first rest => simp

/-- One path may lead to a file, but the other never leads to the same one, and where it leads does not
depend on that file. -/
def Apart (path other : String) : Prop :=
  ∀ (folder after : Folder) name, folder.resolve path = .file name →
    after.resolve other = folder.resolve other ∧ folder.resolve other ≠ .file name

/-! ### The sibling of a snapshot -/

/-- The parts of a path that goes on without a slash: its last part goes on. -/
theorem splitOn_append {tail : List Char} (whole : '/' ∉ tail) (path : List Char) :
    ∃ front last, path.splitOn '/' = front ++ [last] ∧
      (path ++ tail).splitOn '/' = front ++ [last ++ tail] := by
  induction path with
  | nil => exact ⟨[], [], List.splitOn_nil .., List.splitOn_eq_singleton whole⟩
  | cons c path ih =>
    obtain ⟨front, last, split, splitLonger⟩ := ih
    rw [List.cons_append, List.splitOn_cons_eq_if_modifyHead, List.splitOn_cons_eq_if_modifyHead, split,
      splitLonger]
    by_cases slash : (c == '/') = true
    · rw [if_pos slash, if_pos slash]
      exact ⟨[] :: front, last, rfl, rfl⟩
    · rw [if_neg slash, if_neg slash]
      cases front with
      | nil => exact ⟨[], c :: last, rfl, rfl⟩
      | cons first front => exact ⟨(c :: first) :: front, last, rfl, rfl⟩

/-- When a path leads to a file, the same path with a shorter end leads elsewhere. -/
theorem follow_shorter {front : List (List Char)} {last tail : List Char} {name : String}
    (full : tail ≠ []) (leads : folder.follow (front ++ [last ++ tail]) = .file name) :
    after.follow (front ++ [last]) = folder.follow (front ++ [last]) ∧
      folder.follow (front ++ [last]) ≠ .file name := by
  induction front with
  | nil =>
    have longer : String.ofList last ≠ String.ofList (last ++ tail) := by
      rw [Ne, String.ofList_inj]
      simpa using full
    simp only [List.nil_append, follow] at leads ⊢
    grind
  | cons part rest ih =>
    -- A name that is not the last part would need a subfolder, so the front only stays in the folder.
    have more : (rest ++ [last ++ tail]).isEmpty = false := by simp
    simp only [List.cons_append, follow] at leads ⊢
    grind

/-- **The sibling of a snapshot** is never the snapshot itself. -/
theorem apart_stagingName (fileName : String) : Apart (Snapshot.stagingName fileName) fileName := by
  intro folder after name leads
  have letters : (Snapshot.stagingName fileName).toList = fileName.toList ++ ['.', 't', 'm', 'p'] := by
    rw [Snapshot.stagingName, String.toList_append]
    rfl
  obtain ⟨front, last, split, splitLonger⟩ :=
    splitOn_append (by decide : '/' ∉ ['.', 't', 'm', 'p']) fileName.toList
  rw [resolve_eq _ (by simp [letters]), letters, splitLonger] at leads
  by_cases empty : fileName.toList = []
  · simp [resolve, empty]
  · rw [resolve_eq _ empty, resolve_eq _ empty, split]
    split at leads
    · cases leads
    · split
      · simp
      · exact follow_shorter (by simp) leads

/-! ### A folder keeps the laws -/

theorem write_cases (path : String) (content : ByteArray) (folder : Folder) :
    (∃ name, folder.resolve path = .file name ∧
      folder.write path content = (true, ⟨folder.files.insert name content⟩)) ∨
    folder.write path content = (false, folder) := by
  rw [write]
  cases leads : folder.resolve path with
  | file name => exact .inl ⟨name, rfl, rfl⟩
  | _ => exact .inr rfl

theorem rename_cases (source target : String) (folder : Folder) :
    (∃ sourceName targetName content, folder.resolve source = .file sourceName ∧
      folder.resolve target = .file targetName ∧ folder.files.get? sourceName = some content ∧
      folder.rename source target =
        (true, ⟨(folder.files.erase sourceName).insert targetName content⟩)) ∨
    folder.rename source target = (false, folder) := by
  rw [rename]
  cases folder.resolve source with
  | file sourceName =>
    cases folder.resolve target with
    | file targetName =>
      cases held : folder.files.get? sourceName with
      | some content => exact .inl ⟨sourceName, targetName, content, rfl, rfl, held, by simp only [held]⟩
      | none => exact .inr (by simp only [held])
    | _ => exact .inr rfl
  | _ => exact .inr rfl

theorem read_of_file {path name : String} {content : ByteArray}
    (leads : folder.resolve path = .file name) (held : folder.files.get? name = some content) :
    folder.read path = .ok content := by
  rw [read, leads]
  dsimp only
  rw [held]

theorem get?_of_read {path name : String} {content : ByteArray}
    (leads : folder.resolve path = .file name) (holds : folder.read path = .ok content) :
    folder.files.get? name = some content := by
  rw [read, leads] at holds
  dsimp only at holds
  cases held : folder.files.get? name with
  | some stored =>
    rw [held] at holds
    cases holds
    rfl
  | none =>
    rw [held] at holds
    cases holds

/-- A change of one file is not seen under a path that leads elsewhere. -/
theorem read_insert {path name : String} {content : ByteArray}
    (same : (Folder.mk (folder.files.insert name content)).resolve path = folder.resolve path)
    (elsewhere : folder.resolve path ≠ .file name) :
    (Folder.mk (folder.files.insert name content)).read path = folder.read path := by
  rw [read, read, same]
  cases leads : folder.resolve path with
  | file other =>
    have differ : other ≠ name := fun equal => elsewhere (equal ▸ leads)
    dsimp only
    rw [Table.get?_insert_of_ne _ _ differ]
  | _ => rfl

/-- **A folder keeps the laws.** -/
theorem laws : FileSystem.Laws Folder Apart where
  apart_sibling := apart_stagingName
  read_write {path content files after} written := by
    rcases files.write_cases path content with ⟨name, leads, same⟩ | same
    · cases same.symm.trans written
      exact read_of_file (resolve_of_file leads) (Table.get?_insert_self ..)
    · cases same.symm.trans written
  read_write_apart {path other content succeeded files after} apart written := by
    rcases files.write_cases path content with ⟨name, leads, same⟩ | same
    · cases same.symm.trans written
      obtain ⟨stays, elsewhere⟩ := apart files ⟨files.files.insert name content⟩ name leads
      exact read_insert stays elsewhere
    · cases same.symm.trans written
      rfl
  read_rename {source target content files after} holds renamed := by
    rcases files.rename_cases source target with ⟨_, _, stored, leads, targetLeads, held, same⟩ | same
    · cases same.symm.trans renamed
      cases (get?_of_read leads holds).symm.trans held
      exact read_of_file (resolve_of_file targetLeads) (Table.get?_insert_self ..)
    · cases same.symm.trans renamed
  read_rename_failed {source target path files after} failed := by
    rcases files.rename_cases source target with ⟨_, _, _, -, -, -, same⟩ | same
    · cases same.symm.trans failed
    · cases same.symm.trans failed
      rfl

end Folder

/-! ### Steps that fail -/

/-- What happens to a step that would change files. -/
inductive Fault where
  /-- Nothing; the step is made. -/
  | absent
  /-- The step fails and changes nothing. -/
  | refused
  /-- The step fails; a file that was to be written is left with this content. -/
  | torn (left : ByteArray)

/-- A place for files whose next steps have these faults, and all later ones none. -/
structure Frail (φ : Type) where
  files : φ
  faults : List Fault

namespace Frail

variable {φ : Type} [FileSystem φ]

/-- What happens to the next step. -/
def fault (place : Frail φ) : Fault :=
  place.faults.head?.getD .absent

/-- The outcome of a step that was made. -/
def made (place : Frail φ) (outcome : Bool × φ) : Bool × Frail φ :=
  (outcome.1, ⟨outcome.2, place.faults.tail⟩)

/-- The outcome of a step that failed. -/
def failed (place : Frail φ) (files : φ) : Bool × Frail φ :=
  (false, ⟨files, place.faults.tail⟩)

instance : FileSystem (Frail φ) where
  read path place := FileSystem.read path place.files
  write path content place :=
    match place.fault with
    | .absent => place.made (FileSystem.write path content place.files)
    | .refused => place.failed place.files
    | .torn left => place.failed (FileSystem.write path left place.files).2
  rename source target place :=
    match place.fault with
    | .absent => place.made (FileSystem.rename source target place.files)
    | .refused | .torn _ => place.failed place.files

variable {place after : Frail φ} {succeeded : Bool}

theorem read_eq (path : String) (place : Frail φ) :
    FileSystem.read path place = FileSystem.read path place.files := rfl

/-- A write is made, or fails and leaves the files as they were or with something else written. -/
theorem write_cases {path : String} {content : ByteArray}
    (written : FileSystem.write path content place = (succeeded, after)) :
    FileSystem.write path content place.files = (succeeded, after.files) ∨
      succeeded = false ∧ (after.files = place.files ∨
        ∃ left, after.files = (FileSystem.write path left place.files).2) := by
  have outcome : (match place.fault with
      | .absent => place.made (FileSystem.write path content place.files)
      | .refused => place.failed place.files
      | .torn left => place.failed (FileSystem.write path left place.files).2) = (succeeded, after) :=
    written
  cases fault : place.fault with
  | absent =>
    rw [fault] at outcome
    obtain ⟨rfl, rfl⟩ := Prod.mk.inj outcome
    exact .inl rfl
  | refused =>
    rw [fault] at outcome
    cases outcome
    exact .inr ⟨rfl, .inl rfl⟩
  | torn left =>
    rw [fault] at outcome
    cases outcome
    exact .inr ⟨rfl, .inr ⟨left, rfl⟩⟩

/-- A rename is made, or fails and changes nothing. -/
theorem rename_cases {source target : String}
    (renamed : FileSystem.rename source target place = (succeeded, after)) :
    FileSystem.rename source target place.files = (succeeded, after.files) ∨
      succeeded = false ∧ after.files = place.files := by
  have outcome : (match place.fault with
      | .absent => place.made (FileSystem.rename source target place.files)
      | .refused | .torn _ => place.failed place.files) = (succeeded, after) := renamed
  cases fault : place.fault with
  | absent =>
    rw [fault] at outcome
    obtain ⟨rfl, rfl⟩ := Prod.mk.inj outcome
    exact .inl rfl
  | refused | torn =>
    rw [fault] at outcome
    cases outcome
    exact .inr ⟨rfl, rfl⟩

end Frail

/-- **Faults break no law.** -/
theorem FileSystem.Laws.frail {φ : Type} [FileSystem φ] {Apart : String → String → Prop}
    (laws : FileSystem.Laws φ Apart) : FileSystem.Laws (Frail φ) Apart where
  apart_sibling := laws.apart_sibling
  read_write written := by
    rcases Frail.write_cases written with made | ⟨failed, -⟩
    · exact laws.read_write made
    · cases failed
  read_write_apart apart written := by
    rw [Frail.read_eq, Frail.read_eq]
    rcases Frail.write_cases written with made | ⟨-, same | ⟨left, torn⟩⟩
    · exact laws.read_write_apart apart made
    · rw [same]
    · rw [torn]
      exact laws.read_write_apart apart rfl
  read_rename holds renamed := by
    rcases Frail.rename_cases renamed with made | ⟨failed, -⟩
    · exact laws.read_rename holds made
    · cases failed
  read_rename_failed renamed := by
    rw [Frail.read_eq, Frail.read_eq]
    rcases Frail.rename_cases renamed with made | ⟨-, same⟩
    · exact laws.read_rename_failed made
    · rw [same]

end TaskLedger
