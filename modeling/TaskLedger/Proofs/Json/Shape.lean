/-
**Shapes that lose nothing.** What a shape writes is well formed, and reading it gives the value back, up to
what the texts of instants cannot say.

* `Shape.IsFaithful` — what a value is read as when it was written, for every value; nothing that was read
  changes when it is written and read again.
* `find?_name` — a value is found by its name.
* `isFaithful_string`, `isFaithful_flag`, `isFaithful_optional`, `isFaithful_listOf`,
  `isFaithful_tableOf`, `isFaithful_oneOfNames`, `isFaithful_imap`, `isFaithful_instant` — the shapes
  that records are built from keep it.
-/
import TaskLedger.Json.Shape
import TaskLedger.Proofs.Json.Printing
import TaskLedger.Proofs.Table
import TaskLedger.Proofs.Time.Reading

namespace TaskLedger.Json

open Time (Instant)

variable {α β : Type}

/-- What is looked up by its name is found, if no other has that name. -/
theorem find?_name {name : α → String} {values : List α} {a : α} (mem : a ∈ values)
    (apart : ∀ b ∈ values, name b = name a → b = a) :
    values.find? (fun b => name b == name a) = some a := by
  cases result : values.find? fun b => name b == name a with
  | none => exact absurd (beq_self_eq_true _) (List.find?_eq_none.1 result a mem)
  | some b =>
    have same : name b = name a := by simpa using List.find?_some result
    rw [apart b (List.mem_of_find?_eq_some result) same]

namespace Shape

variable {shape : Shape α} {asRead : α → α}

/-- What the shape writes is well formed and is read as a function says, which leaves as it is whatever the
shape reads. -/
structure IsFaithful (shape : Shape α) (asRead : α → α) : Prop where
  wellFormed : ∀ a, (shape.write a).IsWellFormed
  read_write : ∀ a, shape.read (shape.write a) = some (asRead a)
  fixed : ∀ v a, shape.read v = some a → asRead a = a

theorem isFaithful_string : string.IsFaithful id where
  wellFormed _ := .text _
  read_write _ := rfl
  fixed _ _ _ := rfl

theorem isFaithful_flag : flag.IsFaithful id where
  wellFormed b := .bool b
  read_write _ := rfl
  fixed _ _ _ := rfl

theorem read_optional {v : Json} (present : v ≠ .null) :
    shape.optional.read v = (shape.read v).map some := by
  cases v with
  | null => exact absurd rfl present
  | _ => rfl

/-- A shape that never writes `null` leaves `null` to the absent value. -/
theorem isFaithful_optional (faithful : shape.IsFaithful asRead) (never : ∀ a, shape.write a ≠ .null) :
    shape.optional.IsFaithful (Option.map asRead) where
  wellFormed
    | none => .null
    | some a => faithful.wellFormed a
  read_write
    | none => rfl
    | some a => by
      have written : shape.optional.write (some a) = shape.write a := rfl
      rw [written, read_optional (never a), faithful.read_write, Option.map_some, Option.map_some]
  fixed v a read := by
    by_cases absent : v = .null
    · subst absent
      cases read
      rfl
    · rw [read_optional absent, Option.map_eq_some_iff] at read
      obtain ⟨value, valueRead, rfl⟩ := read
      exact congrArg some (faithful.fixed v value valueRead)

theorem isFaithful_listOf (faithful : shape.IsFaithful asRead) :
    shape.listOf.IsFaithful (List.map asRead) where
  wellFormed values := .list fun item mem => by
    obtain ⟨a, -, rfl⟩ := List.mem_map.1 mem
    exact faithful.wellFormed a
  read_write values := by
    have read : (values.map shape.write).mapM shape.read = some (values.map asRead) := by
      induction values with
      | nil => rfl
      | cons a values ih =>
        rw [List.map_cons, List.mapM_cons, faithful.read_write, ih]
        rfl
    exact read
  fixed v values read := by
    cases v with
    | list items =>
      have allRead : items.mapM shape.read = some values := read
      clear read
      induction items generalizing values with
      | nil =>
        cases allRead
        rfl
      | cons item items ih =>
        rw [List.mapM_cons] at allRead
        obtain ⟨a, first, rest⟩ := Option.bind_eq_some_iff.1 allRead
        obtain ⟨others, othersRead, ⟨⟩⟩ := Option.bind_eq_some_iff.1 rest
        rw [List.map_cons, faithful.fixed item a first, ih others othersRead]
    | _ => cases read

theorem write_tableOf (shape : Shape α) (table : Table String α) :
    shape.tableOf.write table =
      .object (table.entries.map fun entry => (some entry.1, shape.write entry.2)) := by
  simp only [tableOf, ofMembers, List.map_map, Function.comp_def]

theorem readEntries_map (faithful : shape.IsFaithful asRead) (entries : List (String × α)) :
    shape.readEntries (entries.map fun entry => (some entry.1, shape.write entry.2)) =
      some (entries.map fun entry => (entry.1, asRead entry.2)) := by
  induction entries with
  | nil => rfl
  | cons entry rest ih =>
    rw [readEntries] at ih ⊢
    rw [List.map_cons, List.mapM_cons, ih]
    simp only [Option.bind_eq_bind, Option.bind_some, faithful.read_write, Option.pure_def, List.map_cons]

/-- The values of entries that were read were read themselves. -/
theorem fixed_of_readEntries (faithful : shape.IsFaithful asRead) {members : List (Content × Json)}
    {entries : List (String × α)} (read : shape.readEntries members = some entries) :
    ∀ entry ∈ entries, asRead entry.2 = entry.2 := by
  induction members generalizing entries with
  | nil =>
    cases read
    exact List.forall_mem_nil _
  | cons member members ih =>
    rw [readEntries, List.mapM_cons] at read
    obtain ⟨entry, first, rest⟩ := Option.bind_eq_some_iff.1 read
    obtain ⟨others, othersRead, ⟨⟩⟩ := Option.bind_eq_some_iff.1 rest
    obtain ⟨key, -, valued⟩ := Option.bind_eq_some_iff.1 first
    obtain ⟨value, valueRead, ⟨⟩⟩ := Option.bind_eq_some_iff.1 valued
    exact List.forall_mem_cons.2 ⟨faithful.fixed member.2 value valueRead, ih othersRead⟩

/-- A table is read back from the object of its entries. -/
theorem isFaithful_tableOf (faithful : shape.IsFaithful asRead) :
    shape.tableOf.IsFaithful (Table.map asRead) where
  wellFormed table := by
    rw [write_tableOf]
    refine .object fun member mem => ?_
    obtain ⟨entry, -, rfl⟩ := List.mem_map.1 mem
    exact faithful.wellFormed entry.2
  read_write table := by
    have read : (shape.readEntries (table.entries.map fun entry =>
        (some entry.1, shape.write entry.2))).map Table.ofList = some (table.map asRead) := by
      rw [readEntries_map faithful, Option.map_some, ← Table.entries_map, Table.ofList_entries]
    rw [write_tableOf]
    exact read
  fixed v table read := by
    cases v with
    | object members =>
      obtain ⟨entries, entriesRead, rfl⟩ := Option.map_eq_some_iff.1 read
      refine Table.map_eq_self_iff.2 fun key value held => ?_
      exact fixed_of_readEntries faithful entriesRead (key, value) (Table.mem_of_get?_ofList held)
    | _ => cases read

/-- Names tell the listed values apart. -/
theorem isFaithful_oneOfNames {name : α → String} {values : List α} (listed : ∀ a, a ∈ values)
    (apart : ∀ a b, name a = name b → a = b) : (oneOfNames name values).IsFaithful id where
  wellFormed _ := .text _
  read_write a := find?_name (listed a) fun b _ same => apart b a same
  fixed _ _ _ := rfl

theorem isFaithful_imap (faithful : shape.IsFaithful id) {parts : β → α} {make : α → β}
    (inverse : ∀ b, make (parts b) = b) : (shape.imap parts make).IsFaithful id where
  wellFormed b := faithful.wellFormed (parts b)
  read_write b := by
    have read : (shape.read (shape.write (parts b))).map make = some b := by
      rw [faithful.read_write, Option.map_some, id, inverse]
    exact read
  fixed _ _ _ := rfl

/-- **An instant is read as what its text shows.** -/
theorem isFaithful_instant : instant.IsFaithful Instant.asRead where
  wellFormed _ := .text _
  read_write t := by
    have read : Instant.readRelaxed? (String.ofList t.text).toList = some t.asRead := by
      rw [String.toList_ofList, t.readRelaxed?_text]
    exact read
  fixed v t read := by
    apply Instant.asRead_of_leapsInPlace
    unfold instant at read
    dsimp only at read
    split at read
    · exact Instant.leapsInPlace_of_readRelaxed? read
    · cases read

end Shape

end TaskLedger.Json
