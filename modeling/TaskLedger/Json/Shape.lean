/-
**Shapes.** How the values of a type are laid out in JSON.

* `Shape` — a writer and a reader for one type.
* `Shape.string`, `flag`, `count`, `optional`, `listOf`, `tableOf`, `oneOfNames`, `instant` — the
  shapes that records are built from.
-/
import TaskLedger.Json.Value
import TaskLedger.Table
import TaskLedger.Time.Reading
import TaskLedger.Time.Written

namespace TaskLedger.Json

open Time (Instant)

/-- How the values of a type are written to and read from JSON. -/
structure Shape (α : Type) where
  write : α → Json
  read : Json → Option α

namespace Shape

variable {α β : Type}

/-- A text. -/
def string : Shape String where
  write := ofString
  read
    | .text content => content
    | _ => none

/-- A truth value. -/
def flag : Shape Bool where
  write := .bool
  read
    | .bool b => some b
    | _ => none

/-- The largest count, that of 64 bits. -/
def largestCount : Nat := 0xFFFFFFFFFFFFFFFF

/-- A whole number of 64 bits, spelled with digits alone. -/
def count : Shape Nat where
  write := ofNat
  read
    | .number literal =>
      let n := Decimal.number literal.toList
      if literal.toList.all Char.isDigit && n ≤ largestCount then some n else none
    | _ => none

/-- A value that may be absent, then `null`. -/
def optional (shape : Shape α) : Shape (Option α) where
  write v := ofOption (v.map shape.write)
  read
    | .null => some none
    | v => (shape.read v).map some

/-- A list of values. -/
def listOf (shape : Shape α) : Shape (List α) where
  write values := .list (values.map shape.write)
  read
    | .list items => items.mapM shape.read
    | _ => none

/-- The entries of an object's members, keys and values read. -/
def readEntries (shape : Shape α) (members : List (Content × Json)) : Option (List (String × α)) :=
  members.mapM fun member => do
    let key ← member.1
    let value ← shape.read member.2
    some (key, value)

/-- A table from texts; of two members with one key the later counts. -/
def tableOf (shape : Shape α) : Shape (Table String α) where
  write table := .ofMembers (table.entries.map fun entry => (entry.1, shape.write entry.2))
  read
    | .object members => (shape.readEntries members).map Table.ofList
    | _ => none

/-- One of finitely many values, each known by its name; a name may also be the only key of an
object, with `null` under it. -/
def oneOfNames (name : α → String) (values : List α) : Shape α where
  write v := ofString (name v)
  read
    | .text (some s) => values.find? fun v => name v == s
    | .object [(some s, .null)] => values.find? fun v => name v == s
    | _ => none

/-- The shape of a type whose values are made from those of another. -/
def imap (shape : Shape α) (parts : β → α) (make : α → β) : Shape β where
  write v := shape.write (parts v)
  read v := (shape.read v).map make

/-- An instant, as its text. -/
def instant : Shape Instant where
  write t := ofString (String.ofList t.text)
  read
    | .text (some s) => Instant.readRelaxed? s.toList
    | _ => none

end Shape

end TaskLedger.Json
