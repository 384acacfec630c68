/-
**Records in JSON.** Structures with named fields, written as objects and read from objects or lists.

* `RecordField` — a field's name, whether it may be missing, and how it is written, read and set.
* `readRecord` — a record from an object (unknown members pass, a field given twice does not) or from
  a list of the fields in their order; missing fields keep the value of a base record.
* `Shape.record` — the shape of a record type.
-/
import TaskLedger.Json.Shape

namespace TaskLedger.Json

/-- A field of a record of type `ρ`. -/
structure RecordField (ρ : Type) where
  name : String
  /-- The field has to be given. -/
  required : Bool
  write : ρ → Json
  /-- Reads the field's value and sets it. -/
  set : Json → ρ → Option ρ

namespace RecordField

variable {α ρ : Type}

/-- A field that keeps the base record's value where it is missing. -/
def defaulted (name : String) (shape : Shape α) (get : ρ → α) (set : α → ρ → ρ) : RecordField ρ where
  name := name
  required := false
  write record := shape.write (get record)
  set value record := (shape.read value).map (set · record)

/-- A field that must not be missing. -/
def needed (name : String) (shape : Shape α) (get : ρ → α) (set : α → ρ → ρ) : RecordField ρ where
  name := name
  required := true
  write record := shape.write (get record)
  set value record := (shape.read value).map (set · record)

end RecordField

variable {ρ : Type}

/-- Sets the fields that an object's members give; `given` holds the names seen before. -/
def readMembers (fields : List (RecordField ρ)) :
    (given : List String) → List (Content × Json) → ρ → Option ρ
  | given, [], record =>
    if fields.all fun field => !field.required || given.contains field.name then some record
    else none
  | given, (key, value) :: rest, record => do
    let key ← key
    match fields.find? fun field => field.name == key with
    | some field =>
      if given.contains key then none
      else
        let record ← field.set value record
        readMembers fields (key :: given) rest record
    | none => readMembers fields given rest record

/-- Sets the fields in their order from a list of values. -/
def readItems : List (RecordField ρ) → List Json → ρ → Option ρ
  | fields, [], record => if fields.all fun field => !field.required then some record else none
  | [], _ :: _, _ => none
  | field :: fields, value :: rest, record => do
    let record ← field.set value record
    readItems fields rest record

/-- A record read over a base that gives the missing fields. -/
def readRecord (fields : List (RecordField ρ)) (base : ρ) : Json → Option ρ
  | .object members => readMembers fields [] members base
  | .list items => readItems fields items base
  | _ => none

/-- A record as an object, its fields in their order. -/
def writeRecord (fields : List (RecordField ρ)) (record : ρ) : Json :=
  .ofMembers (fields.map fun field => (field.name, field.write record))

/-- The shape of a record type, given its fields and the record whose values fill the gaps. -/
def Shape.record (fields : List (RecordField ρ)) (base : ρ) : Shape ρ where
  write := writeRecord fields
  read := readRecord fields base

end TaskLedger.Json
