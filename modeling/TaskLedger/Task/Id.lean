/-
**Identifiers.** Names of tasks and of change-feed cursors.

* `TaskId`, `CursorId` — opaque texts, ordered by their characters.
* `Random.digits` — the hexadecimal digits of a random identifier (version 4): two of its 128 bits'
  digits are fixed by that version.
* `TaskId.ofRandom`, `CursorId.ofRandom` — fresh identifiers from 128 random bits.
* `TaskId.isUrlSafe` — the identifier stands in an address without escapes.
-/
import TaskLedger.Json.Shape

namespace TaskLedger

/-- The identifier of a task. -/
structure TaskId where
  text : String
deriving DecidableEq, Repr, Inhabited

/-- The identifier of a change-feed cursor. -/
structure CursorId where
  text : String
deriving DecidableEq, Repr, Inhabited

namespace Random

/-- The hexadecimal digits of an identifier drawn from 128 random bits: the digit at place 12 is the
version 4, and the one at place 16 is eight or more. -/
def digits (word : BitVec 128) : List Char :=
  (List.range 32).map fun place =>
    let digit := word.toNat >>> (4 * (31 - place)) % 16
    Nat.digitChar (if place = 12 then 4 else if place = 16 then 8 + digit % 4 else digit)

/-- The digits in groups of 8, 4, 4, 4 and 12 with hyphens between them. -/
def hyphenated (digits : List Char) : List Char :=
  digits.take 8 ++ '-' :: (digits.drop 8).take 4 ++ '-' :: (digits.drop 12).take 4 ++
    '-' :: (digits.drop 16).take 4 ++ '-' :: digits.drop 20

end Random

namespace TaskId

instance : Ord TaskId := ⟨compareOn text⟩

instance : Std.TransOrd TaskId := inferInstanceAs (Std.TransCmp (compareOn TaskId.text))

instance : Std.LawfulEqOrd TaskId where
  eq_of_compare {a b} equal := by
    have : a.text = b.text := Std.LawfulEqOrd.eq_of_compare (α := String) equal
    cases a; cases b; exact congrArg _ this

/-- A fresh identifier from random bits. -/
def ofRandom (word : BitVec 128) : TaskId :=
  ⟨String.ofList (Random.digits word)⟩

/-- The characters that need no escape in an address. -/
def isUnreserved (c : Char) : Bool :=
  c.isAlphanum || c == '-' || c == '.' || c == '_' || c == '~'

/-- The identifier is not empty and survives in an address unchanged. -/
def isUrlSafe (id : TaskId) : Bool :=
  !id.text.isEmpty && id.text.toList.all isUnreserved

/-- An identifier, as its text. -/
def shape : Json.Shape TaskId :=
  Json.Shape.string.imap text mk

end TaskId

namespace CursorId

instance : Ord CursorId := ⟨compareOn text⟩

instance : Std.TransOrd CursorId := inferInstanceAs (Std.TransCmp (compareOn CursorId.text))

instance : Std.LawfulEqOrd CursorId where
  eq_of_compare {a b} equal := by
    have : a.text = b.text := Std.LawfulEqOrd.eq_of_compare (α := String) equal
    cases a; cases b; exact congrArg _ this

/-- A fresh identifier from random bits. -/
def ofRandom (word : BitVec 128) : CursorId :=
  ⟨String.ofList (Random.hyphenated (Random.digits word))⟩

/-- An identifier, as its text. -/
def shape : Json.Shape CursorId :=
  Json.Shape.string.imap text mk

end CursorId

end TaskLedger
