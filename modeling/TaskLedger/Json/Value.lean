/-
**JSON values.** What a JSON text says, before anything is made of it.

* `Json` — members keep their order and repeats, and numbers their spelling.
* A text content is `none` where a literal names no Unicode text (a stray byte, half of a surrogate
  pair): such a literal is allowed in a value that nobody looks at, and nowhere else.
-/
namespace TaskLedger

/-- The content of a text literal, `none` if it is no Unicode text. -/
abbrev Json.Content := Option String

/-- A JSON value. -/
inductive Json where
  | null
  | bool (value : Bool)
  | number (literal : String)
  | text (content : Json.Content)
  | list (items : List Json)
  | object (members : List (Json.Content × Json))
deriving Inhabited, BEq, Repr

namespace Json

/-- A text. -/
def ofString (s : String) : Json :=
  .text (some s)

/-- A whole number. -/
def ofNat (n : Nat) : Json :=
  .number (String.ofList (Nat.toDigits 10 n))

/-- A list of texts. -/
def ofStrings (texts : List String) : Json :=
  .list (texts.map ofString)

/-- An object with the given names. -/
def ofMembers (members : List (String × Json)) : Json :=
  .object (members.map fun member => (some member.1, member.2))

/-- A value, or `null` for none. -/
def ofOption (value : Option Json) : Json :=
  value.getD .null

/-- The value of the first member with a name, if this is an object. -/
def member? (name : String) : Json → Option Json
  | .object members => (members.find? fun member => member.1 == some name).map (·.2)
  | _ => none

end Json

end TaskLedger
