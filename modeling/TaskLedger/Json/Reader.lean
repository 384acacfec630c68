/-
**Reading JSON.** From tokens to a value by a machine with a stack of open brackets.

* `Frame` — an open list or object with what it holds so far.
* `Reader.step` — what one token does; it refuses a token that cannot stand where it stands.
* `Json.ofTokens?`, `Json.ofSymbols?` — the one value that a text spells.

The machine takes a token at a time, so no depth of nesting is too much for it.
-/
import TaskLedger.Json.Token

namespace TaskLedger.Json

open Text (Symbol)

/-- A member of an object. -/
abbrev Member := Content × Json

/-- An open bracket with what was read inside it, last first. -/
inductive Frame where
  | list (items : List Json)
  | object (members : List Member)
  /-- An object that waits for the value under a key. -/
  | keyed (members : List Member) (key : Content)

/-- What may come next. -/
inductive Reader where
  /-- A value. -/
  | wantValue (frames : List Frame)
  /-- A value or the end of the list that was just opened. -/
  | wantItem (frames : List Frame)
  /-- A key or the end of the object that was just opened. -/
  | wantMember (frames : List Frame)
  /-- A key. -/
  | wantKey (members : List Member) (frames : List Frame)
  /-- The colon after a key. -/
  | wantColon (members : List Member) (key : Content) (frames : List Frame)
  /-- A comma or the end of the innermost bracket. -/
  | wantMore (frames : List Frame)
  /-- Nothing: the value is complete. -/
  | complete (value : Json)

namespace Reader

/-- Puts a complete value where it belongs. -/
def give (value : Json) : List Frame → Reader
  | [] => .complete value
  | .list items :: rest => .wantMore (.list (value :: items) :: rest)
  | .keyed members key :: rest => .wantMore (.object ((key, value) :: members) :: rest)
  | .object _ :: rest => .wantMore rest

/-- Takes a token where a value has to start. -/
def start (frames : List Frame) : Token → Option Reader
  | .value v => some (give v frames)
  | .listStart => some (.wantItem (.list [] :: frames))
  | .objectStart => some (.wantMember frames)
  | _ => none

/-- Takes a token. -/
def step : Reader → Token → Option Reader
  | .wantValue frames, token => start frames token
  | .wantItem (.list [] :: frames), .listEnd => some (give (.list []) frames)
  | .wantItem frames, token => start frames token
  | .wantMember frames, .objectEnd => some (give (.object []) frames)
  | .wantMember frames, .value (.text key) => some (.wantColon [] key frames)
  | .wantKey members frames, .value (.text key) => some (.wantColon members key frames)
  | .wantColon members key frames, .colon => some (.wantValue (.keyed members key :: frames))
  | .wantMore (.list items :: frames), .comma => some (.wantValue (.list items :: frames))
  | .wantMore (.list items :: frames), .listEnd => some (give (.list items.reverse) frames)
  | .wantMore (.object members :: frames), .comma => some (.wantKey members frames)
  | .wantMore (.object members :: frames), .objectEnd => some (give (.object members.reverse) frames)
  | _, _ => none

/-- Takes tokens one after another. -/
def run : Reader → List Token → Option Reader
  | reader, [] => some reader
  | reader, token :: rest => (reader.step token).bind fun next => next.run rest

/-- The value, if it is complete. -/
def value? : Reader → Option Json
  | .complete value => some value
  | _ => none

end Reader

/-- The value that a row of tokens spells. -/
def ofTokens? (tokens : List Token) : Option Json :=
  ((Reader.wantValue []).run tokens).bind Reader.value?

/-- The value that a row of symbols spells. -/
def ofSymbols? (row : List Symbol) : Option Json :=
  (scan row).bind ofTokens?

/-- The value that a block of bytes spells. -/
def ofBytes? (block : ByteArray) : Option Json :=
  ofSymbols? (Text.symbols block)

/-- The value that a text spells. -/
def ofText? (text : List Char) : Option Json :=
  ofSymbols? (text.map some)

end TaskLedger.Json
