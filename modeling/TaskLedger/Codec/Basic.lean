/-
**Codecs.** Tasks as blocks of bytes.

* `Codec` — an encoder that may fail, and a decoder that may fail for a block or crash on it.
* `CodecError` — the causes, with `message` for their texts.
* `Codec.json` — one JSON object a task; absent fields take their defaults, so old blocks stay
  readable.
-/
import TaskLedger.Json.Reader
import TaskLedger.Json.Writer
import TaskLedger.Task.Basic

namespace TaskLedger

/-- A batch cannot be encoded or decoded. -/
inductive CodecError where
  | encode (cause : String)
  | decode
  /-- A decoder's worker ended in the middle of a block. -/
  | workerDied
deriving DecidableEq

/-- The message of the error. -/
def CodecError.message : CodecError → String
  | .encode cause => "failed to encode task: " ++ cause
  | .decode => "failed to decode task"
  | .workerDied => "task decoder worker panicked"

/-- What comes of decoding a block. -/
inductive Decoding where
  | task (task : Task)
  | failed (error : CodecError)
  /-- The decoder did not survive the block. -/
  | crashed
deriving DecidableEq

/-- The block spells no task. -/
def Decoding.refused : Decoding :=
  .failed .decode

/-- A format for tasks. -/
structure Codec where
  encode : Task → Except CodecError ByteArray
  decode : ByteArray → Decoding

namespace Codec

/-- The text of a task. -/
def jsonText (task : Task) : List Char :=
  (Task.shape.write task).compact

/-- The task that a block spells. -/
def ofJson? (block : ByteArray) : Option Task :=
  (Json.ofBytes? block).bind Task.shape.read

/-- Tasks as JSON objects. -/
def json : Codec where
  encode task := .ok (Text.bytes (jsonText task))
  decode block :=
    match ofJson? block with
    | some task => .task task
    | none => .refused

end Codec

end TaskLedger
