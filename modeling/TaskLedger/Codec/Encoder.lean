/-
**The encoder.** A queue of encoded tasks that fails fast.

* `Encoder.process` — encodes a task and queues it; the first failure empties the queue for good.
* `Encoder.next` — the oldest pair of a task and its block, or the failure.
-/
import TaskLedger.Codec.Basic

namespace TaskLedger

/-- An encoder with what it has not handed out yet. -/
structure Encoder where
  codec : Codec
  /-- Oldest first. -/
  queue : List (Task × ByteArray)
  failure : Option CodecError

namespace Encoder

/-- An encoder that has seen nothing. -/
def ofCodec (codec : Codec) : Encoder :=
  ⟨codec, [], none⟩

/-- Encodes a task; the answer says whether it was accepted. -/
def process (task : Task) (encoder : Encoder) : Bool × Encoder :=
  if encoder.failure.isSome then (false, encoder)
  else
    match encoder.codec.encode task with
    | .ok block => (true, { encoder with queue := encoder.queue ++ [(task, block)] })
    | .error error => (false, { encoder with queue := [], failure := some error })

/-- Hands out the oldest pair, nothing once all are handed out. -/
def next (encoder : Encoder) : Except CodecError (Option (Task × ByteArray)) × Encoder :=
  match encoder.failure with
  | some error => (.error error, encoder)
  | none => (.ok encoder.queue.head?, { encoder with queue := encoder.queue.tail })

end Encoder

end TaskLedger
