/-
**The decoder.** Blocks decoded by a pool of workers, all of them or none.

* `Decoder` — a codec and the size of the pool, at least one worker.
* `Decoder.decode` — offers blocks to the pipeline and waits for its result.
-/
import TaskLedger.Codec.Work
import TaskLedger.Store.Config

namespace TaskLedger

/-- A decoder. -/
structure Decoder where
  codec : Codec
  workers : Nat
  workers_pos : 0 < workers

namespace Decoder

/-- A decoder with this many workers, one if there are none. -/
def ofCodec (codec : Codec) (workers : Nat) : Decoder :=
  ⟨codec, max workers 1, by omega⟩

/-- A decoder of JSON with as many workers as the configuration says. -/
def ofConfig (config : StoreConfig) : Decoder :=
  ofCodec .json config.decoderWorkers

/-- What came of decoding blocks. -/
structure Decoded where
  /-- The number of blocks accepted before the first was turned away. -/
  accepted : Nat
  result : Except CodecError (List Task)

/-- Decodes blocks; the tasks come in no particular order. -/
def decode (decoder : Decoder) (blocks : List ByteArray) : Decoded :=
  let state := (Pipeline.start decoder.workers blocks).run decoder.codec
  ⟨state.accepted, state.result?.getD (.error .workerDied)⟩

end Decoder

end TaskLedger
