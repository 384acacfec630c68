/-
**Configuration.** The limits of a task store and of the decoder.

* `StoreConfig` — the number of change-feed cursors, how long one may stay unpolled, and the
  decoder's workers; `standard`, `persistent` and `strict` are the ready-made ones.
* `StoreConfig.idleTimeout` — the timeout as it acts: one beyond the range of durations is none.
-/
import TaskLedger.Json.Reader
import TaskLedger.Json.Record

namespace TaskLedger

open Json (RecordField Shape)

/-- The limits of a store. -/
structure StoreConfig where
  /-- The most cursors that may be registered at once. -/
  maxCursors : Nat
  /-- The seconds that a cursor may go unpolled; none keeps it until it is stopped. -/
  idleSeconds : Option Nat
  decoderWorkers : Nat
deriving DecidableEq

namespace StoreConfig

/-- The limits that hold unless others are given. -/
def standard : StoreConfig where
  maxCursors := 10
  idleSeconds := some 600
  decoderWorkers := 10

/-- The standard limits with cursors that are never reclaimed. -/
def persistent : StoreConfig :=
  { standard with idleSeconds := none }

/-- Few cursors, reclaimed quickly, and few workers. -/
def strict : StoreConfig where
  maxCursors := 4
  idleSeconds := some 60
  decoderWorkers := 2

/-- The fields of a configuration in JSON. -/
def fields : List (RecordField StoreConfig) :=
  [.defaulted "max_modified_tasks_users" .count maxCursors
      fun v config => { config with maxCursors := v },
    .defaulted "modified_tasks_idle_timeout_secs" (.optional .count) idleSeconds
      fun v config => { config with idleSeconds := v },
    .defaulted "decoder_workers" .count decoderWorkers
      fun v config => { config with decoderWorkers := v }]

/-- A configuration in JSON. -/
def shape : Shape StoreConfig :=
  .record fields standard

/-- The configuration that a JSON text gives; what it leaves out is standard. -/
def ofText? (text : String) : Option StoreConfig :=
  (Json.ofText? text.toList).bind shape.read

/-- The longest duration, in milliseconds. -/
def longestMillis : Nat := 0x7FFFFFFFFFFFFFFF

/-- The seconds after which an unpolled cursor is reclaimed. -/
def idleTimeout (config : StoreConfig) : Option Nat :=
  config.idleSeconds.filter fun seconds => seconds * 1000 ≤ longestMillis

end StoreConfig

end TaskLedger
