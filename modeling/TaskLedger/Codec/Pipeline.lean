/-
**The decoding pipeline.** Workers that decode blocks side by side, step by step.

* `Pipeline` — the state of all parties: the producer that offers blocks, the workers, the supervisor
  that waits for them in turn and then empties the input, the collector, and the two bounded buffers
  between them.
* `Pipeline.step` — what one party does next, `none` while it cannot do anything. The order in which
  parties take their steps is free.
* `Pipeline.result?` — the outcome, once the collector has ended.
-/
import TaskLedger.Codec.Basic

namespace TaskLedger

/-- A message to the collector. -/
inductive Outcome where
  | decoded (task : Task)
  | failed (error : CodecError)
deriving DecidableEq

/-- What a worker is about to do. -/
inductive Worker where
  /-- Take a block from the input. -/
  | waiting
  /-- Look whether decoding has failed, with a block in hand. -/
  | holding (block : ByteArray)
  /-- Decode the block. -/
  | decoding (block : ByteArray)
  /-- Send a decoded task. -/
  | sending (task : Task)
  /-- Send the error of a block, then end. -/
  | reporting (error : CodecError)
  /-- Nothing: it has ended. -/
  | ended
  /-- Nothing: it crashed. -/
  | died

/-- What the supervisor is about to do. -/
inductive Supervisor where
  /-- Wait for a worker to end. -/
  | joining (index : Nat)
  /-- Send the death of a worker, then wait for the next. -/
  | reporting (index : Nat)
  /-- Throw away what is left of the input. -/
  | draining
  /-- Nothing: it has ended, and with it every sender to the collector. -/
  | ended
deriving DecidableEq

/-- The parties. -/
inductive Party where
  | producer
  | worker (index : Nat)
  | supervisor
  | collector
deriving DecidableEq

/-- The state of the pipeline. -/
structure Pipeline where
  /-- Blocks that the producer has still to offer. -/
  pending : List ByteArray
  /-- A block that the producer is putting into the input. -/
  inHand : Option ByteArray
  /-- The number of blocks put into the input. -/
  accepted : Nat
  /-- Blocks were turned away because decoding had failed. -/
  refused : Bool
  /-- The producer will put nothing more into the input. -/
  inputClosed : Bool
  input : List ByteArray
  workers : List Worker
  /-- Decoding has failed. -/
  failed : Bool
  supervisor : Supervisor
  output : List Outcome
  /-- The tasks collected, last first. -/
  tasks : List Task
  /-- The first failure collected. -/
  error : Option CodecError
  collected : Bool

namespace Pipeline

/-- A pipeline with its workers, before the first block is offered. -/
def start (workers : Nat) (blocks : List ByteArray) : Pipeline where
  pending := blocks
  inHand := none
  accepted := 0
  refused := false
  inputClosed := false
  input := []
  workers := List.replicate workers .waiting
  failed := false
  supervisor := .joining 0
  output := []
  tasks := []
  error := none
  collected := false

/-- The input takes two blocks a worker. -/
def inputHasRoom (state : Pipeline) : Bool :=
  state.input.length < 2 * state.workers.length

/-- The output takes one message a worker. -/
def outputHasRoom (state : Pipeline) : Bool :=
  state.output.length < state.workers.length

/-- The state with a worker in another place. -/
def setWorker (state : Pipeline) (index : Nat) (worker : Worker) : Pipeline :=
  { state with workers := state.workers.set index worker }

/-- The state with one more message to the collector. -/
def send (state : Pipeline) (outcome : Outcome) : Pipeline :=
  { state with output := state.output ++ [outcome] }

/-- The producer puts its block into the input, or takes up the next one unless decoding has failed,
or closes the input. -/
def stepProducer (state : Pipeline) : Option Pipeline :=
  match state.inHand, state.pending with
  | some block, _ =>
    if state.inputHasRoom then
      some { state with
        inHand := none, input := state.input ++ [block], accepted := state.accepted + 1 }
    else none
  | none, block :: rest =>
    if state.failed then some { state with pending := rest, refused := true }
    else some { state with pending := rest, inHand := some block }
  | none, [] => if state.inputClosed then none else some { state with inputClosed := true }

/-- A worker does what it is about to do. -/
def stepWorker (codec : Codec) (state : Pipeline) (index : Nat) : Worker → Option Pipeline
  | .waiting =>
    match state.input with
    | block :: rest => some ({ state with input := rest }.setWorker index (.holding block))
    | [] => if state.inputClosed then some (state.setWorker index .ended) else none
  | .holding block =>
    some (state.setWorker index (if state.failed then .ended else .decoding block))
  | .decoding block =>
    match codec.decode block with
    | .task task => some (state.setWorker index (.sending task))
    | .failed error => some ({ state with failed := true }.setWorker index (.reporting error))
    | .crashed => some (state.setWorker index .died)
  | .sending task =>
    if state.outputHasRoom then some ((state.send (.decoded task)).setWorker index .waiting) else none
  | .reporting error =>
    if state.outputHasRoom then some ((state.send (.failed error)).setWorker index .ended) else none
  | .ended => none
  | .died => none

/-- The supervisor waits for the workers in turn and reports those that died; then it empties the
input until that is closed. -/
def stepSupervisor (state : Pipeline) : Option Pipeline :=
  match state.supervisor with
  | .joining index =>
    match state.workers[index]? with
    | some .ended => some { state with supervisor := .joining (index + 1) }
    | some .died => some { state with failed := true, supervisor := .reporting index }
    | some _ => none
    | none => some { state with supervisor := .draining }
  | .reporting index =>
    if state.outputHasRoom then
      some { state.send (.failed .workerDied) with supervisor := .joining (index + 1) }
    else none
  | .draining =>
    match state.input with
    | _ :: rest => some { state with input := rest }
    | [] => if state.inputClosed then some { state with supervisor := .ended } else none
  | .ended => none

/-- The state with a message taken into account; after a failure only that failure counts. -/
def collect (state : Pipeline) : Outcome → Pipeline
  | .decoded task => if state.error.isNone then { state with tasks := task :: state.tasks } else state
  | .failed error =>
    if state.error.isNone then { state with tasks := [], error := some error } else state

/-- The collector takes a message, or ends once nobody can send any. -/
def stepCollector (state : Pipeline) : Option Pipeline :=
  match state.output with
  | outcome :: rest => some ({ state with output := rest }.collect outcome)
  | [] =>
    if state.supervisor = .ended ∧ state.collected = false then some { state with collected := true }
    else none

/-- The next step of a party, if it can take one. -/
def step (codec : Codec) (state : Pipeline) : Party → Option Pipeline
  | .producer => state.stepProducer
  | .worker index => (state.workers[index]?).bind (state.stepWorker codec index)
  | .supervisor => state.stepSupervisor
  | .collector => state.stepCollector

/-- The result, once the collector has ended. -/
def result? (state : Pipeline) : Option (Except CodecError (List Task)) :=
  if state.collected then
    some (match state.error with
      | some error => .error error
      | none => .ok state.tasks.reverse)
  else none

end Pipeline

end TaskLedger
