/-
**Schedules of the decoding pipeline.** What one step can do, and how steps make up a run.

* `Pipeline.Move`, `Pipeline.move_of_step` — the twenty-three things that a step of any party can be. All
  that is proved of runs is proved by cases on them.
* `Pipeline.after?` — the state after the parties of a schedule have taken their steps, one at a time;
  none if one of them cannot.
* `Pipeline.length_le_work` — no schedule goes on for ever.
* `Pipeline.exists_schedule_run` — the order of steps that `Pipeline.run` takes is such a schedule.
* `Pipeline.exists_step_of_input` — as long as the collector has not ended and the input has blocks or is
  closed, some party behind the input can take a step: the collector if there is a message, else the
  supervisor, else the worker it waits for.
* `Pipeline.exists_step` — else the producer can, so that some party always can.
-/
import TaskLedger.Codec.Decoder
import Mathlib.Data.List.Basic

namespace TaskLedger

namespace Pipeline

variable {codec : Codec} {state next : Pipeline}

/-! ### Moves -/

/-- What a step can do, with the condition under which it does it. -/
inductive Move (codec : Codec) (state : Pipeline) : Pipeline → Prop where
  /-- The producer puts its block into the input. -/
  | put (block : ByteArray) : state.inHand = some block →
    Move codec state { state with
      inHand := none, input := state.input ++ [block], accepted := state.accepted + 1 }
  /-- The producer turns a block away. -/
  | turnAway (block : ByteArray) (rest : List ByteArray) : state.inHand = none →
    state.pending = block :: rest → state.failed = true →
    Move codec state { state with pending := rest, refused := true }
  | takeUp (block : ByteArray) (rest : List ByteArray) : state.inHand = none →
    state.pending = block :: rest → Move codec state { state with pending := rest, inHand := some block }
  | close : state.inHand = none → state.pending = [] →
    Move codec state { state with inputClosed := true }
  /-- A worker takes a block. -/
  | take (index : Nat) (block : ByteArray) (rest : List ByteArray) :
    state.workers[index]? = some .waiting → state.input = block :: rest →
    Move codec state ({ state with input := rest }.setWorker index (.holding block))
  /-- A worker ends because there will be no more blocks. -/
  | leave (index : Nat) : state.workers[index]? = some .waiting → state.input = [] →
    state.inputClosed = true → Move codec state (state.setWorker index .ended)
  /-- A worker drops its block because decoding has failed. -/
  | giveUp (index : Nat) (block : ByteArray) : state.workers[index]? = some (.holding block) →
    state.failed = true → Move codec state (state.setWorker index .ended)
  | begin (index : Nat) (block : ByteArray) : state.workers[index]? = some (.holding block) →
    Move codec state (state.setWorker index (.decoding block))
  | decode (index : Nat) (block : ByteArray) (task : Task) :
    state.workers[index]? = some (.decoding block) → codec.decode block = .task task →
    Move codec state (state.setWorker index (.sending task))
  | fail (index : Nat) (block : ByteArray) (error : CodecError) :
    state.workers[index]? = some (.decoding block) → codec.decode block = .failed error →
    Move codec state ({ state with failed := true }.setWorker index (.reporting error))
  | crash (index : Nat) (block : ByteArray) : state.workers[index]? = some (.decoding block) →
    codec.decode block = .crashed → Move codec state (state.setWorker index .died)
  /-- A worker sends a task. -/
  | send (index : Nat) (task : Task) : state.workers[index]? = some (.sending task) →
    Move codec state ((state.send (.decoded task)).setWorker index .waiting)
  /-- A worker sends an error. -/
  | report (index : Nat) (error : CodecError) : state.workers[index]? = some (.reporting error) →
    Move codec state ((state.send (.failed error)).setWorker index .ended)
  /-- The supervisor waits for the next worker. -/
  | join (index : Nat) : state.supervisor = .joining index → state.workers[index]? = some .ended →
    Move codec state { state with supervisor := .joining (index + 1) }
  /-- The supervisor finds that a worker has died. -/
  | find (index : Nat) : state.supervisor = .joining index → state.workers[index]? = some .died →
    Move codec state { state with failed := true, supervisor := .reporting index }
  | joinLast (index : Nat) : state.supervisor = .joining index → state.workers[index]? = none →
    Move codec state { state with supervisor := .draining }
  /-- The supervisor sends the death of a worker. -/
  | mourn (index : Nat) : state.supervisor = .reporting index →
    Move codec state { state.send (.failed .workerDied) with supervisor := .joining (index + 1) }
  /-- The supervisor throws a block away. -/
  | discard (block : ByteArray) (rest : List ByteArray) : state.supervisor = .draining →
    state.input = block :: rest → Move codec state { state with input := rest }
  | finish : state.supervisor = .draining → state.input = [] → state.inputClosed = true →
    Move codec state { state with supervisor := .ended }
  /-- The collector keeps a task. -/
  | collect (task : Task) (rest : List Outcome) : state.output = .decoded task :: rest →
    state.error = none → Move codec state { state with output := rest, tasks := task :: state.tasks }
  /-- The collector takes the first failure. -/
  | note (error : CodecError) (rest : List Outcome) : state.output = .failed error :: rest →
    state.error = none →
    Move codec state { state with output := rest, tasks := [], error := some error }
  /-- After a failure the collector takes messages without effect. -/
  | ignore (outcome : Outcome) (rest : List Outcome) (error : CodecError) :
    state.output = outcome :: rest → state.error = some error →
    Move codec state { state with output := rest }
  | stop : state.output = [] → state.supervisor = .ended →
    Move codec state { state with collected := true }

theorem move_of_stepProducer (step : state.stepProducer = some next) : Move codec state next := by
  unfold stepProducer at step
  split at step
  · rename_i _ block held
    split at step <;> cases step
    exact .put block held
  · rename_i block rest held offered
    split at step <;> cases step
    · rename_i failed
      exact .turnAway block rest held offered failed
    · exact .takeUp block rest held offered
  · rename_i held offered
    split at step <;> cases step
    exact .close held offered

theorem move_of_stepWorker {index : Nat} {worker : Worker}
    (there : state.workers[index]? = some worker)
    (step : state.stepWorker codec index worker = some next) : Move codec state next := by
  cases worker with
  | waiting =>
    simp only [stepWorker] at step
    split at step
    · rename_i block rest held
      cases step
      exact .take index block rest there held
    · rename_i empty
      split at step <;> cases step
      rename_i closed
      exact .leave index there empty closed
  | holding block =>
    cases step
    split
    · rename_i failed
      exact .giveUp index block there failed
    · exact .begin index block there
  | decoding block =>
    simp only [stepWorker] at step
    split at step <;> cases step
    · rename_i task decoded
      exact .decode index block task there decoded
    · rename_i error decoded
      exact .fail index block error there decoded
    · rename_i decoded
      exact .crash index block there decoded
  | sending task =>
    simp only [stepWorker] at step
    split at step <;> cases step
    exact .send index task there
  | reporting error =>
    simp only [stepWorker] at step
    split at step <;> cases step
    exact .report index error there
  | ended => cases step
  | died => cases step

theorem move_of_stepSupervisor (step : state.stepSupervisor = some next) : Move codec state next := by
  unfold stepSupervisor at step
  split at step
  · rename_i index place
    split at step
    · rename_i there
      cases step
      exact .join index place there
    · rename_i there
      cases step
      exact .find index place there
    · cases step
    · rename_i there
      cases step
      exact .joinLast index place there
  · rename_i index place
    split at step <;> cases step
    exact .mourn index place
  · rename_i place
    split at step
    · rename_i block rest held
      cases step
      exact .discard block rest place held
    · rename_i empty
      split at step <;> cases step
      rename_i closed
      exact .finish place empty closed
  · cases step

theorem move_of_stepCollector (step : state.stepCollector = some next) : Move codec state next := by
  unfold stepCollector at step
  split at step
  · rename_i outcome rest sent
    cases step
    obtain failure | ⟨error, failure⟩ := Option.eq_none_or_eq_some state.error
    · cases outcome with
      | decoded task =>
        rw [collect, if_pos (by rw [failure]; rfl)]
        exact .collect task rest sent failure
      | failed error =>
        rw [collect, if_pos (by rw [failure]; rfl)]
        exact .note error rest sent failure
    · have kept : ({ state with output := rest } : Pipeline).collect outcome =
          { state with output := rest } := by
        cases outcome <;> rw [collect, if_neg (by rw [failure]; exact Bool.false_ne_true)]
      rw [kept]
      exact .ignore outcome rest error sent failure
  · rename_i empty
    split at step <;> cases step
    rename_i last
    exact .stop empty last.1

/-- **Every step is one of the moves.** -/
theorem move_of_step {party : Party} (step : state.step codec party = some next) :
    Move codec state next := by
  cases party with
  | producer => exact move_of_stepProducer step
  | worker index =>
    obtain ⟨worker, there, step⟩ := Option.bind_eq_some_iff.1 step
    exact move_of_stepWorker there step
  | supervisor => exact move_of_stepSupervisor step
  | collector => exact move_of_stepCollector step

/-! ### Schedules -/

/-- The state after the parties of a schedule have taken a step each, if all of them can. -/
def after? (codec : Codec) : List Party → Pipeline → Option Pipeline
  | [], state => some state
  | party :: rest, state => (state.step codec party).bind (after? codec rest)

/-- What every move keeps is kept by a schedule. -/
theorem after?_induction {Holds : Pipeline → Prop}
    (kept : ∀ state next, Move codec state next → Holds state → Holds next) {schedule : List Party}
    (holds : Holds state) (ran : state.after? codec schedule = some next) : Holds next := by
  induction schedule generalizing state with
  | nil =>
    cases ran
    exact holds
  | cons party rest ih =>
    obtain ⟨first, step, ran⟩ := Option.bind_eq_some_iff.1 ran
    exact ih (kept state first (move_of_step step) holds) ran

/-- **Every schedule comes to an end.** -/
theorem length_le_work {schedule : List Party} (ran : state.after? codec schedule = some next) :
    schedule.length ≤ state.work := by
  induction schedule generalizing state with
  | nil => exact Nat.zero_le _
  | cons party rest ih =>
    obtain ⟨first, step, ran⟩ := Option.bind_eq_some_iff.1 ran
    have used := work_lt_of_step step
    have left := ih ran
    rw [List.length_cons]
    omega

/-! ### Progress -/

theorem stepProducer_isSome (empty : state.input = []) (nonempty : state.workers ≠ [])
    (opened : state.inputClosed = false) : state.stepProducer.isSome := by
  have room : state.inputHasRoom = true := by
    have positive := List.length_pos_iff.2 nonempty
    rw [inputHasRoom, empty, List.length_nil, decide_eq_true_eq]
    omega
  unfold stepProducer
  split
  · rw [if_pos room]
    rfl
  · split <;> rfl
  · rw [opened]
    rfl

/-- While the supervisor waits for a worker that has not ended, that worker can take a step, unless it
waits for a block itself. -/
theorem stepWorker_isSome {index : Nat} {worker : Worker} (room : state.outputHasRoom = true)
    (waits : worker = .waiting → state.input ≠ [] ∨ state.inputClosed = true)
    (alive : worker ≠ .ended ∧ worker ≠ .died) : (state.stepWorker codec index worker).isSome := by
  cases worker with
  | waiting =>
    simp only [stepWorker]
    split
    · rfl
    · rename_i empty
      rw [if_pos ((waits rfl).resolve_left (absurd empty))]
      rfl
  | holding block => rfl
  | decoding block =>
    simp only [stepWorker]
    split <;> rfl
  | sending task =>
    simp only [stepWorker]
    rw [if_pos room]
    rfl
  | reporting error =>
    simp only [stepWorker]
    rw [if_pos room]
    rfl
  | ended => exact absurd rfl alive.1
  | died => exact absurd rfl alive.2

/-- **What is in the input gets out of it.** While there are blocks in the input, or once it is closed, the
parties behind it do not wait for the producer: until the collector ends, one of them can take a step. -/
theorem exists_step_of_input (codec : Codec) (nonempty : state.workers ≠ [])
    (running : state.collected = false) (supplied : state.input ≠ [] ∨ state.inputClosed = true) :
    ∃ party, party ≠ .producer ∧ (state.step codec party).isSome := by
  by_cases message : state.output = []
  · have room : state.outputHasRoom = true := by
      have positive := List.length_pos_iff.2 nonempty
      rw [outputHasRoom, message, List.length_nil, decide_eq_true_eq]
      exact positive
    cases place : state.supervisor with
    | joining index =>
      cases there : state.workers[index]? with
      | none => exact ⟨.supervisor, nofun, by simp only [step, stepSupervisor, place, there]; rfl⟩
      | some worker =>
        by_cases gone : worker = .ended ∨ worker = .died
        · refine ⟨.supervisor, nofun, ?_⟩
          obtain rfl | rfl := gone <;> simp only [step, stepSupervisor, place, there] <;> rfl
        · rw [not_or] at gone
          refine ⟨.worker index, nofun, ?_⟩
          simp only [step, there, Option.bind_some]
          exact stepWorker_isSome room (fun _ => supplied) gone
    | reporting index =>
      exact ⟨.supervisor, nofun, by simp only [step, stepSupervisor, place, room]; rfl⟩
    | draining =>
      refine ⟨.supervisor, nofun, ?_⟩
      cases held : state.input with
      | cons block rest => simp only [step, stepSupervisor, place, held]; rfl
      | nil =>
        have closed := supplied.resolve_left (absurd held)
        simp only [step, stepSupervisor, place, held, closed]
        rfl
    | ended =>
      exact ⟨.collector, nofun, by simp only [step, stepCollector, message, place, running]; rfl⟩
  · obtain ⟨outcome, rest, sent⟩ := List.exists_cons_of_ne_nil message
    exact ⟨.collector, nofun, by simp only [step, stepCollector, sent]; rfl⟩

/-- **Nobody waits for ever:** until the collector ends, some party can take a step. -/
theorem exists_step (codec : Codec) (nonempty : state.workers ≠ [])
    (running : state.collected = false) :
    ∃ party, (state.step codec party).isSome := by
  by_cases supplied : state.input ≠ [] ∨ state.inputClosed = true
  · obtain ⟨party, -, can⟩ := exists_step_of_input codec nonempty running supplied
    exact ⟨party, can⟩
  · rw [not_or, not_ne_iff, Bool.not_eq_true] at supplied
    exact ⟨.producer, stepProducer_isSome supplied.1 nonempty supplied.2⟩

/-! ### One schedule -/

/-- Parties that no worker stands for cannot take a step. -/
theorem step_eq_none_of_parties (stuck : ∀ party ∈ state.parties, state.step codec party = none)
    (party : Party) : state.step codec party = none := by
  cases party with
  | producer => exact stuck _ (by simp [parties])
  | supervisor => exact stuck _ (by simp [parties])
  | collector => exact stuck _ (by simp [parties])
  | worker index =>
    by_cases inside : index < state.workers.length
    · exact stuck _ (by simp [parties, inside])
    · rw [step, List.getElem?_eq_none (Nat.le_of_not_lt inside)]
      rfl

/-- **The order of steps that is run is a schedule,** after which no party can take a step. -/
theorem exists_schedule_run (codec : Codec) (state : Pipeline) :
    ∃ schedule, state.after? codec schedule = some (state.run codec) ∧
      ∀ party, (state.run codec).step codec party = none := by
  fun_induction run codec state with
  | case1 state next taken ih =>
    obtain ⟨schedule, ran, stuck⟩ := ih
    obtain ⟨party, _, step⟩ := List.exists_of_findSome?_eq_some taken
    exact ⟨party :: schedule, by rw [after?, step, Option.bind_some, ran], stuck⟩
  | case2 state none =>
    exact ⟨[], rfl, step_eq_none_of_parties (List.findSome?_eq_none_iff.1 none)⟩

end Pipeline

end TaskLedger
