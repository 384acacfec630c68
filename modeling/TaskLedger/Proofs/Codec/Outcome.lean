/-
**The decoder gives all tasks or an error,** whatever the order in which the parties take their steps.

* `Pipeline.tally` — how many blocks of one outcome are somewhere in the pipeline; as long as the run is
  not doomed that is how many were offered (`tally_of_move`).
* `Pipeline.Runs` — what holds of every state of a run.
* `Pipeline.all_or_error` — the result of a run.
-/
import TaskLedger.Proofs.Codec.Failure

namespace TaskLedger

/-- What a worker has of one outcome: the block in its hand, or the task it made of it. -/
def Worker.tally (codec : Codec) (outcome : Decoding) : Worker → Nat
  | .holding block | .decoding block => if codec.decode block = outcome then 1 else 0
  | .sending task => if .task task = outcome then 1 else 0
  | _ => 0

/-- The decoded task that a message brings. -/
def Outcome.task? : Outcome → Option Decoding
  | .decoded task => some (.task task)
  | .failed _ => none

namespace Pipeline

variable {codec : Codec} {blocks : List ByteArray} {state next : Pipeline}

/-! ### Where the blocks are -/

/-- How many blocks of one outcome are in the pipeline, as blocks or as the tasks made of them. -/
def tally (codec : Codec) (outcome : Decoding) (state : Pipeline) : Nat :=
  (state.pending.map codec.decode).count outcome +
    (state.inHand.toList.map codec.decode).count outcome +
    (state.input.map codec.decode).count outcome +
    state.workers.foldr (fun worker sum => worker.tally codec outcome + sum) 0 +
    (state.output.filterMap Outcome.task?).count outcome +
    (state.tasks.map Decoding.task).count outcome

/-- Workers that hold nothing add nothing. -/
theorem foldr_tally_eq_zero {workers : List Worker} {outcome : Decoding}
    (idle : ∀ worker ∈ workers, worker.tally codec outcome = 0) :
    workers.foldr (fun worker sum => worker.tally codec outcome + sum) 0 = 0 := by
  induction workers with
  | nil => rfl
  | cons first rest ih =>
    obtain ⟨here, others⟩ := List.forall_mem_cons.1 idle
    rw [List.foldr_cons, here, ih others]

theorem tally_start (codec : Codec) (outcome : Decoding) (workers : Nat) (blocks : List ByteArray) :
    (start workers blocks).tally codec outcome = (blocks.map codec.decode).count outcome := by
  have idle : (List.replicate workers Worker.waiting).foldr
      (fun worker sum => worker.tally codec outcome + sum) 0 = 0 :=
    foldr_tally_eq_zero fun worker member => by
      rw [List.eq_of_mem_replicate member]
      rfl
  simp only [tally, start, idle]
  rfl

/-- What a worker's step does to the tally, given what else it changes. -/
theorem tally_setWorker {index : Nat} {old : Worker} (there : state.workers[index]? = some old)
    (outcome : Decoding) (new : Worker) :
    (state.setWorker index new).tally codec outcome + old.tally codec outcome =
      state.tally codec outcome + new.tally codec outcome := by
  have moved := foldr_set (Worker.tally codec outcome) there new
  simp only [tally, setWorker]
  omega

/-- **No block is lost** by a move that does not doom the run. -/
theorem tally_of_move (orderly : state.Orderly) (alarmed : state.Alarmed)
    (move : Move codec state next) (sound : ¬ next.Doomed) (outcome : Decoding) :
    next.tally codec outcome = state.tally codec outcome := by
  have lives : ¬ state.Doomed := fun doomed => sound (doomed.move move)
  cases move with
  | put block held =>
    simp only [tally, held, List.map_append, List.count_append, Option.toList_some, Option.toList_none,
      List.map_cons, List.map_nil, List.count_nil]
    omega
  | turnAway _ _ _ _ failed => exact absurd (alarmed.failed failed) lives
  | takeUp block rest free offered =>
    simp only [tally, free, offered, Option.toList_some, Option.toList_none, List.map_cons,
      List.map_nil, List.count_nil, List.count_cons]
    omega
  | close _ _ | join _ _ _ | joinLast _ _ _ | finish _ _ _ | stop _ _ => rfl
  | take index block rest there held =>
    have moved := @tally_setWorker codec { state with input := rest } _ _ there outcome (.holding block)
    have taken : ({ state with input := rest } : Pipeline).tally codec outcome +
        (if codec.decode block = outcome then 1 else 0) = state.tally codec outcome := by
      simp only [tally, held, List.map_cons, List.count_cons, beq_iff_eq]
      omega
    simp only [Worker.tally] at moved
    omega
  | leave index there _ _ =>
    have moved := @tally_setWorker codec _ _ _ there outcome .ended
    exact moved
  | giveUp _ _ _ failed => exact absurd (alarmed.failed failed) lives
  | begin index block there =>
    have moved := @tally_setWorker codec _ _ _ there outcome (.decoding block)
    exact Nat.add_right_cancel moved
  | decode index block task there decoded =>
    have moved := @tally_setWorker codec _ _ _ there outcome (.sending task)
    simp only [Worker.tally, decoded] at moved
    exact Nat.add_right_cancel moved
  | fail _ _ error there _ => exact absurd (doomed_of_report there error) sound
  | crash _ _ there _ => exact absurd (doomed_of_death orderly there nofun) sound
  | send index task there =>
    have moved := @tally_setWorker codec (state.send (.decoded task)) _ _ there outcome .waiting
    have sent : (state.send (.decoded task)).tally codec outcome =
        state.tally codec outcome + (if Decoding.task task = outcome then 1 else 0) := by
      have one : [Outcome.decoded task].filterMap Outcome.task? = [Decoding.task task] := rfl
      simp only [tally, send, List.filterMap_append, one, List.count_append, List.count_singleton,
        beq_iff_eq]
      omega
    simp only [Worker.tally] at moved
    omega
  | report index error _ =>
    exact absurd (.sent error (List.mem_append_right _ (List.mem_singleton_self _))) sound
  | find index _ _ => exact absurd (.mourning index rfl) sound
  | mourn _ _ =>
    exact absurd (.sent .workerDied (List.mem_append_right _ (List.mem_singleton_self _))) sound
  | discard block rest place held =>
    -- The supervisor drops blocks only when all workers have ended, and with blocks left in the input
    -- they have ended for a failure.
    obtain ⟨worker, others, workers⟩ := List.exists_cons_of_ne_nil orderly.nonempty
    have first : state.workers[0]? = some worker := by rw [workers]; rfl
    have gone := orderly.joined 0 worker first (by rw [place]; trivial)
    refine absurd ?_ lives
    cases gone with
    | ended => exact alarmed.failed (orderly.failed_of_left held (mem_of_there first))
    | died => exact alarmed.died (mem_of_there first)
  | collect task rest sent _ =>
    simp only [tally, sent, List.filterMap_cons, Outcome.task?, List.map_cons, List.count_cons]
    omega
  | note error rest _ _ => exact absurd (.collected error rfl) sound
  | ignore _ _ error _ failure => exact absurd (.collected error failure) lives

/-! ### The result -/

/-- What holds of every state that a run passes through. -/
structure Runs (codec : Codec) (blocks : List ByteArray) (state : Pipeline) : Prop where
  orderly : state.Orderly
  founded : Founded codec blocks state
  alarmed : state.Alarmed
  complete : ¬ state.Doomed →
    ∀ outcome, state.tally codec outcome = (blocks.map codec.decode).count outcome

theorem runs_start (codec : Codec) {workers : Nat} (positive : 0 < workers)
    (blocks : List ByteArray) : Runs codec blocks (start workers blocks) where
  orderly := orderly_start positive blocks
  founded := founded_start codec workers blocks
  alarmed := alarmed_start workers blocks
  complete _ outcome := tally_start codec outcome workers blocks

theorem Runs.move (runs : Runs codec blocks state) (move : Move codec state next) :
    Runs codec blocks next where
  orderly := runs.orderly.move move
  founded := runs.founded.move move
  alarmed := runs.alarmed.move runs.orderly move
  complete sound outcome := by
    rw [tally_of_move runs.orderly runs.alarmed move sound]
    exact runs.complete (fun doomed => sound (doomed.move move)) outcome

/-- Once the collector has ended without a failure its tasks are those of all blocks. -/
theorem Runs.perm_of_collected (runs : Runs codec blocks state) (collected : state.collected = true)
    (none : state.error = none) :
    (state.tasks.map Decoding.task).Perm (blocks.map codec.decode) := by
  have sound : ¬ state.Doomed := by
    intro doomed
    obtain ⟨error, failure⟩ := doomed.collected_error runs.orderly collected
    rw [none] at failure
    cases failure
  obtain ⟨ended, noMessage⟩ := runs.orderly.stopped collected
  obtain ⟨closed, noInput⟩ := runs.orderly.drained ended
  obtain ⟨noPending, noneInHand⟩ := runs.orderly.closed closed
  refine List.perm_iff_count.2 fun outcome => ?_
  have noWork : state.workers.foldr (fun worker sum => worker.tally codec outcome + sum) 0 = 0 := by
    refine foldr_tally_eq_zero fun worker there => ?_
    obtain ⟨index, found⟩ := List.mem_iff_getElem?.1 there
    have gone := runs.orderly.joined index worker found (by rw [ended]; trivial)
    cases gone <;> rfl
  have all := runs.complete sound outcome
  simpa [tally, noPending, noneInHand, noInput, noWork, noMessage] using all

theorem of_result?_eq_some {result : Except CodecError (List Task)}
    (ended : state.result? = some result) : state.collected = true ∧
      (state.error = none ∧ result = .ok state.tasks.reverse ∨
        ∃ error, state.error = some error ∧ result = .error error) := by
  unfold result? at ended
  split at ended
  · rename_i collected
    refine ⟨collected, ?_⟩
    cases ended
    cases failure : state.error with
    | none => exact .inl ⟨rfl, rfl⟩
    | some error => exact .inr ⟨error, rfl, rfl⟩
  · cases ended

/-- An excuse is a block that does not decode. -/
theorem Excuses.exists_block {error : CodecError} (excuses : Excuses codec blocks error) :
    ∃ block ∈ blocks, ∀ task, codec.decode block ≠ .task task := by
  obtain ⟨block, member, decoded⟩ | ⟨-, block, member, decoded⟩ := excuses
  · exact ⟨block, member, by rw [decoded]; exact fun _ same => nomatch same⟩
  · exact ⟨block, member, by rw [decoded]; exact fun _ same => nomatch same⟩

/-- Where no party can take a step there is a result. -/
theorem Runs.exists_result (runs : Runs codec blocks state)
    (stuck : ∀ party, state.step codec party = none) : ∃ result, state.result? = some result := by
  cases collected : state.collected with
  | true => exact ⟨_, by rw [result?, collected]; rfl⟩
  | false =>
    obtain ⟨party, can⟩ := exists_step codec runs.orderly.nonempty collected
    rw [stuck party] at can
    cases can

theorem runs_after? {workers : Nat} {schedule : List Party} (positive : 0 < workers)
    (ran : (start workers blocks).after? codec schedule = some state) : Runs codec blocks state :=
  after?_induction (fun _ _ move runs => runs.move move) (runs_start codec positive blocks) ran

/-- What a decoder answers is the result of a schedule. -/
theorem exists_schedule_decode (decoder : Decoder) (blocks : List ByteArray) :
    ∃ schedule state, (start decoder.workers blocks).after? decoder.codec schedule = some state ∧
      state.result? = some (decoder.decode blocks).result ∧
      state.accepted = (decoder.decode blocks).accepted := by
  obtain ⟨schedule, ran, stuck⟩ := exists_schedule_run decoder.codec (start decoder.workers blocks)
  obtain ⟨result, ended⟩ := (runs_after? decoder.workers_pos ran).exists_result stuck
  refine ⟨schedule, _, ran, ?_, rfl⟩
  rw [Decoder.decode, ended]
  rfl

/-- **The decoder gives all tasks or an error.** For every codec, every number of workers (none counts as
one), all blocks offered, and every schedule of the parties' steps:

* the schedule has an end, and if then no party can take another step there is a result;
* the result is a list of tasks exactly if every block decodes, and then it holds the tasks of all blocks,
  each as often as it was offered, in some order;
* otherwise it is the error of one of the blocks, or that of a dead worker if a block is fatal;
* if a block was turned away the result is an error. -/
theorem all_or_error (codec : Codec) (workers : Nat) (blocks : List ByteArray)
    (schedule : List Party) (state : Pipeline)
    (ran : (start (Decoder.ofCodec codec workers).workers blocks).after? codec schedule = some state) :
    schedule.length ≤ (start (Decoder.ofCodec codec workers).workers blocks).work ∧
      ((∀ party, state.step codec party = none) → ∃ result, state.result? = some result) ∧
      ∀ result, state.result? = some result →
        ((∃ tasks, result = .ok tasks) ↔ ∀ block ∈ blocks, ∃ task, codec.decode block = .task task) ∧
        (∀ tasks, result = .ok tasks →
          (tasks.map Decoding.task).Perm (blocks.map codec.decode)) ∧
        (∀ error, result = .error error →
          (∃ block ∈ blocks, codec.decode block = .failed error) ∨
            error = .workerDied ∧ ∃ block ∈ blocks, codec.decode block = .crashed) ∧
        (state.refused = true → ∃ error, result = .error error) := by
  have runs := runs_after? (Decoder.ofCodec codec workers).workers_pos ran
  refine ⟨length_le_work ran, runs.exists_result, fun result collected => ?_⟩
  obtain ⟨ended, ⟨none, rfl⟩ | ⟨error, failure, rfl⟩⟩ := of_result?_eq_some collected
  · have all := runs.perm_of_collected ended none
    refine ⟨⟨fun _ block member => ?_, fun _ => ⟨_, rfl⟩⟩, fun tasks same => ?_, nofun,
      fun refused => ?_⟩
    · obtain ⟨task, -, decoded⟩ := List.mem_map.1 (all.mem_iff.2 (List.mem_map_of_mem member))
      exact ⟨task, decoded.symm⟩
    · cases same
      exact ((List.reverse_perm _).map _).trans all
    · have doomed := runs.alarmed.failed (runs.alarmed.refused refused)
      obtain ⟨error, failure⟩ := doomed.collected_error runs.orderly ended
      rw [none] at failure
      cases failure
  · have excuses := runs.founded.error error failure
    obtain ⟨block, member, bad⟩ := excuses.exists_block
    refine ⟨⟨nofun, fun decodes => ?_⟩, nofun, fun other same => ?_, fun _ => ⟨error, rfl⟩⟩
    · obtain ⟨task, decoded⟩ := decodes block member
      exact absurd decoded (bad task)
    · cases same
      exact excuses

/-- A codec that spells every task as two bytes, has an error for one byte and dies of none. -/
def fragile : Codec where
  encode _ := .ok ⟨#[0, 0]⟩
  decode block :=
    if block.size = 0 then .crashed
    else if block.size = 1 then .failed (.encode "one byte")
    else .task .blank

/-- One worker decodes the first of three blocks and fails at the second, while the producer puts the third
into the input, from where the supervisor throws it away. -/
def firstFailure : List Party :=
  [.producer, .producer, .producer, .producer, .worker 0, .worker 0, .worker 0, .worker 0, .producer,
    .worker 0, .producer, .worker 0, .worker 0, .producer, .collector, .worker 0, .collector,
    .supervisor, .supervisor, .supervisor, .supervisor, .collector]

/-- The fatal block is dropped, and the result is the error of the block before it. -/
theorem second_block_fails :
    ∃ state, (start (Decoder.ofCodec fragile 0).workers [⟨#[0, 0]⟩, ⟨#[0]⟩, ⟨#[]⟩]).after? fragile
        firstFailure = some state ∧ state.accepted = 3 ∧
      state.result? = some (.error (.encode "one byte")) ∧
      ∃ block ∈ [(⟨#[0, 0]⟩ : ByteArray), ⟨#[0]⟩, ⟨#[]⟩],
        fragile.decode block = .failed (.encode "one byte") := by
  refine ⟨_, rfl, rfl, rfl, ?_⟩
  have all := all_or_error fragile 0 [⟨#[0, 0]⟩, ⟨#[0]⟩, ⟨#[]⟩] firstFailure _ rfl
  obtain found | ⟨dead, -⟩ := (all.2.2 _ rfl).2.2.1 (.encode "one byte") rfl
  · exact found
  · cases dead

end Pipeline

end TaskLedger
