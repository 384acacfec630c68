/-
**The work of the pipeline.** Why the decoding pipeline comes to an end, and how it is run there.

* `Pipeline.work` — a bound on the steps that are left, a weighted count of what lies where: a block
  weighs more the further it is from the collector.
* `Pipeline.work_lt_of_step` — every step of every party uses up work, so no order of steps goes on
  for ever.
* `Pipeline.run` — steps in one particular order as long as any party can take one.
-/
import TaskLedger.Codec.Pipeline

namespace TaskLedger

namespace Pipeline

/-- A bound on the steps that follow from where a worker is, until it waits or has ended. -/
def workOfWorker : Worker → Nat
  | .waiting => 1
  | .holding _ => 6
  | .decoding _ => 5
  | .sending _ => 4
  | .reporting _ => 4
  | .ended => 0
  | .died => 0

/-- A bound on the steps that follow from where the supervisor is, among this many workers. -/
def workOfSupervisor (workers : Nat) : Supervisor → Nat
  | .joining index => 4 * (workers - index) + 3
  | .reporting index => 4 * (workers - index - 1) + 6
  | .draining => 2
  | .ended => 1

/-- A bound on the steps that follow from where the workers are. -/
def workOfWorkers (workers : List Worker) : Nat :=
  workers.foldr (fun worker sum => workOfWorker worker + sum) 0

/-- A bound on the steps that are left, whatever their order. -/
def work (state : Pipeline) : Nat :=
  9 * state.pending.length + 8 * state.inHand.isSome.toNat + (!state.inputClosed).toNat +
    7 * state.input.length + workOfWorkers state.workers +
    workOfSupervisor state.workers.length state.supervisor + 2 * state.output.length +
    (!state.collected).toNat

/-- A worker in another place changes a sum over the workers by the difference of the two places. -/
theorem foldr_set (weight : Worker → Nat) {workers : List Worker} {index : Nat} {worker : Worker}
    (there : workers[index]? = some worker) (next : Worker) :
    (workers.set index next).foldr (fun worker sum => weight worker + sum) 0 + weight worker =
      workers.foldr (fun worker sum => weight worker + sum) 0 + weight next := by
  induction workers generalizing index with
  | nil => simp at there
  | cons first rest ih =>
    cases index with
    | zero =>
      obtain rfl : first = worker := by simpa using there
      simp only [List.set_cons_zero, List.foldr_cons]
      omega
    | succ index =>
      have := ih (by simpa using there)
      simp only [List.set_cons_succ, List.foldr_cons]
      omega

theorem work_setWorker {state : Pipeline} {index : Nat} {worker : Worker}
    (there : state.workers[index]? = some worker) (next : Worker) :
    (state.setWorker index next).work + workOfWorker worker = state.work + workOfWorker next := by
  have moved := foldr_set workOfWorker there next
  simp only [work, workOfWorkers, setWorker, List.length_set]
  omega

theorem work_send (state : Pipeline) (outcome : Outcome) :
    (state.send outcome).work = state.work + 2 := by
  simp only [work, send, List.length_append, List.length_singleton]
  omega

theorem work_stepProducer_lt {state next : Pipeline} (step : state.stepProducer = some next) :
    next.work < state.work := by
  unfold stepProducer at step
  split at step
  · rename_i block _ held
    split at step <;> cases step
    simp [work, held]
    omega
  · rename_i block rest held offered
    split at step <;> cases step
    · simp [work, held, offered]
    · simp [work, held, offered]
      omega
  · rename_i held offered
    split at step <;> cases step
    simp_all [work]

theorem work_stepWorker_lt {codec : Codec} {state next : Pipeline} {index : Nat} {worker : Worker}
    (there : state.workers[index]? = some worker)
    (step : state.stepWorker codec index worker = some next) : next.work < state.work := by
  cases worker with
  | waiting =>
    simp only [stepWorker] at step
    split at step
    · rename_i block rest taken
      cases step
      have moved := @work_setWorker { state with input := rest } _ _ there (.holding block)
      have left : { state with input := rest }.work + 7 = state.work := by
        simp only [work, taken, List.length_cons]
        omega
      simp only [workOfWorker] at moved
      omega
    · split at step <;> cases step
      have moved := work_setWorker there .ended
      simp only [workOfWorker] at moved
      omega
  | holding block =>
    cases step
    split
    · have moved := work_setWorker there .ended
      simp only [workOfWorker] at moved
      omega
    · have moved := work_setWorker there (.decoding block)
      simp only [workOfWorker] at moved
      omega
  | decoding block =>
    simp only [stepWorker] at step
    split at step <;> cases step
    · rename_i task _
      have moved := work_setWorker there (.sending task)
      simp only [workOfWorker] at moved
      omega
    · rename_i error _
      have moved := @work_setWorker { state with failed := true } _ _ there (.reporting error)
      have same : { state with failed := true }.work = state.work := rfl
      simp only [workOfWorker] at moved
      omega
    · have moved := work_setWorker there .died
      simp only [workOfWorker] at moved
      omega
  | sending task =>
    simp only [stepWorker] at step
    split at step <;> cases step
    have moved := @work_setWorker (state.send (.decoded task)) _ _ there .waiting
    rw [work_send] at moved
    simp only [workOfWorker] at moved
    omega
  | reporting error =>
    simp only [stepWorker] at step
    split at step <;> cases step
    have moved := @work_setWorker (state.send (.failed error)) _ _ there .ended
    rw [work_send] at moved
    simp only [workOfWorker] at moved
    omega
  | ended => cases step
  | died => cases step

theorem work_stepSupervisor_lt {state next : Pipeline} (step : state.stepSupervisor = some next) :
    next.work < state.work := by
  unfold stepSupervisor at step
  split at step
  · rename_i index place
    split at step
    · rename_i there
      have := (List.getElem?_eq_some_iff.1 there).1
      cases step
      simp only [work, place, workOfSupervisor]
      omega
    · rename_i there
      have := (List.getElem?_eq_some_iff.1 there).1
      cases step
      simp only [work, place, workOfSupervisor]
      omega
    · cases step
    · cases step
      simp only [work, place, workOfSupervisor]
      omega
  · rename_i index place
    split at step <;> cases step
    simp only [work, place, workOfSupervisor, send, List.length_append, List.length_singleton]
    omega
  · rename_i place
    split at step
    · rename_i left
      cases step
      simp only [work, left, List.length_cons]
      omega
    · split at step <;> cases step
      simp only [work, place, workOfSupervisor]
      omega
  · cases step

theorem work_stepCollector_lt {state next : Pipeline} (step : state.stepCollector = some next) :
    next.work < state.work := by
  unfold stepCollector at step
  split at step
  · rename_i outcome rest sent
    cases step
    have same : ({ state with output := rest }.collect outcome).work =
        { state with output := rest }.work := by
      cases outcome <;> simp only [collect] <;> split <;> rfl
    rw [same]
    simp only [work, sent, List.length_cons]
    omega
  · split at step <;> cases step
    rename_i last
    simp [work, last.2]

/-- **Every step of every party uses up work.** -/
theorem work_lt_of_step {codec : Codec} {state next : Pipeline} {party : Party}
    (step : state.step codec party = some next) : next.work < state.work := by
  cases party with
  | producer => exact work_stepProducer_lt step
  | worker index =>
    obtain ⟨worker, there, step⟩ := Option.bind_eq_some_iff.1 step
    exact work_stepWorker_lt there step
  | supervisor => exact work_stepSupervisor_lt step
  | collector => exact work_stepCollector_lt step

/-- All parties. -/
def parties (state : Pipeline) : List Party :=
  .collector :: .supervisor :: .producer :: (List.range state.workers.length).map .worker

/-- Takes steps, each by the first party that can take one, as long as any can. -/
def run (codec : Codec) (state : Pipeline) : Pipeline :=
  match _ : state.parties.findSome? (state.step codec) with
  | some next => run codec next
  | none => state
termination_by state.work
decreasing_by
  rename_i taken
  obtain ⟨_, _, step⟩ := List.exists_of_findSome?_eq_some taken
  exact work_lt_of_step step

end Pipeline

end TaskLedger
