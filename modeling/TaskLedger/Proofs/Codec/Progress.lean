/-
**The decoding pipeline never gets stuck.** Its buffers are bounded in both directions, and its workers may
stop while there are blocks left; all the same nobody waits for ever.

* `Pipeline.IsRun`, `Pipeline.isRun_iterate` — a run takes some step at each moment until no party can take
  one; there is one from every state.
* `Pipeline.IsRun.exists_stuck` — every run stops, since each step uses up work.
* `Pipeline.IsRun.of_stuck` — and stays where it has stopped.
* `Pipeline.never_stuck` — a producer that waits for room in the input, or for the result, waits for another
  party that can take a step; every run from a closed input ends with the result.
-/
import TaskLedger.Proofs.Codec.Outcome
import Mathlib.Logic.Function.Iterate

namespace TaskLedger

namespace Pipeline

variable {codec : Codec} {blocks : List ByteArray} {state : Pipeline} {states : Nat → Pipeline}

/-! ### Waiting -/

/-- While the producer holds a block the collector has not ended. -/
theorem Orderly.running_of_inHand (orderly : state.Orderly) (held : state.inHand.isSome = true) :
    state.collected = false := by
  refine Bool.eq_false_iff.2 fun collected => ?_
  have ended := (orderly.stopped collected).1
  have none := (orderly.closed (orderly.drained ended).1).2
  rw [none] at held
  cases held

/-- An input without room holds blocks. -/
theorem Orderly.input_ne_nil (orderly : state.Orderly) (full : state.inputHasRoom = false) :
    state.input ≠ [] := by
  intro empty
  have positive := List.length_pos_iff.2 orderly.nonempty
  rw [inputHasRoom, empty, List.length_nil, decide_eq_false_iff_not] at full
  omega

/-! ### Runs -/

/-- At each moment some party takes a step, unless no party can. -/
structure IsRun (codec : Codec) (state : Pipeline) (states : Nat → Pipeline) : Prop where
  start : states 0 = state
  step : ∀ moment,
    (∃ party, (states moment).step codec party = some (states (moment + 1))) ∨
      (∀ party, (states moment).step codec party = none) ∧ states (moment + 1) = states moment

/-- The step of the first party that can take one. -/
def advance (codec : Codec) (state : Pipeline) : Pipeline :=
  (state.parties.findSome? (state.step codec)).getD state

/-- **There is a run** from every state. -/
theorem isRun_iterate (codec : Codec) (state : Pipeline) :
    IsRun codec state fun moment => (advance codec)^[moment] state where
  start := rfl
  step moment := by
    rw [Function.iterate_succ_apply']
    generalize (advance codec)^[moment] state = present
    cases first : present.parties.findSome? (present.step codec) with
    | some next =>
      obtain ⟨party, -, step⟩ := List.exists_of_findSome?_eq_some first
      exact .inl ⟨party, by rw [step, advance, first, Option.getD_some]⟩
    | none =>
      rw [List.findSome?_eq_none_iff] at first
      refine .inr ⟨step_eq_none_of_parties first, ?_⟩
      rw [advance, List.findSome?_eq_none_iff.2 first, Option.getD_none]

namespace IsRun

/-- Each state of a run is one that the pipeline can come to. -/
theorem runs (run : IsRun codec state states) (runs : Runs codec blocks state) (moment : Nat) :
    Runs codec blocks (states moment) := by
  induction moment with
  | zero =>
    rw [run.start]
    exact runs
  | succ moment ih =>
    obtain ⟨party, step⟩ | ⟨-, same⟩ := run.step moment
    · exact ih.move (move_of_step step)
    · rw [same]
      exact ih

/-- As long as a run goes on, each moment uses up work. -/
theorem work_add_le (run : IsRun codec state states) (moment : Nat)
    (moving : ∀ earlier < moment, ¬∀ party, (states earlier).step codec party = none) :
    (states moment).work + moment ≤ state.work := by
  induction moment with
  | zero =>
    rw [run.start]
    exact Nat.le_refl _
  | succ moment ih =>
    have left := ih fun earlier before => moving earlier (Nat.lt_succ_of_lt before)
    obtain ⟨party, step⟩ | ⟨stuck, -⟩ := run.step moment
    · have used := work_lt_of_step step
      omega
    · exact absurd stuck (moving moment (Nat.lt_succ_self moment))

/-- **Every run stops**, after no more steps than its first state has work. -/
theorem exists_stuck (run : IsRun codec state states) :
    ∃ moment ≤ state.work, ∀ party, (states moment).step codec party = none := by
  by_contra never
  have moving : ∀ moment < state.work + 1, ¬∀ party, (states moment).step codec party = none :=
    fun moment before stuck => never ⟨moment, Nat.le_of_lt_succ before, stuck⟩
  have left := run.work_add_le (state.work + 1) moving
  omega

/-- A run that has stopped stays where it is. -/
theorem of_stuck (run : IsRun codec state states) {moment : Nat}
    (stuck : ∀ party, (states moment).step codec party = none) {later : Nat} (after : moment ≤ later) :
    states later = states moment := by
  induction after with
  | refl => rfl
  | @step later _ ih =>
    obtain ⟨party, step⟩ | ⟨-, same⟩ := run.step later
    · rw [ih, stuck party] at step
      cases step
    · rw [same, ih]

end IsRun

/-- **The pipeline never gets stuck.** In every state that it can come to, with any codec and any positive
number of workers:

* a producer whose block finds no room in the input waits for a party that can take a step;
* so does a producer that has closed the input and waits for the result;
* from there every run, whatever the order of steps, comes to the result after no more steps than there is
  work left, and keeps it. -/
theorem never_stuck (codec : Codec) {workers : Nat} (positive : 0 < workers) (blocks : List ByteArray)
    (schedule : List Party) (state : Pipeline)
    (ran : (start workers blocks).after? codec schedule = some state) :
    (state.inHand.isSome = true → state.inputHasRoom = false →
      ∃ party, party ≠ .producer ∧ (state.step codec party).isSome) ∧
    (state.inputClosed = true → state.collected = false →
      ∃ party, party ≠ .producer ∧ (state.step codec party).isSome) ∧
    (state.inputClosed = true → ∀ states, IsRun codec state states →
      ∃ moment ≤ state.work, ∃ result, ∀ later, moment ≤ later →
        (states later).result? = some result) := by
  have runs := runs_after? positive ran
  have orderly := runs.orderly
  refine ⟨fun held full => ?_, fun closed running => ?_, fun _ states run => ?_⟩
  · have running := orderly.running_of_inHand held
    exact exists_step_of_input codec orderly.nonempty running (.inl (orderly.input_ne_nil full))
  · exact exists_step_of_input codec orderly.nonempty running (.inr closed)
  · obtain ⟨moment, early, stuck⟩ := run.exists_stuck
    obtain ⟨result, ended⟩ := (run.runs runs moment).exists_result stuck
    refine ⟨moment, early, result, fun later after => ?_⟩
    rw [run.of_stuck stuck after, ended]

/-- The only worker dies of the first block; then the producer fills the input and holds one block more. -/
def loneDeath : List Party :=
  [.producer, .producer, .producer, .producer, .worker 0, .worker 0, .worker 0, .producer, .producer,
    .producer]

/-- The supervisor finds the dead worker and throws a block away, and the producer closes the input. -/
def loneDeathClosed : List Party :=
  loneDeath ++ [.supervisor, .supervisor, .supervisor, .supervisor, .producer, .producer]

/-- With its only worker dead and its input full the pipeline goes on, to the result. -/
theorem lone_death_goes_on :
    ∃ full closed,
      (start 1 [⟨#[]⟩, ⟨#[0]⟩, ⟨#[0]⟩, ⟨#[0]⟩]).after? fragile loneDeath = some full ∧
      full.inHand.isSome = true ∧ full.inputHasRoom = false ∧
      (∃ party, party ≠ .producer ∧ (full.step fragile party).isSome) ∧
      (start 1 [⟨#[]⟩, ⟨#[0]⟩, ⟨#[0]⟩, ⟨#[0]⟩]).after? fragile loneDeathClosed = some closed ∧
      closed.inputClosed = true ∧ closed.collected = false ∧
      (∃ party, party ≠ .producer ∧ (closed.step fragile party).isSome) ∧
      ∃ states, IsRun fragile closed states ∧ ∃ moment ≤ closed.work, ∃ result,
        ∀ later, moment ≤ later → (states later).result? = some result := by
  obtain ⟨full, ranFull, held, noRoom⟩ :
      ∃ full, (start 1 [⟨#[]⟩, ⟨#[0]⟩, ⟨#[0]⟩, ⟨#[0]⟩]).after? fragile loneDeath = some full ∧
        full.inHand.isSome = true ∧ full.inputHasRoom = false := ⟨_, rfl, rfl, rfl⟩
  obtain ⟨closed, ranClosed, isClosed, running⟩ :
      ∃ closed, (start 1 [⟨#[]⟩, ⟨#[0]⟩, ⟨#[0]⟩, ⟨#[0]⟩]).after? fragile loneDeathClosed = some closed ∧
        closed.inputClosed = true ∧ closed.collected = false := ⟨_, rfl, rfl, rfl⟩
  have waitsForRoom := (never_stuck fragile Nat.one_pos _ _ full ranFull).1 held noRoom
  obtain ⟨-, waitsForResult, ends⟩ := never_stuck fragile Nat.one_pos _ _ closed ranClosed
  have run := isRun_iterate fragile closed
  exact ⟨full, closed, ranFull, held, noRoom, waitsForRoom, ranClosed, isClosed, running,
    waitsForResult isClosed running, _, run, ends isClosed _ run⟩

end Pipeline

end TaskLedger
