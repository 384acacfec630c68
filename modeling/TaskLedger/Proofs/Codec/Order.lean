/-
**The order in which the parties end.** The supervisor ends before the collector and the workers before the
supervisor, whatever the order of their steps.

* `Worker.IsGone`, `Supervisor.HasJoined` — a worker that takes no more steps; the workers whose end the
  supervisor has seen.
* `Pipeline.Orderly` — who has ended when, and that no worker ends without a failure while there are
  blocks.
* `Pipeline.orderly_start`, `Pipeline.Orderly.move` — so it is at the start, and every move keeps it.
-/
import TaskLedger.Proofs.Codec.Schedule

namespace TaskLedger

/-- The worker takes no more steps. -/
inductive Worker.IsGone : Worker → Prop where
  | ended : IsGone .ended
  | died : IsGone .died

/-- The supervisor has seen a worker end. -/
def Supervisor.HasJoined : Supervisor → Nat → Prop
  | .joining index, other => other < index
  | .reporting index, other => other ≤ index
  | .draining, _ => True
  | .ended, _ => True

namespace Pipeline

variable {codec : Codec} {state next : Pipeline}

/-! ### Who has ended -/

/-- The parties end in order. -/
structure Orderly (state : Pipeline) : Prop where
  nonempty : state.workers ≠ []
  joined : ∀ index worker, state.workers[index]? = some worker → state.supervisor.HasJoined index →
    worker.IsGone
  closed : state.inputClosed = true → state.pending = [] ∧ state.inHand = none
  reporting : ∀ error, .reporting error ∈ state.workers → state.failed = true
  left : .ended ∈ state.workers → state.failed = true ∨ state.inputClosed = true ∧ state.input = []
  drained : state.supervisor = .ended → state.inputClosed = true ∧ state.input = []
  stopped : state.collected = true → state.supervisor = .ended ∧ state.output = []

theorem orderly_start {workers : Nat} (positive : 0 < workers) (blocks : List ByteArray) :
    (start workers blocks).Orderly where
  nonempty empty := by
    rw [start, List.replicate_eq_nil_iff] at empty
    omega
  joined _ _ _ joined := absurd joined (Nat.not_lt_zero _)
  closed closed := nomatch closed
  reporting error member := nomatch (List.eq_of_mem_replicate member)
  left member := nomatch (List.eq_of_mem_replicate member)
  drained ended := nomatch ended
  stopped stopped := nomatch stopped

section Workers

variable {index : Nat} {old new : Worker}

theorem mem_of_there (there : state.workers[index]? = some old) : old ∈ state.workers :=
  List.mem_of_getElem? there

/-- A worker that takes a step is in a new place, and all others stay where they are. -/
theorem getElem?_set (there : state.workers[index]? = some old) {other : Nat} {worker : Worker}
    (found : (state.workers.set index new)[other]? = some worker) :
    other = index ∧ worker = new ∨ other ≠ index ∧ state.workers[other]? = some worker := by
  rw [List.getElem?_set] at found
  by_cases own : index = other
  · subst own
    rw [if_pos rfl, if_pos (List.getElem?_eq_some_iff.1 there).1] at found
    exact .inl ⟨rfl, (Option.some.inj found).symm⟩
  · rw [if_neg own] at found
    exact .inr ⟨Ne.symm own, found⟩

/-- A worker that can take a step was not seen to end, so the workers seen to end are the same after. -/
theorem Orderly.joined_set (orderly : state.Orderly) (there : state.workers[index]? = some old)
    (alive : ¬ old.IsGone) : ∀ other worker, (state.workers.set index new)[other]? = some worker →
      state.supervisor.HasJoined other → worker.IsGone := by
  intro other worker found joined
  obtain ⟨rfl, -⟩ | ⟨-, same⟩ := getElem?_set there found
  · exact absurd (orderly.joined other old there joined) alive
  · exact orderly.joined other worker same joined

/-- While a worker can take a step the collector has not ended. -/
theorem Orderly.not_collected (orderly : state.Orderly) (there : state.workers[index]? = some old)
    (alive : ¬ old.IsGone) : state.collected ≠ true := by
  intro collected
  have ended := (orderly.stopped collected).1
  exact alive (orderly.joined index old there (by rw [ended]; trivial))

/-- What holds after a worker has taken a step. -/
theorem Orderly.setWorker (orderly : state.Orderly) (there : state.workers[index]? = some old)
    (alive : ¬ old.IsGone)
    (reports : ∀ error, new = .reporting error → state.failed = true)
    (leaves : new = .ended → state.failed = true ∨ state.inputClosed = true ∧ state.input = []) :
    (state.setWorker index new).Orderly where
  nonempty := by
    rw [Ne, Pipeline.setWorker, List.set_eq_nil_iff]
    exact orderly.nonempty
  joined := orderly.joined_set there alive
  closed := orderly.closed
  reporting error member := by
    obtain member | same := List.mem_or_eq_of_mem_set member
    · exact orderly.reporting error member
    · exact reports error same.symm
  left member := by
    obtain member | same := List.mem_or_eq_of_mem_set member
    · exact orderly.left member
    · exact leaves same.symm
  drained := orderly.drained
  stopped := orderly.stopped

end Workers

/-- The input is not empty, so no worker has left for want of blocks. -/
theorem Orderly.failed_of_left (orderly : state.Orderly) {block : ByteArray} {rest : List ByteArray}
    (held : state.input = block :: rest) (left : .ended ∈ state.workers) : state.failed = true := by
  obtain failed | ⟨-, empty⟩ := orderly.left left
  · exact failed
  · rw [held] at empty
    cases empty

/-- The input without its first block. -/
theorem Orderly.tail (orderly : state.Orderly) {block : ByteArray} {rest : List ByteArray}
    (held : state.input = block :: rest) : ({ state with input := rest } : Pipeline).Orderly where
  nonempty := orderly.nonempty
  joined := orderly.joined
  closed := orderly.closed
  reporting := orderly.reporting
  left member := .inl (orderly.failed_of_left held member)
  drained ended := by
    have empty := (orderly.drained ended).2
    rw [held] at empty
    cases empty
  stopped := orderly.stopped

theorem Orderly.fail (orderly : state.Orderly) : ({ state with failed := true } : Pipeline).Orderly where
  nonempty := orderly.nonempty
  joined := orderly.joined
  closed := orderly.closed
  reporting _ _ := rfl
  left _ := .inl rfl
  drained := orderly.drained
  stopped := orderly.stopped

theorem Orderly.sent (orderly : state.Orderly) (outcome : Outcome) (running : state.collected ≠ true) :
    (state.send outcome).Orderly where
  nonempty := orderly.nonempty
  joined := orderly.joined
  closed := orderly.closed
  reporting := orderly.reporting
  left := orderly.left
  drained := orderly.drained
  stopped collected := absurd collected running

/-- The supervisor, which has not ended, goes on. -/
theorem Orderly.supervise (orderly : state.Orderly) {supervisor : Supervisor}
    (joined : ∀ index worker, state.workers[index]? = some worker → supervisor.HasJoined index →
      worker.IsGone)
    (drained : supervisor = .ended → state.inputClosed = true ∧ state.input = [])
    (running : state.supervisor ≠ .ended) :
    ({ state with supervisor := supervisor } : Pipeline).Orderly where
  nonempty := orderly.nonempty
  joined := joined
  closed := orderly.closed
  reporting := orderly.reporting
  left := orderly.left
  drained := drained
  stopped collected := absurd (orderly.stopped collected).1 running

theorem Orderly.move (orderly : state.Orderly) (move : Move codec state next) : next.Orderly := by
  cases move with
  | put block held =>
    have opened : state.inputClosed ≠ true := by
      intro closed
      have none := (orderly.closed closed).2
      rw [held] at none
      cases none
    exact ⟨orderly.nonempty, orderly.joined, fun closed => absurd closed opened, orderly.reporting,
      fun member => (orderly.left member).imp_right fun closed => absurd closed.1 opened,
      fun ended => absurd (orderly.drained ended).1 opened, orderly.stopped⟩
  | turnAway block rest _ offered _ | takeUp block rest _ offered =>
    have opened : state.inputClosed ≠ true := by
      intro closed
      have none := (orderly.closed closed).1
      rw [offered] at none
      cases none
    exact ⟨orderly.nonempty, orderly.joined, fun closed => absurd closed opened, orderly.reporting,
      orderly.left, orderly.drained, orderly.stopped⟩
  | close none empty =>
    exact ⟨orderly.nonempty, orderly.joined, fun _ => ⟨empty, none⟩, orderly.reporting,
      fun member => (orderly.left member).imp_right fun closed => ⟨rfl, closed.2⟩,
      fun ended => ⟨rfl, (orderly.drained ended).2⟩, orderly.stopped⟩
  | take index block rest there held =>
    exact (orderly.tail held).setWorker there nofun nofun nofun
  | leave index there empty closed =>
    exact orderly.setWorker there nofun nofun fun _ => .inr ⟨closed, empty⟩
  | giveUp index block there failed =>
    exact orderly.setWorker there nofun nofun fun _ => .inl failed
  | begin index block there => exact orderly.setWorker there nofun nofun nofun
  | decode index block task there _ =>
    exact orderly.setWorker there nofun nofun nofun
  | fail index block error there _ =>
    exact orderly.fail.setWorker there nofun (fun _ _ => rfl) nofun
  | crash index block there _ => exact orderly.setWorker there nofun nofun nofun
  | send index task there =>
    have alive : ¬ (Worker.sending task).IsGone := nofun
    exact (orderly.sent _ (orderly.not_collected there alive)).setWorker there alive nofun nofun
  | report index error there =>
    have alive : ¬ (Worker.reporting error).IsGone := nofun
    have failed := orderly.reporting error (mem_of_there there)
    exact (orderly.sent _ (orderly.not_collected there alive)).setWorker there alive nofun
      fun _ => .inl failed
  | join index place there =>
    refine orderly.supervise (fun other worker found joined => ?_) nofun (by rw [place]; nofun)
    obtain before | rfl := Nat.lt_succ_iff_lt_or_eq.1 joined
    · exact orderly.joined other worker found (by rw [place]; exact before)
    · cases there.symm.trans found
      exact .ended
  | find index place there =>
    refine orderly.fail.supervise (fun other worker found joined => ?_) nofun (by rw [place]; nofun)
    obtain before | rfl := Nat.lt_or_eq_of_le joined
    · exact orderly.joined other worker found (by rw [place]; exact before)
    · cases there.symm.trans found
      exact .died
  | joinLast index place missing =>
    refine orderly.supervise (fun other worker found _ => ?_) nofun (by rw [place]; nofun)
    have inside := (List.getElem?_eq_some_iff.1 found).1
    have outside := List.getElem?_eq_none_iff.1 missing
    exact orderly.joined other worker found (by rw [place]; exact Nat.lt_of_lt_of_le inside outside)
  | mourn index place =>
    have running : state.collected ≠ true := by
      intro collected
      have ended := (orderly.stopped collected).1
      rw [place] at ended
      cases ended
    refine (orderly.sent _ running).supervise (fun other worker found joined => ?_) nofun
      (by rw [send, place]; nofun)
    exact orderly.joined other worker found (by rw [place]; exact Nat.le_of_lt_succ joined)
  | discard block rest _ held => exact orderly.tail held
  | finish place empty closed =>
    refine orderly.supervise (fun other worker found _ => ?_) (fun _ => ⟨closed, empty⟩)
      (by rw [place]; nofun)
    exact orderly.joined other worker found (by rw [place]; trivial)
  | collect _ rest sent _ | note _ rest sent _ | ignore _ rest _ sent _ =>
    refine ⟨orderly.nonempty, orderly.joined, orderly.closed, orderly.reporting, orderly.left,
      orderly.drained, fun collected => ?_⟩
    have empty := (orderly.stopped collected).2
    rw [sent] at empty
    cases empty
  | stop empty ended =>
    exact ⟨orderly.nonempty, orderly.joined, orderly.closed, orderly.reporting, orderly.left,
      orderly.drained, fun _ => ⟨ended, empty⟩⟩

end Pipeline

end TaskLedger
