/-
**Failures in the pipeline.** Where they come from, and that none is lost.

* `Pipeline.Founded` — every failure comes from a block that was offered.
* `Pipeline.Doomed` — a failure has reached the collector or is on its way there. Once doomed a run stays
  doomed (`Doomed.move`), and its result is an error (`Doomed.collected_error`).
* `Pipeline.Alarmed` — a raised flag, a dead worker and a block turned away all doom the run.
-/
import TaskLedger.Proofs.Codec.Order

namespace TaskLedger

/-- The worker is where it is because of a block that was offered. -/
def Worker.Founded (codec : Codec) (blocks : List ByteArray) : Worker → Prop
  | .holding block | .decoding block => block ∈ blocks
  | .reporting error => ∃ block ∈ blocks, codec.decode block = .failed error
  | .died => ∃ block ∈ blocks, codec.decode block = .crashed
  | _ => True

namespace Pipeline

variable {codec : Codec} {blocks : List ByteArray} {state next : Pipeline}

/-! ### Where failures come from -/

/-- The error is a reason for the whole decoding to fail: a block has it, or it is the death of a worker
and a block is fatal. -/
def Excuses (codec : Codec) (blocks : List ByteArray) (error : CodecError) : Prop :=
  (∃ block ∈ blocks, codec.decode block = .failed error) ∨
    error = .workerDied ∧ ∃ block ∈ blocks, codec.decode block = .crashed

/-- All blocks were offered, and all failures come from them. -/
structure Founded (codec : Codec) (blocks : List ByteArray) (state : Pipeline) : Prop where
  pending : ∀ block ∈ state.pending, block ∈ blocks
  inHand : ∀ block, state.inHand = some block → block ∈ blocks
  input : ∀ block ∈ state.input, block ∈ blocks
  workers : ∀ worker ∈ state.workers, worker.Founded codec blocks
  mourning : ∀ index, state.supervisor = .reporting index →
    ∃ block ∈ blocks, codec.decode block = .crashed
  output : ∀ error, .failed error ∈ state.output → Excuses codec blocks error
  error : ∀ error, state.error = some error → Excuses codec blocks error

theorem founded_start (codec : Codec) (workers : Nat) (blocks : List ByteArray) :
    Founded codec blocks (start workers blocks) where
  pending _ member := member
  inHand _ held := nomatch held
  input _ member := nomatch member
  workers worker member := by
    rw [List.eq_of_mem_replicate member]
    trivial
  mourning _ mourns := nomatch mourns
  output _ member := nomatch member
  error _ collected := nomatch collected

theorem Founded.setWorker (founded : Founded codec blocks state) (index : Nat) {new : Worker}
    (own : new.Founded codec blocks) : Founded codec blocks (state.setWorker index new) where
  pending := founded.pending
  inHand := founded.inHand
  input := founded.input
  workers worker member := by
    obtain member | rfl := List.mem_or_eq_of_mem_set member
    · exact founded.workers worker member
    · exact own
  mourning := founded.mourning
  output := founded.output
  error := founded.error

theorem Founded.sent (founded : Founded codec blocks state) (outcome : Outcome)
    (own : ∀ error, outcome = .failed error → Excuses codec blocks error) :
    Founded codec blocks (state.send outcome) where
  pending := founded.pending
  inHand := founded.inHand
  input := founded.input
  workers := founded.workers
  mourning := founded.mourning
  output error member := by
    obtain member | member := List.mem_append.1 member
    · exact founded.output error member
    · exact own error (List.mem_singleton.1 member).symm
  error := founded.error

theorem Founded.move (founded : Founded codec blocks state) (move : Move codec state next) :
    Founded codec blocks next := by
  have worker {index : Nat} {place : Worker} (there : state.workers[index]? = some place) :
      place.Founded codec blocks := founded.workers place (mem_of_there there)
  cases move with
  | put block held =>
    refine ⟨founded.pending, nofun, fun other member => ?_, founded.workers, founded.mourning,
      founded.output, founded.error⟩
    obtain member | member := List.mem_append.1 member
    · exact founded.input other member
    · exact founded.inHand other (List.mem_singleton.1 member ▸ held)
  | turnAway block rest _ offered _ =>
    exact ⟨fun other member => founded.pending other (offered ▸ .tail _ member), founded.inHand,
      founded.input, founded.workers, founded.mourning, founded.output, founded.error⟩
  | takeUp block rest _ offered =>
    refine ⟨fun other member => founded.pending other (offered ▸ .tail _ member), fun other held => ?_,
      founded.input, founded.workers, founded.mourning, founded.output, founded.error⟩
    cases held
    exact founded.pending block (offered ▸ .head _)
  | close _ _ | stop _ _ =>
    exact ⟨founded.pending, founded.inHand, founded.input, founded.workers, founded.mourning,
      founded.output, founded.error⟩
  | take index block rest there held =>
    have tail : Founded codec blocks { state with input := rest } :=
      ⟨founded.pending, founded.inHand, fun other member => founded.input other (held ▸ .tail _ member),
        founded.workers, founded.mourning, founded.output, founded.error⟩
    exact tail.setWorker index (founded.input block (held ▸ .head _))
  | leave index _ _ _ | giveUp index _ _ _ | decode index _ _ _ _ =>
    exact founded.setWorker index trivial
  | begin index block there =>
    have offered : block ∈ blocks := worker there
    exact founded.setWorker index offered
  | fail index block error there decoded =>
    have failed : Founded codec blocks { state with failed := true } :=
      ⟨founded.pending, founded.inHand, founded.input, founded.workers, founded.mourning,
        founded.output, founded.error⟩
    exact failed.setWorker index ⟨block, worker there, decoded⟩
  | crash index block there decoded =>
    exact founded.setWorker index ⟨block, worker there, decoded⟩
  | send index task _ => exact (founded.sent (.decoded task) nofun).setWorker index trivial
  | report index error there =>
    refine (founded.sent _ fun other same => ?_).setWorker index trivial
    cases same
    exact .inl (worker there)
  | join _ _ _ | joinLast _ _ _ | finish _ _ _ =>
    exact ⟨founded.pending, founded.inHand, founded.input, founded.workers, nofun, founded.output,
      founded.error⟩
  | find index _ there =>
    exact ⟨founded.pending, founded.inHand, founded.input, founded.workers, fun _ _ => worker there,
      founded.output, founded.error⟩
  | mourn index place =>
    have sent := founded.sent (.failed .workerDied) fun other same => by
      cases same
      exact .inr ⟨rfl, founded.mourning index place⟩
    exact ⟨sent.pending, sent.inHand, sent.input, sent.workers, nofun, sent.output, sent.error⟩
  | discard block rest _ held =>
    exact ⟨founded.pending, founded.inHand,
      fun other member => founded.input other (held ▸ .tail _ member),
      founded.workers, founded.mourning, founded.output, founded.error⟩
  | collect _ rest sent _ | ignore _ rest _ sent _ =>
    exact ⟨founded.pending, founded.inHand, founded.input, founded.workers, founded.mourning,
      fun other member => founded.output other (sent ▸ .tail _ member), founded.error⟩
  | note error rest sent _ =>
    refine ⟨founded.pending, founded.inHand, founded.input, founded.workers, founded.mourning,
      fun other member => founded.output other (sent ▸ .tail _ member), fun other same => ?_⟩
    cases same
    exact founded.output error (sent ▸ .head _)

/-! ### Failures on their way -/

/-- A failure that the collector has, or that is on its way to it. -/
inductive Alarm (error : Option CodecError) (output : List Outcome) (workers : List Worker)
    (supervisor : Supervisor) : Prop where
  | collected (cause : CodecError) : error = some cause → Alarm error output workers supervisor
  | sent (cause : CodecError) : .failed cause ∈ output → Alarm error output workers supervisor
  | reporting (index : Nat) (cause : CodecError) : workers[index]? = some (.reporting cause) →
    Alarm error output workers supervisor
  | mourning (index : Nat) : supervisor = .reporting index → Alarm error output workers supervisor
  /-- A worker has died, and the supervisor will come to it. -/
  | died (index : Nat) : workers[index]? = some .died → ¬ supervisor.HasJoined index →
    Alarm error output workers supervisor

/-- The run will not succeed. -/
def Doomed (state : Pipeline) : Prop :=
  Alarm state.error state.output state.workers state.supervisor

section Doomed

variable {index : Nat} {old new : Worker}

/-- A worker that was about to do something else than report an error takes a step. -/
theorem Doomed.setWorker (doomed : state.Doomed) (there : state.workers[index]? = some old)
    (quiet : ∀ error, old ≠ .reporting error) (alive : ¬ old.IsGone) :
    (state.setWorker index new).Doomed := by
  have stays {other : Nat} {place : Worker} (found : state.workers[other]? = some place)
      (differs : old ≠ place) : (state.workers.set index new)[other]? = some place := by
    have apart : index ≠ other := by
      rintro rfl
      exact differs (Option.some.inj (there.symm.trans found))
    rw [List.getElem?_set_ne apart, found]
  cases doomed with
  | collected cause same => exact .collected cause same
  | sent cause member => exact .sent cause member
  | reporting other cause found => exact .reporting other cause (stays found (quiet cause))
  | mourning other mourns => exact .mourning other mourns
  | died other found unseen =>
    exact .died other (stays found fun same => alive (same ▸ .died)) unseen

theorem Doomed.send (doomed : state.Doomed) (outcome : Outcome) : (state.send outcome).Doomed := by
  cases doomed with
  | collected cause same => exact .collected cause same
  | sent cause member => exact .sent cause (List.mem_append_left _ member)
  | reporting other cause found => exact .reporting other cause found
  | mourning other mourns => exact .mourning other mourns
  | died other found unseen => exact .died other found unseen

/-- The supervisor goes on, without a death to report and past no worker that has died. -/
theorem Doomed.supervise (doomed : state.Doomed) {supervisor : Supervisor}
    (quiet : ∀ other, state.supervisor ≠ .reporting other)
    (past : ∀ other, state.workers[other]? = some .died → supervisor.HasJoined other →
      state.supervisor.HasJoined other) :
    ({ state with supervisor := supervisor } : Pipeline).Doomed := by
  cases doomed with
  | collected cause same => exact .collected cause same
  | sent cause member => exact .sent cause member
  | reporting other cause found => exact .reporting other cause found
  | mourning other mourns => exact absurd mourns (quiet other)
  | died other found unseen => exact .died other found (mt (past other found) unseen)

/-- The collector takes a message that is no failure, or that comes after one. -/
theorem Doomed.tail (doomed : state.Doomed) {outcome : Outcome} {rest : List Outcome}
    (sent : state.output = outcome :: rest)
    (harmless : ∀ cause, outcome = .failed cause → state.error ≠ none) (tasks : List Task) :
    ({ state with output := rest, tasks := tasks } : Pipeline).Doomed := by
  cases doomed with
  | collected cause same => exact .collected cause same
  | sent cause member =>
    rw [sent] at member
    obtain same | member := List.mem_cons.1 member
    · obtain ⟨error, collected⟩ := Option.ne_none_iff_exists'.1 (harmless cause same.symm)
      exact .collected error collected
    · exact .sent cause member
  | reporting other cause found => exact .reporting other cause found
  | mourning other mourns => exact .mourning other mourns
  | died other found unseen => exact .died other found unseen

/-- **A doomed run stays doomed.** -/
theorem Doomed.move (doomed : state.Doomed) (move : Move codec state next) : next.Doomed := by
  cases move with
  | put _ _ | turnAway _ _ _ _ _ | takeUp _ _ _ _ | close _ _ | discard _ _ _ _ | stop _ _ =>
    exact doomed
  | take index block rest there _ =>
    have tail : ({ state with input := rest } : Pipeline).Doomed := doomed
    exact tail.setWorker there nofun nofun
  | leave _ there _ _ | giveUp _ _ there _ | begin _ _ there | decode _ _ _ there _
  | crash _ _ there _ => exact doomed.setWorker there nofun nofun
  | fail index block error there _ =>
    have failed : ({ state with failed := true } : Pipeline).Doomed := doomed
    exact failed.setWorker there nofun nofun
  | send index task there => exact (doomed.send _).setWorker there nofun nofun
  | report index error there =>
    exact .sent error (List.mem_append_right _ (List.mem_singleton_self _))
  | join index place there =>
    refine doomed.supervise (by rw [place]; nofun) fun other found joined => ?_
    obtain before | rfl := Nat.lt_succ_iff_lt_or_eq.1 joined
    · rw [place]
      exact before
    · cases there.symm.trans found
  | find index place there => exact .mourning index rfl
  | joinLast index place missing =>
    refine doomed.supervise (by rw [place]; nofun) fun other found _ => ?_
    have inside := (List.getElem?_eq_some_iff.1 found).1
    rw [place]
    exact Nat.lt_of_lt_of_le inside (List.getElem?_eq_none_iff.1 missing)
  | mourn index place =>
    exact .sent .workerDied (List.mem_append_right _ (List.mem_singleton_self _))
  | finish place _ _ =>
    refine doomed.supervise (by rw [place]; nofun) fun other _ _ => ?_
    rw [place]
    trivial
  | collect task rest sent _ => exact doomed.tail sent nofun _
  | note error rest _ _ => exact .collected error rfl
  | ignore outcome rest error sent failure =>
    exact doomed.tail sent (fun _ _ => by rw [failure]; nofun) state.tasks

/-- When the collector has ended it has the failure. -/
theorem Doomed.collected_error (doomed : state.Doomed) (orderly : state.Orderly)
    (collected : state.collected = true) : ∃ error, state.error = some error := by
  obtain ⟨ended, empty⟩ := orderly.stopped collected
  cases doomed with
  | collected cause same => exact ⟨cause, same⟩
  | sent cause member =>
    rw [empty] at member
    cases member
  | reporting index cause found =>
    cases orderly.joined index _ found (by rw [ended]; trivial)
  | mourning index mourns =>
    rw [ended] at mourns
    cases mourns
  | died index _ unseen => exact absurd (by rw [ended]; trivial) unseen

end Doomed

/-- Whatever makes a party drop a block dooms the run. -/
structure Alarmed (state : Pipeline) : Prop where
  failed : state.failed = true → state.Doomed
  died : .died ∈ state.workers → state.Doomed
  refused : state.refused = true → state.failed = true

theorem alarmed_start (workers : Nat) (blocks : List ByteArray) :
    (start workers blocks).Alarmed where
  failed failed := nomatch failed
  died member := nomatch List.eq_of_mem_replicate member
  refused refused := nomatch refused

/-- Decoding that has failed stays failed. -/
theorem failed_of_move (move : Move codec state next) (failed : state.failed = true) :
    next.failed = true := by
  cases move <;> first | exact failed | rfl

/-- Blocks are turned away only after decoding has failed. -/
theorem refused_of_move (move : Move codec state next) (refused : next.refused = true) :
    state.refused = true ∨ state.failed = true := by
  cases move with
  | turnAway _ _ _ _ failed => exact .inr failed
  | _ => exact .inl refused

/-- A worker that has an error to report dooms the run. -/
theorem doomed_of_report {index : Nat} {old : Worker} (there : state.workers[index]? = some old)
    (error : CodecError) :
    ({ state with failed := true }.setWorker index (.reporting error)).Doomed :=
  .reporting index error (List.getElem?_set_self (List.getElem?_eq_some_iff.1 there).1)

/-- A worker that dies dooms the run: the supervisor has not come to it yet. -/
theorem doomed_of_death (orderly : state.Orderly) {index : Nat} {old : Worker}
    (there : state.workers[index]? = some old) (alive : ¬ old.IsGone) :
    (state.setWorker index .died).Doomed :=
  .died index (List.getElem?_set_self (List.getElem?_eq_some_iff.1 there).1)
    fun joined => alive (orderly.joined index old there joined)

/-- A move that does not doom the run leaves the flags and adds no dead worker. -/
theorem flags_of_move (orderly : state.Orderly) (move : Move codec state next)
    (sound : ¬ next.Doomed) :
    (next.failed = true → state.failed = true) ∧
      (.died ∈ next.workers → .died ∈ state.workers) := by
  have stays {index : Nat} {new : Worker} (lives : new ≠ .died)
      (member : .died ∈ state.workers.set index new) : .died ∈ state.workers := by
    obtain member | same := List.mem_or_eq_of_mem_set member
    · exact member
    · exact absurd same.symm lives
  cases move with
  | put _ _ | turnAway _ _ _ _ _ | takeUp _ _ _ _ | close _ _ | join _ _ _ | joinLast _ _ _
  | mourn _ _ | discard _ _ _ _ | finish _ _ _ | collect _ _ _ _ | note _ _ _ _ | ignore _ _ _ _ _
  | stop _ _ => exact ⟨id, id⟩
  | take _ _ _ _ _ | leave _ _ _ _ | giveUp _ _ _ _ | begin _ _ _ | decode _ _ _ _ _ | send _ _ _
  | report _ _ _ => exact ⟨id, stays nofun⟩
  | fail _ _ error there _ => exact absurd (doomed_of_report there error) sound
  | crash _ _ there _ => exact absurd (doomed_of_death orderly there nofun) sound
  | find index _ _ => exact absurd (.mourning index rfl) sound

theorem Alarmed.move (alarmed : state.Alarmed) (orderly : state.Orderly)
    (move : Move codec state next) : next.Alarmed := by
  refine ⟨fun failed => ?_, fun died => ?_, fun refused => ?_⟩
  · by_contra sound
    exact sound ((alarmed.failed ((flags_of_move orderly move sound).1 failed)).move move)
  · by_contra sound
    exact sound ((alarmed.died ((flags_of_move orderly move sound).2 died)).move move)
  · exact failed_of_move move ((refused_of_move move refused).elim alarmed.refused id)

end Pipeline

end TaskLedger
