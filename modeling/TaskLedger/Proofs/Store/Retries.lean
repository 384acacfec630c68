/-
**Writing a batch, again after a conflict.** An update calls its function and the store in turn, commits
one batch at most, and answers what the last call answered.

* `Deed`, `Client.noted`, `noting` — what an update does, noted beside the state.
* `Attempts`, `exists_attempts` — the rows of deeds that an update can do, and that it does one of them.
* `Deeds` — what such a row is like: the turns, their number, when it goes on, and the answer.
* `Company`, `Company.storeAt` — a store in memory that the function and other clients call too, and the
  store that they alone leave.
* `CommitsOnce` — the batch that is answered is stored, and nothing else of the update is.
* `updateBatch_commits_once` — the theorem.
-/
import TaskLedger.Proofs.Store.Session

namespace TaskLedger

open Time (Instant)

/-! ### What an update does -/

/-- Something that an update does. -/
inductive Deed (ε : Type) where
  /-- Its function was called. -/
  | ran (returned : Except ε (List Task))
  /-- The store was asked to write a batch. -/
  | put (batch : List Task) (answer : Except StoreError (List Task))
  /-- The store was asked something else. -/
  | other

namespace Deed

variable {ε : Type}

/-- A call of a store that was answered. -/
def ofCall {α : Type} : Call α → Except StoreError α → Deed ε
  | .put batch, answer => .put batch answer
  | _, _ => .other

def isRun : Deed ε → Bool
  | .ran _ => true
  | _ => false

/-- One deed may stand right after another: what the function returned is written, and after a write the
function is called. -/
def Precedes : Deed ε → Deed ε → Prop
  | .ran (.ok returned), .put batch _ => batch = returned
  | .put _ _, .ran _ => True
  | _, _ => False

theorem countP_attempt (returned : Except ε (List Task)) (batch : List Task)
    (outcome : Except StoreError (List Task)) (rest : List (Deed ε)) :
    (.ran returned :: .put batch outcome :: rest).countP isRun = rest.countP isRun + 1 := by
  rw [List.countP_cons_of_pos rfl, List.countP_cons_of_neg Bool.false_ne_true]

/-- The answer of an update that ends with the deed. -/
def answer? (lift : StoreError → ε) : Deed ε → Option (Except ε (List Task))
  | .ran (.error error) => some (.error error)
  | .put _ answer => some (answer.mapError lift)
  | _ => none

end Deed

section Noting

variable {σ ε : Type}

/-- The client, with its calls noted. -/
def Client.noted (store : Client (StateM σ)) : Client (StateM (σ × List (Deed ε))) :=
  fun request (state, deeds) =>
    let (answer, next) := store request state
    (answer, next, deeds ++ [.ofCall request answer])

/-- The function, with its calls noted. -/
def noting (change : StateM σ (Except ε (List Task))) :
    StateM (σ × List (Deed ε)) (Except ε (List Task)) :=
  fun (state, deeds) =>
    let (returned, next) := change state
    (returned, next, deeds ++ [.ran returned])

end Noting

/-! ### The rows of deeds -/

section Rows

variable {σ ε : Type} {lift : StoreError → ε}

/-- What one attempt to write a batch does, and how it ends. -/
inductive AttemptDoes (lift : StoreError → ε) : List (Deed ε) → Attempt ε (List Task) → Prop where
  | raised (error : ε) : AttemptDoes lift [.ran (.error error)] (.done (.error error))
  | written (batch written : List Task) :
    AttemptDoes lift [.ran (.ok batch), .put batch (.ok written)] (.done (.ok written))
  | refused (batch : List Task) (error : StoreError) : error.isRetryable = false →
    AttemptDoes lift [.ran (.ok batch), .put batch (.error error)] (.done (.error (lift error)))
  | conflict (batch : List Task) (task : TaskId) :
    AttemptDoes lift [.ran (.ok batch), .put batch (.error (.concurrentUpdate task))]
      (.conflict (.concurrentUpdate task))

/-- What is done in attempts of which there may be `most`, and the answer. -/
inductive Attempts (lift : StoreError → ε) :
    (most : Nat) → List (Deed ε) → Except ε (List Task) → Prop where
  | answered (most : Nat) {deeds : List (Deed ε)} {answer : Except ε (List Task)} :
    AttemptDoes lift deeds (.done answer) → Attempts lift (most + 1) deeds answer
  | exhausted {deeds : List (Deed ε)} {error : StoreError} :
    AttemptDoes lift deeds (.conflict error) → Attempts lift 1 deeds (.error (lift error))
  | again (most : Nat) {deeds more : List (Deed ε)} {error : StoreError}
    {answer : Except ε (List Task)} : AttemptDoes lift deeds (.conflict error) →
    Attempts lift (most + 1) more answer → Attempts lift (most + 2) (deeds ++ more) answer

theorem StoreError.exists_of_isRetryable {error : StoreError} (retryable : error.isRetryable = true) :
    ∃ task, error = .concurrentUpdate task := by
  cases error with
  | concurrentUpdate task => exact ⟨task, rfl⟩
  | _ => cases retryable

/-- One attempt to write a batch, by a client that is part of a state. -/
theorem attemptBatch_apply (store : Client (StateM σ)) (lift : StoreError → ε)
    (change : StateM σ (Except ε (List Task))) (state : σ) :
    attemptBatch store lift change state =
      match change state with
      | (.error error, ran) => (.done (.error error), ran)
      | (.ok batch, ran) =>
        (.ofWrite lift (store (.put batch) ran).1, (store (.put batch) ran).2) := by
  simp only [attemptBatch, bind, StateT.bind]
  rcases change state with ⟨error | batch, ran⟩ <;> rfl

/-- An attempt does one of these things, and noting them changes nothing. -/
theorem exists_attemptDoes (store : Client (StateM σ)) (change : StateM σ (Except ε (List Task)))
    (state : σ) (past : List (Deed ε)) :
    ∃ deeds, attemptBatch store.noted lift (noting change) (state, past) =
        ((attemptBatch store lift change state).1,
          (attemptBatch store lift change state).2, past ++ deeds) ∧
      AttemptDoes lift deeds (attemptBatch store lift change state).1 := by
  rw [attemptBatch_apply, attemptBatch_apply, noting]
  rcases change state with ⟨error | batch, ran⟩
  · exact ⟨_, rfl, .raised error⟩
  · simp only [Client.noted, Deed.ofCall, List.append_assoc]
    refine ⟨_, rfl, ?_⟩
    rcases store (.put batch) ran with ⟨error | written, next⟩
    · cases retryable : error.isRetryable with
      | true =>
        obtain ⟨task, rfl⟩ := StoreError.exists_of_isRetryable retryable
        exact .conflict batch task
      | false =>
        simp only [Attempt.ofWrite, retryable, Bool.false_eq_true, if_false]
        exact .refused batch error retryable
    · exact .written batch written

/-- **An update does a row of such deeds**, and noting them changes nothing. -/
theorem exists_attempts (store : Client (StateM σ)) (change : StateM σ (Except ε (List Task)))
    (retries : Nat) (state : σ) (past : List (Deed ε)) :
    ∃ deeds, persist lift (attemptBatch store.noted lift (noting change)) retries (state, past) =
        ((persist lift (attemptBatch store lift change) retries state).1,
          (persist lift (attemptBatch store lift change) retries state).2, past ++ deeds) ∧
      Attempts lift (retries + 1) deeds
        (persist lift (attemptBatch store lift change) retries state).1 := by
  obtain ⟨deeds, noted, does⟩ := exists_attemptDoes store change state past
  induction retries generalizing state past deeds with
  | zero =>
    rw [persist_zero, persist_zero, noted]
    rcases ended : attemptBatch store lift change state with ⟨answer | error, next⟩
    · rw [ended] at does
      exact ⟨deeds, rfl, .answered 0 does⟩
    · rw [ended] at does
      exact ⟨deeds, rfl, .exhausted does⟩
  | succ retries ih =>
    rw [persist_succ, persist_succ, noted]
    rcases ended : attemptBatch store lift change state with ⟨answer | error, next⟩
    · rw [ended] at does
      exact ⟨deeds, rfl, .answered (retries + 1) does⟩
    · rw [ended] at does
      obtain ⟨first, notedFirst, doesFirst⟩ := exists_attemptDoes store change next (past ++ deeds)
      obtain ⟨more, notedMore, attempts⟩ := ih next (past ++ deeds) first notedFirst doesFirst
      refine ⟨deeds ++ more, ?_, .again retries does attempts⟩
      rw [← List.append_assoc]
      exact notedMore

/-! ### What such a row is like -/

/-- What an update does, and answers, when it may make `most` attempts. -/
structure Deeds (lift : StoreError → ε) (most : Nat) (deeds : List (Deed ε))
    (answer : Except ε (List Task)) : Prop where
  /-- The function is called first. -/
  starts : ∃ returned rest, deeds = .ran returned :: rest
  /-- The function and the store are called in turn, the store with what the function just returned. -/
  alternate : deeds.IsChain Deed.Precedes
  /-- The function is not called more often than allowed. -/
  bounded : deeds.countP Deed.isRun ≤ most
  /-- After a write, another attempt is made exactly when the write met a conflict and attempts are left. -/
  again : ∀ front batch outcome back, deeds = front ++ .put batch outcome :: back →
    (back ≠ [] ↔ (∃ task, outcome = .error (.concurrentUpdate task)) ∧
      front.countP Deed.isRun < most)
  /-- The last deed gives the answer. -/
  answered : deeds.getLast?.bind (Deed.answer? lift) = some answer

theorem deeds_of_raised (most : Nat) (error : ε) :
    Deeds lift (most + 1) [.ran (.error error)] (.error error) := by
  refine ⟨⟨_, [], rfl⟩, .singleton _, Nat.le_add_left 1 most, fun front batch outcome back split => ?_,
    rfl⟩
  rcases front with _ | ⟨first, front⟩
  · cases split
  · rw [List.cons_append, List.cons.injEq] at split
    exact absurd split.2.symm (List.append_ne_nil_of_right_ne_nil _ (List.cons_ne_nil _ _))

/-- An attempt that ends with a write is the last one unless it met a conflict and attempts are left. -/
theorem deeds_of_put {most : Nat} (batch : List Task) (outcome : Except StoreError (List Task))
    (last : ¬((∃ task, outcome = .error (.concurrentUpdate task)) ∧ 1 < most + 1)) :
    Deeds lift (most + 1) [.ran (.ok batch), .put batch outcome] (outcome.mapError lift) := by
  refine ⟨⟨_, _, rfl⟩, .cons_cons rfl (.singleton _), Nat.le_add_left 1 most,
    fun front other result back split => ?_, rfl⟩
  rcases front with _ | ⟨first, _ | ⟨second, front⟩⟩
  · cases split
  · cases split
    exact iff_of_false (fun some => some rfl) last
  · rw [List.cons_append, List.cons_append, List.cons.injEq, List.cons.injEq] at split
    exact absurd split.2.2.symm (List.append_ne_nil_of_right_ne_nil _ (List.cons_ne_nil _ _))

/-- After a conflict the deeds of the other attempts follow. -/
theorem Deeds.again_of_conflict {most : Nat} {deeds : List (Deed ε)} {answer : Except ε (List Task)}
    (later : Deeds lift (most + 1) deeds answer) (batch : List Task) (task : TaskId) :
    Deeds lift (most + 2)
      (.ran (.ok batch) :: .put batch (.error (.concurrentUpdate task)) :: deeds) answer := by
  obtain ⟨⟨returned, rest, rfl⟩, alternate, bounded, again, answered⟩ := later
  refine ⟨⟨_, _, rfl⟩, .cons_cons rfl (.cons_cons trivial alternate), ?_,
    fun front other outcome back split => ?_, answered⟩
  · rw [Deed.countP_attempt]
    exact Nat.succ_le_succ bounded
  · rcases front with _ | ⟨first, _ | ⟨second, front⟩⟩
    · cases split
    · cases split
      exact iff_of_true (List.cons_ne_nil _ _) ⟨⟨task, rfl⟩, Nat.le_add_left 2 most⟩
    · rw [List.cons_append, List.cons_append, List.cons.injEq, List.cons.injEq] at split
      obtain ⟨rfl, rfl, split⟩ := split
      rw [again front other outcome back split, Deed.countP_attempt]
      exact and_congr_right' Nat.succ_lt_succ_iff.symm

/-- **Every row that an update can do is like that.** -/
theorem Attempts.deeds {most : Nat} {deeds : List (Deed ε)} {answer : Except ε (List Task)}
    (attempts : Attempts lift most deeds answer) : Deeds lift most deeds answer := by
  induction attempts with
  | answered most does =>
    cases does with
    | raised error => exact deeds_of_raised most error
    | written batch written => exact deeds_of_put batch (.ok written) fun both => nomatch both.1
    | refused batch error final =>
      refine deeds_of_put batch (.error error) ?_
      rintro ⟨⟨task, same⟩, -⟩
      cases same
      cases final
  | exhausted does =>
    cases does with
    | conflict batch task =>
      exact deeds_of_put batch (.error (.concurrentUpdate task)) fun both => absurd both.2 (Nat.lt_irrefl 1)
  | again most does _ ih =>
    cases does with
    | conflict batch task => exact ih.again_of_conflict batch task

end Rows

/-! ### A store in memory -/

namespace Memory

/-- A write stored a batch and told the cursors of it. -/
structure Commits (before : Memory) (call : Ambient) (batch written : List Task) (after : Memory) :
    Prop where
  stamped : List.Forall₂ (Task.WrittenAs (before.stampFor call)) batch written
  stored : before.Overlaid after written
  told : after.feed = before.feed.record call.now written

theorem commits_of_put {before after : Memory} {call : Ambient} {batch written : List Task}
    (put : before.put call batch = (.ok written, after)) : before.Commits call batch written after := by
  have taken : before.refusal? call batch = none := refusal?_of_put_ok (congrArg Prod.fst put)
  rw [put_of_taken taken] at put
  cases put
  exact ⟨forall₂_writtenAs before call batch, overlaid_commit taken, feed_commit before call _⟩

end Memory

/-- Those who call a store in memory while a batch is written. What the function calls is among their
calls. -/
structure Company (ε : Type) where
  /-- What they call before the write of an attempt, by its number and the store that it starts from. -/
  calls : Nat → Memory → List Event
  /-- What the function returns. -/
  batch : Nat → Memory → Except ε (List Task)
  /-- What the write draws from its surroundings. -/
  ambient : Nat → Ambient

namespace Company

variable {ε : Type}

/-- The function, and the others' calls during an attempt. -/
def run (company : Company ε) : StateM Session (Except ε (List Task)) := fun session =>
  (company.batch session.runs session.store,
    { session with
      store := session.store.after (company.calls session.runs session.store)
      runs := session.runs + 1 })

/-- The client of the update. -/
def client (company : Company ε) : Client (StateM Session) := fun request session =>
  let result := session.store.perform (company.ambient session.calls) request
  (result.1, { session with store := result.2, calls := session.calls + 1 })

/-- The store that the others alone leave in some attempts. -/
def storeAt (company : Company ε) (start : Memory) : Nat → Memory
  | 0 => start
  | number + 1 =>
    (company.storeAt start number).after (company.calls number (company.storeAt start number))

/-- An update answers what it stored in one write, its last call of the store; else it stored nothing, and
no cursor was told anything. -/
inductive CommitsOnce (company : Company ε) (start : Memory) : Except ε (List Task) → Session → Prop where
  | committed (number : Nat) (batch written : List Task) (final : Memory) :
    company.batch number (company.storeAt start number) = .ok batch →
    (company.storeAt start (number + 1)).put (company.ambient number) batch = (.ok written, final) →
    (company.storeAt start (number + 1)).Commits (company.ambient number) batch written final →
    CommitsOnce company start (.ok written) ⟨final, number + 1, number + 1⟩
  | nothing (error : ε) (calls runs : Nat) :
    CommitsOnce company start (.error error) ⟨company.storeAt start runs, calls, runs⟩

variable (company : Company ε) (lift : StoreError → ε) (start : Memory)

theorem attemptBatch_run (number : Nat) :
    attemptBatch company.client lift company.run ⟨company.storeAt start number, number, number⟩ =
      match company.batch number (company.storeAt start number) with
      | .error error =>
        (.done (.error error), ⟨company.storeAt start (number + 1), number, number + 1⟩)
      | .ok batch =>
        let result := (company.storeAt start (number + 1)).put (company.ambient number) batch
        (.ofWrite lift result.1, ⟨result.2, number + 1, number + 1⟩) := by
  rw [attemptBatch_apply, run]
  rcases company.batch number (company.storeAt start number) with error | batch <;> rfl

/-- How an attempt ends, by its number. -/
inductive AttemptEnds (number : Nat) : Attempt ε (List Task) → Session → Prop where
  | answered (answer : Except ε (List Task)) (session : Session) :
    company.CommitsOnce start answer session → AttemptEnds number (.done answer) session
  | conflict (error : StoreError) :
    AttemptEnds number (.conflict error)
      ⟨company.storeAt start (number + 1), number + 1, number + 1⟩

theorem attemptEnds (number : Nat) :
    company.AttemptEnds start number
      (attemptBatch company.client lift company.run ⟨company.storeAt start number, number, number⟩).1
      (attemptBatch company.client lift company.run
        ⟨company.storeAt start number, number, number⟩).2 := by
  rw [attemptBatch_run]
  rcases returned : company.batch number (company.storeAt start number) with error | batch
  · exact .answered _ _ (.nothing error number (number + 1))
  · dsimp only
    cases refused : (company.storeAt start (number + 1)).refusal? (company.ambient number) batch with
    | none =>
      have put := Memory.put_of_taken refused
      rw [put]
      exact .answered _ _ (.committed number batch _ _ returned put (Memory.commits_of_put put))
    | some error =>
      rw [Memory.put_of_refused refused]
      cases retryable : error.isRetryable with
      | true =>
        simp only [Attempt.ofWrite, if_pos retryable]
        exact .conflict error
      | false =>
        simp only [Attempt.ofWrite, retryable, Bool.false_eq_true, if_false]
        exact .answered _ _ (.nothing (lift error) (number + 1) (number + 1))

/-- **An update in memory commits one batch at most.** -/
theorem commitsOnce :
    company.CommitsOnce start (updateBatch company.client lift company.run ⟨start, 0, 0⟩).1
      (updateBatch company.client lift company.run ⟨start, 0, 0⟩).2 := by
  refine persist_spec (fun number session => session = ⟨company.storeAt start number, number, number⟩)
    (company.CommitsOnce start) maxAttempts ?_ ?_ ?_ (maxAttempts - 1) 0 rfl _ rfl
  · rintro number - _ answer next rfl ended
    have ends := company.attemptEnds lift start number
    rw [ended] at ends
    cases ends with
    | answered _ _ commits => exact commits
  · rintro number - _ error next rfl ended
    have ends := company.attemptEnds lift start number
    rw [ended] at ends
    cases ends with
    | conflict => rfl
  · rintro number - _ error next rfl ended
    have ends := company.attemptEnds lift start number
    rw [ended] at ends
    cases ends with
    | conflict => exact .nothing (lift error) (number + 1) (number + 1)

end Company

/-- **An update commits one batch at most, and answers what became of it.** Whatever the store and the
function do, they are called in turn, with another attempt exactly after a conflict while attempts are
left, and the last call gives the answer. In memory, the answer of an update that succeeds is the batch as
it is stored; of an update that fails, nothing is stored and no cursor is told. -/
theorem updateBatch_commits_once {ε : Type} (lift : StoreError → ε) :
    (∀ (σ : Type) (store : Client (StateM σ)) (change : StateM σ (Except ε (List Task))) (start : σ),
      ∃ deeds, updateBatch store.noted lift (noting change) (start, []) =
          ((updateBatch store lift change start).1, (updateBatch store lift change start).2, deeds) ∧
        Deeds lift maxAttempts deeds (updateBatch store lift change start).1) ∧
    ∀ (company : Company ε) (start : Memory),
      company.CommitsOnce start (updateBatch company.client lift company.run ⟨start, 0, 0⟩).1
        (updateBatch company.client lift company.run ⟨start, 0, 0⟩).2 := by
  refine ⟨fun σ store change start => ?_, fun company start => company.commitsOnce lift start⟩
  obtain ⟨deeds, noted, attempts⟩ := exists_attempts store change (maxAttempts - 1) start []
  exact ⟨deeds, noted, attempts.deeds⟩

end TaskLedger
