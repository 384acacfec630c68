/-
**A comment box with a writer keeps what its writer takes.** Its book is always the one that the writer
took last; the writer is asked once for every change that has an effect, and for no other.

* `CommentWriter.Answering`, `CommentWriter.noting` — a writer that takes or refuses every book, and the
  same writer with a note of every call.
* `Turn`, `CommentBox.turn` — a change made in a box, with its answer and the writer's calls meanwhile.
* `Turn.Commits` — the four things that a change comes to.
* `CommentBook.applies` — what a change makes of a book, seen through the map that the book holds.
* `CommentBox.keeps_what_writer_takes` — the theorem.

The box with the writer and the box without one are compared through the map: every change that no call
failed for does to both what it does to the map (`CommentBox.turn_mirrors`), and a read is determined by
the map (`CommentBook.since_congr`).
-/
import TaskLedger.Proofs.Comment.Canonical

namespace TaskLedger

open Time (Instant)

variable {ω : Type}

/-! ### Writers that are watched -/

/-- A call of a writer: the book it was handed, and whether it took it. -/
structure WriterCall where
  book : CommentBook
  answer : Except CommentError Unit

/-- The book of the last call that took one, or the book from the start. -/
def WriterCall.lastTaken (start : CommentBook) (calls : List WriterCall) : CommentBook :=
  ((calls.filter fun call => call.answer.isOk).getLast?.map WriterCall.book).getD start

/-- What an answer means to the box. -/
def WriteOutcome.ofAnswer : Except CommentError Unit → WriteOutcome
  | .ok () => .taken
  | .error error => .failed error

namespace CommentWriter

/-- How a writer that never crashes answers a book, with its state afterwards. -/
abbrev Answering (ω : Type) := CommentBook → ω → Except CommentError Unit × ω

/-- The writer with these answers. -/
def ofAnswers (answers : Answering ω) : CommentWriter ω := fun book device =>
  (.ofAnswer (answers book device).1, (answers book device).2)

/-- The writer with these answers, which keeps its calls beside its state. -/
def noting (answers : Answering ω) : CommentWriter (ω × List WriterCall) := fun book device =>
  (.ofAnswer (answers book device.1).1,
    (answers book device.1).2, device.2 ++ [⟨book, (answers book device.1).1⟩])

end CommentWriter

open CommentWriter (Answering noting ofAnswers)

/-- A change that was made, its answer, and the calls of the writer meanwhile. -/
structure Turn where
  change : CommentChange
  answer : Except CommentError Unit
  calls : List WriterCall

/-- A call of the writer failed. -/
def Turn.failed (turn : Turn) : Bool :=
  turn.calls.any fun call => !call.answer.isOk

/-- Makes a change and watches the writer. -/
def CommentBox.turn (change : CommentChange) (box : CommentBox (ω × List WriterCall)) :
    Turn × CommentBox (ω × List WriterCall) :=
  let (answer, after) := box.change change
  (⟨change, answer, after.device.2.drop box.device.2.length⟩, after)

/-- What a change comes to in a box with a writer, given what it does to the map. -/
inductive Turn.Commits (before : CommentBook) : Turn → CommentBook → Prop where
  /-- Another comment is there: the writer is not asked. -/
  | rejected (change : CommentChange) (conflict : Conflict) :
    CommentMap.change change before.at? = (.error (.conflict conflict), before.at?) →
    Commits before ⟨change, .error (.conflict conflict), []⟩ before
  /-- The map would stay as it is: the writer is not asked. -/
  | unchanged (change : CommentChange) :
    CommentMap.change change before.at? = (.ok (), before.at?) →
    Commits before ⟨change, .ok (), []⟩ before
  /-- The writer is handed the book with the changed map and takes it. -/
  | taken (change : CommentChange) (after : CommentBook) : after.Tidy → after.at? ≠ before.at? →
    CommentMap.change change before.at? = (.ok (), after.at?) →
    Commits before ⟨change, .ok (), [⟨after, .ok ()⟩]⟩ after
  /-- The writer is handed the book with the changed map and refuses it. -/
  | failed (change : CommentChange) (after : CommentBook) (error : CommentError) : after.Tidy →
    after.at? ≠ before.at? → CommentMap.change change before.at? = (.ok (), after.at?) →
    Commits before ⟨change, .error error, [⟨after, .error error⟩]⟩ before

/-! ### A change of a book -/

/-- What a change makes of a book: whether it has an effect is whether it changes the map. -/
inductive CommentBook.Applies (book : CommentBook) (change : CommentChange) :
    Except Conflict (Bool × CommentBook) → Prop where
  | rejected (conflict : Conflict) :
    CommentMap.change change book.at? = (.error (.conflict conflict), book.at?) →
    Applies book change (.error conflict)
  | unchanged (after : CommentBook) : CommentMap.change change book.at? = (.ok (), book.at?) →
    Applies book change (.ok (false, after))
  | changed (after : CommentBook) : after.Tidy → after.at? ≠ book.at? →
    CommentMap.change change book.at? = (.ok (), after.at?) → Applies book change (.ok (true, after))

theorem CommentBook.applies {book : CommentBook} (tidy : book.Tidy) (change : CommentChange) :
    book.Applies change (book.apply change) := by
  cases change with
  | put comment =>
    have inserts := inserts_add tidy comment
    rw [apply]
    cases there : book.at? comment.key with
    | none =>
      obtain ⟨after, added, tidyAfter, reads⟩ := inserts.added there
      have effect : after.at? ≠ book.at? := by
        intro same
        have found := congrFun same comment.key
        rw [reads, Function.update_self, there] at found
        cases found
      rw [added]
      refine .changed after tidyAfter effect ?_
      rw [CommentMap.change, there, reads]
    | some stored =>
      by_cases same : stored = comment
      · subst same
        rw [inserts.kept there]
        refine .unchanged book ?_
        rw [CommentMap.change, there]
        exact if_pos rfl
      · rw [inserts.rejected stored there same]
        refine .rejected _ ?_
        rw [CommentMap.change, there]
        exact if_neg same
  | delete comment =>
    have erases := erases_remove tidy comment
    rw [apply]
    rcases removed : book.remove comment with ⟨found, after⟩
    rw [removed] at erases
    have reads : after.at? = Function.update book.at? comment.key none := erases.erased
    cases there : book.at? comment.key with
    | none =>
      have nothing : found = false := erases.found.trans (by rw [there]; rfl)
      subst nothing
      refine .unchanged after ?_
      rw [CommentMap.change, ← there, Function.update_eq_self]
    | some stored =>
      have something : found = true := erases.found.trans (by rw [there]; rfl)
      subst something
      refine .changed after erases.sound (fun same => ?_) (by rw [CommentMap.change, reads])
      rw [reads] at same
      have missing := congrFun same comment.key
      rw [Function.update_self, there] at missing
      cases missing

namespace CommentBox

/-! ### One turn -/

/-- The box has this writer, answers, and its book is in order. -/
structure Persists (answers : Answering ω) (box : CommentBox (ω × List WriterCall)) : Prop where
  writer : box.writer = some (noting answers)
  intact : box.broken = false
  tidy : box.book.Tidy

variable {answers : Answering ω} {box : CommentBox (ω × List WriterCall)} {change : CommentChange}

theorem turn_of_rejected (persists : box.Persists answers) {conflict : Conflict}
    (rejected : box.book.apply change = .error conflict) :
    box.turn change = (⟨change, .error (.conflict conflict), []⟩, box) := by
  rw [turn, CommentBox.change, if_neg (Bool.eq_false_iff.1 persists.intact), rejected]
  dsimp only
  rw [List.drop_length]

theorem turn_of_unchanged (persists : box.Persists answers) {after : CommentBook}
    (unchanged : box.book.apply change = .ok (false, after)) :
    box.turn change = (⟨change, .ok (), []⟩, box) := by
  rw [turn, CommentBox.change, if_neg (Bool.eq_false_iff.1 persists.intact), unchanged]
  dsimp only
  rw [persists.writer]
  dsimp only
  rw [if_neg Bool.false_ne_true, List.drop_length]

/-- A change with an effect is one call of the writer, and the box keeps the book exactly if it is
taken. -/
theorem turn_of_changed (persists : box.Persists answers) {after : CommentBook}
    (changed : box.book.apply change = .ok (true, after)) {answer : Except CommentError Unit}
    {device : ω} (answered : answers after box.device.1 = (answer, device)) :
    box.turn change = (⟨change, answer, [⟨after, answer⟩]⟩,
      { box with
        book := if answer.isOk then after else box.book
        device := (device, box.device.2 ++ [⟨after, answer⟩]) }) := by
  rw [turn, CommentBox.change, if_neg (Bool.eq_false_iff.1 persists.intact), changed]
  dsimp only
  rw [persists.writer]
  dsimp only
  rw [if_pos rfl, save, noting, answered]
  cases answer with
  | ok _ =>
    dsimp only [WriteOutcome.ofAnswer]
    rw [List.drop_left, ← persists.writer]
    rfl
  | error error =>
    dsimp only [WriteOutcome.ofAnswer]
    rw [List.drop_left, ← persists.writer]
    rfl

/-- **Every change comes to one of the four things.** -/
theorem turn_commits (persists : box.Persists answers) (change : CommentChange) :
    Turn.Commits box.book (box.turn change).1 (box.turn change).2.book ∧
      (box.turn change).2.Persists answers := by
  have applies := CommentBook.applies persists.tidy change
  cases applied : box.book.apply change with
  | error conflict =>
    rw [applied] at applies
    obtain ⟨_, rejected⟩ := applies
    rw [turn_of_rejected persists applied]
    exact ⟨.rejected change conflict rejected, persists⟩
  | ok outcome =>
    rw [applied] at applies
    obtain ⟨effect, after⟩ := outcome
    cases effect with
    | false =>
      obtain ⟨⟩ | ⟨_, unchanged⟩ := applies
      rw [turn_of_unchanged persists applied]
      exact ⟨.unchanged change unchanged, persists⟩
    | true =>
      obtain ⟨⟩ | ⟨⟩ | ⟨_, tidy, differs, changed⟩ := applies
      cases answered : answers after box.device.1 with
      | mk answer device =>
        rw [turn_of_changed persists applied answered]
        cases answer with
        | ok _ => exact ⟨.taken change after tidy differs changed, persists.writer, persists.intact, tidy⟩
        | error error =>
          exact ⟨.failed change after error tidy differs changed, persists.writer, persists.intact,
            persists.tidy⟩

/-! ### Rows of turns -/

theorem book_of_commits {before after : CommentBook} {turn : Turn}
    (commits : turn.Commits before after) : after = WriterCall.lastTaken before turn.calls := by
  cases commits <;> rfl

theorem lastTaken_append (start : CommentBook) (first second : List WriterCall) :
    WriterCall.lastTaken start (first ++ second) =
      WriterCall.lastTaken (WriterCall.lastTaken start first) second := by
  rw [WriterCall.lastTaken, WriterCall.lastTaken, WriterCall.lastTaken, List.filter_append,
    List.getLast?_append]
  cases (second.filter fun call => call.answer.isOk).getLast? <;> rfl

/-- **The book is the one that was taken last.** -/
theorem book_of_turns (persists : box.Persists answers) (changes : List CommentChange) :
    (respond turn changes box).2.Persists answers ∧ (respond turn changes box).2.book =
      WriterCall.lastTaken box.book ((respond turn changes box).1.flatMap Turn.calls) := by
  induction changes generalizing box with
  | nil => exact ⟨persists, rfl⟩
  | cons change rest ih =>
    obtain ⟨commits, next⟩ := turn_commits persists change
    obtain ⟨last, taken⟩ := ih next
    refine ⟨last, ?_⟩
    rw [respond, List.flatMap_cons, lastTaken_append, ← book_of_commits commits]
    exact taken

/-- The box holds the same comments as a box without a writer. -/
structure Mirrors (answers : Answering ω) (box : CommentBox (ω × List WriterCall))
    (plain : CommentBox Unit) : Prop where
  persists : box.Persists answers
  represents : plain.Represents box.book.at?

/-- A turn without a failed call is the same change of the plain box, and a turn with one is none. -/
theorem turn_mirrors {plain : CommentBox Unit} (mirrors : Mirrors answers box plain)
    (change : CommentChange) :
    if (box.turn change).1.failed then Mirrors answers (box.turn change).2 plain
    else (plain.change change).1 = (box.turn change).1.answer ∧
      Mirrors answers (box.turn change).2 (plain.change change).2 := by
  obtain ⟨commits, persists⟩ := turn_commits mirrors.persists change
  obtain ⟨same, represents⟩ := represents_change mirrors.represents change
  have own : (box.turn change).1.change = change := rfl
  generalize box.turn change = outcome at commits persists own ⊢
  obtain ⟨turn, after⟩ := outcome
  dsimp only at commits persists own ⊢
  generalize book : after.book = committed at commits
  cases commits with
  | rejected _ conflict refused =>
    cases own
    rw [refused] at same represents
    exact ⟨same, persists, book ▸ represents⟩
  | unchanged _ kept =>
    cases own
    rw [kept] at same represents
    exact ⟨same, persists, book ▸ represents⟩
  | taken _ _ _ _ changed =>
    cases own
    rw [changed] at same represents
    exact ⟨same, persists, book ▸ represents⟩
  | failed _ _ _ _ _ _ => exact ⟨persists, book ▸ mirrors.represents⟩

/-- **The turns without a failed call** are those of a box without a writer. -/
theorem turns_mirror {plain : CommentBox Unit} (mirrors : Mirrors answers box plain)
    (changes : List CommentChange) :
    let turns := (respond turn changes box).1.filter fun turn => !turn.failed
    (respond CommentBox.change (turns.map Turn.change) plain).1 = turns.map Turn.answer ∧
      Mirrors answers (respond turn changes box).2
        (respond CommentBox.change (turns.map Turn.change) plain).2 := by
  induction changes generalizing box plain with
  | nil => exact ⟨rfl, mirrors⟩
  | cons change rest ih =>
    have step := turn_mirrors mirrors change
    dsimp only at ih ⊢
    rw [respond]
    cases failed : (box.turn change).1.failed with
    | true =>
      rw [if_pos failed] at step
      rw [List.filter_cons_of_neg (by rw [failed]; decide)]
      exact ih step
    | false =>
      rw [if_neg (Bool.eq_false_iff.1 failed)] at step
      rw [List.filter_cons_of_pos (by rw [failed]; rfl), List.map_cons, List.map_cons, respond]
      obtain ⟨same, next⟩ := step
      obtain ⟨others, last⟩ := ih next
      exact ⟨congrArg₂ _ same others, last⟩

/-- Watching the writer changes nothing. -/
theorem respond_turn (changes : List CommentChange) (box : CommentBox (ω × List WriterCall)) :
    (respond turn changes box).1.map Turn.answer = (respond CommentBox.change changes box).1 := by
  induction changes generalizing box with
  | nil => rfl
  | cons change rest ih => exact congrArg _ (ih _)

/-- The box whose writer keeps no notes. -/
structure Unwatched (answers : Answering ω) (box : CommentBox (ω × List WriterCall))
    (bare : CommentBox ω) : Prop where
  writer : box.writer = some (noting answers)
  bareWriter : bare.writer = some (ofAnswers answers)
  book : box.book = bare.book
  device : box.device.1 = bare.device
  broken : box.broken = bare.broken

theorem change_unwatched (change : CommentChange) (box : CommentBox (ω × List WriterCall))
    (bare : CommentBox ω) (unwatched : Unwatched answers box bare) :
    (box.change change).1 = (bare.change change).1 ∧
      Unwatched answers (box.change change).2 (bare.change change).2 := by
  obtain ⟨book, writer, ⟨device, calls⟩, broken⟩ := box
  obtain ⟨bareBook, bareWriter, bareDevice, bareBroken⟩ := bare
  obtain ⟨rfl, rfl, rfl, rfl, rfl⟩ := unwatched
  rw [CommentBox.change, CommentBox.change]
  cases broken with
  | true => exact ⟨rfl, rfl, rfl, rfl, rfl, rfl⟩
  | false =>
    dsimp only
    cases applied : book.apply change with
    | error conflict => exact ⟨rfl, rfl, rfl, rfl, rfl, rfl⟩
    | ok outcome =>
      obtain ⟨effect, after⟩ := outcome
      cases effect with
      | false => exact ⟨rfl, rfl, rfl, rfl, rfl, rfl⟩
      | true =>
        dsimp only
        rw [if_pos rfl, if_pos rfl, if_neg Bool.false_ne_true, if_neg Bool.false_ne_true, save, save,
          noting, ofAnswers]
        cases answers after device with
        | mk answer next => cases answer <;> exact ⟨rfl, rfl, rfl, rfl, rfl, rfl⟩

/-- **A box with a writer keeps what the writer takes.** For any writer that answers every book, and any
changes made one after another in a box that is empty at first:

* the next change comes to one of the four things of `Turn.Commits`, so the writer is handed the changed
  book exactly once if the change has an effect, and never otherwise;
* watching the writer changes no answer;
* the book is the one that the writer took last;
* the answers to the changes without a failed call, and of every read, are those of a box without a
  writer that is given only these changes. -/
theorem keeps_what_writer_takes (answers : Answering ω) (device : ω) (changes : List CommentChange) :
    let run := respond turn changes (ofWriter ∅ (noting answers) (device, []))
    let turns := run.1.filter fun turn => !turn.failed
    let plain := respond CommentBox.change (turns.map Turn.change) ofNothing
    (∀ change, Turn.Commits run.2.book (run.2.turn change).1 (run.2.turn change).2.book) ∧
      run.1.map Turn.answer =
        (respond CommentBox.change changes (ofWriter ∅ (ofAnswers answers) device)).1 ∧
      run.2.book = WriterCall.lastTaken ∅ (run.1.flatMap Turn.calls) ∧
      plain.1 = turns.map Turn.answer ∧
      ∀ repos start, run.2.read repos start = plain.2.read repos start := by
  intro run turns plain
  have persists : (ofWriter ∅ (noting answers) (device, [])).Persists answers :=
    ⟨rfl, rfl, Table.every_empty _⟩
  have mirrors : Mirrors answers (ofWriter ∅ (noting answers) (device, [])) ofNothing :=
    ⟨persists, represents_ofNothing⟩
  obtain ⟨last, taken⟩ := book_of_turns persists changes
  obtain ⟨same, mirrored⟩ := turns_mirror mirrors changes
  refine ⟨fun change => (turn_commits last change).1, ?_, taken, same, fun repos start => ?_⟩
  · rw [respond_turn]
    exact (respond_simulates change_unwatched changes ⟨rfl, rfl, rfl, rfl, rfl⟩).1
  · have answers : repos.map (run.2.book.since start) = repos.map (plain.2.book.since start) :=
      List.map_congr_left fun repo _ => CommentBook.since_congr mirrored.persists.tidy
        mirrored.represents.tidy mirrored.represents.holds.symm start repo
    rw [read, read, mirrored.represents.intact, mirrored.persists.intact, answers]

end CommentBox

end TaskLedger
