/-
**A comment box is a map.** A box without a writer behaves as the map from what identifies comments to
comments.

* `CommentKey`, `CommentMap` — the map; `CommentMap.change` is what a change does to it.
* `respond`, `respond_simulates`, `respond_keeps` — a row of calls, the simulation of one machine by another,
  and invariants.
* `CommentBox.Represents` — the box holds what the map holds, in order; `represents_change` keeps it.
* `CommentMap.Answers` — what a read of one repository answers.
* `CommentBox.refines_map` — the theorem.
-/
import TaskLedger.Comment.Box
import TaskLedger.Proofs.Comment.Repo
import Mathlib.Data.List.Forall2

namespace TaskLedger

open Time (Instant)

/-! ### The map -/

/-- What identifies a comment: its repository, what it is about, and its time. -/
abbrev CommentKey := String × Subject × Instant

def Comment.key (comment : Comment) : CommentKey :=
  (comment.repo, comment.subject, comment.time)

/-- Comments by what identifies them. -/
abbrev CommentMap := CommentKey → Option Comment

/-- What a change does to a map, with its answer. -/
def CommentMap.change : CommentChange → CommentMap → Except CommentError Unit × CommentMap
  | .put comment, map =>
    match map comment.key with
    | none => (.ok (), Function.update map comment.key (some comment))
    | some stored =>
      if stored = comment then (.ok (), map) else (.error (.conflict ⟨comment.identity⟩), map)
  | .delete comment, map => (.ok (), Function.update map comment.key none)

/-- What a read of a repository answers: its comments that are not too early, all of them in order and
each under its own subject. -/
structure CommentMap.Answers (map : CommentMap) (start : Instant) (repo : String)
    (answer : RepoComments) : Prop where
  tidy : answer.Tidy repo
  filed : ∀ subject comment, comment ∈ answer.under subject ↔ comment.subject = subject ∧
    comment.repo = repo ∧ start ≤ comment.time ∧ map comment.key = some comment

/-! ### Rows of calls -/

section Rows

variable {σ τ α β : Type}

/-- The answers to a row of calls, and the state after them. -/
def respond (step : α → σ → β × σ) : List α → σ → List β × σ
  | [], state => ([], state)
  | call :: rest, state =>
    let last := respond step rest (step call state).2
    ((step call state).1 :: last.1, last.2)

/-- What simulates every call simulates a row of them. -/
theorem respond_simulates {step : α → σ → β × σ} {step' : α → τ → β × τ} {Related : σ → τ → Prop}
    (simulates : ∀ call state state', Related state state' →
      (step call state).1 = (step' call state').1 ∧
        Related (step call state).2 (step' call state').2)
    (calls : List α) {state : σ} {state' : τ} (related : Related state state') :
    (respond step calls state).1 = (respond step' calls state').1 ∧
      Related (respond step calls state).2 (respond step' calls state').2 := by
  induction calls generalizing state state' with
  | nil => exact ⟨rfl, related⟩
  | cons call rest ih =>
    obtain ⟨same, next⟩ := simulates call state state' related
    obtain ⟨others, last⟩ := ih next
    exact ⟨by rw [respond, respond, same, others], last⟩

/-- What every call keeps is kept by a row of them. -/
theorem respond_keeps {step : α → σ → β × σ} {Holds : σ → Prop}
    (keeps : ∀ call state, Holds state → Holds (step call state).2) (calls : List α) {state : σ}
    (holds : Holds state) : Holds (respond step calls state).2 := by
  induction calls generalizing state with
  | nil => exact holds
  | cons call rest ih => exact ih (keeps call state holds)

end Rows

/-! ### The book -/

namespace CommentBook

/-- The comment that this identifies. -/
def at? : CommentBook → CommentKey → Option Comment :=
  Table.within RepoComments.at?

/-- The comments of every repository are in order. -/
def Tidy : CommentBook → Prop :=
  Table.Every RepoComments.Tidy

variable {book : CommentBook}

theorem at?_ofRepo (repo : String) (key : Subject × Instant) :
    (RepoComments.ofRepo repo).at? key = none := by
  obtain ⟨subject, time⟩ := key
  cases subject <;> rfl

theorem inserts_add (tidy : Tidy book) (comment : Comment) :
    Inserts at? Tidy comment.key comment ⟨comment.identity⟩ book (book.add comment) := by
  have ofRepo : ((book.get? comment.repo).getD (.ofRepo comment.repo)).Tidy comment.repo :=
    Table.Every.getD tidy (RepoComments.tidy_ofRepo comment.repo)
  exact (RepoComments.inserts_add ofRepo comment).insert tidy (at?_ofRepo comment.repo)

theorem erases_remove (tidy : Tidy book) (comment : Comment) :
    Erases at? Tidy comment.key book (book.remove comment) := by
  rw [remove]
  cases held : book.get? comment.repo with
  | none => exact .absent (Table.within_of_none held _) tidy
  | some comments =>
    have erases := RepoComments.erases_remove (tidy comment.repo comments held) comment
    exact erases.insert held tidy erases.sound

theorem tidy_since (tidy : Tidy book) (start : Instant) (repo : String) :
    (book.since start repo).Tidy repo := by
  rw [since]
  cases held : book.get? repo with
  | none => exact RepoComments.tidy_ofRepo repo
  | some comments => exact RepoComments.tidy_since (tidy repo comments held) start

theorem at?_since (tidy : Tidy book) (start : Instant) (repo : String) (key : Subject × Instant) :
    (book.since start repo).at? key =
      (at? book (repo, key)).filter fun comment => start ≤ comment.time := by
  rw [since, at?]
  cases held : book.get? repo with
  | none =>
    rw [Table.within_of_none held]
    exact at?_ofRepo repo key
  | some comments =>
    rw [Table.within_of_some held]
    exact RepoComments.at?_since (tidy repo comments held) start key

/-- **The comments of a repository** made at a time or later. -/
theorem answers_since (tidy : Tidy book) (filed : ∀ key comment, at? book key = some comment →
    comment.key = key) (start : Instant) (repo : String) :
    CommentMap.Answers (at? book) start repo (book.since start repo) := by
  have ofRepo := tidy_since tidy start repo
  refine ⟨ofRepo, fun subject comment => ?_⟩
  rw [RepoComments.mem_under_iff ofRepo, at?_since tidy, Option.filter_eq_some_iff,
    decide_eq_true_eq]
  constructor
  · rintro ⟨there, recent⟩
    have key := filed _ comment there
    rw [← key] at there
    obtain ⟨sameRepo, sameSubject, -⟩ : comment.repo = repo ∧ comment.subject = subject ∧ _ := by
      rw [Comment.key, Prod.mk.injEq, Prod.mk.injEq] at key
      exact key
    exact ⟨sameSubject, sameRepo, recent, there⟩
  · rintro ⟨rfl, rfl, recent, there⟩
    exact ⟨there, recent⟩

end CommentBook

/-! ### The box -/

namespace CommentBox

/-- A box without a writer holds what a map holds. -/
structure Represents (box : CommentBox Unit) (map : CommentMap) : Prop where
  writer : box.writer = none
  intact : box.broken = false
  tidy : box.book.Tidy
  holds : box.book.at? = map
  filed : ∀ key comment, map key = some comment → comment.key = key

theorem represents_ofNothing : Represents ofNothing fun _ => none where
  writer := rfl
  intact := rfl
  tidy := Table.every_empty _
  holds := rfl
  filed _ _ found := nomatch found

variable {box : CommentBox Unit} {map : CommentMap}

/-- One comment is put into the book, or taken out. -/
theorem Represents.update (represents : box.Represents map) {book : CommentBook} {key : CommentKey}
    {value : Option Comment} (own : ∀ comment, value = some comment → comment.key = key)
    (tidy : book.Tidy) (reads : book.at? = Function.update map key value) :
    ({ box with book := book } : CommentBox Unit).Represents (Function.update map key value) := by
  refine ⟨represents.writer, represents.intact, tidy, reads, fun other comment found => ?_⟩
  by_cases here : other = key
  · rw [here, Function.update_self] at found
    rw [here, own comment found]
  · rw [Function.update_of_ne here] at found
    exact represents.filed other comment found

/-- Without a writer a change is made at once. -/
theorem change_of_plain (writer : box.writer = none) (intact : box.broken = false)
    (change : CommentChange) : box.change change =
      match box.book.apply change with
      | .error conflict => (.error (.conflict conflict), box)
      | .ok (_, book) => (.ok (), { box with book := book }) := by
  rw [CommentBox.change, if_neg (Bool.eq_false_iff.1 intact)]
  cases box.book.apply change with
  | error conflict => rfl
  | ok changed =>
    dsimp only
    rw [writer]

/-- **A change of the box is the change of the map.** -/
theorem represents_change (represents : box.Represents map) (change : CommentChange) :
    (box.change change).1 = (map.change change).1 ∧
      (box.change change).2.Represents (map.change change).2 := by
  have holds := represents.holds
  subst holds
  rw [change_of_plain represents.writer represents.intact]
  cases change with
  | put comment =>
    have inserts := CommentBook.inserts_add represents.tidy comment
    rw [CommentBook.apply, CommentMap.change]
    cases there : box.book.at? comment.key with
    | none =>
      obtain ⟨after, added, tidy, reads⟩ := inserts.added there
      have own (other : Comment) (same : some comment = some other) : other.key = comment.key :=
        congrArg _ (Option.some.inj same).symm
      rw [added]
      exact ⟨rfl, represents.update own tidy reads⟩
    | some stored =>
      dsimp only
      by_cases same : stored = comment
      · subst same
        rw [if_pos rfl, inserts.kept there]
        exact ⟨rfl, represents⟩
      · rw [if_neg same, inserts.rejected stored there same]
        exact ⟨rfl, represents⟩
  | delete comment =>
    have erases := CommentBook.erases_remove represents.tidy comment
    rw [CommentBook.apply, CommentMap.change]
    exact ⟨rfl, represents.update (fun _ same => nomatch same) erases.sound erases.erased⟩

/-- **A comment box is a map** from what identifies comments to comments. For any changes, made one after
another in an empty box without a writer, the answers are those of the map, and every later read
answers for each repository asked, in order, what the map has. -/
theorem refines_map (changes : List CommentChange) (repos : List String) (start : Instant) :
    (respond CommentBox.change changes ofNothing).1 =
        (respond CommentMap.change changes fun _ => none).1 ∧
      ∃ answers, (respond CommentBox.change changes ofNothing).2.read repos start = .ok answers ∧
        List.Forall₂ ((respond CommentMap.change changes fun _ => none).2.Answers start) repos
          answers := by
  have simulates (change : CommentChange) (box : CommentBox Unit) (map : CommentMap)
      (represents : box.Represents map) := represents_change represents change
  obtain ⟨same, represents⟩ := respond_simulates simulates changes represents_ofNothing
  refine ⟨same, _, by rw [read, represents.intact]; exact if_neg Bool.false_ne_true, ?_⟩
  rw [← represents.holds]
  rw [List.forall₂_map_right_iff, List.forall₂_same]
  exact fun repo _ => CommentBook.answers_since represents.tidy
    (represents.holds ▸ represents.filed) start repo

end CommentBox

end TaskLedger
