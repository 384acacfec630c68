/-
**The comment box.** The comments of all repositories, with a writer that keeps them safe.

* `CommentBook` — the comments by repository.
* `CommentWriter` — a device that takes the whole book, refuses it, or crashes on it.
* `CommentBox.change` — with a writer a change is made on a copy, which replaces the book only when
  the writer has taken it; changes without effect never reach the writer.
* `CommentBox.read` — the recent comments of the repositories asked for.
-/
import TaskLedger.Comment.Repo

namespace TaskLedger

open Json (Shape)
open Time (Instant)

/-- The comments of all repositories. -/
abbrev CommentBook := Table String RepoComments

namespace CommentBook

/-- All comments in JSON. -/
def shape : Shape CommentBook :=
  .tableOf RepoComments.shape

/-- The book with one more comment, and whether that changed anything. -/
def add (book : CommentBook) (comment : Comment) : Except Conflict (Bool × CommentBook) :=
  let ofRepo := (book.get? comment.repo).getD (.ofRepo comment.repo)
  (ofRepo.add comment).map fun (changed, comments) => (changed, book.insert comment.repo comments)

/-- The book without the comment that has the same identity, and whether there was one. -/
def remove (book : CommentBook) (comment : Comment) : Bool × CommentBook :=
  match book.get? comment.repo with
  | some ofRepo =>
    let (removed, comments) := ofRepo.remove comment
    (removed, book.insert comment.repo comments)
  | none => (false, book)

/-- The comments of a repository made at a time or later. -/
def since (book : CommentBook) (start : Instant) (repo : String) : RepoComments :=
  match book.get? repo with
  | some comments => comments.since start
  | none => .ofRepo repo

end CommentBook

/-- A call of a comment box failed. -/
inductive CommentError where
  | conflict (cause : Conflict)
  | persistence (cause : String)
  /-- The writer crashed during the call. -/
  | crashed
deriving DecidableEq

namespace CommentError

/-- The message of the error. -/
def message : CommentError → String
  | .conflict cause => cause.message
  | .persistence cause => "persistence error: " ++ cause
  | .crashed => "comment writer crashed"

/-- A different comment with the same identity is there. -/
def isAlreadyExists : CommentError → Bool
  | .conflict _ => true
  | _ => false

end CommentError

/-- What a writer does with a book. -/
inductive WriteOutcome where
  | taken
  | failed (error : CommentError)
  | crashed
deriving DecidableEq

/-- A device that keeps the comments safe; `ω` is its state. -/
abbrev CommentWriter (ω : Type) := CommentBook → ω → WriteOutcome × ω

/-- A box of comments. -/
structure CommentBox (ω : Type) where
  book : CommentBook
  writer : Option (CommentWriter ω)
  device : ω
  /-- The writer crashed during a change; no call is answered any more. -/
  broken : Bool

/-- A change of the comments. -/
inductive CommentChange where
  | put (comment : Comment)
  | delete (comment : Comment)
deriving DecidableEq

/-- The book after a change, and whether that changed anything. -/
def CommentBook.apply (book : CommentBook) : CommentChange → Except Conflict (Bool × CommentBook)
  | .put comment => book.add comment
  | .delete comment => .ok (book.remove comment)

namespace CommentBox

variable {ω : Type}

/-- A box without writer, and empty. -/
def ofNothing : CommentBox Unit :=
  ⟨∅, none, (), false⟩

/-- A box with comments and a writer that is told of every change. -/
def ofWriter (book : CommentBook) (writer : CommentWriter ω) (device : ω) : CommentBox ω :=
  ⟨book, some writer, device, false⟩

/-- The error of every call after a crash. -/
def brokenError : CommentError :=
  .persistence "comment box is broken"

/-- Hands a changed book to the writer and keeps it if the writer takes it. -/
def save (writer : CommentWriter ω) (changed : CommentBook) (box : CommentBox ω) :
    Except CommentError Unit × CommentBox ω :=
  match writer changed box.device with
  | (.taken, device) => (.ok (), { box with book := changed, device := device })
  | (.failed error, device) => (.error error, { box with device := device })
  | (.crashed, device) => (.error .crashed, { box with device := device, broken := true })

/-- Makes a change. -/
def change (change : CommentChange) (box : CommentBox ω) :
    Except CommentError Unit × CommentBox ω :=
  if box.broken then (.error brokenError, box)
  else
    match box.book.apply change with
    | .error conflict => (.error (.conflict conflict), box)
    | .ok (changed, book) =>
      match box.writer with
      | none => (.ok (), { box with book := book })
      | some writer => if changed then box.save writer book else (.ok (), box)

/-- Puts a comment into the box. -/
def put (comment : Comment) (box : CommentBox ω) : Except CommentError Unit × CommentBox ω :=
  box.change (.put comment)

/-- Takes the comment with the same identity out of the box. -/
def delete (comment : Comment) (box : CommentBox ω) : Except CommentError Unit × CommentBox ω :=
  box.change (.delete comment)

/-- The comments of repositories made at a time or later, one answer for each repository asked. -/
def read (repos : List String) (start : Instant) (box : CommentBox ω) :
    Except CommentError (List RepoComments) :=
  if box.broken then .error brokenError else .ok (repos.map (box.book.since start))

/-- What the box says of itself. -/
def description (box : CommentBox ω) : String :=
  "CommentBox \x7b persistent: " ++ (if box.writer.isSome then "true" else "false") ++ ", .. \x7d"

end CommentBox

end TaskLedger
