/-
**The polls of a cursor.** What the client of a cursor has been told, poll after poll.

* `CursorStep` — what happens to a cursor: tasks are recorded, or it is polled.
* `seen`, `fresh` — the tasks recorded up to the last poll, and since it.
* `overlay`, `consumed` — tasks laid over a table; the last delivered value of each task.
* `FeedCursor.Follows` — the invariant of a cursor and of the answers to its polls: the client has the
  newest values of what it has seen, and the stamps of a task rise from answer to answer.
* `NewestDelivered`, `Follows.newestDelivered` — what the next poll adds to that.
-/
import TaskLedger.Proofs.Feed.Cursor
import TaskLedger.Proofs.Table
import Mathlib.Data.List.DropRight

namespace TaskLedger

open Time (Instant)

/-! ### The steps of a cursor -/

/-- What happens to a cursor. -/
inductive CursorStep where
  | note (tasks : List Task)
  | poll (now : Instant)

namespace CursorStep

def isPoll : CursorStep → Bool
  | .note _ => false
  | .poll _ => true

def tasks : CursorStep → List Task
  | .note tasks => tasks
  | .poll _ => []

/-- The tasks that were recorded. -/
def noted (steps : List CursorStep) : List Task :=
  steps.flatMap tasks

/-- The tasks that were recorded up to the last poll. -/
def seen (steps : List CursorStep) : List Task :=
  noted (steps.rdropWhile fun step => !step.isPoll)

/-- The tasks that were recorded since the last poll. -/
def fresh (steps : List CursorStep) : List Task :=
  noted (steps.rtakeWhile fun step => !step.isPoll)

variable (steps : List CursorStep)

theorem noted_append (more : List CursorStep) : noted (steps ++ more) = noted steps ++ noted more :=
  List.flatMap_append

theorem seen_append_fresh : seen steps ++ fresh steps = noted steps := by
  rw [seen, fresh, noted, noted, ← List.flatMap_append, List.rdropWhile_append_rtakeWhile, noted]

theorem seen_note (tasks : List Task) : seen (steps ++ [.note tasks]) = seen steps := by
  rw [seen, List.rdropWhile_concat_pos _ _ _ rfl, seen]

theorem fresh_note (tasks : List Task) : fresh (steps ++ [.note tasks]) = fresh steps ++ tasks := by
  rw [fresh, List.rtakeWhile_concat_pos _ _ _ rfl, noted, List.flatMap_append,
    List.flatMap_singleton, fresh, noted]
  rfl

/-- What comes after the last poll is fresh. -/
theorem fresh_append_of_quiet {more : List CursorStep} (quiet : ∀ step ∈ more, step.isPoll = false) :
    fresh (steps ++ more) = fresh steps ++ noted more := by
  rw [fresh, List.rtakeWhile, List.reverse_append, List.takeWhile_append_of_pos, List.reverse_append,
    List.reverse_reverse, noted_append, fresh, List.rtakeWhile]
  intro step member
  rw [quiet step (List.mem_reverse.1 member)]
  rfl

theorem seen_poll (now : Instant) : seen (steps ++ [.poll now]) = noted steps := by
  rw [seen, List.rdropWhile_concat_neg _ _ _ Bool.false_ne_true, noted, List.flatMap_append,
    List.flatMap_singleton, noted]
  exact List.append_nil _

theorem fresh_poll (now : Instant) : fresh (steps ++ [.poll now]) = [] := by
  rw [fresh, List.rtakeWhile_concat_neg _ _ _ Bool.false_ne_true]
  rfl

end CursorStep

/-! ### What a client keeps -/

/-- Tasks laid over a table, each under its identifier and the later over the earlier. -/
def overlay (table : Table TaskId Task) (tasks : List Task) : Table TaskId Task :=
  (tasks.filterMap fun task => task.id.map fun id => (id, task)).foldl
    (fun table entry => table.insert entry.1 entry.2) table

/-- The last delivered value of each task. -/
def consumed (answers : List (List Task)) : Table TaskId Task :=
  overlay ∅ answers.flatten

section Overlay

variable {table : Table TaskId Task} {entries : List (TaskId × Task)}

theorem overlay_append (table : Table TaskId Task) (tasks more : List Task) :
    overlay table (tasks ++ more) = overlay (overlay table tasks) more := by
  rw [overlay, List.filterMap_append, List.foldl_append, overlay, overlay]

theorem consumed_concat (answers : List (List Task)) (answer : List Task) :
    consumed (answers ++ [answer]) = overlay (consumed answers) answer := by
  rw [consumed, List.flatten_append, List.flatten_singleton, overlay_append, consumed]

/-- Tasks lie over what the table holds. -/
theorem get?_overlay (table : Table TaskId Task) (tasks : List Task) (id : TaskId) :
    (overlay table tasks).get? id = ((overlay ∅ tasks).get? id).or (table.get? id) :=
  Table.get?_foldl_insert _ table id

theorem overlay_eq_foldl (table : Table TaskId Task)
    (named : ∀ entry ∈ entries, entry.2.id = some entry.1) :
    overlay table (entries.map (·.2)) =
      entries.foldl (fun table entry => table.insert entry.1 entry.2) table := by
  have same : (entries.map (·.2)).filterMap (fun task => task.id.map fun id => (id, task)) =
      entries := by
    rw [List.filterMap_map]
    conv_rhs => rw [← List.filterMap_some (l := entries)]
    refine List.filterMap_congr fun entry member => ?_
    simp only [Function.comp_apply, named entry member, Option.map_some]
  rw [overlay, same]

end Overlay

/-! ### Answer after answer -/

/-- The stamps of a task rise from one answer to another. -/
def Precedes (earlier later : List Task) : Prop :=
  ∀ a ∈ earlier, ∀ b ∈ later, a.id = b.id →
    ∃ s t, a.stamp = some s ∧ b.stamp = some t ∧ s < t

/-- What a poll adds to the earlier answers, given the tasks recorded up to the previous poll and those
recorded since it. -/
structure NewestDelivered (seen fresh : List Task) (earlier : List (List Task))
    (answer : List Task) : Prop where
  /-- The answer has the tasks with news, each once with its newest value, in the order of their first
  news. -/
  delivers : ∃ entries, answer = entries.map (·.2) ∧ Delivers seen fresh entries
  /-- The stamps of a task rise from poll to poll. -/
  increasing : (earlier ++ [answer]).Pairwise Precedes
  /-- The last delivered value of each task is the newest one recorded. -/
  kept : ∀ id, (consumed (earlier ++ [answer])).get? id = newestOf id (seen ++ fresh)
  /-- That value is the same for every order of the records. -/
  anyOrder : Unambiguous (seen ++ fresh) → ∀ other, other.Perm (seen ++ fresh) →
    ∀ id, newestOf id other = newestOf id (seen ++ fresh)

namespace FeedCursor

open CursorStep (seen fresh noted)

/-- A cursor after some steps, and the answers to its polls. -/
structure Follows (steps : List CursorStep) (answers : List (List Task)) (cursor : FeedCursor) :
    Prop where
  holds : cursor.Holds (seen steps) (fresh steps)
  /-- The client has the newest values of what it has seen. -/
  kept : ∀ id, (consumed answers).get? id = newestOf id (seen steps)
  within : ∀ answer ∈ answers, ∀ task ∈ answer, ∀ id, task.id = some id →
    ∃ stamp, task.stamp = some stamp ∧ stamp ≤ greatest id (seen steps)
  increasing : answers.Pairwise Precedes
  answered : answers.length = steps.countP CursorStep.isPoll

theorem follows_ofNow (now : Instant) : Follows [] [] (ofNow now) :=
  ⟨holds_ofNow now, fun _ => rfl, fun _ member => absurd member List.not_mem_nil, .nil, rfl⟩

variable {steps : List CursorStep} {answers : List (List Task)} {cursor : FeedCursor}

theorem Follows.note (follows : cursor.Follows steps answers) (tasks : List Task) :
    (cursor.pushAll tasks).Follows (steps ++ [.note tasks]) answers := by
  have seen := CursorStep.seen_note steps tasks
  refine ⟨?_, seen ▸ follows.kept, seen ▸ follows.within, follows.increasing, ?_⟩
  · rw [seen, CursorStep.fresh_note]
    exact follows.holds.pushAll tasks
  · rw [List.countP_append, follows.answered]
    rfl

/-- **A poll tells the client what is new.** -/
theorem Follows.newestDelivered (follows : cursor.Follows steps answers) :
    NewestDelivered (seen steps) (fresh steps) answers cursor.delivery := by
  have delivers := follows.holds.queued
  refine ⟨⟨cursor.queued, rfl, delivers⟩, ?_, fun id => ?_, fun unambiguous other reordered =>
    newestOf_eq_of_perm reordered unambiguous⟩
  -- What was delivered before is within the stamps seen, and what is delivered now exceeds them.
  · refine List.pairwise_append.2 ⟨follows.increasing, List.pairwise_singleton _ _, ?_⟩
    rintro earlier inside _ (_ | ⟨_, ⟨⟩⟩) a aMember b bMember sameTask
    obtain ⟨entry, queued, rfl⟩ := List.mem_map.1 bMember
    have named := delivers.id_eq queued
    obtain ⟨s, aStamped, bounded⟩ :=
      follows.within earlier inside a aMember entry.1 (sameTask.trans named)
    obtain ⟨-, -, t, bStamped, top⟩ := newestOf_eq_some (delivers.value entry queued)
    have risen := (delivers.listed entry.1).1 (List.mem_map_of_mem queued)
    rw [top] at risen
    exact ⟨s, t, aStamped, bStamped, WithBot.coe_lt_coe.1 (lt_of_le_of_lt bounded risen)⟩
  · rw [consumed_concat, delivery, overlay_eq_foldl _ fun entry member => delivers.id_eq member]
    by_cases listed : id ∈ cursor.queued.map (·.1)
    · obtain ⟨⟨_, task⟩, member, rfl⟩ := List.mem_map.1 listed
      rw [Table.get?_foldl_insert_of_mem _ delivers.once member]
      exact (delivers.value _ member).symm
    · rw [Table.get?_foldl_insert_of_not_mem _ listed, follows.kept]
      exact (newestOf_append_of_not_lt (mt (delivers.listed id).2 listed)).symm

theorem Follows.poll (follows : cursor.Follows steps answers) (now : Instant) :
    (cursor.polled now).Follows (steps ++ [.poll now]) (answers ++ [cursor.delivery]) := by
  have told := follows.newestDelivered
  have all := CursorStep.seen_append_fresh steps
  have nowSeen := CursorStep.seen_poll steps now
  refine ⟨?_, ?_, ?_, told.increasing, ?_⟩
  · rw [nowSeen, CursorStep.fresh_poll, ← all]
    exact follows.holds.polled now
  · rw [nowSeen, ← all]
    exact told.kept
  · rw [nowSeen]
    intro answer member task inside id named
    rcases List.mem_append.1 member with earlier | last
    · obtain ⟨stamp, stamped, bounded⟩ := follows.within answer earlier task inside id named
      refine ⟨stamp, stamped, le_trans bounded ?_⟩
      rw [← all]
      exact greatest_le_append id _ _
    · rw [List.mem_singleton.1 last] at inside
      obtain ⟨entry, queued, rfl⟩ := List.mem_map.1 inside
      obtain ⟨recorded, -, stamp, stamped, -⟩ :=
        newestOf_eq_some (follows.holds.queued.value entry queued)
      rw [all] at recorded
      exact ⟨stamp, stamped, le_greatest recorded named stamped⟩
  · rw [List.length_append, List.countP_append, follows.answered]
    rfl

end FeedCursor

end TaskLedger
