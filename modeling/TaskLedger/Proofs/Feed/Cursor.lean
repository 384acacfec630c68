/-
**What a cursor holds.** A cursor that is told of tasks in any order holds, between two polls, the
newest value of every task with news.

* `IsNewsAt`, `FirstNews` — a record is news of its task when its stamp exceeds every one before it.
* `Delivers` — what a poll delivers, given the tasks recorded up to the previous poll and those recorded
  since it.
* `FeedCursor.Holds` — the invariant: the stamps that a cursor knows are the greatest ones recorded, and
  its queue is what a poll delivers.
* `Holds.push`, `Holds.polled` — a recorded task and a poll keep it.
-/
import TaskLedger.Proofs.Feed.Newest
import TaskLedger.Store.Feed
import Mathlib.Data.List.Nodup

namespace TaskLedger

open Time (Instant)

/-! ### News -/

/-- The record at a place of `fresh` is news of a task: its stamp exceeds every stamp recorded for the
task before it. -/
def IsNewsAt (seen fresh : List Task) (id : TaskId) (place : Nat) : Prop :=
  ∃ task stamp, fresh[place]? = some task ∧ task.recordOf? id = some (stamp, task) ∧
    greatest id (seen ++ fresh.take place) < stamp

/-- The first news of a task. -/
structure FirstNews (seen fresh : List Task) (id : TaskId) (place : Nat) : Prop where
  news : IsNewsAt seen fresh id place
  first : ∀ earlier < place, ¬IsNewsAt seen fresh id earlier

section News

variable {seen fresh : List Task} {id : TaskId} {place : Nat}

theorem IsNewsAt.lt_length (news : IsNewsAt seen fresh id place) : place < fresh.length := by
  obtain ⟨task, -, found, -⟩ := news
  exact (List.getElem?_eq_some_iff.1 found).1

theorem isNewsAt_append_iff (more : List Task) (inside : place < fresh.length) :
    IsNewsAt seen (fresh ++ more) id place ↔ IsNewsAt seen fresh id place := by
  rw [IsNewsAt, IsNewsAt, List.getElem?_append_left inside,
    List.take_append_of_le_length (Nat.le_of_lt inside)]

theorem FirstNews.append (firstNews : FirstNews seen fresh id place) (more : List Task) :
    FirstNews seen (fresh ++ more) id place := by
  have inside := firstNews.news.lt_length
  refine ⟨(isNewsAt_append_iff more inside).2 firstNews.news, fun earlier before news => ?_⟩
  exact firstNews.first earlier before
    ((isNewsAt_append_iff more (Nat.lt_trans before inside)).1 news)

/-- News raise the greatest stamp. -/
theorem IsNewsAt.lt_greatest (news : IsNewsAt seen fresh id place) :
    greatest id seen < greatest id (seen ++ fresh) := by
  obtain ⟨task, stamp, found, record, exceeds⟩ := news
  obtain ⟨named, stamped, -⟩ := Task.recordOf?_eq_some_iff.1 record
  refine lt_of_le_of_lt (greatest_le_append id seen _) (lt_of_lt_of_le exceeds ?_)
  exact le_greatest (List.mem_append_right _ (List.mem_of_getElem? found)) named stamped

/-- A record that is news when it comes is the first news of a task that had none. -/
theorem firstNews_concat {task : Task} {stamp : Instant}
    (record : task.recordOf? id = some (stamp, task))
    (news : greatest id (seen ++ fresh) < stamp)
    (quiet : ¬greatest id seen < greatest id (seen ++ fresh)) :
    FirstNews seen (fresh ++ [task]) id fresh.length := by
  refine ⟨⟨task, stamp, List.getElem?_concat_length, record, ?_⟩, fun earlier before isNews => ?_⟩
  · rw [List.take_left]
    exact news
  · exact quiet ((isNewsAt_append_iff [task] before).1 isNews).lt_greatest

end News

/-! ### What a poll delivers -/

/-- What a poll delivers, given the tasks recorded up to the previous poll and those recorded since. -/
structure Delivers (seen fresh : List Task) (entries : List (TaskId × Task)) : Prop where
  /-- A task is delivered exactly when its greatest stamp has risen since the previous poll. -/
  listed : ∀ id, id ∈ entries.map (·.1) ↔ greatest id seen < greatest id (seen ++ fresh)
  once : (entries.map (·.1)).Nodup
  /-- It is delivered with the earliest value that carries its greatest stamp. -/
  value : ∀ entry ∈ entries, newestOf entry.1 (seen ++ fresh) = some entry.2
  /-- The tasks stand in the order of their first news since the previous poll. -/
  placed : ∃ place : TaskId → Nat, (∀ id ∈ entries.map (·.1), FirstNews seen fresh id (place id)) ∧
    (entries.map (·.1)).Pairwise fun earlier later => place earlier < place later

namespace Delivers

theorem nil (seen : List Task) : Delivers seen [] [] := by
  refine ⟨fun id => ?_, List.nodup_nil, fun entry member => absurd member List.not_mem_nil,
    fun _ => 0, fun id member => absurd member List.not_mem_nil, .nil⟩
  rw [List.append_nil]
  exact iff_of_false List.not_mem_nil (lt_irrefl _)

variable {seen fresh : List Task} {entries : List (TaskId × Task)} {task : Task}

theorem id_eq (delivers : Delivers seen fresh entries) {entry : TaskId × Task}
    (member : entry ∈ entries) : entry.2.id = some entry.1 :=
  (newestOf_eq_some (delivers.value entry member)).2.1

/-- A task that is no news changes nothing. -/
theorem ignore (delivers : Delivers seen fresh entries)
    (stale : ∀ id stamp, task.recordOf? id = some (stamp, task) →
      ¬greatest id (seen ++ fresh) < stamp) :
    Delivers seen (fresh ++ [task]) entries := by
  have same (id : TaskId) :
      greatest id (seen ++ fresh ++ [task]) = greatest id (seen ++ fresh) :=
    greatest_concat_of_stale (stale id)
  obtain ⟨place, firsts, ascending⟩ := delivers.placed
  refine ⟨fun id => ?_, delivers.once, fun entry member => ?_, place,
    fun id member => (firsts id member).append [task], ascending⟩
  · rw [← List.append_assoc, same]
    exact delivers.listed id
  · rw [← List.append_assoc, newestOf_append_of_not_lt (same entry.1 ▸ lt_irrefl _)]
    exact delivers.value entry member

/-- News of a task that is queued already change its value in place. -/
theorem replace (delivers : Delivers seen fresh entries) {id : TaskId} {stamp : Instant}
    (record : task.recordOf? id = some (stamp, task))
    (news : greatest id (seen ++ fresh) < stamp) {changed : List (TaskId × Task)}
    (queued : id ∈ entries.map (·.1)) (sameIds : changed.map (·.1) = entries.map (·.1))
    (values : ∀ entry ∈ changed, entry = (id, task) ∨ entry ∈ entries ∧ entry.1 ≠ id) :
    Delivers seen (fresh ++ [task]) changed := by
  obtain ⟨place, firsts, ascending⟩ := delivers.placed
  have named := (Task.recordOf?_eq_some_iff.1 record).1
  rw [← sameIds] at ascending
  refine ⟨fun other => ?_, sameIds ▸ delivers.once, fun entry member => ?_, place,
    fun other member => (firsts other (sameIds ▸ member)).append [task], ascending⟩
  · rw [sameIds, delivers.listed, ← List.append_assoc]
    by_cases own : other = id
    · subst own
      have risen := (delivers.listed other).1 queued
      exact iff_of_true risen (lt_of_lt_of_le risen (greatest_le_append other _ [task]))
    · rw [greatest_concat_of_none (Task.recordOf?_of_ne named own)]
  · rw [← List.append_assoc]
    rcases values entry member with rfl | ⟨inside, other⟩
    · exact newestOf_concat_of_lt record news
    · rw [newestOf_concat_of_none (Task.recordOf?_of_ne named other), delivers.value entry inside]

/-- News of a task that is not queued yet come last. -/
theorem append (delivers : Delivers seen fresh entries) {id : TaskId} {stamp : Instant}
    (record : task.recordOf? id = some (stamp, task))
    (news : greatest id (seen ++ fresh) < stamp) (missing : id ∉ entries.map (·.1)) :
    Delivers seen (fresh ++ [task]) (entries ++ [(id, task)]) := by
  obtain ⟨place, firsts, ascending⟩ := delivers.placed
  have named := (Task.recordOf?_eq_some_iff.1 record).1
  have quiet := mt (delivers.listed id).2 missing
  have ids : (entries ++ [(id, task)]).map (·.1) = entries.map (·.1) ++ [id] := List.map_append
  have different : ∀ other ∈ entries.map (·.1), other ≠ id := fun other inside same =>
    missing (same ▸ inside)
  refine ⟨fun other => ?_, ?_, fun entry member => ?_, Function.update place id fresh.length, ?_, ?_⟩
  · rw [ids, List.mem_append, delivers.listed, ← List.append_assoc, List.mem_singleton]
    by_cases own : other = id
    · subst own
      refine iff_of_true (.inr rfl) ?_
      rw [greatest_concat_of_some record]
      exact lt_max_of_lt_right (lt_of_le_of_lt (greatest_le_append other seen fresh) news)
    · rw [greatest_concat_of_none (Task.recordOf?_of_ne named own), or_iff_left own]
  · rw [ids, List.nodup_append_comm]
    exact List.nodup_cons.2 ⟨missing, delivers.once⟩
  · rw [← List.append_assoc]
    rcases List.mem_append.1 member with inside | new
    · have other := different entry.1 (List.mem_map_of_mem inside)
      rw [newestOf_concat_of_none (Task.recordOf?_of_ne named other), delivers.value entry inside]
    · rw [List.mem_singleton.1 new]
      exact newestOf_concat_of_lt record news
  · rw [ids, List.forall_mem_append, List.forall_mem_singleton, Function.update_self]
    refine ⟨fun other inside => ?_, firstNews_concat record news quiet⟩
    rw [Function.update_of_ne (different other inside)]
    exact (firsts other inside).append [task]
  · rw [ids, List.pairwise_append]
    refine ⟨ascending.imp_of_mem fun {a b} first second less => ?_, List.pairwise_singleton _ _,
      fun other inside last isLast => ?_⟩
    · rwa [Function.update_of_ne (different a first), Function.update_of_ne (different b second)]
    · rw [List.mem_singleton.1 isLast, Function.update_self,
        Function.update_of_ne (different other inside)]
      exact (firsts other inside).news.lt_length

end Delivers

/-! ### The cursor -/

namespace FeedCursor

/-- The newest stamp that a cursor knows of a task; `⊥` when it knows none. -/
def latest (cursor : FeedCursor) (id : TaskId) : WithBot Instant :=
  match cursor.newest.get? id with
  | some stamp => stamp
  | none => ⊥

theorem isNews_iff {cursor : FeedCursor} {id : TaskId} {stamp : Instant} :
    cursor.isNews id stamp = true ↔ cursor.latest id < stamp := by
  rw [isNews, latest]
  cases cursor.newest.get? id with
  | none => exact iff_of_true rfl (WithBot.bot_lt_coe stamp)
  | some newest => rw [decide_eq_true_eq, WithBot.coe_lt_coe]

section Enqueue

variable {id : TaskId} {task : Task} {queued : List (TaskId × Task)}

theorem map_fst_enqueue_of_mem (inside : id ∈ queued.map (·.1)) :
    (enqueue id task queued).map (·.1) = queued.map (·.1) := by
  induction queued with
  | nil => cases inside
  | cons entry rest ih =>
    rw [enqueue]
    by_cases own : entry.1 = id
    · rw [if_pos own, List.map_cons, List.map_cons, own]
    · rw [List.map_cons, List.mem_cons, or_iff_right (Ne.symm own)] at inside
      rw [if_neg own, List.map_cons, List.map_cons, ih inside]

theorem enqueue_of_not_mem (missing : id ∉ queued.map (·.1)) :
    enqueue id task queued = queued ++ [(id, task)] := by
  induction queued with
  | nil => rfl
  | cons entry rest ih =>
    rw [List.map_cons, List.mem_cons, not_or] at missing
    rw [enqueue, if_neg (Ne.symm missing.1), ih missing.2, List.cons_append]

theorem mem_enqueue (once : (queued.map (·.1)).Nodup) {entry : TaskId × Task}
    (member : entry ∈ enqueue id task queued) :
    entry = (id, task) ∨ entry ∈ queued ∧ entry.1 ≠ id := by
  induction queued with
  | nil => exact .inl (List.mem_singleton.1 member)
  | cons head rest ih =>
    rw [List.map_cons, List.nodup_cons] at once
    rw [enqueue] at member
    by_cases own : head.1 = id
    · rw [if_pos own] at member
      rcases List.mem_cons.1 member with new | inside
      · exact .inl new
      · exact .inr ⟨List.mem_cons_of_mem _ inside, fun same =>
          once.1 (own.trans same.symm ▸ List.mem_map_of_mem inside)⟩
    · rw [if_neg own] at member
      rcases List.mem_cons.1 member with rfl | inside
      · exact .inr ⟨.head _, own⟩
      · exact (ih once.2 inside).imp_right fun found => ⟨List.mem_cons_of_mem _ found.1, found.2⟩

end Enqueue

/-- What a cursor holds after the tasks `seen` were recorded up to its last poll, and `fresh` since. -/
structure Holds (seen fresh : List Task) (cursor : FeedCursor) : Prop where
  latest : ∀ id, cursor.latest id = greatest id (seen ++ fresh)
  queued : Delivers seen fresh cursor.queued

theorem holds_ofNow (now : Instant) : Holds [] [] (ofNow now) :=
  ⟨fun _ => rfl, .nil []⟩

variable {seen fresh : List Task} {cursor : FeedCursor}

theorem push_of_not_news {task : Task}
    (stale : ∀ id stamp, task.recordOf? id = some (stamp, task) → ¬cursor.latest id < stamp) :
    cursor.push task = cursor := by
  unfold push
  split
  · rename_i id stamp named stamped
    rw [if_neg]
    exact mt isNews_iff.1 (stale id stamp (Task.recordOf?_eq_some named stamped))
  · rfl

theorem push_of_news {task : Task} {id : TaskId} {stamp : Instant}
    (record : task.recordOf? id = some (stamp, task)) (news : cursor.latest id < stamp) :
    cursor.push task =
      { cursor with
        newest := cursor.newest.insert id stamp, queued := enqueue id task cursor.queued } := by
  obtain ⟨named, stamped, -⟩ := Task.recordOf?_eq_some_iff.1 record
  unfold push
  rw [named, stamped]
  exact if_pos (isNews_iff.2 news)

/-- **A recorded task** joins what was recorded since the last poll. -/
theorem Holds.push (holds : cursor.Holds seen fresh) (task : Task) :
    (cursor.push task).Holds seen (fresh ++ [task]) := by
  by_cases news : ∃ id stamp, task.recordOf? id = some (stamp, task) ∧ cursor.latest id < stamp
  · obtain ⟨id, stamp, record, less⟩ := news
    have named := (Task.recordOf?_eq_some_iff.1 record).1
    rw [push_of_news record less]
    rw [holds.latest] at less
    constructor
    · intro other
      show (match (cursor.newest.insert id stamp).get? other with
        | some stamp => (stamp : WithBot Instant)
        | none => ⊥) = _
      rw [← List.append_assoc]
      by_cases own : other = id
      · subst own
        rw [Table.get?_insert_self, greatest_concat_of_some record, max_eq_right (le_of_lt less)]
      · rw [Table.get?_insert_of_ne _ _ own,
          greatest_concat_of_none (Task.recordOf?_of_ne named own), ← holds.latest]
        rfl
    · by_cases queued : id ∈ cursor.queued.map (·.1)
      · exact holds.queued.replace record less queued (map_fst_enqueue_of_mem queued)
          fun entry => mem_enqueue holds.queued.once
      · show Delivers seen (fresh ++ [task]) (enqueue id task cursor.queued)
        rw [enqueue_of_not_mem queued]
        exact holds.queued.append record less queued
  · have stale (id : TaskId) (stamp : Instant)
        (record : task.recordOf? id = some (stamp, task)) : ¬cursor.latest id < stamp :=
      fun less => news ⟨id, stamp, record, less⟩
    rw [push_of_not_news stale]
    simp only [holds.latest] at stale
    refine ⟨fun id => ?_, holds.queued.ignore stale⟩
    rw [← List.append_assoc, greatest_concat_of_stale (stale id), holds.latest]

theorem Holds.pushAll (holds : cursor.Holds seen fresh) (tasks : List Task) :
    (cursor.pushAll tasks).Holds seen (fresh ++ tasks) := by
  induction tasks generalizing cursor fresh with
  | nil =>
    rw [List.append_nil]
    exact holds
  | cons task rest ih =>
    rw [List.append_cons]
    exact ih (holds.push task)

/-- **A poll** empties the queue; the stamps stay known. -/
theorem Holds.polled (holds : cursor.Holds seen fresh) (now : Instant) :
    (cursor.polled now).Holds (seen ++ fresh) [] := by
  refine ⟨fun id => ?_, .nil _⟩
  rw [List.append_nil]
  exact holds.latest id

end FeedCursor

end TaskLedger
