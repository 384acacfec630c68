/-
**Records in the order of their stamps.** What a poll delivers when the stamps of every task rise from
record to record, as they do when one store makes them.

* `Rising` — the stamps of every task rise.
* `Rising.newestOf_eq` — the newest value is the last one.
* `Rising.listed_iff`, `Rising.value_eq`, `Rising.ordered` — what is delivered are the tasks recorded since
  the previous poll, with their last values and in the order of their first records.
-/
import TaskLedger.Proofs.Feed.Cursor

namespace TaskLedger

open Time (Instant)

/-- The stamps of every task rise from record to record. -/
def Rising (recorded : List Task) : Prop :=
  recorded.Pairwise fun a b => ∀ id s t, a.recordOf? id = some (s, a) → b.recordOf? id = some (t, b) →
    s < t

namespace Rising

/-- Every record is news when it comes. -/
theorem news {before after : List Task} {task : Task} (rising : Rising (before ++ task :: after))
    {id : TaskId} {stamp : Instant} (record : task.recordOf? id = some (stamp, task)) :
    greatest id before < stamp := by
  cases top : greatest id before with
  | bot => exact WithBot.bot_lt_coe stamp
  | coe s =>
    obtain ⟨⟨_, earlier⟩, inside, rfl⟩ := List.mem_map.1 (List.maximum_mem top)
    obtain ⟨member, named, stamped⟩ := mem_recordsOf.1 inside
    have less := (List.pairwise_append.1 rising).2.2 earlier member task (.head _)
    exact WithBot.coe_lt_coe.2 (less id _ stamp (Task.recordOf?_eq_some named stamped) record)

theorem newestOf_eq {recorded : List Task} (rising : Rising recorded) (id : TaskId) :
    newestOf id recorded = (recordsOf id recorded).getLast?.map (·.2) := by
  induction recorded using List.reverseRecOn with
  | nil => rfl
  | append_singleton recorded task ih =>
    cases record : task.recordOf? id with
    | none =>
      rw [newestOf_concat_of_none record, recordsOf_concat_of_none record]
      exact ih (List.pairwise_append.1 rising).1
    | some pair =>
      obtain ⟨stamp, value⟩ := pair
      obtain ⟨-, -, rfl⟩ := Task.recordOf?_eq_some_iff.1 record
      rw [newestOf_concat_of_lt record (rising.news record), recordsOf_concat_of_some record,
        List.getLast?_concat, Option.map_some]

section Delivery

variable {seen fresh : List Task} {entries : List (TaskId × Task)}

theorem listed_iff (rising : Rising (seen ++ fresh)) (delivers : Delivers seen fresh entries)
    (id : TaskId) : id ∈ entries.map (·.1) ↔ recordsOf id fresh ≠ [] := by
  rw [delivers.listed]
  constructor
  · intro risen none
    rw [greatest_append, greatest, greatest, none, List.map_nil, List.maximum_nil,
      max_bot_right] at risen
    exact lt_irrefl _ risen
  · intro some
    obtain ⟨⟨stamp, task⟩, inside⟩ := List.exists_mem_of_ne_nil _ some
    obtain ⟨member, named, stamped⟩ := mem_recordsOf.1 inside
    obtain ⟨front, back, rfl⟩ := List.append_of_mem member
    rw [← List.append_assoc] at rising
    refine lt_of_le_of_lt (greatest_le_append id seen front) (lt_of_lt_of_le
      (rising.news (Task.recordOf?_eq_some named stamped)) ?_)
    exact le_greatest (List.mem_append_right seen member) named stamped

theorem value_eq (rising : Rising (seen ++ fresh)) (delivers : Delivers seen fresh entries)
    {entry : TaskId × Task} (member : entry ∈ entries) :
    (recordsOf entry.1 fresh).getLast?.map (·.2) = some entry.2 := by
  have some := (rising.listed_iff delivers entry.1).1 (List.mem_map_of_mem member)
  have value := delivers.value entry member
  rw [rising.newestOf_eq, recordsOf_append, List.getLast?_append_of_ne_nil _ some] at value
  exact value

/-- The first news of a task is its first record. -/
theorem place_eq (rising : Rising (seen ++ fresh)) (stamped : ∀ task ∈ fresh, task.stamp ≠ none)
    {id : TaskId} {place : Nat} (first : FirstNews seen fresh id place) :
    fresh.findIdx (fun task => task.id = some id) = place := by
  obtain ⟨task, stamp, found, record, -⟩ := first.news
  obtain ⟨inside, here⟩ := List.getElem?_eq_some_iff.1 found
  refine (List.findIdx_eq inside).2 ⟨?_, fun earlier before => ?_⟩
  · rw [here, (Task.recordOf?_eq_some_iff.1 record).1, decide_eq_true rfl]
  -- A record of the task at an earlier place would be news there.
  · refine decide_eq_false fun named => first.first earlier before ?_
    have within : earlier < fresh.length := Nat.lt_trans before inside
    obtain ⟨other, otherStamped⟩ :=
      Option.ne_none_iff_exists'.1 (stamped _ (List.getElem_mem within))
    have record := Task.recordOf?_eq_some named otherStamped
    refine ⟨fresh[earlier], other, List.getElem?_eq_getElem within, record, ?_⟩
    have whole : seen ++ fresh = (seen ++ fresh.take earlier) ++ fresh[earlier] ::
        fresh.drop (earlier + 1) := by
      rw [List.append_assoc, List.getElem_cons_drop, List.take_append_drop]
    exact (whole ▸ rising).news record

theorem ordered (rising : Rising (seen ++ fresh)) (stamped : ∀ task ∈ fresh, task.stamp ≠ none)
    (delivers : Delivers seen fresh entries) :
    (entries.map (·.1)).Pairwise fun earlier later =>
      fresh.findIdx (fun task => task.id = some earlier) <
        fresh.findIdx fun task => task.id = some later := by
  obtain ⟨place, firsts, ascending⟩ := delivers.placed
  refine ascending.imp_of_mem fun {a b} first second less => ?_
  rw [rising.place_eq stamped (firsts a first), rising.place_eq stamped (firsts b second)]
  exact less

end Delivery

end Rising

end TaskLedger
