/-
**Groups in order.** In a group whose times strictly ascend, bisection finds what is there, so a group
holds comments by their times, and groups hold them by key and time.

* `Group.Ascending`, `Group.InOrder` — the times ascend strictly, or at least never descend.
* `Group.at?` — the comment of a time; `at?_eq_some_iff` says that it is the one in the group.
* `Group.inserts_add`, `Group.erases_remove`, `Group.since_eq` — what the operations do to such a group.
* `Groups.Tidy` — all groups ascend and none is empty; `Groups.inserts_add`, `Groups.erases_remove` and
  `Groups.since` keep that.
-/
import TaskLedger.Comment.Group
import TaskLedger.Proofs.Bisection
import TaskLedger.Proofs.Keyed
import TaskLedger.Proofs.Time.Successor

namespace TaskLedger

open Time (Instant)

variable {κ : Type} [Dated κ]

/-! ### One group -/

namespace Group

/-- The times strictly ascend. -/
def Ascending (group : List κ) : Prop :=
  group.Pairwise fun a b => Dated.time a < Dated.time b

/-- No comment is earlier than one before it. -/
def InOrder (group : List κ) : Prop :=
  group.Pairwise fun a b => Dated.time a ≤ Dated.time b

/-- The comment of a time. -/
def at? (group : List κ) (time : Instant) : Option κ :=
  group.find? fun comment => Dated.time comment = time

variable {group front back : List κ} {comment : κ} {time : Instant}

theorem Ascending.inOrder (ascending : Ascending group) : InOrder group :=
  ascending.imp le_of_lt

/-- A search for a time meets a row that ascends. -/
theorem InOrder.ascends (inOrder : InOrder group) (time : Instant) :
    Bisection.Ascends (fun comment => compare (Dated.time comment) time) group := by
  refine inOrder.imp fun {a b} order => ⟨fun after => ?_, fun before => ?_⟩
  · rw [compare_gt_iff_gt] at after ⊢
    exact lt_of_lt_of_le after order
  · rw [compare_lt_iff_lt] at before ⊢
    exact lt_of_le_of_lt order before

theorem Ascending.eq_of_time_eq (ascending : Ascending group) {a b : κ} (first : a ∈ group)
    (second : b ∈ group) (same : Dated.time a = Dated.time b) : a = b := by
  obtain ⟨i, iInside, rfl⟩ := List.getElem_of_mem first
  obtain ⟨j, jInside, rfl⟩ := List.getElem_of_mem second
  rw [Ascending, List.pairwise_iff_getElem] at ascending
  rcases Nat.lt_trichotomy i j with before | rfl | behind
  · exact absurd same (ne_of_lt (ascending i j iInside jInside before))
  · rfl
  · exact absurd same (ne_of_gt (ascending j i jInside iInside behind))

theorem at?_eq_some_iff (ascending : Ascending group) :
    at? group time = some comment ↔ comment ∈ group ∧ Dated.time comment = time := by
  constructor
  · intro found
    have same := List.find?_some found
    exact ⟨List.mem_of_find?_eq_some found, of_decide_eq_true same⟩
  · rintro ⟨member, rfl⟩
    have some : (at? group (Dated.time comment)).isSome :=
      List.find?_isSome.2 ⟨comment, member, decide_eq_true rfl⟩
    obtain ⟨other, found⟩ := Option.isSome_iff_exists.1 some
    have same := List.find?_some found
    rw [found, ascending.eq_of_time_eq (List.mem_of_find?_eq_some found) member (of_decide_eq_true same)]

theorem at?_eq_none (without : ∀ comment ∈ group, Dated.time comment ≠ time) :
    at? group time = none :=
  List.find?_eq_none.2 fun comment member same => without comment member (of_decide_eq_true same)

/-- A comment between others adds its time. -/
theorem at?_between (before : ∀ other ∈ front, Dated.time other < Dated.time comment) :
    at? (front ++ comment :: back) =
      Function.update (at? (front ++ back)) (Dated.time comment) (some comment) := by
  funext time
  rw [at?, List.find?_append, List.find?_cons]
  by_cases here : Dated.time comment = time
  · subst here
    rw [decide_eq_true rfl, Function.update_self]
    have none : at? front (Dated.time comment) = none :=
      at?_eq_none fun other member => ne_of_lt (before other member)
    rw [at?] at none
    rw [none, Option.none_or]
  · rw [decide_eq_false here, Function.update_of_ne (Ne.symm here), at?, List.find?_append]

/-- A group and a time sought in it: a comment of that time stands between earlier and later ones, or there
is none. -/
inductive Around (time : Instant) : List κ → Bisection.Found → Prop where
  | present (front : List κ) (comment : κ) (back : List κ) : Dated.time comment = time →
    (∀ other ∈ front, Dated.time other < time) → (∀ other ∈ back, time < Dated.time other) →
    Around time (front ++ comment :: back) (.present front.length)
  | absent (front back : List κ) : (∀ other ∈ front, Dated.time other < time) →
    (∀ other ∈ back, time < Dated.time other) → Around time (front ++ back) (.absent front.length)

/-- **A search finds the place** of a time. -/
theorem around_find (ascending : Ascending group) (time : Instant) :
    Around time group (find group time) := by
  have split : Bisection.SplitAt _ group (find group time) :=
    Bisection.splitAt_searchList (ascending.inOrder.ascends time)
  generalize find group time = found at split
  cases split with
  | present front comment back same before behind =>
    rw [compare_eq_iff_eq] at same
    subst same
    refine .present front comment back rfl (fun other member => ?_) fun other member => ?_
    · exact (List.pairwise_append.1 ascending).2.2 other member comment (.head _)
    · exact compare_gt_iff_gt.1 (behind other member)
  | absent front back before behind =>
    exact .absent front back (fun other member => compare_lt_iff_lt.1 (before other member))
      fun other member => compare_gt_iff_gt.1 (behind other member)

omit [Dated κ] in
/-- What stands right between the others keeps a row in order. -/
theorem pairwise_between {Before : κ → κ → Prop} (ordered : (front ++ back).Pairwise Before)
    (before : ∀ other ∈ front, Before other comment) (behind : ∀ other ∈ back, Before comment other) :
    (front ++ comment :: back).Pairwise Before := by
  obtain ⟨first, second, across⟩ := List.pairwise_append.1 ordered
  refine List.pairwise_append.2 ⟨first, List.pairwise_cons.2 ⟨behind, second⟩, ?_⟩
  exact fun other member => List.forall_mem_cons.2 ⟨before other member, across other member⟩

/-- Between earlier and later comments a time is free. -/
theorem at?_of_free (before : ∀ other ∈ front, Dated.time other < time)
    (behind : ∀ other ∈ back, time < Dated.time other) : at? (front ++ back) time = none := by
  refine at?_eq_none fun other member => ?_
  rcases List.mem_append.1 member with earlier | later
  · exact ne_of_lt (before other earlier)
  · exact ne_of_gt (behind other later)

omit [Dated κ] in
theorem insertIdx_length (front back : List κ) (comment : κ) :
    (front ++ back).insertIdx front.length comment = front ++ comment :: back := by
  induction front with
  | nil => rfl
  | cons first rest ih =>
    rw [List.cons_append, List.length_cons, List.insertIdx_succ_cons, ih, List.cons_append]

/-- **A comment is added** at its time. -/
theorem inserts_add [DecidableEq κ] (ascending : Ascending group) (comment : κ) :
    Inserts at? (fun group => group ≠ [] ∧ Ascending group) (Dated.time comment) comment
      ⟨Dated.identity comment⟩ group (add comment group) := by
  have around := around_find ascending (Dated.time comment)
  rw [add]
  generalize find group (Dated.time comment) = found at around
  cases around with
  | present front item back same before behind =>
    have there : at? (front ++ item :: back) (Dated.time comment) = some item :=
      (at?_eq_some_iff ascending).2 ⟨List.mem_append_right _ (.head _), same⟩
    have placed : (front ++ item :: back)[front.length]? = some item := by
      rw [List.getElem?_append_right (Nat.le_refl _), Nat.sub_self]
      rfl
    dsimp only
    refine ⟨fun missing => ?_, fun kept => ?_, fun stored other differs => ?_⟩
    · cases missing.symm.trans there
    · rw [kept] at there
      rw [placed, ← there, if_pos rfl]
    · rw [other] at there
      rw [placed, ← there, if_neg fun same => differs (Option.some.inj same)]
  | absent front back before behind =>
    have missing := at?_of_free before behind
    dsimp only
    rw [insertIdx_length]
    refine ⟨fun _ => ⟨front ++ comment :: back, rfl, ⟨?_, ?_⟩, at?_between before⟩,
      fun same => ?_, fun stored other _ => ?_⟩
    · exact List.append_ne_nil_of_right_ne_nil _ (List.cons_ne_nil _ _)
    · exact pairwise_between ascending before behind
    · cases missing.symm.trans same
    · cases missing.symm.trans other

/-- **A comment is removed** by its time. -/
theorem erases_remove (ascending : Ascending group) (time : Instant) :
    Erases at? Ascending time group (remove time group) := by
  have around := around_find ascending time
  rw [remove]
  generalize find group time = found at around
  cases around with
  | present front comment back same before behind =>
    subst same
    have left : (front ++ comment :: back).eraseIdx front.length = front ++ back := by
      rw [List.eraseIdx_append_of_length_le (Nat.le_refl _), Nat.sub_self]
      rfl
    dsimp only
    rw [left]
    refine ⟨?_, ascending.sublist ((List.sublist_cons_self _ _).append_left _), ?_⟩
    · rw [at?_between before, Function.update_self]
      rfl
    · rw [at?_between before, Function.update_idem, ← at?_of_free before behind,
        Function.update_eq_self]
  | absent front back before behind => exact .absent (at?_of_free before behind) ascending

/-- **The recent comments** are those that are not too early. -/
theorem since_eq (inOrder : InOrder group) (start : Instant) :
    since start group = group.filter fun comment => start ≤ Dated.time comment := by
  rw [since, Bisection.drop_partitionPoint]
  · refine List.filter_congr fun comment _ => ?_
    rw [← decide_not, decide_eq_decide, not_lt]
  · refine inOrder.imp fun {a b} order early => decide_eq_true ?_
    exact lt_of_le_of_lt order (of_decide_eq_true early)

theorem ascending_since (ascending : Ascending group) (start : Instant) :
    Ascending (since start group) := by
  rw [since_eq ascending.inOrder]
  exact ascending.filter _

theorem at?_since (ascending : Ascending group) (start time : Instant) :
    at? (since start group) time =
      (at? group time).filter fun comment => start ≤ Dated.time comment := by
  ext comment
  rw [at?_eq_some_iff (ascending_since ascending start), since_eq ascending.inOrder, List.mem_filter,
    Option.filter_eq_some_iff, at?_eq_some_iff ascending]
  exact and_right_comm

end Group

/-! ### Groups by key -/

namespace Groups

/-- The comment of a time under a key. -/
def at? : Groups κ → String × Instant → Option κ :=
  Table.within Group.at?

/-- All groups ascend and none is empty. -/
def Tidy : Groups κ → Prop :=
  Table.Every fun _ group => group ≠ [] ∧ Group.Ascending group

variable {groups : Groups κ}

theorem inserts_add [DecidableEq κ] (tidy : Tidy groups) (key : String) (comment : κ) :
    Inserts at? Tidy (key, Dated.time comment) comment ⟨Dated.identity comment⟩ groups
      (add key comment groups) := by
  have ascending : Group.Ascending ((groups.get? key).getD []) :=
    Table.Every.getD (fun key group held => (tidy key group held).2) .nil
  exact .insert (Group.inserts_add ascending comment) tidy fun _ => rfl

theorem erases_remove (tidy : Tidy groups) (key : String) (time : Instant) :
    Erases at? Tidy (key, time) groups (remove key time groups) := by
  rw [remove]
  cases held : groups.get? key with
  | none => exact .absent (Table.within_of_none held time) tidy
  | some group =>
    have erases := Group.erases_remove (tidy key group held).2 time
    refine erases.prune held tidy (fun empty place => ?_) fun left => ?_
    · rw [List.isEmpty_iff.1 empty]
      rfl
    · exact ⟨fun empty => Bool.false_ne_true (left.symm.trans (List.isEmpty_iff.2 empty)), erases.sound⟩

theorem mem_group_iff (tidy : Tidy groups) {key : String} {comment : κ} :
    comment ∈ (groups.get? key).getD [] ↔ at? groups (key, Dated.time comment) = some comment := by
  rw [at?]
  cases held : groups.get? key with
  | none =>
    rw [Table.within_of_none held]
    exact iff_of_false List.not_mem_nil nofun
  | some group =>
    rw [Table.within_of_some held, Group.at?_eq_some_iff (tidy key group held).2]
    exact (and_iff_left rfl).symm

theorem recent?_eq_some_iff {start : Instant} {group kept : List κ} :
    recent? start group = some kept ↔ Group.since start group = kept ∧ kept ≠ [] := by
  rw [recent?]
  by_cases empty : Group.since start group = []
  · rw [empty]
    exact iff_of_false nofun fun both => both.2 both.1.symm
  · rw [if_neg (mt List.isEmpty_iff.1 empty), Option.some.injEq]
    exact ⟨fun same => ⟨same, same ▸ empty⟩, And.left⟩

theorem tidy_since (tidy : Tidy groups) (start : Instant) : Tidy (since start groups) := by
  refine Table.Every.filterMap fun key group held kept recent => ?_
  obtain ⟨rfl, some⟩ := recent?_eq_some_iff.1 recent
  exact ⟨some, Group.ascending_since (tidy key group held).2 start⟩

theorem at?_since (tidy : Tidy groups) (start : Instant) (key : String × Instant) :
    at? (since start groups) key =
      (at? groups key).filter fun comment => start ≤ Dated.time comment := by
  refine Table.within_filterMap (fun key group held time => ?_) key
  rw [← Group.at?_since (tidy key group held).2, recent?]
  split
  · rename_i empty
    rw [List.isEmpty_iff.1 empty]
    rfl
  · rfl

end Groups

end TaskLedger
