/-
**The lineage of a task.** The versions of one task among those of a run, each made from the one before.

* `versionsOf` — the versions of one task among the commits of a run.
* `pairwise_versions_iff` — what holds between the versions of each task is seen task by task.
* `Lineage` — versions made one from another, the first from nothing.
* `Lineage.pairwise_base_ne` — while the stamps increase, no two versions are made from the same one.
-/
import TaskLedger.Proofs.Store.Stamps

namespace TaskLedger

/-! ### The versions of one task -/

/-- The versions that commits made, in their order. -/
def versions (history : List Commit) : List Version :=
  history.flatMap (·.versions)

/-- The versions of one task. -/
def versionsOf (id : TaskId) (history : List Commit) : List Version :=
  (versions history).filter fun version => version.id = id

theorem versions_append (past later : List Commit) :
    versions (past ++ later) = versions past ++ versions later :=
  List.flatMap_append

theorem versions_concat (past : List Commit) (commit : Commit) :
    versions (past ++ [commit]) = versions past ++ commit.versions := by
  rw [versions, List.flatMap_append, List.flatMap_singleton, versions]

theorem versionsOf_append (id : TaskId) (past later : List Commit) :
    versionsOf id (past ++ later) = versionsOf id past ++ versionsOf id later := by
  rw [versionsOf, versions, List.flatMap_append, List.filter_append]
  rfl

theorem mem_versionsOf {id : TaskId} {history : List Commit} {version : Version} :
    version ∈ versionsOf id history ↔ version ∈ versions history ∧ version.id = id := by
  rw [versionsOf, List.mem_filter, decide_eq_true_eq]

theorem versionsOf_commit_of_not_mem {id : TaskId} {commit : Commit}
    (absent : id ∉ commit.versions.map (·.id)) : versionsOf id [commit] = [] := by
  rw [versionsOf, versions, List.flatMap_singleton, List.filter_eq_nil_iff]
  intro version member same
  exact absent (List.mem_map.2 ⟨version, member, of_decide_eq_true same⟩)

theorem versionsOf_commit_of_mem {commit : Commit} {version : Version}
    (distinct : (commit.versions.map (·.id)).Nodup) (member : version ∈ commit.versions) :
    versionsOf version.id [commit] = [version] := by
  rw [versionsOf, versions, List.flatMap_singleton]
  generalize commit.versions = entries at distinct member
  induction entries with
  | nil => cases member
  | cons entry rest ih =>
    rw [List.map_cons, List.nodup_cons] at distinct
    rcases List.mem_cons.1 member with rfl | inside
    · rw [List.filter_cons_of_pos (by simp), List.filter_eq_nil_iff.2]
      intro other inside same
      exact distinct.1 (List.mem_map.2 ⟨other, inside, of_decide_eq_true same⟩)
    · have other : entry.id ≠ version.id := fun same =>
        distinct.1 (same ▸ List.mem_map_of_mem inside)
      rw [List.filter_cons_of_neg (by simpa using other)]
      exact ih distinct.2 inside

/-- Whether versions of the same task are related is seen task by task. -/
theorem pairwise_versions_iff {history : List Commit} {R : Version → Version → Prop} :
    (versions history).Pairwise (fun earlier later => earlier.id = later.id → R earlier later) ↔
      ∀ id, (versionsOf id history).Pairwise R := by
  simp only [versionsOf]
  generalize versions history = entries
  constructor
  · intro related id
    rw [List.pairwise_filter]
    refine related.imp fun {earlier later} each first second => each ?_
    rw [of_decide_eq_true first, of_decide_eq_true second]
  · intro related
    induction entries with
    | nil => exact .nil
    | cons entry rest ih =>
      refine List.pairwise_cons.2 ⟨fun later member same => ?_, ih fun id => ?_⟩
      · have each := related entry.id
        rw [List.filter_cons_of_pos (by simp)] at each
        exact List.rel_of_pairwise_cons each
          (List.mem_filter.2 ⟨member, decide_eq_true same.symm⟩)
      · exact (related id).sublist ((List.sublist_cons_self entry rest).filter _)

/-! ### Lineages -/

/-- Versions of one task that were made one from another. -/
structure Lineage (versions : List Version) : Prop where
  inserted : ∀ first ∈ versions.head?, first.base = none
  linked : versions.IsChain fun earlier later => later.base = some earlier.stamp

namespace Lineage

theorem nil : Lineage [] :=
  ⟨fun _ isFirst => (Option.not_mem_none _ isFirst).elim, .nil⟩

theorem concat {past : List Version} (lineage : Lineage past) {version : Version}
    (base : version.base = past.getLast?.map (·.stamp)) : Lineage (past ++ [version]) := by
  constructor
  · intro first isFirst
    cases past with
    | nil =>
      cases isFirst
      exact base
    | cons head tail => exact lineage.inserted first isFirst
  · refine List.isChain_append.2 ⟨lineage.linked, .singleton _, ?_⟩
    rintro earlier isLast _ ⟨⟩
    rw [base, Option.mem_def.1 isLast, Option.map_some]

theorem base_zero {versions : List Version} (lineage : Lineage versions)
    (inside : 0 < versions.length) : versions[0].base = none :=
  lineage.inserted _ (by rw [List.head?_eq_getElem?, List.getElem?_eq_getElem inside]; rfl)

theorem base_succ {versions : List Version} (lineage : Lineage versions) {place : Nat}
    (inside : place + 1 < versions.length) :
    versions[place + 1].base = some versions[place].stamp :=
  List.isChain_iff_getElem.1 lineage.linked place inside

/-- No two versions of a lineage are made from the same one. -/
theorem pairwise_base_ne {versions : List Version} (lineage : Lineage versions)
    (increasing : versions.Pairwise fun earlier later => earlier.stamp < later.stamp) :
    versions.Pairwise fun earlier later => earlier.base ≠ later.base := by
  rw [List.pairwise_iff_getElem] at increasing ⊢
  intro i j iInside jInside before
  cases j with
  | zero => omega
  | succ j =>
    rw [lineage.base_succ jInside]
    cases i with
    | zero =>
      rw [lineage.base_zero iInside]
      exact nofun
    | succ i =>
      rw [lineage.base_succ iInside]
      have stamps := increasing i j (by omega) (by omega) (by omega)
      exact fun same => absurd (Option.some.inj same) (ne_of_lt stamps)

end Lineage

end TaskLedger
