/-
**Tags that are written and read again.** A job is requested with tags, and its reports bring them back.

* `beforeColon`, `splitTag?_written` — a written tag is read up to the first colon; a key without one
  comes back with its whole value.
* `Tags.valueFor?`, `all_of_split` — what a raw tag says of a key; what all of them say.
* `IsDimension` — keys of dimensions. Whatever colons such a key has, what is read of it still starts like
  one, so that it does not pass for another key (`valueFor?_of_isDimension`).
* `TagRequest.SaidBy`, `saidBy_tags` — the tags of a request say what the request says.
* `Task.Matches`, `Task.Carries`, `requested_tags_reconcile` — to which tasks such a report applies, and
  what they are then.
-/
import TaskLedger.Proofs.Report.Reading
import TaskLedger.Proofs.Table
import Mathlib.Data.List.Basic
import Mathlib.Data.List.TakeWhile

namespace TaskLedger

/-! ### One tag -/

/-- A text up to its first colon. -/
def beforeColon (text : String) : String :=
  String.ofList (text.toList.takeWhile (· != ':'))

theorem beforeColon_of_plain {text : String} (plain : ':' ∉ text.toList) : beforeColon text = text := by
  have whole : text.toList.takeWhile (· != ':') = text.toList :=
    List.takeWhile_eq_self_iff.2 fun c member => by
      simpa using fun same : c = ':' => plain (same ▸ member)
  rw [beforeColon, whole, String.ofList_toList]

/-- **A written tag can be read**: its key is what stands before the first colon, and a key without
colons has the value that was written. -/
theorem splitTag?_written (key value : String) :
    ∃ rest, splitTag? (TagRequest.written key value) = some (beforeColon key, rest) ∧
      (':' ∉ key.toList → rest = value) := by
  have chars : (TagRequest.written key value).toList = key.toList ++ ':' :: value.toList := by
    simp [TagRequest.written]
  have front : (key.toList ++ ':' :: value.toList).takeWhile (· != ':') =
      key.toList.takeWhile (· != ':') := by
    rw [List.takeWhile_append]
    split
    · rename_i whole
      rw [(List.takeWhile_prefix _).eq_of_length whole]
      simp
    · rfl
  unfold splitTag?
  rw [chars, front, List.dropWhile_append]
  -- Without a colon in the key, the one that was written is the first.
  cases back : key.toList.dropWhile (· != ':') with
  | nil => exact ⟨value, by simp [beforeColon], fun _ => rfl⟩
  | cons c rest =>
    refine ⟨String.ofList (rest ++ ':' :: value.toList), rfl, fun plain => ?_⟩
    have none : key.toList.dropWhile (· != ':') = [] :=
      List.dropWhile_eq_nil_iff.2 fun c member => by
        simpa using fun same : c = ':' => plain (same ▸ member)
    rw [none] at back
    cases back

namespace Tags

/-- What a raw tag says of a key. -/
def valueFor? (key tag : String) : Option String :=
  (splitTag? tag).bind fun pair => if pair.1 = key then some pair.2 else none

section Written

variable {key other value : String}

theorem valueFor?_of_plain (plain : ':' ∉ other.toList) :
    valueFor? key (TagRequest.written other value) = if other = key then some value else none := by
  obtain ⟨rest, split, whole⟩ := splitTag?_written other value
  rw [valueFor?, split, whole plain, beforeColon_of_plain plain]
  rfl

theorem valueFor?_of_ne (differs : beforeColon other ≠ key) :
    valueFor? key (TagRequest.written other value) = none := by
  obtain ⟨rest, split, -⟩ := splitTag?_written other value
  rw [valueFor?, split]
  exact if_neg differs

end Written

theorem tags_of_split {report : Report} (split : ∀ tag ∈ report.rawTags, (splitTag? tag).isSome) :
    report.tags = .ok (report.rawTags.filterMap splitTag?) := by
  unfold Report.tags
  generalize report.rawTags = rawTags at split ⊢
  induction rawTags with
  | nil => rfl
  | cons tag rest ih =>
    obtain ⟨first, others⟩ := List.forall_mem_cons.1 split
    obtain ⟨pair, isPair⟩ := Option.isSome_iff_exists.1 first
    rw [List.mapM_cons, ih others, List.filterMap_cons, isPair]
    rfl

/-- **All values of a key** are what the raw tags say of it, one after another. -/
theorem all_filterMap_splitTag? (rawTags : List String) (key : String) :
    Tags.all (rawTags.filterMap splitTag?) key = rawTags.filterMap (valueFor? key) := by
  have values (tags : Tags) :
      tags.all key = tags.filterMap fun pair => if pair.1 = key then some pair.2 else none := by
    induction tags with
    | nil => rfl
    | cons pair rest ih =>
      rw [all] at ih ⊢
      by_cases own : pair.1 = key <;> simp [own, ih]
  rw [values, List.filterMap_filterMap]
  rfl

theorem first?_of_all {tags : Tags} {key value : String} (only : tags.all key = [value]) :
    tags.first? key = some value := by
  rw [first?, only]
  rfl

end Tags

/-! ### Keys -/

/-- A key is that of a dimension. -/
def IsDimension (key : String) : Prop :=
  "sk_dim_".toList <+: key.toList

instance (key : String) : Decidable (IsDimension key) :=
  inferInstanceAs (Decidable ("sk_dim_".toList <+: key.toList))

theorem isDimension_dimension (key : String) : IsDimension (TagKey.dimension key) := by
  simp [IsDimension, TagKey.dimension]

theorem isDimension_beforeColon (key : String) : IsDimension (beforeColon (TagKey.dimension key)) := by
  simp [IsDimension, beforeColon, TagKey.dimension]

theorem valueFor?_dimension {key : String} (other : ¬IsDimension key) (dimension value : String) :
    Tags.valueFor? key (TagRequest.written (TagKey.dimension dimension) value) = none :=
  Tags.valueFor?_of_ne fun same => other (same ▸ isDimension_beforeColon dimension)

namespace TagRequest

/-- The keys with one value. -/
def singleKeys : List String :=
  [TagKey.shown, TagKey.name, TagKey.id, TagKey.priority, TagKey.repo, TagKey.retryOf, TagKey.revision]

/-- The entries of these keys. -/
abbrev fixedEntries (request : TagRequest) : List (String × String) :=
  [(TagKey.shown, "1"), (TagKey.name, request.name), (TagKey.id, request.id.text),
    (TagKey.priority, Decimal.sixPlaces request.priority), (TagKey.repo, request.repo),
    (TagKey.retryOf, request.retryText), (TagKey.revision, request.revision)]

theorem get?_fixedTags_of_mem {request : TagRequest} {key value : String}
    (member : (key, value) ∈ request.fixedEntries) : request.fixedTags.get? key = some value :=
  Table.get?_foldl_insert_of_mem ∅ (show singleKeys.Nodup by decide) member

theorem get?_fixedTags_of_not_mem {request : TagRequest} {key : String} (absent : key ∉ singleKeys) :
    request.fixedTags.get? key = none :=
  Table.get?_foldl_insert_of_not_mem ∅ absent

/-- A dimension is put in unless its key has a value; so the first one counts. -/
theorem get?_foldl_addDimension (table : Table String String) (dimensions : List (String × String))
    (key : String) :
    (dimensions.foldl addDimension table).get? key =
      (table.get? key).or
        ((dimensions.find? fun dimension => TagKey.dimension dimension.1 = key).map (·.2)) := by
  induction dimensions generalizing table with
  | nil => simp
  | cons dimension rest ih =>
    rw [List.foldl_cons, ih, addDimension, Table.contains_eq_isSome]
    by_cases own : TagKey.dimension dimension.1 = key
    · cases stored : table.get? key with
      | some value => simp [own, stored]
      | none => simp [own, stored]
    · have other (value : String) :
          (table.insert (TagKey.dimension dimension.1) value).get? key = table.get? key :=
        Table.get?_insert_of_ne table value (Ne.symm own)
      rw [List.find?_cons_of_neg (by simpa using own)]
      split
      · rfl
      · rw [other]

/-- A key with one value is plain, and so is that of a parent; none of them is that of a dimension. -/
theorem plain_of_mem_singleKeys {key : String} (single : key ∈ singleKeys) :
    ':' ∉ key.toList ∧ ¬IsDimension key ∧ key ≠ TagKey.parent := by
  revert key
  decide

theorem mem_singleTags {request : TagRequest} {entry : String × String}
    (member : entry ∈ request.singleTags.entries) :
    entry.1 ∈ singleKeys ∨ ∃ dimension ∈ request.dimensions, entry.1 = TagKey.dimension dimension.1 := by
  by_contra! other
  have found : request.singleTags.get? entry.1 = some entry.2 := Table.get?_eq_some_iff.2 member
  rw [singleTags, get?_foldl_addDimension, get?_fixedTags_of_not_mem other.1, Option.none_or,
    List.find?_eq_none.2 fun dimension inside => by simpa using (other.2 dimension inside).symm] at found
  cases found

/-- **What the tags of a request say of a key**, once each of them with this key is read in full. -/
theorem filterMap_valueFor?_tags (request : TagRequest) (key : String)
    (readInFull : ∀ entry ∈ request.singleTags.entries,
      Tags.valueFor? key (written entry.1 entry.2) = if entry.1 = key then some entry.2 else none) :
    request.tags.filterMap (Tags.valueFor? key) = (request.singleTags.get? key).toList ++
      if key = TagKey.parent then request.parents.map (·.text) else [] := by
  have each : (Tags.valueFor? key ∘ fun parent : TaskId => written TagKey.parent parent.text) =
      fun parent => if key = TagKey.parent then some parent.text else none := by
    funext parent
    rw [Function.comp_apply, Tags.valueFor?_of_plain (by decide)]
    simp only [eq_comm]
  have parents : (request.parents.map fun parent => written TagKey.parent parent.text).filterMap
      (Tags.valueFor? key) = if key = TagKey.parent then request.parents.map (·.text) else [] := by
    rw [List.filterMap_map, each]
    split <;> simp
  rw [tags, List.filterMap_append, parents, List.filterMap_map, ← Table.filterMap_key]
  congr 1
  exact List.filterMap_congr readInFull

/-- Tags say what a request says. -/
structure SaidBy (request : TagRequest) (tags : Tags) : Prop where
  id : tags.all TagKey.id = [request.id.text]
  name : tags.all TagKey.name = [request.name]
  repo : tags.all TagKey.repo = [request.repo]
  retryOf : tags.all TagKey.retryOf = [request.retryText]
  revision : tags.all TagKey.revision = [request.revision]
  parents : tags.all TagKey.parent = request.parents.map (·.text)
  /-- Where no dimension has a colon in its key, each is read back with the first value given for it. -/
  dimensions : (∀ dimension ∈ request.dimensions, ':' ∉ dimension.1.toList) → ∀ key,
    tags.all (TagKey.dimension key) =
      ((request.dimensions.find? fun dimension => dimension.1 = key).map (·.2)).toList

section Read

variable {request : TagRequest} {key : String}

/-- Each tag of a request can be read. -/
theorem isSome_splitTag? {tag : String} (member : tag ∈ request.tags) : (splitTag? tag).isSome := by
  rw [tags, List.mem_append, List.mem_map, List.mem_map] at member
  obtain ⟨entry, -, rfl⟩ | ⟨parent, -, rfl⟩ := member
  · obtain ⟨rest, split, -⟩ := splitTag?_written entry.1 entry.2
    rw [split]
    rfl
  · obtain ⟨rest, split, -⟩ := splitTag?_written TagKey.parent parent.text
    rw [split]
    rfl

theorem tags_of_requested {report : Report} (requested : report.rawTags = request.tags) :
    report.tags = .ok (request.tags.filterMap splitTag?) := by
  rw [← requested]
  exact Tags.tags_of_split fun tag member => isSome_splitTag? (requested ▸ member)

/-- A key that is not that of a dimension is read in full, whatever the dimensions are. -/
theorem readInFull_of_not_isDimension (other : ¬IsDimension key) {entry : String × String}
    (member : entry ∈ request.singleTags.entries) :
    Tags.valueFor? key (written entry.1 entry.2) = if entry.1 = key then some entry.2 else none := by
  rcases mem_singleTags member with single | ⟨dimension, -, isDimension⟩
  · exact Tags.valueFor?_of_plain (plain_of_mem_singleKeys single).1
  · rw [isDimension, valueFor?_dimension other, if_neg]
    rintro rfl
    exact other (isDimension_dimension dimension.1)

/-- Without colons in the keys of the dimensions, every key is. -/
theorem readInFull_of_plain (plain : ∀ dimension ∈ request.dimensions, ':' ∉ dimension.1.toList)
    {entry : String × String} (member : entry ∈ request.singleTags.entries) :
    Tags.valueFor? key (written entry.1 entry.2) = if entry.1 = key then some entry.2 else none := by
  refine Tags.valueFor?_of_plain ?_
  rcases mem_singleTags member with single | ⟨dimension, inside, isDimension⟩
  · exact (plain_of_mem_singleKeys single).1
  · rw [isDimension]
    simpa [TagKey.dimension] using plain dimension inside

/-- The one value of a key that the request fixes. -/
theorem filterMap_valueFor?_fixed {value : String} (single : key ∈ singleKeys)
    (fixed : (key, value) ∈ request.fixedEntries) :
    request.tags.filterMap (Tags.valueFor? key) = [value] := by
  obtain ⟨-, other, notParent⟩ := plain_of_mem_singleKeys single
  rw [filterMap_valueFor?_tags request key fun entry => readInFull_of_not_isDimension other,
    if_neg notParent, singleTags, get?_foldl_addDimension, get?_fixedTags_of_mem fixed]
  rfl

/-- **The tags of a request say what the request says.** -/
theorem saidBy_tags (request : TagRequest) :
    request.SaidBy (request.tags.filterMap splitTag?) := by
  constructor
  case id | name | repo | retryOf | revision =>
    rw [Tags.all_filterMap_splitTag?]
    exact filterMap_valueFor?_fixed (by decide) (by simp)
  case parents =>
    have other : ¬IsDimension TagKey.parent := by decide
    rw [Tags.all_filterMap_splitTag?,
      filterMap_valueFor?_tags request _ fun entry => readInFull_of_not_isDimension other, if_pos rfl,
      singleTags, get?_foldl_addDimension, get?_fixedTags_of_not_mem (by decide), Option.none_or,
      List.find?_eq_none.2]
    · rfl
    · intro dimension _ same
      exact other (of_decide_eq_true same ▸ isDimension_dimension dimension.1)
  case dimensions =>
    intro plain key
    have single : TagKey.dimension key ∉ singleKeys := fun member =>
      (plain_of_mem_singleKeys member).2.1 (isDimension_dimension key)
    have parent : TagKey.dimension key ≠ TagKey.parent := fun same =>
      absurd (same ▸ isDimension_dimension key) (by decide)
    rw [Tags.all_filterMap_splitTag?,
      filterMap_valueFor?_tags request _ fun entry => readInFull_of_plain plain, if_neg parent, singleTags,
      get?_foldl_addDimension, get?_fixedTags_of_not_mem single, Option.none_or, List.append_nil]
    simp only [TagKey.dimension, String.append_right_inj]

end Read

end TagRequest

/-! ### The tasks that a requested job reports to -/

/-- The parents stand in ascending order. -/
theorem Report.pairwise_parents (tags : Tags) :
    (Report.parents tags).Pairwise fun a b => (compare a b).isLE = true := by
  refine List.pairwise_mergeSort (fun a b c => Std.TransCmp.isLE_trans) (fun a b => ?_) _
  have swapped : compare b a = (compare a b).swap := Std.OrientedCmp.eq_swap
  rw [swapped]
  cases compare a b <;> rfl

/-- A report without its tags; a task that takes it has nothing against the rest of the report. -/
def Report.untagged (report : Report) : Report :=
  { report with rawTags := [] }

namespace Task

/-- What is recorded of a task's identity is what the request says. -/
structure Matches (task : Task) (request : TagRequest) : Prop where
  id : ∀ id, task.id = some id → id = request.id
  name : task.name ≠ "" → task.name = request.name
  repo : task.repo ≠ "" → task.repo = request.repo
  retryOf : ∀ id, task.retryOf = some id → request.retryOf = some id
  revision : task.revision ≠ "" → task.revision = request.revision

/-- A task is the one that was requested. -/
structure Carries (task : Task) (request : TagRequest) : Prop where
  id : task.id = some request.id
  name : task.name = request.name
  repo : task.repo = request.repo
  retryOf : task.retryOf = request.retryOf
  revision : task.revision = request.revision
  parents : task.parents.Perm request.parents
  sorted : task.parents.Pairwise fun a b => (compare a b).isLE = true

section Requested

variable {request : TagRequest} {tags : Tags} {reading : Reading} {task : Task}

/-- The identifier that the tags name, where it is not empty. -/
theorem retryText_eq_iff {id : TaskId} (nonempty : id.text ≠ "") :
    id.text = request.retryText ↔ request.retryOf = some id := by
  unfold TagRequest.retryText
  cases request.retryOf with
  | none => simpa using nonempty
  | some other =>
    obtain ⟨text⟩ := id
    obtain ⟨text'⟩ := other
    simp [eq_comm]

theorem parents_eq (said : request.SaidBy tags) :
    Report.parents tags = request.parents.mergeSort fun a b => (compare a b).isLE := by
  have same : (request.parents.map (·.text)).map TaskId.mk = request.parents := by
    rw [List.map_map]
    exact List.map_id _
  rw [Report.parents, said.parents, same]

theorem agrees_some_iff {recorded value : String} {reported : Option String}
    (first : reported = some value) :
    (∀ other ∈ reported, recorded = "" ∨ recorded = other) ↔ (recorded ≠ "" → recorded = value) := by
  simp [first, or_iff_not_imp_left]

variable (said : request.SaidBy reading.tags) (recorded : task.retryOf ≠ some ⟨""⟩)

include said recorded

/-- **A task agrees with the tags of a request** when it matches the request, and only then. -/
theorem agrees_iff_matches (created : ∀ time ∈ task.created, time = reading.created)
    (jobId : ∀ job ∈ task.jobId, job = reading.jobId) :
    task.Agrees reading ↔ task.Matches request := by
  have nonempty (id : TaskId) (isId : task.retryOf = some id) : id.text ≠ "" := by
    rintro empty
    exact recorded (by rw [isId, ← empty])
  constructor
  · intro agrees
    constructor
    case name => exact (agrees_some_iff (Tags.first?_of_all said.name)).1 agrees.name
    case repo => exact (agrees_some_iff (Tags.first?_of_all said.repo)).1 agrees.repo
    case revision => exact (agrees_some_iff (Tags.first?_of_all said.revision)).1 agrees.revision
    case id =>
      intro id isId
      have same := agrees.id _ (Tags.first?_of_all said.id) id isId
      cases id
      exact congrArg TaskId.mk same
    case retryOf =>
      intro id isId
      exact (retryText_eq_iff (nonempty id isId)).1
        (agrees.retryOf _ (Tags.first?_of_all said.retryOf) id isId)
  · intro same
    constructor
    case name => exact (agrees_some_iff (Tags.first?_of_all said.name)).2 same.name
    case repo => exact (agrees_some_iff (Tags.first?_of_all said.repo)).2 same.repo
    case revision => exact (agrees_some_iff (Tags.first?_of_all said.revision)).2 same.revision
    case created => exact created
    case jobId => exact jobId
    case id =>
      intro value first id isId
      rw [Tags.first?_of_all said.id] at first
      rw [same.id id isId]
      exact Option.some.inj first
    case retryOf =>
      intro value first id isId
      rw [Tags.first?_of_all said.retryOf] at first
      rw [(retryText_eq_iff (nonempty id isId)).2 (same.retryOf id isId)]
      exact Option.some.inj first

/-- **A task that takes the report is the one that was requested.** -/
theorem carries_merged (identified : request.id.text ≠ "") (retried : request.retryOf ≠ some ⟨""⟩)
    (agrees : task.Agrees reading) : (task.merged reading).Carries request := by
  constructor
  case id =>
    show Report.mergedId task.id (reading.tags.first? TagKey.id) = some request.id
    rw [Tags.first?_of_all said.id,
      Report.mergedId_some (agrees.id _ (Tags.first?_of_all said.id)) identified]
  case name =>
    show Report.mergedText task.name (reading.tags.first? TagKey.name) = request.name
    rw [Tags.first?_of_all said.name, Report.mergedText_some (agrees.name _ (Tags.first?_of_all said.name))]
  case repo =>
    show Report.mergedText task.repo (reading.tags.first? TagKey.repo) = request.repo
    rw [Tags.first?_of_all said.repo, Report.mergedText_some (agrees.repo _ (Tags.first?_of_all said.repo))]
  case revision =>
    show Report.mergedText task.revision (reading.tags.first? TagKey.revision) = request.revision
    rw [Tags.first?_of_all said.revision,
      Report.mergedText_some (agrees.revision _ (Tags.first?_of_all said.revision))]
  case retryOf =>
    show Report.mergedId task.retryOf (reading.tags.first? TagKey.retryOf) = request.retryOf
    have same := agrees.retryOf _ (Tags.first?_of_all said.retryOf)
    rw [Tags.first?_of_all said.retryOf]
    unfold TagRequest.retryText at same ⊢
    cases retry : request.retryOf with
    | some id =>
      rw [retry] at same retried
      exact Report.mergedId_some same fun empty => retried (by rw [← empty])
    | none =>
      -- The request names none; one that is recorded would have to be empty.
      rw [retry] at same
      cases known : task.retryOf with
      | none => rfl
      | some id =>
        have empty : id.text = "" := same id known
        exact absurd (by rw [known, ← empty]) recorded
  case parents =>
    show (Report.parents reading.tags).Perm request.parents
    rw [parents_eq said]
    exact List.mergeSort_perm _ _
  case sorted => exact Report.pairwise_parents reading.tags

end Requested

/-- **Requested tags and read tags agree.** The tags of a request can be read and say what the request
says. A report with them, otherwise acceptable, applies to exactly the tasks whose recorded identity is
the requested one, and makes them the task that was requested. -/
theorem requested_tags_reconcile {request : TagRequest} {report : Report}
    (requested : report.rawTags = request.tags) :
    (∃ tags, report.tags = .ok tags ∧ request.SaidBy tags) ∧
    ∀ task : Task, request.id.text ≠ "" → request.retryOf ≠ some ⟨""⟩ → task.retryOf ≠ some ⟨""⟩ →
      (∃ updated, task.reconcile report.untagged = .ok updated) →
      ((∃ changed updated, task.applyReport report = .ok (changed, updated)) ↔ task.Matches request) ∧
      ∀ changed updated, task.applyReport report = .ok (changed, updated) →
        updated.Carries request := by
  have readable := TagRequest.tags_of_requested requested
  have said {reading : Reading} (reads : report.Reads reading) : request.SaidBy reading.tags := by
    rw [← Except.ok.inj (readable.symm.trans reads.tags)]
    exact request.saidBy_tags
  refine ⟨⟨_, readable, request.saidBy_tags⟩, ?_⟩
  intro task identified retried recorded acceptable
  obtain ⟨_, acceptable⟩ := acceptable
  obtain ⟨rest, reads, agrees, -⟩ := reconcile_eq_ok_iff.1 acceptable
  refine ⟨⟨?_, fun same => ?_⟩, ?_⟩
  · rintro ⟨changed, updated, applied⟩
    obtain ⟨reading, reads', agrees', -⟩ := reconcile_eq_ok_iff.1 (applyReport_eq_ok_iff.1 applied).1
    exact (agrees_iff_matches (said reads') recorded agrees'.created agrees'.jobId).1 agrees'
  · -- The rest of the report is read as without the tags.
    have reads' : report.Reads { rest with tags := request.tags.filterMap splitTag? } :=
      ⟨readable, reads.created, reads.jobId, reads.status, reads.output, reads.started, reads.finished⟩
    have agrees' := (agrees_iff_matches (said reads') recorded agrees.created agrees.jobId).2 same
    exact ⟨_, _, applyReport_eq_ok_iff.2 ⟨reconcile_eq_ok reads' agrees', rfl⟩⟩
  · intro changed updated applied
    obtain ⟨reading, reads', agrees', rfl⟩ :=
      reconcile_eq_ok_iff.1 (applyReport_eq_ok_iff.1 applied).1
    exact carries_merged (said reads') recorded identified retried agrees'

/-- A retry, with colons wherever a text may have them. -/
def colonRequest : TagRequest where
  name := "build:debug"
  id := ⟨"task:1"⟩
  priority := 0.5
  repo := "repo"
  retryOf := some ⟨"task:0"⟩
  revision := ""
  dimensions := [("os", "linux:6"), ("os", "mac"), ("id:task", "task:2")]
  parents := [⟨"parent:2"⟩, ⟨"parent:1"⟩]

/-- A report of the job that was so requested. -/
def colonReport : Report :=
  { Report.blank with
    state := "RUNNING", created := some "2026-10-19T12:00:00", rawTags := colonRequest.tags }

/-- It applies to a task of which only the name is recorded. -/
theorem colonReport_applies :
    colonReport.rawTags = colonRequest.tags ∧ colonRequest.id.text ≠ "" ∧
    colonRequest.retryOf ≠ some ⟨""⟩ ∧ blank.retryOf ≠ some ⟨""⟩ ∧
    (∃ updated, { blank with name := "build:debug" }.reconcile colonReport.untagged = .ok updated) ∧
    ∃ changed updated,
      { blank with name := "build:debug" }.applyReport colonReport = .ok (changed, updated) ∧
      updated.Carries colonRequest := by
  have acceptable : ∃ updated,
      { blank with name := "build:debug" }.reconcile colonReport.untagged = .ok updated := by
    have taken : ({ blank with name := "build:debug" }.reconcile colonReport.untagged).isOk = true := by
      decide
    cases result : { blank with name := "build:debug" }.reconcile colonReport.untagged with
    | ok updated => exact ⟨updated, rfl⟩
    | error cause =>
      rw [result] at taken
      cases taken
  have same : Matches { blank with name := "build:debug" } colonRequest := by
    constructor <;> simp [blank, colonRequest]
  have applies := (@requested_tags_reconcile colonRequest colonReport rfl).2
    { blank with name := "build:debug" } (by decide) (by decide) (by decide) acceptable
  obtain ⟨changed, updated, applied⟩ := applies.1.2 same
  exact ⟨rfl, by decide, by decide, by decide, acceptable, changed, updated, applied,
    applies.2 changed updated applied⟩

end Task

end TaskLedger
