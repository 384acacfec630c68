/-
**The format of tasks.** Blocks keep every task, up to leap seconds out of place, and old and new readers
understand each other's blocks.

* `Task.without` — a task with the defaults in place of some fields.
* `Task.asRead`, `Task.LeapsInPlace` — the task whose times are those that the texts of a task's times show,
  and the tasks that are read as themselves.
* `Task.conveys_fields` — each field of a task is taken over from what it wrote.
* `Task.read_object` — an object with some fields of a task, in any order and among members with other
  names, is read as the task without the other fields.
* `Codec.json_decodes_as_read` — what is encoded is decoded as the same task, exactly if its times have their
  leap seconds in place.
* `Codec.json_reads_arranged` — every spelling of such an object is decoded as that task.
-/
import TaskLedger.Codec.Basic
import TaskLedger.Proofs.Json.Parsing
import TaskLedger.Proofs.Json.Record

namespace TaskLedger

open Json (Member RecordField Shape)
open Json.RecordField (conveys_defaulted)
open Time (Instant)

/-! ### The shapes of a task's fields -/

theorem TaskId.isFaithful_shape : TaskId.shape.IsFaithful id :=
  Shape.isFaithful_imap Shape.isFaithful_string fun _ => rfl

theorem Status.isFaithful_shape : Status.shape.IsFaithful id :=
  Shape.isFaithful_oneOfNames Status.mem_all fun a b => by cases a <;> cases b <;> decide

namespace Task

/-- The task with the defaults in place of the fields under some names. -/
def without (task : Task) (missing : String → Bool) : Task where
  id := (if missing "id" then blank else task).id
  name := (if missing "name" then blank else task).name
  repo := (if missing "repo" then blank else task).repo
  revision := (if missing "revision" then blank else task).revision
  commits := (if missing "commits" then blank else task).commits
  parents := (if missing "parent_task_ids" then blank else task).parents
  retryOf := (if missing "retry_of" then blank else task).retryOf
  status := (if missing "status" then blank else task).status
  created := (if missing "created" then blank else task).created
  started := (if missing "started" then blank else task).started
  finished := (if missing "finished" then blank else task).finished
  stamp := (if missing "db_modified" then blank else task).stamp
  jobId := (if missing "swarming_task_id" then blank else task).jobId
  output := (if missing "isolated_output" then blank else task).output

/-- The part of a task that has taken over the fields with the given names. -/
def part (task : Task) (given : List String) : Task :=
  task.without fun name => !given.contains name

theorem part_nil (task : Task) : task.part [] = blank := rfl

/-- The task with the times that the texts of its times show. -/
def asRead (task : Task) : Task :=
  { task with
    created := task.created.map Instant.asRead
    started := task.started.map Instant.asRead
    finished := task.finished.map Instant.asRead
    stamp := task.stamp.map Instant.asRead }

/-- Every time of the task has its leap second in place, if it lies in one. -/
def LeapsInPlace (task : Task) : Prop :=
  ∀ time ∈ [task.created, task.started, task.finished, task.stamp], ∀ t ∈ time, t.LeapsInPlace

instance (task : Task) : Decidable task.LeapsInPlace := by unfold LeapsInPlace; infer_instance

theorem map_asRead_eq_self_iff {time : Option Instant} :
    time.map Instant.asRead = time ↔ ∀ t ∈ time, t.LeapsInPlace := by
  cases time with
  | none => simp
  | some t => simp [Instant.asRead_eq_self_iff]

/-- **A task is read as itself** exactly if its times have their leap seconds in place. -/
theorem asRead_eq_self_iff {task : Task} : task.asRead = task ↔ task.LeapsInPlace := by
  cases task
  simp [asRead, LeapsInPlace, map_asRead_eq_self_iff]

theorem ite_asRead (lacks : Bool) (task : Task) :
    (if lacks then blank else task.asRead) = (if lacks then blank else task).asRead := by
  cases lacks <;> rfl

theorem asRead_without (task : Task) (missing : String → Bool) :
    (task.without missing).asRead = task.asRead.without missing := by
  simp only [without, ite_asRead]
  rfl

theorem names_nodup : (fields.map (·.name)).Nodup := by
  decide

/-- Every field of a task may be missing. -/
theorem optional_fields : ∀ field ∈ fields, field.required = false := by
  simp [fields, RecordField.defaulted]

/-- Only the names of fields count. -/
theorem without_congr (task : Task) {missing other : String → Bool}
    (agree : ∀ field ∈ fields, missing field.name = other field.name) :
    task.without missing = task.without other := by
  simp only [fields, List.forall_mem_cons, RecordField.defaulted] at agree
  simp only [without, agree]

/-- **Every field is conveyed**, and none changes another. -/
theorem conveys_fields (task : Task) : ∀ field ∈ fields, field.Conveys task task.asRead.part := by
  have text := Shape.isFaithful_string
  have texts := Shape.isFaithful_listOf text
  have ids := Shape.isFaithful_listOf TaskId.isFaithful_shape
  have someText := Shape.isFaithful_optional text fun _ => Json.noConfusion
  have someId := Shape.isFaithful_optional TaskId.isFaithful_shape fun _ => Json.noConfusion
  have someTime := Shape.isFaithful_optional Shape.isFaithful_instant fun _ => Json.noConfusion
  simp only [fields, List.forall_mem_cons, List.not_mem_nil, false_imp_iff, implies_true, and_true]
  refine ⟨conveys_defaulted someId ?_, conveys_defaulted text ?_, conveys_defaulted text ?_,
    conveys_defaulted text ?_, conveys_defaulted texts ?_, conveys_defaulted ids ?_,
    conveys_defaulted someId ?_, conveys_defaulted Status.isFaithful_shape ?_,
    conveys_defaulted someTime ?_, conveys_defaulted someTime ?_, conveys_defaulted someTime ?_,
    conveys_defaulted someTime ?_, conveys_defaulted someText ?_, conveys_defaulted someText ?_⟩ <;>
  simp [part, without, asRead]

section Arranged

variable {task : Task} {missing : String → Bool} {extras : List (String × Json)}
  {members : List Member}

/-- **An object with some fields of a task** is read as the task without the others, whatever the order
of its members and whatever members with other names it has. -/
theorem read_object (foreign : ∀ extra ∈ extras, extra.1 ∉ fields.map (·.name))
    (order : members.Perm (Json.arranged fields task (!missing ·) extras)) :
    shape.read (.object members) = some (task.without missing).asRead := by
  obtain ⟨given, listed, read⟩ := Json.readRecord_object (conveys_fields task) names_nodup
    (fun field mem required => absurd required (by simp [optional_fields field mem])) foreign order
  have same : task.asRead.part given = task.asRead.without missing :=
    without_congr task.asRead fun field mem => by
      have isGiven := listed field mem
      cases lacks : missing field.name <;> simpa [lacks] using isGiven
  rw [part_nil, same, ← asRead_without] at read
  exact read

end Arranged

/-- A task is written as an object of all its fields. -/
theorem write_eq (task : Task) : shape.write task = .object (fields.map (·.member task)) :=
  Json.write_record blank task

theorem members_perm (task : Task) :
    (fields.map (·.member task)).Perm (Json.arranged fields task (fun _ => !false) []) := by
  simp [Json.arranged]

theorem wellFormed_write (task : Task) : (shape.write task).IsWellFormed := by
  rw [write_eq]
  exact Json.wellFormed_arranged (conveys_fields task) (List.forall_mem_nil _) (members_perm task)

end Task

/-! ### Blocks -/

namespace Codec

/-- The text of a task spells its object. -/
theorem spelledBy_jsonText (task : Task) :
    (Json.object (Task.fields.map (·.member task))).SpelledBy (jsonText task) := by
  have spelled := Json.spelledBy_spelled .compact (Task.wellFormed_write task)
  rw [Task.write_eq] at spelled
  rw [jsonText, Json.compact, Task.write_eq]
  exact spelled

theorem decode_of_spelledBy {v : Json} {text : List Char} {task : Task} (spelled : v.SpelledBy text)
    (read : Task.shape.read v = some task) : json.decode (Text.bytes text) = .task task := by
  have found : ofJson? (Text.bytes text) = some task := by
    rw [ofJson?, Json.ofBytes?_spelledBy spelled, Option.bind_some, read]
  rw [json]
  dsimp only
  rw [found]

/-- The text of a task is decoded as the task that it shows. -/
theorem decode_jsonText (task : Task) : json.decode (Text.bytes (jsonText task)) = .task task.asRead :=
  decode_of_spelledBy (spelledBy_jsonText task)
    (Task.read_object (List.forall_mem_nil _) (Task.members_perm task))

/-- **The format loses nothing** but leap seconds out of place: every task is encoded, and its block is
decoded as the task with the times that its texts show, which is that task exactly if none of its times lies
in a leap second in the middle of a minute. -/
theorem json_decodes_as_read (task : Task) :
    ∃ block, json.encode task = .ok block ∧ json.decode block = .task task.asRead ∧
      (json.decode block = .task task ↔ task.LeapsInPlace) := by
  refine ⟨_, rfl, decode_jsonText task, ?_⟩
  rw [decode_jsonText, Decoding.task.injEq, Task.asRead_eq_self_iff]

/-- A task that was created in a leap second in the middle of a minute. -/
def midMinuteTask : Task :=
  .ofNew "build" "repo" Instant.midMinute

/-- That task is encoded, but decoded as one that was created later. -/
theorem json_moves_midMinute :
    ∃ block, json.encode midMinuteTask = .ok block ∧ json.decode block = .task midMinuteTask.asRead ∧
      json.decode block ≠ .task midMinuteTask := by
  refine ⟨_, rfl, decode_jsonText midMinuteTask, ?_⟩
  rw [decode_jsonText]
  decide

/-- **Old and new readers understand each other's blocks.** The block of a task is a text that spells
the object of its fields. Whichever of these are missing, in whatever order the others stand and
whatever members of other names stand between them, each spelling of that object is decoded as the task
with the defaults in place of the missing fields, and with the times that its texts show. Those are its own
exactly if none of the times that are left lies in a leap second in the middle of a minute. -/
theorem json_reads_arranged (task : Task) :
    (∃ text, json.encode task = .ok (Text.bytes text) ∧
      (Json.object (Task.fields.map (·.member task))).SpelledBy text) ∧
    ∀ (missing : String → Bool) (extras : List (String × Json)) (members : List Member)
      (text : List Char),
      (∀ extra ∈ extras, extra.1 ∉ Task.fields.map (·.name)) →
      members.Perm ((Task.fields.filter (!missing ·.name)).map (·.member task) ++
        extras.map fun extra => (some extra.1, extra.2)) →
      (Json.object members).SpelledBy text →
      json.decode (Text.bytes text) = .task (task.without missing).asRead ∧
        (json.decode (Text.bytes text) = .task (task.without missing) ↔
          (task.without missing).LeapsInPlace) := by
  refine ⟨⟨jsonText task, rfl, spelledBy_jsonText task⟩, fun missing _ _ _ foreign order spelled => ?_⟩
  have decoded := decode_of_spelledBy spelled (Task.read_object foreign order)
  refine ⟨decoded, ?_⟩
  rw [decoded, Decoding.task.injEq, Task.asRead_eq_self_iff]

/-- A note that no reader knows, and one field of a task. -/
def noted (name text : String) : List Member :=
  [(some "note", .list [.null]), (some name, .ofString text)]

theorem wellFormed_noted (name text : String) : (Json.object (noted name text)).IsWellFormed :=
  .object fun member mem => by
    rcases List.mem_pair.1 mem with rfl | rfl
    · exact .list fun item inside => List.mem_singleton.1 inside ▸ .null
    · exact .text _

theorem noted_foreign : ∀ extra ∈ [("note", Json.list [.null])], extra.1 ∉ Task.fields.map (·.name) := by
  decide

/-- A task written without any field but its name, behind a note that no reader knows. -/
theorem json_reads_noted :
    (Json.object (noted "name" "build")).SpelledBy
        "\x7b\"note\":[null],\"name\":\"build\"\x7d".toList ∧
      json.decode (Text.bytes "\x7b\"note\":[null],\"name\":\"build\"\x7d".toList) =
        .task { Task.blank with name := "build" } := by
  have order : (noted "name" "build").Perm
      ((Task.fields.filter fun field => !(field.name != "name")).map (·.member midMinuteTask) ++
        [("note", Json.list [.null])].map fun extra => (some extra.1, extra.2)) := .swap _ _ _
  have inPlace : (midMinuteTask.without (· != "name")).LeapsInPlace := by decide
  have spelled := Json.spelledBy_spelled .compact (wellFormed_noted "name" "build")
  have decoded := (json_reads_arranged _).2 (· != "name") _ _ _ noted_foreign order spelled
  exact ⟨spelled, decoded.2.2 inPlace⟩

/-- Written without any field but its creation time, the same task is decoded with a later one. -/
theorem json_moves_noted :
    "note" ∉ Task.fields.map (·.name) ∧
      (noted "created" "2026-01-01T00:00:05.333333333Z").Perm
        ((Task.fields.filter fun field => !(field.name != "created")).map (·.member midMinuteTask) ++
          [("note", Json.list [.null])].map fun extra => (some extra.1, extra.2)) ∧
      (Json.object (noted "created" "2026-01-01T00:00:05.333333333Z")).SpelledBy
        "\x7b\"note\":[null],\"created\":\"2026-01-01T00:00:05.333333333Z\"\x7d".toList ∧
      json.decode (Text.bytes
          "\x7b\"note\":[null],\"created\":\"2026-01-01T00:00:05.333333333Z\"\x7d".toList) ≠
        .task (midMinuteTask.without (· != "created")) := by
  have order : (noted "created" "2026-01-01T00:00:05.333333333Z").Perm
      (Json.arranged Task.fields midMinuteTask (fun name => !(name != "created"))
        [("note", Json.list [.null])]) := .swap _ _ _
  have spelled := Json.spelledBy_spelled .compact
    (wellFormed_noted "created" "2026-01-01T00:00:05.333333333Z")
  have decoded := decode_of_spelledBy spelled (Task.read_object noted_foreign order)
  refine ⟨by decide, order, spelled, fun same => ?_⟩
  exact absurd (Decoding.task.inj (decoded.symm.trans same)) (by decide)

end Codec

end TaskLedger
