/-
**An encoder in use.** Tasks are offered and pairs are drawn in any order. The encoder is a queue until a
task cannot be encoded; from then on it is a failure.

* `EncoderCall`, `EncoderRun` — the calls of an encoder, and an encoder with what its calls were answered.
* `Codec.firstError?` — the error of the first of some tasks that cannot be encoded. It depends on the
  tasks offered alone, not on when pairs are drawn.
* `EncoderRun.Faithful` — the tasks before that one are accepted, and their pairs are those handed out and
  then those in the queue. Each call keeps this: `Faithful.process`, `Faithful.next`.
* `EncoderRun.queue_until_failure` — what the next call is answered after any calls.
-/
import TaskLedger.Codec.Encoder
import Mathlib.Data.List.Forall2
import Mathlib.Data.List.Induction

namespace TaskLedger

/-- A call of an encoder. -/
inductive EncoderCall where
  | process (task : Task)
  | next

/-- The task that a call offers. -/
def EncoderCall.offered? : EncoderCall → Option Task
  | .process task => some task
  | .next => none

namespace Codec

variable {codec : Codec} {task : Task}

/-- The error of encoding a task. -/
def error? (codec : Codec) (task : Task) : Option CodecError :=
  match codec.encode task with
  | .ok _ => none
  | .error error => some error

/-- The error of the first task that cannot be encoded. -/
def firstError? (codec : Codec) (tasks : List Task) : Option CodecError :=
  tasks.findSome? codec.error?

/-- The pair holds a task and the codec's block for it. -/
def PairOf (codec : Codec) (task : Task) (pair : Task × ByteArray) : Prop :=
  pair.1 = task ∧ codec.encode task = .ok pair.2

theorem error?_eq_none_iff : codec.error? task = none ↔ ∃ block, codec.encode task = .ok block := by
  rw [error?]
  cases codec.encode task <;> simp

theorem error?_eq_some_iff {error : CodecError} :
    codec.error? task = some error ↔ codec.encode task = .error error := by
  rw [error?]
  cases codec.encode task <;> simp

theorem firstError?_concat (codec : Codec) (tasks : List Task) (task : Task) :
    codec.firstError? (tasks ++ [task]) = (codec.firstError? tasks).or (codec.error? task) := by
  rw [firstError?, List.findSome?_append, List.findSome?_singleton, firstError?]

end Codec

/-- An encoder in use, with what its calls were answered so far. -/
structure EncoderRun where
  encoder : Encoder
  /-- The tasks that were accepted, oldest first. -/
  accepted : List Task
  /-- The pairs that were handed out, oldest first. -/
  handed : List (Task × ByteArray)

namespace EncoderRun

variable {codec : Codec} {offered : List Task} {run : EncoderRun}

/-- The encoder before its first call. -/
def start (codec : Codec) : EncoderRun :=
  ⟨.ofCodec codec, [], []⟩

/-- The pair that an answer hands out, if it does. -/
def pairs : Except CodecError (Option (Task × ByteArray)) → List (Task × ByteArray)
  | .ok pair => pair.toList
  | .error _ => []

/-- A call with its answer. -/
def call (run : EncoderRun) : EncoderCall → EncoderRun
  | .process task =>
    let (taken, encoder) := run.encoder.process task
    { run with encoder := encoder, accepted := run.accepted ++ if taken then [task] else [] }
  | .next =>
    let (answer, encoder) := run.encoder.next
    { run with encoder := encoder, handed := run.handed ++ pairs answer }

/-- The encoder after calls. -/
def after (codec : Codec) (calls : List EncoderCall) : EncoderRun :=
  calls.foldl call (start codec)

/-! ### One call -/

theorem call_process_of_failure {error : CodecError} (failed : run.encoder.failure = some error)
    (task : Task) : run.call (.process task) = run := by
  simp [call, Encoder.process, failed]

theorem call_next_of_failure {error : CodecError} (failed : run.encoder.failure = some error) :
    run.call .next = run := by
  simp [call, Encoder.next, failed, pairs]

/-- **A failure is the end.** No call changes anything. -/
theorem call_of_failure {error : CodecError} (failed : run.encoder.failure = some error)
    (call : EncoderCall) : run.call call = run := by
  cases call with
  | process task => exact call_process_of_failure failed task
  | next => exact call_next_of_failure failed

theorem foldl_call_of_failure {error : CodecError} (failed : run.encoder.failure = some error)
    (calls : List EncoderCall) : calls.foldl call run = run := by
  induction calls with
  | nil => rfl
  | cons first rest ih => rw [List.foldl_cons, call_of_failure failed, ih]

/-- What was offered, accepted and handed out go together. -/
structure Faithful (codec : Codec) (offered : List Task) (run : EncoderRun) : Prop where
  codec_eq : run.encoder.codec = codec
  failure : run.encoder.failure = codec.firstError? offered
  accepted : run.encoder.failure = none → run.accepted = offered
  /-- Of the pairs of the accepted tasks the first were handed out. -/
  handed : ∃ left, List.Forall₂ codec.PairOf run.accepted (run.handed ++ left) ∧
    (run.encoder.failure = none → left = run.encoder.queue)

theorem faithful_start (codec : Codec) : Faithful codec [] (start codec) where
  codec_eq := rfl
  failure := rfl
  accepted _ := rfl
  handed := ⟨[], .nil, fun _ => rfl⟩

theorem Faithful.process (faithful : Faithful codec offered run) (task : Task) :
    Faithful codec (offered ++ [task]) (run.call (.process task)) := by
  have later := codec.firstError?_concat offered task
  rw [← faithful.failure] at later
  cases failed : run.encoder.failure with
  | some error =>
    rw [failed, Option.some_or] at later
    rw [call_process_of_failure failed]
    exact ⟨faithful.codec_eq, failed.trans later.symm, (fun running => nomatch failed.symm.trans running),
      faithful.handed⟩
  | none =>
    rw [failed, Option.none_or] at later
    obtain ⟨left, pairs, waiting⟩ := faithful.handed
    cases encoded : codec.encode task with
    | error error =>
      rw [Codec.error?_eq_some_iff.2 encoded] at later
      have failure : run.call (.process task) =
          { run with encoder := { run.encoder with queue := [], failure := some error } } := by
        simp [call, Encoder.process, failed, faithful.codec_eq, encoded]
      rw [failure]
      exact ⟨faithful.codec_eq, later.symm, nofun, left, pairs, nofun⟩
    | ok block =>
      rw [Codec.error?_eq_none_iff.2 ⟨block, encoded⟩] at later
      have taken : run.call (.process task) =
          { run with
            encoder := { run.encoder with queue := run.encoder.queue ++ [(task, block)] }
            accepted := run.accepted ++ [task] } := by
        simp [call, Encoder.process, failed, faithful.codec_eq, encoded]
      rw [taken]
      refine ⟨faithful.codec_eq, failed.trans later.symm, fun _ => ?_, left ++ [(task, block)], ?_,
        fun _ => ?_⟩
      · rw [faithful.accepted failed]
      · rw [← List.append_assoc]
        exact List.rel_append pairs (.cons ⟨rfl, encoded⟩ .nil)
      · rw [waiting failed]

theorem Faithful.next (faithful : Faithful codec offered run) :
    Faithful codec offered (run.call .next) := by
  cases failed : run.encoder.failure with
  | some error =>
    rw [call_next_of_failure failed]
    exact faithful
  | none =>
    have drawn : run.call .next =
        { run with
          encoder := { run.encoder with queue := run.encoder.queue.tail }
          handed := run.handed ++ run.encoder.queue.head?.toList } := by
      simp [call, Encoder.next, failed, pairs]
    obtain ⟨left, pairs, waiting⟩ := faithful.handed
    rw [drawn]
    refine ⟨faithful.codec_eq, faithful.failure, faithful.accepted, left.tail, ?_, fun _ => ?_⟩
    · rw [← waiting failed, List.append_assoc]
      cases left <;> exact pairs
    · rw [waiting failed]

/-! ### Runs -/

/-- **Every run is faithful** to the tasks that its calls offer. -/
theorem faithful_after (codec : Codec) (calls : List EncoderCall) :
    Faithful codec (calls.filterMap EncoderCall.offered?) (after codec calls) := by
  induction calls using List.reverseRecOn with
  | nil => exact faithful_start codec
  | append_singleton calls last ih =>
    rw [after, List.foldl_concat, List.filterMap_append]
    cases last with
    | process task => exact ih.process task
    | next =>
      have nothing : [EncoderCall.next].filterMap EncoderCall.offered? = [] := rfl
      rw [nothing, List.append_nil]
      exact ih.next

/-- **The encoder is a queue until it fails.** For every codec and all calls made so far, in any order:

* as long as every offered task could be encoded, all were accepted, and so will be the next one that can
  be encoded; the pairs handed out are those of the first accepted tasks, in their order, and the next one
  to be handed out is that of the accepted task after them, or nothing if there is none;
* once one could not, no task is accepted and nothing changes any more, the answer to every request for a
  pair is the error of the first such task, and no more pairs are handed out. -/
theorem queue_until_failure (codec : Codec) (calls : List EncoderCall) :
    let run := after codec calls
    match codec.firstError? (calls.filterMap EncoderCall.offered?) with
    | none =>
      run.accepted = calls.filterMap EncoderCall.offered? ∧
        (∀ task, (run.encoder.process task).1 = true ↔ ∃ block, codec.encode task = .ok block) ∧
        ∃ left, List.Forall₂ codec.PairOf run.accepted (run.handed ++ left) ∧
          run.encoder.next.1 = .ok left.head?
    | some error =>
      (∀ task, run.encoder.process task = (false, run.encoder)) ∧
        run.encoder.next = (.error error, run.encoder) ∧
        (∃ left, List.Forall₂ codec.PairOf run.accepted (run.handed ++ left)) ∧
        ∀ more, after codec (calls ++ more) = run := by
  have faithful := faithful_after codec calls
  have failure := faithful.failure
  obtain ⟨left, pairs, waiting⟩ := faithful.handed
  intro run
  split
  · rename_i none
    have running : run.encoder.failure = .none := failure.trans none
    refine ⟨faithful.accepted running, fun task => ?_, left, pairs, ?_⟩
    · rw [Encoder.process, running, faithful.codec_eq]
      cases codec.encode task <;> simp
    · rw [Encoder.next, running, waiting running]
  · rename_i error first
    have failed : run.encoder.failure = some error := failure.trans first
    refine ⟨fun task => ?_, ?_, ⟨left, pairs⟩, fun more => ?_⟩
    · rw [Encoder.process, failed]
      rfl
    · rw [Encoder.next, failed]
    · rw [after, List.foldl_append]
      exact foldl_call_of_failure failed more

end EncoderRun

end TaskLedger
