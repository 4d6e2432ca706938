import NodeRedBull.Commands
import NodeRedBull.Js.Trim
import NodeRedBull.Library.Course

/-! What a command checks before it acts. -/

namespace NodeRedBull.CommandGuards
open Js Library JobRuntime Commands

/-- All calls of the body are allowed. -/
abbrev Calls {α : Type} (allowed : CommandCall → Prop) (body : CommandBody α) : Prop :=
  body.CallsOnly allowed

/-- The errors that commands create themselves; the language throws TypeErrors. -/
def Refusal (error : JsError) : Prop := error.class_ = .error

def Lookup (queue : Nat) (call : CommandCall) : Prop := ∃ args, call = .queue queue .getJob args

abbrev Never {α : Type} (body : CommandBody α) : Prop := body.NeverRefuses Refusal

abbrev ChecksFirst {α : Type} (queue : Nat) (body : CommandBody α) : Prop :=
  body.RefusesFirst Refusal (Lookup queue)

/-! ## Arguments of the calls -/

/-- `msg.repeat` as schedulers take it -/
structure SchedulerRepeat (repetition : JsValue) : Prop where
  object : repetition.isObject = true
  noArray : repetition.isArray = false
  noCron : repetition.hasOwn "cron" = false
  noUtc : repetition.hasOwn "utc" = false

/-- The data of the job that a message adds. -/
def addedData (msg : JsValue) : JsValue :=
  if msg.hasOwn "jobData" then msg.get "jobData" else .object [("payload", msg.get "payload")]

/-- What is known of the arguments of the methods that can start repetitions. -/
def Guarded (msg : JsValue) : CommandCall → Prop
  | .queue _ .add args =>
    ∃ name opts, args = [name, addedData msg, opts] ∧ hasRepeat opts = false
  | .queue _ .addBulk args =>
    ∃ jobs, args = [jobs] ∧ ∀ items, jobs = .array items → ∀ job ∈ items, repeats job = false
  | .queue _ .upsertJobScheduler args => ∃ id repetition template,
    args = [.string id, repetition, template] ∧ trimText id ≠ "" ∧ SchedulerRepeat repetition
  | _ => True

def startsJobs : QueueMethod → Bool
  | .add | .addBulk | .upsertJobScheduler => true
  | _ => false

variable {allowed : CommandCall → Prop} (queue : Nat) (msg : JsValue)

theorem guarded_of_plain {method : QueueMethod} (plain : startsJobs method = false)
    (args : List JsValue) : Guarded msg (.queue queue method args) := by
  cases method with
  | add | addBulk | upsertJobScheduler => cases plain
  | _ => trivial

theorem onQueue_calls {method : QueueMethod} {args : List JsValue}
    (member : allowed (.queue queue method args)) : Calls allowed (onQueue queue method args) :=
  Async.callsOnly_call member

theorem onQueue_guarded {method : QueueMethod} (plain : startsJobs method = false)
    (args : List JsValue) : Calls (Guarded msg) (onQueue queue method args) :=
  onQueue_calls queue (guarded_of_plain queue msg plain args)

theorem onJob_guarded (job : Nat) (method : CommandJobMethod) (args : List JsValue) :
    Calls (Guarded msg) (onJob job method args) :=
  Async.callsOnly_call trivial

theorem orThrow_calls {α : Type} (result : Except JsError α) : Calls allowed (orThrow result) := by
  cases result with
  | ok value => exact Async.callsOnly_pure value
  | error error => exact Async.callsOnly_throw error

theorem serializeCurrent_calls (job : Option Nat) : Calls allowed (serializeCurrent job) :=
  Async.callsOnly_bind Async.callsOnly_get fun _ => Async.callsOnly_pure _

theorem serializeJobs_calls (jobs : List (Option Nat)) : Calls allowed (serializeJobs jobs) :=
  Async.callsOnly_bind Async.callsOnly_get fun _ => Async.callsOnly_pure _

theorem getRequiredJob_calls (lookup : ∀ args, allowed (.queue queue .getJob args)) :
    Calls allowed (getRequiredJob queue msg) := by
  unfold getRequiredJob
  by_cases missing : trimText ((msg.get "jobId").orElse (.string "")).toText = ""
  · simp only [missing, ↓reduceIte]
    exact Async.callsOnly_throw _
  · simp only [missing, ↓reduceIte]
    apply Async.callsOnly_bind (onQueue_calls queue (lookup _))
    intro job
    cases job with
    | some job => exact Async.callsOnly_pure job
    | none => exact Async.callsOnly_throw _

theorem getRequiredJob_guarded : Calls (Guarded msg) (getRequiredJob queue msg) :=
  getRequiredJob_calls queue msg (guarded_of_plain queue msg rfl)

theorem dispatchAdd_guarded : Calls (Guarded msg) (dispatchAdd queue msg) := by
  unfold dispatchAdd
  by_cases repetition : hasRepeat ((msg.get "jobopts").orElse (.object [])) = true
  · simp only [repetition, ↓reduceIte]
    exact Async.callsOnly_throw _
  · simp only [repetition, Bool.false_eq_true, ↓reduceIte]
    have checked : Guarded msg (.queue queue .add [(msg.get "jobName").orElse (.string "default"),
        addedData msg, (msg.get "jobopts").orElse (.object [])]) :=
      ⟨_, _, rfl, by simpa using repetition⟩
    exact Async.callsOnly_bind (onQueue_calls queue checked) fun job => serializeCurrent_calls job

theorem dispatchAddBulk_guarded : Calls (Guarded msg) (dispatchAddBulk queue msg) := by
  have added : ∀ jobs, (∀ items, jobs = .array items → ∀ job ∈ items, repeats job = false) →
      Calls (Guarded msg) (do serializeJobs (← onQueue queue .addBulk [jobs])) := by
    intro jobs checked
    exact Async.callsOnly_bind (onQueue_calls queue ⟨jobs, rfl, checked⟩) fun added =>
      serializeJobs_calls added
  unfold dispatchAddBulk
  cases (msg.get "payload").orElse (.array []) with
  | array items =>
    by_cases repetition : items.any repeats = true
    · simp only [repetition, ↓reduceIte]
      exact Async.callsOnly_throw _
    · simp only [repetition, Bool.false_eq_true, ↓reduceIte]
      apply added
      intro others same job member
      cases same
      cases found : repeats job with
      | false => rfl
      | true => exact absurd (List.any_eq_true.mpr ⟨job, member, found⟩) repetition
  | _ =>
    apply added
    intro items same
    cases same

theorem getSchedulerId_ok {id : JsValue} (found : getSchedulerId msg = .ok id) :
    ∃ text, id = .string text ∧ trimText text ≠ "" := by
  unfold getSchedulerId at found
  by_cases blank : trimText ((msg.get "schedulerId").orElse (.string "")).toText = ""
  · rw [blank] at found
    cases found
  · simp only [blank, ↓reduceIte] at found
    cases found
    refine ⟨_, rfl, ?_⟩
    rw [trimText_trimText]
    exact blank

theorem dispatchUpsertJobScheduler_guarded :
    Calls (Guarded msg) (dispatchUpsertJobScheduler queue msg) := by
  unfold dispatchUpsertJobScheduler
  by_cases malformed : (!(msg.get "repeat").isObject || (msg.get "repeat").isArray) = true
  · simp only [malformed, ↓reduceIte]
    exact Async.callsOnly_throw _
  · by_cases old : ((msg.get "repeat").hasOwn "cron" || (msg.get "repeat").hasOwn "utc") = true
    · simp only [malformed, old, Bool.false_eq_true, ↓reduceIte]
      exact Async.callsOnly_throw _
    · have repetition : SchedulerRepeat (msg.get "repeat") := by
        simp only [Bool.or_eq_true, Bool.not_eq_true', not_or, Bool.not_eq_false,
          Bool.not_eq_true] at malformed old
        exact ⟨malformed.1, malformed.2, old.1, old.2⟩
      simp only [malformed, old, Bool.false_eq_true, ↓reduceIte]
      cases found : getSchedulerId msg with
      | error error => exact Async.callsOnly_throw error
      | ok id =>
        obtain ⟨text, same, named⟩ := getSchedulerId_ok msg found
        subst same
        have checked : Guarded msg (.queue queue .upsertJobScheduler
            [.string text, msg.get "repeat", msg.get "template"]) :=
          ⟨text, _, _, rfl, named, repetition⟩
        change Calls (Guarded msg) (do serializeCurrent (← onQueue queue .upsertJobScheduler
          [.string text, msg.get "repeat", msg.get "template"]))
        exact Async.callsOnly_bind (onQueue_calls queue checked) fun job =>
          serializeCurrent_calls job

theorem removeSchedulers_guarded (schedulers : List JsValue) :
    Calls (Guarded msg) (removeSchedulers queue schedulers) := by
  induction schedulers with
  | nil => exact Async.callsOnly_pure _
  | cons scheduler rest ih =>
    unfold removeSchedulers
    apply Async.callsOnly_bind (orThrow_calls _)
    intro id
    by_cases named : id.truthy = true
    · simp only [named, ↓reduceIte]
      apply Async.callsOnly_bind (onQueue_guarded queue msg (by rfl) _)
      intro _
      exact Async.callsOnly_bind ih fun _ => Async.callsOnly_pure _
    · simp only [named, Bool.false_eq_true, ↓reduceIte]
      exact ih

theorem cleanAll_guarded (states : List String) : Calls (Guarded msg) (cleanAll queue states) := by
  induction states with
  | nil => exact Async.callsOnly_pure _
  | cons state rest ih =>
    apply Async.callsOnly_bind (onQueue_guarded queue msg (by rfl) _)
    intro _
    exact Async.callsOnly_bind ih fun _ => Async.callsOnly_pure _

theorem dispatchStopAndRemoveAllJobs_guarded :
    Calls (Guarded msg) (dispatchStopAndRemoveAllJobs queue) := by
  apply Async.callsOnly_bind (onQueue_guarded queue msg (by rfl) _)
  intro schedulers
  apply Async.callsOnly_bind (removeSchedulers_guarded queue msg schedulers)
  intro removed
  apply Async.callsOnly_bind (onQueue_guarded queue msg (by rfl) _)
  intro _
  exact Async.callsOnly_bind (cleanAll_guarded queue msg cleanStates) fun _ => Async.callsOnly_pure _

theorem dispatchSetGlobalRateLimit_guarded :
    Calls (Guarded msg) (dispatchSetGlobalRateLimit queue msg) := by
  unfold dispatchSetGlobalRateLimit
  by_cases missing : (isNullish (fieldOrPayload msg "max") ||
      isNullish (fieldOrPayload msg "duration")) = true
  · simp only [missing, ↓reduceIte]
    exact Async.callsOnly_throw _
  · simp only [missing, Bool.false_eq_true, ↓reduceIte]
    exact Async.callsOnly_bind (onQueue_guarded queue msg (by rfl) _) fun _ => Async.callsOnly_pure _

theorem changeRequiredJob_guarded (method : CommandJobMethod) (args : List JsValue) :
    Calls (Guarded msg) (changeRequiredJob queue msg method args) := by
  apply Async.callsOnly_bind (getRequiredJob_guarded queue msg)
  intro job
  exact Async.callsOnly_bind (onJob_guarded msg job method args) fun _ =>
    serializeCurrent_calls (some job)

theorem thenTrue_guarded {method : QueueMethod} (plain : startsJobs method = false)
    (args : List JsValue) : Calls (Guarded msg) (thenTrue queue method args) :=
  Async.callsOnly_bind (onQueue_guarded queue msg plain args) fun _ => Async.callsOnly_pure _

theorem runCommand_guarded (command : Command) : Calls (Guarded msg) (runCommand queue msg command) := by
  cases command with
  | add => exact dispatchAdd_guarded queue msg
  | addBulk => exact dispatchAddBulk_guarded queue msg
  | upsertJobScheduler => exact dispatchUpsertJobScheduler_guarded queue msg
  | stopAndRemoveAllJobs => exact dispatchStopAndRemoveAllJobs_guarded queue msg
  | setGlobalRateLimit => exact dispatchSetGlobalRateLimit_guarded queue msg
  | getJob =>
    exact Async.callsOnly_bind (onQueue_guarded queue msg (by rfl) _) fun job =>
      serializeCurrent_calls job
  | getJobs | getDelayed | getPrioritized =>
    exact Async.callsOnly_bind (onQueue_guarded queue msg (by rfl) _) fun jobs =>
      serializeJobs_calls jobs
  | getJobState =>
    exact Async.callsOnly_bind (getRequiredJob_guarded queue msg) fun job => onJob_guarded msg job _ _
  | removeJob =>
    apply Async.callsOnly_bind (getRequiredJob_guarded queue msg)
    intro job
    exact Async.callsOnly_bind (onJob_guarded msg job _ _) fun _ => Async.callsOnly_pure _
  | retryJob | changeDelay | promoteJob | changePriority =>
    exact changeRequiredJob_guarded queue msg _ _
  | getJobScheduler =>
    apply Async.callsOnly_bind (orThrow_calls _)
    intro schedulerId
    exact Async.callsOnly_bind (onQueue_guarded queue msg (by rfl) _) fun _ => Async.callsOnly_pure _
  | getJobSchedulers =>
    exact Async.callsOnly_bind (onQueue_guarded queue msg (by rfl) _) fun _ => Async.callsOnly_pure _
  | removeJobScheduler | getJobCounts =>
    exact Async.callsOnly_bind (orThrow_calls _) fun _ => onQueue_guarded queue msg (by rfl) _
  | pause | resume | drain | setGlobalConcurrency | rateLimit =>
    exact thenTrue_guarded queue msg (by rfl) _
  | _ => exact onQueue_guarded queue msg (by rfl) _

/-! ## Refusals -/

theorem onQueue_never (method : QueueMethod) (args : List JsValue) :
    Never (onQueue queue method args) :=
  Async.neverRefuses_call _

theorem onJob_never (job : Nat) (method : CommandJobMethod) (args : List JsValue) :
    Never (onJob job method args) :=
  Async.neverRefuses_call _

theorem serializeCurrent_never (job : Option Nat) : Never (serializeCurrent job) :=
  Async.neverRefuses_bind Async.neverRefuses_get fun _ => Async.neverRefuses_pure _

theorem serializeJobs_never (jobs : List (Option Nat)) : Never (serializeJobs jobs) :=
  Async.neverRefuses_bind Async.neverRefuses_get fun _ => Async.neverRefuses_pure _

theorem schedulerKey_never (scheduler : JsValue) : Never (orThrow (schedulerKey scheduler)) := by
  cases scheduler with
  | undefined | null =>
    apply Async.neverRefuses_throw
    intro refused
    cases refused
  | _ => exact Async.neverRefuses_pure _

theorem removeSchedulers_never (schedulers : List JsValue) :
    Never (removeSchedulers queue schedulers) := by
  induction schedulers with
  | nil => exact Async.neverRefuses_pure _
  | cons scheduler rest ih =>
    unfold removeSchedulers
    apply Async.neverRefuses_bind (schedulerKey_never scheduler)
    intro id
    by_cases named : id.truthy = true
    · simp only [named, ↓reduceIte]
      apply Async.neverRefuses_bind (onQueue_never queue _ _)
      intro _
      exact Async.neverRefuses_bind ih fun _ => Async.neverRefuses_pure _
    · simp only [named, Bool.false_eq_true, ↓reduceIte]
      exact ih

theorem cleanAll_never (states : List String) : Never (cleanAll queue states) := by
  induction states with
  | nil => exact Async.neverRefuses_pure _
  | cons state rest ih =>
    apply Async.neverRefuses_bind (onQueue_never queue _ _)
    intro _
    exact Async.neverRefuses_bind ih fun _ => Async.neverRefuses_pure _

theorem dispatchStopAndRemoveAllJobs_never : Never (dispatchStopAndRemoveAllJobs queue) := by
  apply Async.neverRefuses_bind (onQueue_never queue _ _)
  intro schedulers
  apply Async.neverRefuses_bind (removeSchedulers_never queue schedulers)
  intro removed
  apply Async.neverRefuses_bind (onQueue_never queue _ _)
  intro _
  exact Async.neverRefuses_bind (cleanAll_never queue cleanStates) fun _ =>
    Async.neverRefuses_pure _

theorem throw_checksFirst {α : Type} (error : JsError) :
    ChecksFirst queue (throw error : CommandBody α) :=
  (Async.callsOnly_throw error).first

theorem oneCall_checksFirst (method : QueueMethod) (args : List JsValue)
    {serialize : method.Reply → CommandBody JsValue} (never : ∀ reply, Never (serialize reply)) :
    ChecksFirst queue (onQueue queue method args >>= serialize) :=
  (Async.neverRefuses_bind (onQueue_never queue method args) never).first

theorem dispatchAdd_checksFirst : ChecksFirst queue (dispatchAdd queue msg) := by
  unfold dispatchAdd
  by_cases repetition : hasRepeat ((msg.get "jobopts").orElse (.object [])) = true
  · simp only [repetition, ↓reduceIte]
    exact throw_checksFirst queue _
  · simp only [repetition, Bool.false_eq_true, ↓reduceIte]
    exact oneCall_checksFirst queue .add _ serializeCurrent_never

theorem dispatchAddBulk_checksFirst : ChecksFirst queue (dispatchAddBulk queue msg) := by
  unfold dispatchAddBulk
  cases (msg.get "payload").orElse (.array []) with
  | array items =>
    by_cases repetition : items.any repeats = true
    · simp only [repetition, ↓reduceIte]
      exact throw_checksFirst queue _
    · simp only [repetition, Bool.false_eq_true, ↓reduceIte]
      exact oneCall_checksFirst queue .addBulk _ serializeJobs_never
  | _ => exact oneCall_checksFirst queue .addBulk _ serializeJobs_never

theorem dispatchUpsertJobScheduler_checksFirst :
    ChecksFirst queue (dispatchUpsertJobScheduler queue msg) := by
  unfold dispatchUpsertJobScheduler
  by_cases malformed : (!(msg.get "repeat").isObject || (msg.get "repeat").isArray) = true
  · simp only [malformed, ↓reduceIte]
    exact throw_checksFirst queue _
  · by_cases old : ((msg.get "repeat").hasOwn "cron" || (msg.get "repeat").hasOwn "utc") = true
    · simp only [malformed, old, Bool.false_eq_true, ↓reduceIte]
      exact throw_checksFirst queue _
    · simp only [malformed, old, Bool.false_eq_true, ↓reduceIte]
      exact Async.refusesFirst_bind (orThrow_calls _) fun _ =>
        oneCall_checksFirst queue .upsertJobScheduler _ serializeCurrent_never

theorem dispatchSetGlobalRateLimit_checksFirst :
    ChecksFirst queue (dispatchSetGlobalRateLimit queue msg) := by
  unfold dispatchSetGlobalRateLimit
  by_cases missing : (isNullish (fieldOrPayload msg "max") ||
      isNullish (fieldOrPayload msg "duration")) = true
  · simp only [missing, ↓reduceIte]
    exact throw_checksFirst queue _
  · simp only [missing, Bool.false_eq_true, ↓reduceIte]
    exact oneCall_checksFirst queue .setGlobalRateLimit _ fun _ => Async.neverRefuses_pure _

/-- Nothing is refused once the job is found. -/
theorem requiredJob_checksFirst {rest : Nat → CommandBody JsValue}
    (never : ∀ job, Never (rest job)) : ChecksFirst queue (getRequiredJob queue msg >>= rest) :=
  Async.refusesFirst_bind (getRequiredJob_calls queue msg fun args => ⟨args, rfl⟩) fun job =>
    (never job).first

theorem changeRequiredJob_checksFirst (method : CommandJobMethod) (args : List JsValue) :
    ChecksFirst queue (changeRequiredJob queue msg method args) := by
  apply requiredJob_checksFirst
  intro job
  exact Async.neverRefuses_bind (onJob_never job method args) fun _ =>
    serializeCurrent_never (some job)

theorem runCommand_checksFirst (command : Command) :
    ChecksFirst queue (runCommand queue msg command) := by
  cases command with
  | add => exact dispatchAdd_checksFirst queue msg
  | addBulk => exact dispatchAddBulk_checksFirst queue msg
  | upsertJobScheduler => exact dispatchUpsertJobScheduler_checksFirst queue msg
  | stopAndRemoveAllJobs => exact (dispatchStopAndRemoveAllJobs_never queue).first
  | setGlobalRateLimit => exact dispatchSetGlobalRateLimit_checksFirst queue msg
  | getJob => exact oneCall_checksFirst queue .getJob _ serializeCurrent_never
  | getJobs => exact oneCall_checksFirst queue .getJobs _ serializeJobs_never
  | getDelayed => exact oneCall_checksFirst queue .getDelayed _ serializeJobs_never
  | getPrioritized => exact oneCall_checksFirst queue .getPrioritized _ serializeJobs_never
  | getJobState => exact requiredJob_checksFirst queue msg fun job => onJob_never job _ _
  | removeJob =>
    apply requiredJob_checksFirst
    intro job
    exact Async.neverRefuses_bind (onJob_never job _ _) fun _ => Async.neverRefuses_pure _
  | retryJob | changeDelay | promoteJob | changePriority =>
    exact changeRequiredJob_checksFirst queue msg _ _
  | getJobScheduler =>
    exact Async.refusesFirst_bind (orThrow_calls _) fun _ =>
      oneCall_checksFirst queue .getJobScheduler _ fun _ => Async.neverRefuses_pure _
  | getJobSchedulers =>
    exact oneCall_checksFirst queue .getJobSchedulers _ fun _ => Async.neverRefuses_pure _
  | removeJobScheduler | getJobCounts =>
    exact Async.refusesFirst_bind (orThrow_calls _) fun _ => (onQueue_never queue _ _).first
  | pause | resume | drain | setGlobalConcurrency | rateLimit =>
    exact oneCall_checksFirst queue _ _ fun _ => Async.neverRefuses_pure _
  | _ => exact (onQueue_never queue _ _).first

/-- Calls are only made once the checks of the message have passed. -/
theorem dispatchCommand_of_passed {holds : CommandBody JsValue → Prop}
    (throws : ∀ error, holds (throw error))
    (runs : ∀ command, commandOf msg = .ok command → holds (runCommand queue msg command)) :
    holds (dispatchCommand queue msg) := by
  unfold dispatchCommand
  by_cases command : (!(msg.get "cmd").isPresent && (msg.get "command").isPresent) = true
  · simp only [command, ↓reduceIte]
    exact throws _
  · by_cases jobid : (!(msg.get "jobId").isPresent && (msg.get "jobid").isPresent) = true
    · simp only [command, jobid, Bool.false_eq_true, ↓reduceIte]
      exact throws _
    · simp only [command, jobid, Bool.false_eq_true, ↓reduceIte]
      cases parsed : commandOf msg with
      | error error => exact throws error
      | ok command => exact runs command parsed

theorem dispatchCommand_guarded : Calls (Guarded msg) (dispatchCommand queue msg) :=
  dispatchCommand_of_passed queue msg (fun error => Async.callsOnly_throw error)
    fun command _ => runCommand_guarded queue msg command

theorem dispatchCommand_checksFirst : ChecksFirst queue (dispatchCommand queue msg) :=
  dispatchCommand_of_passed queue msg (throw_checksFirst queue) fun command _ =>
    runCommand_checksFirst queue msg command

/-- The command fails with an error of its own: no call was rejected. -/
structure OwnFailure (exchanges : List (Exchange CommandCall CommandReply JsError))
    (stopped : Paused Runtime CommandCall CommandReply JsError JsValue) (error : JsError) :
    Prop where
  failed : stopped = .finished (.error error)
  answered : ∀ exchange ∈ exchanges, exchange.succeeded
  own : Refusal error

/-- A refused command has called nothing but `queue.getJob`, and repeat options reach BullMQ by
schedulers with an id only. -/
theorem dispatchCommand_guards {exchanges : List (Exchange CommandCall CommandReply JsError)}
    {stopped : Paused Runtime CommandCall CommandReply JsError JsValue}
    (run : Course (dispatchCommand queue msg) exchanges stopped) :
    (∀ error, OwnFailure exchanges stopped error →
      ∀ call ∈ callsOf exchanges stopped, Lookup queue call) ∧
    ∀ call ∈ callsOf exchanges stopped, Guarded msg call := by
  constructor
  · intro error failure call member
    obtain ⟨failed, answered, own⟩ := failure
    subst failed
    unfold callsOf at member
    rcases List.mem_append.mp member with made | waiting
    · obtain ⟨exchange, asked, same⟩ := List.mem_map.mp made
      rw [← same]
      exact dispatchCommand_checksFirst queue msg exchanges error run answered own exchange asked
    · cases waiting
  · exact (dispatchCommand_guarded queue msg).course run

def stateMessage : JsValue := .object [("cmd", .string "getJobState"), ("jobId", .string " 7 ")]

/-- The queue does not know the job. -/
def noJob : Exchange CommandCall CommandReply JsError :=
  ⟨.queue 0 .getJob [.string "7"], .ok none⟩

def notFound : Paused Runtime CommandCall CommandReply JsError JsValue :=
  .finished (.error (newError "Job not found: 7"))

theorem stateMessage_run : Course (dispatchCommand 0 stateMessage) [noJob] notFound := by
  have waits : ((dispatchCommand 0 stateMessage).segment Runtime.initial).2 =
      .awaiting (.queue 0 .getJob [.string "7"]) _ := rfl
  exact .answered Runtime.initial waits (.stop _ Runtime.initial)

theorem dispatchCommand_guards_notFound :
    (∀ call ∈ callsOf [noJob] notFound, Lookup 0 call) ∧
      ∀ call ∈ callsOf [noJob] notFound, Guarded stateMessage call := by
  have failure : OwnFailure [noJob] notFound (newError "Job not found: 7") := by
    refine ⟨rfl, ?_, rfl⟩
    intro exchange member
    cases List.mem_singleton.mp member
    rfl
  have guards := dispatchCommand_guards 0 stateMessage stateMessage_run
  exact ⟨guards.1 _ failure, guards.2⟩

end NodeRedBull.CommandGuards
