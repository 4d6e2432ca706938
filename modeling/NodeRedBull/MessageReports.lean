import NodeRedBull.AtomicActions
import NodeRedBull.CommandEffects
import NodeRedBull.Library.Reporter
import NodeRedBull.MessageNodes

/-! The `bullmq cmd` and `bullmq flow` input handlers report once, and just what they have come to
with the answers that BullMQ gave them, whatever the other nodes do in between. -/

namespace NodeRedBull.MessageReports
open Js Library Acknowledgements FlowDefaults JobRuntime JobInvariant JobFrames Commands MessageNodes
open CommandEffects (Acts dispatchCommand_commits removeMessage lockedJob)
open AtomicActions (ownEvents ownEvents_record ownEvents_record_other runTask_ownSegment)

/-! ## Commands and flow requests only ask -/

theorem orThrow_asks {α : Type} (result : Except JsError α) : Async.Asks (orThrow result) := by
  cases result with
  | ok value => exact Async.asks_pure value
  | error error => exact Async.asks_throw error

section Commands
variable (queue : Nat) (msg : JsValue)

theorem onQueue_asks (method : QueueMethod) (args : List JsValue) :
    Async.Asks (onQueue queue method args) := Async.asks_call _

theorem onJob_asks (job : Nat) (method : CommandJobMethod) (args : List JsValue) :
    Async.Asks (onJob job method args) := Async.asks_call _

theorem serializeCurrent_asks (job : Option Nat) : Async.Asks (serializeCurrent job) :=
  Async.asks_bind Async.asks_get fun _ => Async.asks_pure _

theorem serializeJobs_asks (jobs : List (Option Nat)) : Async.Asks (serializeJobs jobs) :=
  Async.asks_bind Async.asks_get fun _ => Async.asks_pure _

theorem getRequiredJob_asks : Async.Asks (getRequiredJob queue msg) := by
  unfold getRequiredJob
  dsimp only
  split
  · exact Async.asks_throw _
  · apply Async.asks_bind (onQueue_asks queue .getJob _)
    intro job
    cases job with
    | none => exact Async.asks_throw _
    | some job => exact Async.asks_pure job

theorem requiredJob_asks {rest : Nat → CommandBody JsValue} (further : ∀ job, Async.Asks (rest job)) :
    Async.Asks (getRequiredJob queue msg >>= rest) :=
  Async.asks_bind (getRequiredJob_asks queue msg) further

theorem changeRequiredJob_asks (method : CommandJobMethod) (args : List JsValue) :
    Async.Asks (changeRequiredJob queue msg method args) := by
  apply requiredJob_asks
  intro job
  exact Async.asks_bind (onJob_asks job method args) fun _ => serializeCurrent_asks (some job)

theorem thenTrue_asks (method : QueueMethod) (args : List JsValue) :
    Async.Asks (thenTrue queue method args) :=
  Async.asks_bind (onQueue_asks queue method args) fun _ => Async.asks_pure _

theorem dispatchAdd_asks : Async.Asks (dispatchAdd queue msg) := by
  unfold dispatchAdd
  dsimp only
  split
  · exact Async.asks_throw _
  · exact Async.asks_bind (onQueue_asks queue .add _) serializeCurrent_asks

theorem dispatchAddBulk_asks : Async.Asks (dispatchAddBulk queue msg) := by
  have added : ∀ jobs, Async.Asks (do serializeJobs (← onQueue queue .addBulk [jobs])) :=
    fun jobs => Async.asks_bind (onQueue_asks queue .addBulk [jobs]) serializeJobs_asks
  unfold dispatchAddBulk
  cases (msg.get "payload").orElse (.array []) with
  | array items =>
    by_cases repetition : items.any repeats = true
    · simp only [repetition, ↓reduceIte]
      exact Async.asks_throw _
    · simp only [repetition, Bool.false_eq_true, ↓reduceIte]
      exact added _
  | _ => exact added _

theorem dispatchUpsertJobScheduler_asks : Async.Asks (dispatchUpsertJobScheduler queue msg) := by
  unfold dispatchUpsertJobScheduler
  dsimp only
  split
  · exact Async.asks_throw _
  · split
    · exact Async.asks_throw _
    · apply Async.asks_bind (orThrow_asks _)
      intro schedulerId
      exact Async.asks_bind (onQueue_asks queue .upsertJobScheduler _) serializeCurrent_asks

theorem removeSchedulers_asks (schedulers : List JsValue) :
    Async.Asks (removeSchedulers queue schedulers) := by
  induction schedulers with
  | nil => exact Async.asks_pure _
  | cons scheduler rest ih =>
    apply Async.asks_bind (orThrow_asks _)
    intro id
    by_cases named : id.truthy = true
    · simp only [named, ↓reduceIte]
      apply Async.asks_bind (onQueue_asks queue .removeJobScheduler [id])
      exact fun _ => Async.asks_bind ih fun _ => Async.asks_pure _
    · simp only [named, Bool.false_eq_true, ↓reduceIte]
      exact ih

theorem cleanAll_asks (states : List String) : Async.Asks (cleanAll queue states) := by
  induction states with
  | nil => exact Async.asks_pure _
  | cons state rest ih =>
    apply Async.asks_bind (onQueue_asks queue .clean _)
    exact fun _ => Async.asks_bind ih fun _ => Async.asks_pure _

theorem dispatchStopAndRemoveAllJobs_asks : Async.Asks (dispatchStopAndRemoveAllJobs queue) := by
  apply Async.asks_bind (onQueue_asks queue .getJobSchedulers _)
  intro schedulers
  apply Async.asks_bind (removeSchedulers_asks queue schedulers)
  intro removed
  apply Async.asks_bind (onQueue_asks queue .drain _)
  intro drained
  exact Async.asks_bind (cleanAll_asks queue cleanStates) fun _ => Async.asks_pure _

theorem dispatchSetGlobalRateLimit_asks : Async.Asks (dispatchSetGlobalRateLimit queue msg) := by
  unfold dispatchSetGlobalRateLimit
  dsimp only
  split
  · exact Async.asks_throw _
  · exact thenTrue_asks queue .setGlobalRateLimit _

theorem runCommand_asks (command : Command) : Async.Asks (runCommand queue msg command) := by
  cases command with
  | add => exact dispatchAdd_asks queue msg
  | addBulk => exact dispatchAddBulk_asks queue msg
  | upsertJobScheduler => exact dispatchUpsertJobScheduler_asks queue msg
  | stopAndRemoveAllJobs => exact dispatchStopAndRemoveAllJobs_asks queue
  | setGlobalRateLimit => exact dispatchSetGlobalRateLimit_asks queue msg
  | getJob => exact Async.asks_bind (onQueue_asks queue .getJob _) serializeCurrent_asks
  | getJobs | getDelayed | getPrioritized =>
    exact Async.asks_bind (onQueue_asks queue _ _) serializeJobs_asks
  | getJobState =>
    exact requiredJob_asks queue msg fun job => onJob_asks job .getState []
  | removeJob =>
    apply requiredJob_asks
    intro job
    exact Async.asks_bind (onJob_asks job .remove []) fun _ => Async.asks_pure _
  | retryJob | changeDelay | promoteJob | changePriority =>
    exact changeRequiredJob_asks queue msg _ _
  | getJobScheduler =>
    apply Async.asks_bind (orThrow_asks _)
    intro schedulerId
    exact Async.asks_bind (onQueue_asks queue .getJobScheduler _) fun _ => Async.asks_pure _
  | getJobSchedulers =>
    apply Async.asks_bind (onQueue_asks queue .getJobSchedulers _)
    exact fun _ => Async.asks_pure _
  | removeJobScheduler | getJobCounts =>
    exact Async.asks_bind (orThrow_asks _) fun _ => onQueue_asks queue _ _
  | pause | resume | drain | setGlobalConcurrency | rateLimit => exact thenTrue_asks queue _ _
  | _ => exact onQueue_asks queue _ _

theorem dispatchCommand_asks : Async.Asks (dispatchCommand queue msg) :=
  CommandGuards.dispatchCommand_of_passed queue msg (fun error => Async.asks_throw error)
    fun command _ => runCommand_asks queue msg command

end Commands

theorem flowPayload_asks (request : FlowRequest) (heap : Heap) :
    (flowPayload request heap).Asks := by
  cases request with
  | add flow options =>
    apply Async.asks_bind (Async.asks_call (NodeCall.flow (.add flow options) heap))
    exact fun _ => Async.asks_bind Async.asks_get fun _ => Async.asks_pure _
  | addBulk flows =>
    apply Async.asks_bind (Async.asks_call (NodeCall.flow (.addBulk flows) heap))
    exact fun _ => Async.asks_bind Async.asks_get fun _ => Async.asks_pure _

/-! ## Reports -/

/-- What `nodeDone` leaves behind. -/
def doneEvents (handler : Nat) (input : NodeInput) (error : Option JsError) : List Event :=
  if input.hasDone then [.done handler input.toJobInput error]
  else match error with
    | some error => [.nodeError handler error]
    | none => []

/-- What a handler leaves behind when its payload has come to this outcome: the message and then
`done`, or the failure and no message. -/
def reportOf (handler : Nat) (input : NodeInput) : Except JsError JsValue → List Event
  | .error error => doneEvents handler input (some error)
  | .ok payload =>
    match input.sendThrows with
    | some thrown => doneEvents handler input (some thrown)
    | none => .sent handler (input.msg.set "payload" payload) :: doneEvents handler input none

def recordAll (events : List Event) (runtime : Runtime) : Runtime :=
  { runtime with log := runtime.log ++ events }

def messageReporter (handler : Nat) (input : NodeInput) :
    Reporter Runtime NodeCall NodeReply JsError JsValue JsValue :=
  ⟨sendPayload handler input, failInput handler input, .undefined⟩

/-- The handlers that send what BullMQ returns, with the body that comes to the payload. -/
def payloadBody : NodeTask → Option (NodeInput × NodeBody JsValue)
  | .job _ => none
  | .cmdInput input => some (input.toNodeInput, asCommand do
    let queue ← orThrow (availableQueue input)
    dispatchCommand queue input.msg)
  | .flowInput input => some (input.toNodeInput, do
    let request ← asCommand (orThrow input.request.1)
    flowPayload request input.request.2)

section Reports
variable (handler : Nat) (input : NodeInput)

theorem nodeDone_segment (error : Option JsError) (runtime : Runtime) :
    (asJob (nodeDone handler input.toJobInput error)).segment runtime =
      (recordAll (doneEvents handler input error) runtime, .finished (.ok ⟨⟩)) := by
  unfold nodeDone doneEvents
  have called : input.toJobInput.hasDone = input.hasDone := rfl
  rw [called]
  cases input.hasDone with
  | true => rfl
  | false =>
    cases error with
    | some error => rfl
    | none =>
      have unchanged : recordAll [] runtime = runtime := by
        unfold recordAll
        rw [List.append_nil]
      have stopped : (recordAll [] runtime, (.finished (.ok ⟨⟩) : Paused Runtime NodeCall NodeReply
          JsError Unit)) = (runtime, .finished (.ok ⟨⟩)) := by rw [unchanged]
      exact stopped.symm

theorem messageReporter_reports : (messageReporter handler input).Reports
    fun outcome => recordAll (reportOf handler input outcome) where
  thrown := fun error => nodeDone_segment handler input (some error)
  returned := by
    intro payload runtime
    change (MonadExcept.tryCatch (asJob (nodeSend handler input.sendThrows
        (input.msg.set "payload" payload)) >>= fun _ =>
      asJob (nodeDone handler input.toJobInput none)) (failInput handler input)).segment runtime = _
    unfold reportOf
    cases input.sendThrows with
    | some thrown => exact nodeDone_segment handler input (some thrown) runtime
    | none =>
      have finished := nodeDone_segment handler input none
        (runtime.record (.sent handler (input.msg.set "payload" payload)))
      have extended : recordAll (doneEvents handler input none)
          (runtime.record (.sent handler (input.msg.set "payload" payload))) =
          recordAll (.sent handler (input.msg.set "payload" payload) ::
            doneEvents handler input none) runtime := by
        unfold recordAll Runtime.record
        rw [List.append_assoc]
        rfl
      rw [Async.segment_tryCatch, Async.segment_bind]
      change Paused.orHandle _ ((asJob (nodeDone handler input.toJobInput none)).segment
        (runtime.record (.sent handler (input.msg.set "payload" payload)))).1
        ((asJob (nodeDone handler input.toJobInput none)).segment
        (runtime.record (.sent handler (input.msg.set "payload" payload)))).2 = _
      rw [finished, extended]
      rfl

theorem reportOf_own (outcome : Except JsError JsValue) :
    ∀ event ∈ reportOf handler input outcome, Event.handler event = handler := by
  have reported : ∀ error, ∀ event ∈ doneEvents handler input error,
      Event.handler event = handler := by
    intro error event member
    unfold doneEvents at member
    split at member
    · rw [List.mem_singleton.mp member]
      rfl
    · cases error with
      | none => cases member
      | some error =>
        rw [List.mem_singleton.mp member]
        rfl
  unfold reportOf
  cases outcome with
  | error error => exact reported (some error)
  | ok payload =>
    cases input.sendThrows with
    | some thrown => exact reported (some thrown)
    | none =>
      intro event member
      rcases List.mem_cons.mp member with sent | later
      · rw [sent]
        rfl
      · exact reported none event later

theorem ownEvents_recordAll {events : List Event} {runtime : Runtime}
    (own : ∀ event ∈ events, Event.handler event = handler) :
    ownEvents handler (recordAll events runtime) = ownEvents handler runtime ++ events := by
  have kept : events.filter (fun event => decide (Event.handler event = handler)) = events :=
    List.filter_eq_self.mpr fun event member => decide_eq_true (own event member)
  unfold ownEvents recordAll
  rw [List.filter_append, kept]

/-! ## One handler among others -/

theorem sendPayload_respects (payload : JsValue) : (sendPayload handler input payload).Respects
    (Reporter.LeavesOthers ownEvents handler) fun _ => True := by
  have frame := AtomicActions.ownSegment_frame handler
  apply Async.respects_bind (Async.respects_embed (nodeSend_respects frame _ _))
  exact fun _ => Async.respects_embed (nodeDone_respects frame _ _)

theorem failInput_respects (error : JsError) : (failInput handler input error).Respects
    (Reporter.LeavesOthers ownEvents handler) fun _ => True :=
  Async.respects_embed (nodeDone_respects (AtomicActions.ownSegment_frame handler) _ _)

end Reports

theorem payloadBody_asks {task : NodeTask} {input : NodeInput} {body : NodeBody JsValue}
    (payload : payloadBody task = some (input, body)) : body.Asks := by
  cases task with
  | job task => cases payload
  | cmdInput input =>
    cases payload
    apply Async.Asks.embed
    exact Async.asks_bind (orThrow_asks _) fun queue => dispatchCommand_asks queue _
  | flowInput input =>
    cases payload
    apply Async.asks_bind (orThrow_asks _).embed
    exact fun request => flowPayload_asks request _

theorem nodeTask_reports {bullmq : Bullmq} {handler : Nat} {task : NodeTask} {input : NodeInput}
    {body : NodeBody JsValue} (payload : payloadBody task = some (input, body)) :
    nodeTask bullmq handler task = (messageReporter handler input).around body := by
  cases task with
  | job task => cases payload
  | cmdInput input =>
    cases payload
    unfold nodeTask onInputCmd
    dsimp only
    cases availableQueue input with
    | ok queue => rfl
    | error error => rfl
  | flowInput input =>
    cases payload
    unfold nodeTask onInputFlow
    dsimp only
    cases input.request.1 with
    | ok request => rfl
    | error error => rfl

theorem nodeTask_respects (bullmq : Bullmq) (handler : Nat) (task : NodeTask) :
    (nodeTask bullmq handler task).Respects (Reporter.LeavesOthers ownEvents handler)
      fun _ => True := by
  cases payload : payloadBody task with
  | none =>
    cases task with
    | job task => exact Async.respects_embed (runTask_ownSegment task)
    | cmdInput input => cases payload
    | flowInput input => cases payload
  | some found =>
    obtain ⟨input, body⟩ := found
    rw [nodeTask_reports payload]
    have asks := (payloadBody_asks payload).respects (Reporter.leavesOthers_refl ownEvents handler)
    exact Reporter.around_respects asks (sendPayload_respects handler input)
      (failInput_respects handler input)

theorem reportsIn {bullmq : Bullmq} {handler : Nat} {task : NodeTask} {input : NodeInput}
    {body : NodeBody JsValue} (payload : payloadBody task = some (input, body)) :
    Reporter.ReportsIn (nodeSystem bullmq) emptyNodePool ownEvents [] (reportOf handler input)
      (messageReporter handler input) body handler task where
  unforked := nofun
  respects := nodeTask_respects bullmq
  body := fun pool _ _ => congrArg (fun whole => whole.segment pool.shared) (nodeTask_reports payload)
  silent := (payloadBody_asks payload).respects (Reporter.silent_refl ownEvents handler)
  reports := by
    refine ⟨_, messageReporter_reports handler input, ?_⟩
    intro outcome now silent
    rw [ownEvents_recordAll handler (reportOf_own handler input outcome), silent, List.nil_append]

/-- In any run, whatever the other nodes do: a `bullmq cmd` or `bullmq flow` input that still waits
for BullMQ has sent and reported nothing, and one that has ended has sent and reported, once, just
what it has come to with the answers that BullMQ gave it in this run. -/
theorem inputs_report {bullmq : Bullmq} {moves : List (PoolMove NodeCall NodeReply JsError NodeTask)}
    {last : NodePool} (run : Path (nodeSystem bullmq).Step emptyNodePool moves last) {handler : Nat}
    {task : NodeTask} {input : NodeInput} {body : NodeBody JsValue}
    {paused : Paused Runtime NodeCall NodeReply JsError JsValue}
    (payload : payloadBody task = some (input, body))
    (found : last.tasks[handler]? = some (task, paused)) :
    (messageReporter handler input).Stands body [] (reportOf handler input)
      (exchangesOf handler moves) (ownEvents handler last.shared) paused :=
  Reporter.reported_of_path (reportsIn payload) (fun _ => rfl) run found

/-- A job is to be removed while it is active. -/
def removal : CmdInput := ⟨⟨removeMessage, true, none⟩, .ok (some 0)⟩

/-- BullMQ finds the job and then rejects its removal. -/
def removalMoves : List (PoolMove NodeCall NodeReply JsError NodeTask) :=
  [.start (.cmdInput removal), .resume 0 (.command (.queue 0 .getJob [.string "7"])) (.ok (some 3)),
    .resume 0 (.command (.job 3 .remove [])) (.error lockedJob)]

theorem removal_run : ∃ last, Path (nodeSystem TerminalActions.exampleBullmq).Step emptyNodePool
    removalMoves last ∧ last.tasks[0]? = some (.cmdInput removal, .finished (.ok .undefined)) :=
  ⟨_, .cons (.start trivial) (.cons (.resume rfl trivial) (.cons (.resume rfl trivial) (.nil _))),
    rfl⟩

theorem inputs_report_locked : ∃ (last : NodePool) (body : NodeBody JsValue),
    payloadBody (.cmdInput removal) = some (removal.toNodeInput, body) ∧
      (messageReporter 0 removal.toNodeInput).Stands body [] (reportOf 0 removal.toNodeInput)
        (exchangesOf 0 removalMoves) (ownEvents 0 last.shared) (.finished (.ok .undefined)) := by
  obtain ⟨last, run, found⟩ := removal_run
  exact ⟨last, _, rfl, inputs_report run rfl found⟩

/-! ## Commands among others -/

/-- Everything that a command asks but the lookup of a job. -/
def NodeActs (queue : Nat) : NodeCall → Prop
  | .command call => Acts queue call
  | .job _ | .flow _ _ => False

theorem command_commits {input : CmdInput} {queue : Nat} (available : availableQueue input = .ok queue)
    (single : commandOf input.msg ≠ .ok .stopAndRemoveAllJobs) {body : NodeBody JsValue}
    (payload : payloadBody (.cmdInput input) = some (input.toNodeInput, body)) :
    Async.Commits (NodeActs queue) body := by
  cases payload
  rw [available]
  exact Async.Commits.embed (fun _ acts => acts) (dispatchCommand_commits queue input.msg single)

/-- What the body has come to with the answers of the run, and that this is what is reported. -/
theorem reported_course {bullmq : Bullmq}
    {moves : List (PoolMove NodeCall NodeReply JsError NodeTask)} {last : NodePool}
    (run : Path (nodeSystem bullmq).Step emptyNodePool moves last) {handler : Nat} {task : NodeTask}
    {input : NodeInput} {body : NodeBody JsValue}
    {paused : Paused Runtime NodeCall NodeReply JsError JsValue}
    (payload : payloadBody task = some (input, body))
    (found : last.tasks[handler]? = some (task, paused)) :
    ∃ stopped, Course body (exchangesOf handler moves) stopped ∧ ∀ outcome,
      stopped = .finished outcome → ownEvents handler last.shared = reportOf handler input outcome := by
  rcases Reporter.reported_of_path (reportsIn payload) (fun _ => rfl) run found with
    ⟨call, next, course, _, _⟩ | ⟨outcome, course, _, seen⟩
  · exact ⟨_, course, nofun⟩
  · refine ⟨_, course, ?_⟩
    intro other same
    cases same
    exact seen

/-- In any run, whatever the other nodes do: a `bullmq cmd` input acts once at most. When BullMQ
rejects a call of it, just this error is reported; the one call that is no lookup of a job is its
last, and when it succeeds the message is sent. -/
theorem cmdInputs_act_once {bullmq : Bullmq}
    {moves : List (PoolMove NodeCall NodeReply JsError NodeTask)} {last : NodePool}
    (run : Path (nodeSystem bullmq).Step emptyNodePool moves last) {handler queue : Nat}
    {input : CmdInput} {paused : Paused Runtime NodeCall NodeReply JsError JsValue}
    (found : last.tasks[handler]? = some (.cmdInput input, paused))
    (available : availableQueue input = .ok queue)
    (single : commandOf input.msg ≠ .ok .stopAndRemoveAllJobs) :
    (∀ exchange ∈ exchangesOf handler moves, ∀ error, exchange.reply = .error error →
      ownEvents handler last.shared = doneEvents handler input.toNodeInput (some error)) ∧
    ∀ before exchange after, exchangesOf handler moves = before ++ exchange :: after →
      NodeActs queue exchange.call →
        (∀ earlier ∈ before, ¬NodeActs queue earlier.call) ∧ after = [] ∧ (exchange.succeeded →
          ∃ payload, ownEvents handler last.shared =
            reportOf handler input.toNodeInput (.ok payload)) := by
  have commits := command_commits available single rfl
  obtain ⟨stopped, course, reports⟩ := reported_course run rfl found
  refine ⟨?_, ?_⟩
  · intro exchange member error failed
    exact reports (.error error) (commits.fast _ stopped course exchange member error failed)
  · intro before exchange after split acts
    obtain ⟨nothing, returns⟩ := commits.last _ stopped course before exchange after split acts
    refine ⟨?_, nothing, ?_⟩
    · intro earlier member also
      obtain ⟨front, back, parts⟩ := List.append_of_mem member
      have again : exchangesOf handler moves = front ++ earlier :: (back ++ exchange :: after) := by
        rw [split, parts, List.append_assoc]
        rfl
      have beyond := (commits.last _ stopped course front earlier _ again also).1
      simp at beyond
    · intro succeeded
      obtain ⟨payload, returned⟩ := returns succeeded
      exact ⟨payload, reports (.ok payload) returned⟩

theorem cmdInputs_act_once_locked : ∃ last : NodePool,
    ownEvents 0 last.shared = doneEvents 0 removal.toNodeInput (some lockedJob) := by
  obtain ⟨last, run, found⟩ := removal_run
  have once := cmdInputs_act_once run found (show availableQueue removal = .ok 0 from rfl)
    (show commandOf removal.msg ≠ .ok .stopAndRemoveAllJobs from nofun)
  have rejected : (⟨.command (.job 3 .remove []), .error lockedJob⟩ :
      Exchange NodeCall NodeReply JsError) ∈ exchangesOf 0 removalMoves :=
    List.mem_cons_of_mem _ List.mem_cons_self
  exact ⟨last, once.1 _ rejected lockedJob rfl⟩

end NodeRedBull.MessageReports
