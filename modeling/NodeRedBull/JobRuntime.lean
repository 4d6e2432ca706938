import NodeRedBull.AcknowledgementRun
import NodeRedBull.Serialization

/-! Workers, their manual-mode jobs and the `bullmq run` and `bullmq job` nodes around one
acknowledgement registry (`bull-queue.js`). -/

namespace NodeRedBull.JobRuntime
open Js Library Acknowledgements Serialization

/-- What BullMQ makes of `new WaitingError()`, `new DelayedError()` and
`Worker.RateLimitError()`. -/
structure Bullmq where
  waitingError : JsError
  delayedError : JsError
  rateLimitError : JsError

/-! ## The state the handlers share -/

/-- A `bullmq run` node that has its worker. -/
structure RunNode where
  id : String
  queueName : String
  completionMode : String
  ackTimeout : JsValue
  worker : Nat

/-- The actions of a `bullmq job` node. -/
inductive JobAction where
  | progress | removeDeduplicationKey | getChildrenValues | getFailedChildrenValues
  | removeUnprocessedChildren | complete | fail | failUnrecoverable | rateLimit | moveToWait
  | moveToDelayed | updateData | cancelJob | cancelAllJobs
  deriving DecidableEq

def JobAction.parse : JsValue → Option JobAction
  | .string "progress" => some .progress
  | .string "removeDeduplicationKey" => some .removeDeduplicationKey
  | .string "getChildrenValues" => some .getChildrenValues
  | .string "getFailedChildrenValues" => some .getFailedChildrenValues
  | .string "removeUnprocessedChildren" => some .removeUnprocessedChildren
  | .string "complete" => some .complete
  | .string "fail" => some .fail
  | .string "failUnrecoverable" => some .failUnrecoverable
  | .string "rateLimit" => some .rateLimit
  | .string "moveToWait" => some .moveToWait
  | .string "moveToDelayed" => some .moveToDelayed
  | .string "updateData" => some .updateData
  | .string "cancelJob" => some .cancelJob
  | .string "cancelAllJobs" => some .cancelAllJobs
  | _ => none

/-- One input of a `bullmq job` node: its message, the action the node is configured with,
the clock, whether Node-RED passed a `done` callback and what `send` throws, if it does. -/
structure JobInput where
  msg : JsValue
  configured : JsValue
  now : JsNumber
  hasDone : Bool
  sendThrows : Option JsError

namespace JobInput

/-- `msg.bull && msg.bull.ackId` -/
def ackId (input : JobInput) : JsValue := (input.msg.get "bull").andGet "ackId"

/-- `node.action = n.action || "complete"` -/
def nodeAction (input : JobInput) : JsValue := input.configured.orElse (.string "complete")

/-- `msg.cmd || node.action` -/
def actionValue (input : JobInput) : JsValue := (input.msg.get "cmd").orElse input.nodeAction

def action (input : JobInput) : Option JobAction := JobAction.parse input.actionValue

end JobInput

/-- What the handlers did that can be seen from outside; a handler is named by its task. -/
inductive Event where
  | created (handler ref : Nat)
  | settles (handler ref : Nat) (settlement : Settlement)
  | sent (handler : Nat) (msg : JsValue)
  | done (handler : Nat) (input : JobInput) (error : Option JsError)
  | nodeError (handler : Nat) (error : JsError)
  | closed (handler : Nat) (error : Option JsError)

/-- A job that a worker has taken, with the controller BullMQ made for it. -/
structure ActiveJob where
  task : Nat
  worker : Nat
  job : Nat
  signal : Nat

structure Runtime where
  acks : AckState
  active : List ActiveJob
  log : List Event

def Runtime.initial : Runtime := ⟨.initial, [], []⟩

def Runtime.record (event : Event) (runtime : Runtime) : Runtime :=
  { runtime with log := runtime.log ++ [event] }

def Runtime.change (operation : AckState → AckState) (runtime : Runtime) : Runtime :=
  { runtime with acks := operation runtime.acks }

/-- BullMQ tracks a job with a new AbortController before it calls the processor. -/
def track (task worker job : Nat) (runtime : Runtime) : Nat × Runtime :=
  let (signal, acks) := newSignal runtime.acks
  (signal, { runtime with acks, active := runtime.active ++ [⟨task, worker, job, signal⟩] })

def untrack (task : Nat) (runtime : Runtime) : Runtime :=
  { runtime with active := runtime.active.filter (fun job => decide (job.task ≠ task)) }

/-- `worker.cancelJob(jobId, reason)` -/
def cancelJob (worker : Nat) (jobId reason : JsValue) (runtime : Runtime) : Bool × Runtime :=
  let tracked := runtime.active.find? fun job =>
    decide (job.worker = worker) && ((runtime.acks.jobAt job.job).get "id").sameString jobId
  match tracked with
  | some job => (true, runtime.change (abort job.signal reason))
  | none => (false, runtime)

/-- `worker.cancelAllJobs(reason)` -/
def cancelAllJobs (worker : Nat) (reason : JsValue) (runtime : Runtime) : Runtime :=
  (runtime.active.filter fun job => decide (job.worker = worker)).foldl
    (fun runtime job => runtime.change (abort job.signal reason)) runtime

/-! ## What a handler awaits -/

/-- The asynchronous methods of a BullMQ Job that the `bullmq job` node calls. -/
inductive JobMethod where
  | updateProgress (progress : JsValue)
  | removeDeduplicationKey
  | getChildrenValues
  | getFailedChildrenValues
  | removeUnprocessedChildren
  | moveToWait (token : JsValue)
  | moveToDelayed (timestamp : JsNumber) (token : JsValue)
  | updateData (data : JsValue)

/-- `invoke` and `recorded` are BullMQ's own: it calls the processor some time after it has
tracked the job, and it stops tracking some time after the processor has settled. -/
inductive JobCall where
  | invoke
  | settled (promise : Nat)
  | recorded
  | job (job : Nat) (method : JobMethod)
  | rateLimit (queue : Nat) (duration : JsValue)
  | release (worker : Nat)

/-- What the processor meets while it runs without interruption: the clock, `Math.random()`,
what `getQueue()` returns or throws and what `node.send` throws, if it does. -/
structure Invocation where
  now : JsNumber
  random : String
  queue : Except JsError (Option Nat)
  sendThrows : Option JsError

def JobReply : JobCall → Type
  | .invoke => Invocation
  | .settled _ => Settlement
  | .recorded | .release _ => Unit
  | .job _ _ | .rateLimit _ _ => JsValue

abbrev JobBody := Async Runtime JobCall JobReply JsError

def await (call : JobCall) : JobBody (JobReply call) := Async.call call

def record (event : Event) : JobBody Unit := modify (Runtime.record event)

/-- `(send || node.send).call(node, msg)` -/
def nodeSend (handler : Nat) (sendThrows : Option JsError) (msg : JsValue) : JobBody Unit :=
  match sendThrows with
  | some error => throw error
  | none => record (.sent handler msg)

def nodeDone (handler : Nat) (input : JobInput) (error : Option JsError) : JobBody Unit :=
  if input.hasDone then record (.done handler input error)
  else match error with
    | some error => record (.nodeError handler error)
    | none => pure ()

/-- A step of the registry, run inside a handler. -/
def onAcks {α : Type} (operation : AckState → α × AckState) : JobBody α :=
  modifyGet fun runtime =>
    ((operation runtime.acks).1, { runtime with acks := (operation runtime.acks).2 })

def awaitSettled (promise : Nat) : JobBody Settlement := await (.settled promise)

def awaitJob (job : Nat) (method : JobMethod) : JobBody JsValue :=
  await (.job job method)

def currentJob (job : Nat) : JobBody JsValue := return (← MonadState.get).acks.jobAt job

/-! ## The run node -/

def createJobMessage (job : JsValue) (queueName : String)
    (extraBull : List (String × JsValue) := []) : JsValue :=
  let data := (job.get "data").orElse (.object [])
  .object [
    ("payload", if data.hasOwn "payload" then data.get "payload" else data),
    ("job", serializeJob job),
    ("bull", .object ([("queue", .string queueName), ("jobId", job.get "id")] ++ extraBull))]

/-- The processor that a run node hands to its worker. -/
def processor (handler : Nat) (node : RunNode) (job : Nat) (token : JsValue) (signal : Nat)
    (invocation : Invocation) : JobBody JsValue := do
  if node.completionMode = "manual" then
    let timeoutMs := parseAckTimeoutMs node.ackTimeout
    let queue ← liftExcept invocation.queue
    let (ackId, ref) ← onAcks (create
      { job, queue, queueName := node.queueName, runNodeId := node.id, worker := node.worker,
        signal := some signal, token } timeoutMs invocation.now invocation.random)
    record (.created handler ref)
    nodeSend handler invocation.sendThrows (createJobMessage (← currentJob job) node.queueName
      [("ackId", .string ackId), ("runNodeId", .string node.id)])
    return ← wait onAcks awaitSettled ref
  let msg := createJobMessage (← currentJob job) node.queueName
  nodeSend handler invocation.sendThrows msg
  return msg.get "payload"
where
  liftExcept {α : Type} : Except JsError α → JobBody α
    | .ok value => pure value
    | .error error => throw error

/-- A worker takes a job, calls the processor and records its result. -/
def processJob (handler : Nat) (node : RunNode) (job : Nat) (token : JsValue) :
    JobBody JsValue := do
  let signal ← modifyGet (track handler node.worker job)
  let invocation : Invocation ← await .invoke
  let result ← try Except.ok <$> processor handler node job token signal invocation
    catch error => pure (.error error)
  let _ ← await .recorded
  modify (untrack handler)
  match result with
  | .ok value => return value
  | .error error => throw error

def closedBeforeAcknowledgement : JsError :=
  newError "BullMQ run node closed before acknowledgement"

/-- `onClose` of a run node -/
def onCloseRun (handler : Nat) (node : RunNode) : JobBody Unit := do
  modify (Runtime.change (rejectByRunNode node.id closedBeforeAcknowledgement))
  try
    let _ ← await (.release node.worker)
    record (.closed handler none)
  catch error => record (.closed handler (some error))

/-! ## The job node -/

/-- `acknowledgements.get(ackId)`, with the fields that the handler reads from the entry. -/
def getContext (ackId : JsValue) : JobBody (Nat × Context) := do
  let acks := (← MonadState.get).acks
  match Acknowledgements.get ackId acks with
  | .error error => throw error
  | .ok ref =>
    match acks.objects.read ref with
    | some entry => return (ref, entry.context)
    | none => throw missingAcknowledgement

/-- `context.complete(value)` and `context.fail(error)` -/
def settleContext (handler ref : Nat) (settlement : Settlement) : JobBody Unit := do
  record (.settles handler ref settlement)
  modify (Runtime.change (settle ref settlement))

/-- `msg.result !== undefined ? msg.result : msg.payload` -/
def completedValue (msg : JsValue) : JsValue := (msg.get "result").orIfUndefined (msg.get "payload")

def failedError (msg : JsValue) : JsError :=
  match msg.get "error" with
  | .error error => error
  | other => newError (other.orElse (msg.get "payload")).toText

def unrecoverableError (msg : JsValue) : JsError :=
  ⟨.unrecoverableError, ((msg.get "error").orElse
    ((msg.get "payload").orElse (.string "Unrecoverable BullMQ job failure"))).toText⟩

def cancelReason (msg : JsValue) : JsValue :=
  (msg.get "reason").orElse (.string "BullMQ job cancelled")

/-- The body of the `try` of `onInput`. -/
def act (bullmq : Bullmq) (handler : Nat) (input : JobInput) : JobBody Unit := do
  let msg := input.msg
  let (ref, context) ← getContext input.ackId
  match input.action with
  | some .progress =>
    let _ ← awaitJob context.job
      (.updateProgress ((msg.get "progress").orIfUndefined (msg.get "payload")))
    nodeSend handler input.sendThrows
      (msg.set "payload" (serializeJob (← currentJob context.job)))
    nodeDone handler input none
  | some .removeDeduplicationKey =>
    let payload ← awaitJob context.job .removeDeduplicationKey
    nodeSend handler input.sendThrows (msg.set "payload" payload)
    nodeDone handler input none
  | some .getChildrenValues =>
    let payload ← awaitJob context.job .getChildrenValues
    nodeSend handler input.sendThrows (msg.set "payload" payload)
    nodeDone handler input none
  | some .getFailedChildrenValues =>
    let payload ← awaitJob context.job .getFailedChildrenValues
    nodeSend handler input.sendThrows (msg.set "payload" payload)
    nodeDone handler input none
  | some .removeUnprocessedChildren =>
    let payload ← awaitJob context.job .removeUnprocessedChildren
    nodeSend handler input.sendThrows (msg.set "payload" payload)
    nodeDone handler input none
  | some .complete =>
    let result := completedValue msg
    settleContext handler ref (.resolve result)
    nodeSend handler input.sendThrows (msg.set "payload" result)
    nodeDone handler input none
  | some .fail =>
    settleContext handler ref (.reject (failedError msg))
    nodeDone handler input none
  | some .failUnrecoverable =>
    settleContext handler ref (.reject (unrecoverableError msg))
    nodeDone handler input none
  | some .rateLimit =>
    match context.queue with
    | none => throw (newTypeError "Cannot read properties of null (reading 'rateLimit')")
    | some queue =>
      let _ ← await (.rateLimit queue (msg.get "duration"))
      settleContext handler ref (.reject bullmq.rateLimitError)
      nodeDone handler input none
  | some .moveToWait =>
    let _ ← awaitJob context.job (.moveToWait context.token)
    settleContext handler ref (.reject bullmq.waitingError)
    nodeSend handler input.sendThrows (msg.set "payload" (.bool true))
    nodeDone handler input none
  | some .moveToDelayed =>
    let delay := (msg.get "delay").toNumber
    if !delay.isFinite || delay.lt (JsNumber.ofNat 0) then
      throw (newError "moveToDelayed requires msg.delay in milliseconds")
    let _ ← awaitJob context.job (.moveToDelayed (input.now.add delay) context.token)
    settleContext handler ref (.reject bullmq.delayedError)
    nodeSend handler input.sendThrows (msg.set "payload" (.bool true))
    nodeDone handler input none
  | some .updateData =>
    let _ ← awaitJob context.job
      (.updateData (if msg.hasOwn "jobData" then msg.get "jobData" else msg.get "payload"))
    nodeSend handler input.sendThrows
      (msg.set "payload" (serializeJob (← currentJob context.job)))
    nodeDone handler input none
  | some .cancelJob =>
    let jobId := (← currentJob context.job).get "id"
    let cancelled ← modifyGet (cancelJob context.worker jobId (cancelReason msg))
    if !cancelled then
      throw (newError ("BullMQ found no cancellable processor for job " ++ jobId.toText))
    nodeSend handler input.sendThrows (msg.set "payload" (.bool cancelled))
    nodeDone handler input none
  | some .cancelAllJobs =>
    modify (cancelAllJobs context.worker (cancelReason msg))
    nodeSend handler input.sendThrows (msg.set "payload" (.bool true))
    nodeDone handler input none
  | none => throw (newError ("Unsupported bullmq job action: " ++ input.actionValue.toText))

/-- `onInput` of a `bullmq job` node -/
def onInput (bullmq : Bullmq) (handler : Nat) (input : JobInput) : JobBody Unit := do
  try act bullmq handler input
  catch error => nodeDone handler input (some error)

/-! ## Any number of jobs and inputs -/

inductive JobTask where
  | processJob (node : RunNode) (job : Nat) (token : JsValue)
  | jobInput (input : JobInput)
  | closeRun (node : RunNode)
  | timerFires (ref : Nat)
  | abort (signal : Nat) (reason : JsValue)
  | newJob (job : JsValue)
  | changeJob (ref : Nat) (job : JsValue)

def runTask (bullmq : Bullmq) (handler : Nat) : JobTask → JobBody JsValue
  | .processJob node job token => processJob handler node job token
  | .jobInput input => do
    onInput bullmq handler input
    return .undefined
  | .closeRun node => do
    onCloseRun handler node
    return .undefined
  | .timerFires ref => do
    modify (Runtime.change (timerFires ref))
    return .undefined
  | .abort signal reason => do
    modify (Runtime.change (Acknowledgements.abort signal reason))
    return .undefined
  | .newJob job => do
    let _ ← onAcks (newJob job)
    return .undefined
  | .changeJob ref job => do
    modify (Runtime.change (changeJob ref job))
    return .undefined

/-- The ackIds of all acknowledgements ever created are distinct. -/
def Fresh (task : JobTask) (invocation : Invocation) (acks : AckState) : Prop :=
  match task with
  | .processJob node job _ => ∀ ref entry, acks.objects.read ref = some entry →
      entry.ackId ≠ ackIdOf node.id job invocation.now invocation.random acks
  | _ => True

/-- What the environment may answer to a handler. -/
def Answer (task : JobTask) (runtime : Runtime) :
    (call : JobCall) → Except JsError (JobReply call) → Prop
  | .invoke, reply => ∃ invocation : Invocation, reply = .ok invocation ∧
      Fresh task invocation runtime.acks
  | .settled promise, reply => ∃ found settlement,
      runtime.acks.promises.read promise = some found ∧ found.settlement = some settlement ∧
        reply = .ok settlement
  | .recorded, reply => reply = .ok ()
  | .job _ _, _ | .rateLimit _ _, _ | .release _, _ => True

abbrev JobPool := Pool Runtime JobCall JobReply JsError JsValue JobTask

def jobSystem (bullmq : Bullmq) : System Runtime JobCall JobReply JsError JsValue JobTask where
  body := runTask bullmq
  launch := fun pool task =>
    match task with
    | .timerFires ref => ref ∈ pool.shared.acks.timers
    | _ => True
  answers := fun pool index call reply => ∃ task paused,
    pool.tasks[index]? = some (task, paused) ∧ Answer task pool.shared call reply
  forks := fun _ _ => []

def emptyJobPool : JobPool := ⟨.initial, []⟩

end NodeRedBull.JobRuntime
