import NodeRedBull.Commands
import NodeRedBull.FlowDefaults
import NodeRedBull.Library.Twins

/-! The nodes that put what BullMQ returns into Node-RED messages, around one acknowledgement
registry: `bullmq run`, `bullmq job`, `bullmq cmd` and `bullmq flow` (`bull-queue.js`). -/

namespace NodeRedBull.MessageNodes
open Js Library Acknowledgements FlowSerialization FlowDefaults JobRuntime Commands

/-- What a FlowProducer resolves to. -/
def FlowReply : FlowRequest → Type
  | .add _ _ => FlowJob
  | .addBulk _ => List FlowJob

/-- A flow request names objects of a heap. -/
inductive NodeCall where
  | job (call : JobCall)
  | command (call : CommandCall)
  | flow (request : FlowRequest) (heap : Heap)

def NodeReply : NodeCall → Type
  | .job call => JobReply call
  | .command call => CommandReply call
  | .flow request _ => FlowReply request

abbrev NodeBody := Async Runtime NodeCall NodeReply JsError

def asJob {α : Type} (body : JobBody α) : NodeBody α :=
  body.embed NodeCall.job fun _ reply => reply

def asCommand {α : Type} (body : CommandBody α) : NodeBody α :=
  body.embed NodeCall.command fun _ reply => reply

/-- One input of a node: its message, whether Node-RED passed a `done` callback and what `send`
throws, if it does. -/
structure NodeInput where
  msg : JsValue
  hasDone : Bool
  sendThrows : Option JsError

/-- The input as `nodeSend` and `nodeDone` know it; neither looks at an action or a clock. -/
def NodeInput.toJobInput (input : NodeInput) : JobInput :=
  ⟨input.msg, .undefined, .nan, input.hasDone, input.sendThrows⟩

/-- `msg.payload = payload; nodeSend(node, send, msg); nodeDone(node, done);` -/
def sendPayload (handler : Nat) (input : NodeInput) (payload : JsValue) : NodeBody Unit := do
  asJob (nodeSend handler input.sendThrows (input.msg.set "payload" payload))
  asJob (nodeDone handler input.toJobInput none)

/-- `nodeDone(node, done, err, msg)` -/
def failInput (handler : Nat) (input : NodeInput) (error : JsError) : NodeBody Unit :=
  asJob (nodeDone handler input.toJobInput (some error))

/-! ## The cmd node -/

/-- `getQueue()` may throw, or find no queue. -/
structure CmdInput extends NodeInput where
  queue : Except JsError (Option Nat)

def queueUnavailable : JsError :=
  newError "BullMQ queue is unavailable; see the queue configuration node's error"

def availableQueue (input : CmdInput) : Except JsError Nat :=
  match input.queue with
  | .ok (some queue) => .ok queue
  | .ok none => .error queueUnavailable
  | .error error => .error error

/-- `onInput` of a `bullmq cmd` node -/
def onInputCmd (handler : Nat) (input : CmdInput) : NodeBody Unit := do
  try
    let queue ← asCommand (orThrow (availableQueue input))
    let result ← asCommand (dispatchCommand queue input.msg)
    sendPayload handler input.toNodeInput result
  catch error => failInput handler input.toNodeInput error

/-! ## The flow node -/

/-- `payload`, `flowopts` and `retention` are objects of the heap: the two fields of the
message that the node hands to BullMQ and the defaults of its queue. `request` is what
`withBulkFlowJobDefaults` and `withFlowJobDefaults` make of them. -/
structure FlowInput extends NodeInput where
  payload : Val
  flowopts : Val
  retention : Val
  heap : Heap
  request : Except JsError FlowRequest × Heap

/-- The request is the one that the node comes to. -/
def FlowInput.Requests (input : FlowInput) : Prop :=
  ∃ fuel, flowRequest fuel input.payload input.flowopts input.retention input.heap =
    some input.request

def flowPayload (request : FlowRequest) (heap : Heap) : NodeBody JsValue :=
  match request with
  | .add flow options => do
    let tree : FlowJob ← Async.call (NodeCall.flow (.add flow options) heap)
    return serializeFlowJob (← MonadState.get).acks.jobAt tree
  | .addBulk flows => do
    let trees : List FlowJob ← Async.call (NodeCall.flow (.addBulk flows) heap)
    return .array (serializeFlowJobs (← MonadState.get).acks.jobAt trees)

/-- `onInput` of a `bullmq flow` node -/
def onInputFlow (handler : Nat) (input : FlowInput) : NodeBody Unit := do
  try
    let request ← asCommand (orThrow input.request.1)
    let payload ← flowPayload request input.request.2
    sendPayload handler input.toNodeInput payload
  catch error => failInput handler input.toNodeInput error

/-! ## Any number of jobs and inputs -/

inductive NodeTask where
  | job (task : JobTask)
  | cmdInput (input : CmdInput)
  | flowInput (input : FlowInput)

def nodeTask (bullmq : Bullmq) (handler : Nat) : NodeTask → NodeBody JsValue
  | .job task => asJob (runTask bullmq handler task)
  | .cmdInput input => do
    onInputCmd handler input
    return .undefined
  | .flowInput input => do
    onInputFlow handler input
    return .undefined

abbrev NodePool := Pool Runtime NodeCall NodeReply JsError JsValue NodeTask

/-- What the environment may start. -/
def Launch (pool : NodePool) : NodeTask → Prop
  | .job (.timerFires ref) => ref ∈ pool.shared.acks.timers
  | .flowInput input => input.Requests
  | _ => True

/-- What the environment may answer to a node. -/
def NodeAnswer (pool : NodePool) (index : Nat) :
    (call : NodeCall) → Except JsError (NodeReply call) → Prop
  | .job call, reply => ∃ task paused,
      pool.tasks[index]? = some (.job task, paused) ∧ Answer task pool.shared call reply
  | .command _, _ | .flow _ _, _ => True

def nodeSystem (bullmq : Bullmq) : System Runtime NodeCall NodeReply JsError JsValue NodeTask where
  body := nodeTask bullmq
  launch := Launch
  answers := NodeAnswer
  forks := fun _ _ => []

def emptyNodePool : NodePool := ⟨.initial, []⟩

/-- The Node-RED messages sent so far, in order, with the handlers that sent them. -/
def sentMessages (runtime : Runtime) : List (Nat × JsValue) :=
  runtime.log.filterMap fun event =>
    match event with
    | .sent handler msg => some (handler, msg)
    | _ => none

end NodeRedBull.MessageNodes
