import NodeRedBull.ConfigStep
import NodeRedBull.Library.Part

/-! The runtime nodes around one queue configuration node: the resource each one creates, the
listeners it registers, its readiness routine and its close handler (`bull-queue.js`). -/

namespace NodeRedBull.RuntimeNodes
open Js Library Connections ConfigNode ConfigBooks ConfigStep

/-! ## What the nodes share -/

inductive NodeKind where
  | cmd
  | run
  | events
  | flow
  deriving DecidableEq

/-- The promise that the asynchronous routine of a node awaits. -/
inductive Pending where
  | nothing
  | readiness
  | running
  deriving DecidableEq

/-- `resource` is the worker, queue events or flow producer of the node; `closes` says that the
constructor got as far as its close handler. -/
structure RuntimeNode where
  kind : NodeKind
  resource : Option Nat
  pending : Pending
  closes : Bool

/-- The events of a BullMQ worker that a run node listens to, apart from `error`. -/
inductive OwnerEvent where
  | ready
  | closed
  deriving DecidableEq

structure OwnerListener where
  owner : Nat
  event : OwnerEvent
  node : Nat

/-- What a callback of `node` did, its constructor included. -/
structure Act where
  node : NodeName
  effect : Effect

/-- A runtime node is named by its position in `nodes`. `failures` lists what has gone wrong with
the resources, and `acts` what the callbacks of each node did and when its close handler called
`done`. -/
structure NodesState where
  config : ConfigState
  nodes : Store RuntimeNode
  ownerListeners : List OwnerListener
  failures : List JsError
  acts : List Act

def NodesState.initial (config : QueueConfig) : NodesState where
  config := .initial config
  nodes := .empty
  ownerListeners := []
  failures := []
  acts := []

def configPart : Part NodesState ConfigState where
  get := NodesState.config
  put := fun config state => { state with config }
  get_put := fun _ _ => rfl
  put_get := fun _ => rfl
  put_put := fun _ _ _ => rfl

namespace NodesState

def act (act : Act) (state : NodesState) : NodesState := { state with acts := state.acts ++ [act] }

def failWith (failures : List JsError) (state : NodesState) : NodesState :=
  { state with failures := state.failures ++ failures }

def change (id : Nat) (change : RuntimeNode → RuntimeNode) (state : NodesState) : NodesState :=
  { state with nodes := state.nodes.modify id change }

def isPostgres (state : NodesState) : Bool :=
  match state.config.config with
  | .postgres _ => true
  | .redis _ => false

end NodesState

/-- The status that the reader of a `bullmq cmd` node sets. -/
def applyBackendStatus : BackendStatus → NodeStatus
  | .connected => .connected
  | .disconnected => .disconnected
  | .connecting => .connecting

def onConfig (operation : ConfigState → ConfigState) (state : NodesState) : NodesState :=
  { state with config := operation state.config }

/-- A reader is a callback of its own node. -/
def actOf (node : NodeName) : Effect → Act
  | .read reader status =>
    ⟨.runtime reader, .status (.runtime reader) (applyBackendStatus status)⟩
  | effect => ⟨node, effect⟩

/-- A callback of `node` runs on the configuration node. -/
def callback (node : NodeName) (operation : ConfigState → ConfigState) (state : NodesState) :
    NodesState :=
  let config := operation state.config
  { state with
    config, acts := state.acts ++
      (config.trace.drop state.config.trace.length).map (actOf node) }

/-! ## Status, errors and readiness -/

/-- `setConnecting`, `setConnected` and `setDisconnected` -/
def setStatus (id : Nat) (status : NodeStatus) : NodesState → NodesState :=
  callback (.runtime id) (ConfigState.record (.status (.runtime id) status))

/-- What `attachErrorListener` returns, for the listener of this node. -/
def markReady (id resource : Nat) (config : ConfigState) : ConfigState :=
  { config with listeners := config.listeners.map fun listener =>
      if listener.emitter = .owner resource ∧ listener.node = .runtime id then
        { listener with ready := true }
      else listener }

def ready (id resource : Nat) : NodesState → NodesState :=
  callback (.runtime id) fun config =>
    (markReady id resource config).record (.status (.runtime id) .connected)

def onError (packages : Packages) (err : JsError) (state : NodesState) (listener : ErrorListener) :
    NodesState :=
  callback listener.node (fun config => ConfigNode.onError packages err config listener) state

/-- The `error` event of a connection or an owner. -/
def emitError (packages : Packages) (emitter : Emitter) (err : JsError) (state : NodesState) :
    NodesState :=
  (state.config.listeners.filter fun listener => decide (listener.emitter = emitter)).foldl
    (onError packages err) (state.failWith [err])

def onOwnerEvent (state : NodesState) (listener : OwnerListener) : NodesState :=
  match listener.event with
  | .ready => ready listener.node listener.owner state
  | .closed => setStatus listener.node .disconnected state

/-- The `ready` and `closed` events of a worker. -/
def emitOwner (owner : Nat) (event : OwnerEvent) (state : NodesState) : NodesState :=
  (state.ownerListeners.filter fun listener =>
    decide (listener.owner = owner ∧ listener.event = event)).foldl onOwnerEvent state

/-- An event of the backend that `watchBackend` watches. -/
def emitBackend (queue : Nat) (event : BackendEvent) (state : NodesState) : NodesState :=
  if state.config.watched.contains queue then callback .config (onBackendEvent event) state
  else state

/-- The readiness promise of the shared queue settles. -/
def seed (packages : Packages) (queue : Nat) (failure : Option JsError) (state : NodesState) :
    NodesState :=
  callback .config (onReadiness packages queue failure) (state.failWith failure.toList)

/-- `node.worker.closing` -/
def closing (worker : Nat) (state : NodesState) : Bool :=
  state.config.trace.any fun effect =>
    match effect with
    | .closeCalled owner => decide (owner = worker)
    | _ => false

def waitFor (id : Nat) (pending : Pending) : NodesState → NodesState :=
  NodesState.change id fun node => { node with pending }

/-- The `catch` of `startPostgresWorker` -/
def workerFailed (packages : Packages) (id worker : Nat) (workerReady : Bool) (err : JsError)
    (state : NodesState) : NodesState :=
  if closing worker state then state
  else
    callback (.runtime id) (fun config =>
      let shown := config.record (.status (.runtime id) .disconnected)
      if workerReady then shown.record (.nodeError (.runtime id) err.message)
      else reportBackendFailure packages err shown) state

/-- `startPostgresWorker`, once the worker is ready or has failed. -/
def startPostgresWorker (packages : Packages) (id worker : Nat) (failure : Option JsError)
    (state : NodesState) : NodesState :=
  match failure with
  | none =>
    if closing worker state then waitFor id .nothing state
    else ready id worker (waitFor id .running state)
  | some err => workerFailed packages id worker false err (waitFor id .nothing state)

/-- `updateReadyStatus` of a `bullmq events` or `bullmq flow` node, once its resource is ready or
has failed. -/
def updateReadyStatus (packages : Packages) (id resource : Nat) (failure : Option JsError)
    (state : NodesState) : NodesState :=
  let settled := waitFor id .nothing state
  match failure with
  | none => ready id resource settled
  | some err =>
    callback (.runtime id) (fun config =>
      let shown := config.record (.status (.runtime id) .disconnected)
      if state.isPostgres then reportBackendFailure packages err shown
      else shown.record (.nodeError (.runtime id) err.message)) settled

/-- The readiness promise of a runtime node settles. -/
def readiness (packages : Packages) (id : Nat) (failure : Option JsError) (state : NodesState) :
    NodesState :=
  let seen := state.failWith failure.toList
  match state.nodes.read id with
  | some ⟨.run, some worker, _, _⟩ => startPostgresWorker packages id worker failure seen
  | some ⟨.events, some resource, _, _⟩ => updateReadyStatus packages id resource failure seen
  | some ⟨.flow, some resource, _, _⟩ => updateReadyStatus packages id resource failure seen
  | _ => seen

/-- `await node.worker.run()` settles. -/
def running (packages : Packages) (id : Nat) (failure : Option JsError) (state : NodesState) :
    NodesState :=
  let settled := waitFor id .nothing state
  match state.nodes.read id, failure with
  | some ⟨.run, some worker, _, _⟩, some err => workerFailed packages id worker true err settled
  | _, _ => settled

/-! ## Constructors -/

/-- What a constructor comes to: what it throws, if it does, and the state it leaves. -/
abbrev Deployed := Except JsError Unit × NodesState

/-- A synchronous function of the configuration node, called by a node. -/
def called {α : Type} (node : NodeName) (operation : Sync α) (state : NodesState) :
    Except JsError α × NodesState :=
  ((operation state.config).1, callback node (fun config => (operation config).2) state)

def failed (construction : Construction) : List JsError :=
  match construction.owner with
  | .error err => [err]
  | .ok _ => []

/-- `RED.nodes.createNode` -/
def createNode (kind : NodeKind) (state : NodesState) : Nat × NodesState :=
  let (id, nodes) := state.nodes.alloc ⟨kind, none, .nothing, false⟩
  (id, { state with nodes })

/-- `getQueue` of the configuration node, called by a node. -/
def getQueueFor (packages : Packages) (node : NodeName) (construction : Construction)
    (state : NodesState) : Except JsError (Option Nat) × NodesState :=
  called node (getQueue packages construction)
    (if state.config.queue.isNone then state.failWith (failed construction) else state)

def BullQueueCmdNode (packages : Packages) (construction : Construction) (state : NodesState) :
    Deployed :=
  let (id, state) := createNode .cmd state
  match getQueueFor packages (.runtime id) construction state with
  | (.error err, state) => (.error err, state)
  | (.ok _, state) =>
    (.ok (), (callback (.runtime id) (readBackendStatus id) state).change id fun node =>
      { node with closes := true })

/-- The constructor of a node with a resource of its own: without it the node only shows that
it is disconnected. -/
def withResource (kind : NodeKind) (create : NodeName → Sync (Option Nat))
    (construction : Construction) (wire : Nat → Nat → NodesState → NodesState)
    (state : NodesState) : Deployed :=
  let (id, state) := createNode kind state
  match called (.runtime id) (create (.runtime id)) (state.failWith (failed construction)) with
  | (.error err, state) => (.error err, state)
  | (.ok none, state) => (.ok (), setStatus id .disconnected state)
  | (.ok (some resource), state) => (.ok (), wire id resource (state.change id fun node =>
      { node with resource := some resource, closes := true }))

/-- `attachErrorListener(resource, node, startupFailureOwner)` of a runtime node -/
def attachOwnListener (id resource : Nat) (state : NodesState) : NodesState :=
  { state with
    config := attachErrorListener (.owner resource) (.runtime id) state.isPostgres state.config }

def listen (listener : OwnerListener) (state : NodesState) : NodesState :=
  { state with ownerListeners := state.ownerListeners ++ [listener] }

def wireWorker (id worker : Nat) (state : NodesState) : NodesState :=
  let attached := attachOwnListener id worker state
  let started :=
    if state.isPostgres then waitFor id .readiness attached
    else listen ⟨worker, .ready, id⟩ attached
  setStatus id .connecting (listen ⟨worker, .closed, id⟩ started)

/-- The constructors of `bullmq events` and `bullmq flow` start `updateReadyStatus`. -/
def wireReadiness (id resource : Nat) (state : NodesState) : NodesState :=
  waitFor id .readiness (setStatus id .connecting (attachOwnListener id resource state))

def BullQueueRunNode (packages : Packages) (construction : Construction) :
    NodesState → Deployed :=
  withResource .run (fun node => createWorker packages node construction) construction wireWorker

def BullEventsNode (packages : Packages) (construction : Construction) : NodesState → Deployed :=
  withResource .events (fun node => createQueueEvents packages node construction) construction
    wireReadiness

def BullFlowNode (packages : Packages) (construction : Construction) : NodesState → Deployed :=
  withResource .flow (fun node => createFlowProducer packages node construction) construction
    wireReadiness

def deploy (packages : Packages) (construction : Construction) :
    NodeKind → NodesState → Deployed
  | .cmd => BullQueueCmdNode packages construction
  | .run => BullQueueRunNode packages construction
  | .events => BullEventsNode packages construction
  | .flow => BullFlowNode packages construction

/-! ## Close handlers -/

abbrev NodesBody := Async NodesState ConfigCall ConfigReply JsError

/-- `done(error)` -/
def callDone (node : NodeName) (handler : Nat) (error : Option JsError) : NodesBody Unit :=
  modify (NodesState.act ⟨node, .done handler error⟩)

/-- `try { await releaseResource(resource); done(); } catch (err) { done(err); }` -/
def releaseAndReport (handler id resource : Nat) : NodesBody Unit := do
  try
    (releaseResource handler resource).onPart configPart
    callDone (.runtime id) handler none
  catch err => callDone (.runtime id) handler (some err)

/-- The close handlers of the four kinds of nodes; a node without a resource has none. -/
def closeHandler (handler id : Nat) : Option RuntimeNode → NodesBody Unit
  | some ⟨.cmd, _, _, _⟩ => do
    modify (callback (.runtime id) (stopReading id))
    callDone (.runtime id) handler none
  | some ⟨_, some resource, _, _⟩ => releaseAndReport handler id resource
  | _ => pure ()

def onCloseNode (handler id : Nat) : NodesBody Unit := do
  closeHandler handler id ((← get).nodes.read id)

/-- The close handler of the configuration node -/
def onCloseConfig (handler : Nat) : NodesBody Unit := do
  try
    let resources ← modifyGet fun state =>
      let (resources, config) := takeAll handler state.config
      (resources, { state with config })
    let _ ← Async.call (.all resources)
    modify (onConfig (ConfigState.record (.status .config .cleared)))
    callDone .config handler none
  catch err => callDone .config handler (some err)

/-! ## The nodes as a system -/

/-- What happens to the nodes. A `getQueue` is one of a node that handles a message or a job, and
`pair` is the closing of one pair that the close handler of the configuration node started. -/
inductive NodesTask where
  | deploy (kind : NodeKind) (construction : Construction)
  | getQueue (caller : Nat) (construction : Construction)
  | closeNode (id : Nat)
  | closeConfig
  | pair (handler owner : Nat) (connection : Option Nat)
  | emitError (emitter : Emitter) (err : JsError)
  | ownerEvent (owner : Nat) (event : OwnerEvent)
  | backendEvent (queue : Nat) (event : BackendEvent)
  | seed (queue : Nat) (failure : Option JsError)
  | readiness (id : Nat) (failure : Option JsError)
  | running (id : Nat) (failure : Option JsError)
  | connectionStatus (connection : Nat) (status : String)

/-- Run a synchronous function inside a task. -/
def syncNodes {α : Type} (operation : NodesState → Except JsError α × NodesState) :
    NodesBody Unit := do
  match ← modifyGet operation with
  | .ok _ => pure ()
  | .error err => throw err

def runNodesTask (packages : Packages) (index : Nat) : NodesTask → NodesBody Unit
  | .deploy kind construction => syncNodes (deploy packages construction kind)
  | .getQueue caller construction => syncNodes (getQueueFor packages (.runtime caller) construction)
  | .closeNode id => onCloseNode index id
  | .closeConfig => onCloseConfig index
  | .pair _ owner connection => (closeResourcePair index owner connection).onPart configPart
  | .emitError emitter err => modify (emitError packages emitter err)
  | .ownerEvent owner event => modify (emitOwner owner event)
  | .backendEvent queue event => modify (emitBackend queue event)
  | .seed queue failure => modify (seed packages queue failure)
  | .readiness id failure => modify (readiness packages id failure)
  | .running id failure => modify (running packages id failure)
  | .connectionStatus connection status =>
    modify (onConfig (ConfigNode.setStatus connection status))

abbrev NodesPool := Pool NodesState ConfigCall ConfigReply JsError Unit NodesTask

abbrev NodesMove := PoolMove ConfigCall ConfigReply JsError NodesTask

/-- What can happen by itself. A close handler runs where it was registered, and a promise
settles where it is awaited. -/
def nodesLaunches (pool : NodesPool) : NodesTask → Prop
  | .closeNode id => ∃ node, pool.shared.nodes.read id = some node ∧ node.closes = true
  | .pair _ _ _ => False
  | .seed queue _ => queue ∈ pool.shared.config.seeding
  | .readiness id _ => ∃ node, pool.shared.nodes.read id = some node ∧ node.pending = .readiness
  | .running id _ => ∃ node, pool.shared.nodes.read id = some node ∧ node.pending = .running
  | _ => True

/-- The closings that a close handler waits for. -/
def nodesPromises (pool : NodesPool) (handler : Nat) : List (Option (Except JsError Unit)) :=
  pool.tasks.filterMap fun entry =>
    match entry.1 with
    | .pair parent _ _ => if parent = handler then some entry.2.result else none
    | _ => none

def nodesAnswered (pool : NodesPool) (index : Nat) :
    (call : ConfigCall) → Except JsError (ConfigReply call) → Prop
  | .close _ _, reply => ∃ settlement, reply = .ok settlement
  | .quit _ _, reply => ∃ settlement, reply = .ok settlement
  | .lockManager _, _ => True
  | .all _, reply =>
    match reply with
    | .ok _ => ∀ result ∈ nodesPromises pool index, result = some (.ok ())
    | .error err => some (.error err) ∈ nodesPromises pool index
  | .ended, reply => reply = .ok ()

def nodesForks (index : Nat) : ConfigCall → List NodesTask
  | .all pairs => pairs.map fun pair => .pair index pair.1 pair.2
  | _ => []

def nodesSystem (packages : Packages) :
    System NodesState ConfigCall ConfigReply JsError Unit NodesTask where
  body := runNodesTask packages
  launch := nodesLaunches
  answers := nodesAnswered
  forks := nodesForks

def emptyNodesPool (config : QueueConfig) : NodesPool := ⟨.initial config, []⟩

end NodeRedBull.RuntimeNodes
