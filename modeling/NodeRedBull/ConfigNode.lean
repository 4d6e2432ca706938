import NodeRedBull.Connections
import NodeRedBull.Library.OrderedMap
import NodeRedBull.Library.Store
import NodeRedBull.Library.Pool

/-! The queue configuration node: the BullMQ owners and Redis connections it creates, the
backend status it shares and how it closes them (`bull-queue.js`). -/

namespace NodeRedBull.ConfigNode
open Js Library Connections

/-! ## What the node creates -/

/-- The node whose visible status shows what happens to a resource. -/
inductive NodeName where
  | config
  | runtime (id : Nat)
  deriving DecidableEq

inductive OwnerKind where
  | queue
  | worker
  | events
  | flow
  deriving DecidableEq

/-- A method that is there or not, with what it throws, if it throws. -/
abbrev Method := Option (Option JsError)

/-- How one ioredis connection behaves when it is closed. -/
structure ConnectionShape where
  quit : Method
  disconnect : Method

/-- `backend.connection._client` and `backend.blockingConnection._client`, by their
`disconnect` methods. -/
structure BackendShape where
  mainClient : Option Method
  blockingClient : Option Method

/-- How one BullMQ owner behaves when it is closed by force. -/
structure OwnerShape where
  close : Option JsError
  getBackend : Option (Except JsError (Option BackendShape))
  lockManager : Bool
  stalledCheckStopper : Method

/-- `ended` says that `quit()` or `disconnect()` was called. -/
structure Connection where
  role : Role
  descriptor : RedisDescriptor
  node : NodeName
  shape : ConnectionShape
  status : String
  ended : Bool

structure Owner where
  kind : OwnerKind
  connection : Option Nat
  options : BullMQOptions
  shape : OwnerShape

/-- What one call of a BullMQ constructor and of ioredis before it comes to. -/
structure Construction where
  connection : ConnectionShape
  owner : Except JsError OwnerShape

/-- An object that emits `error` events. -/
inductive Emitter where
  | connection (ref : Nat)
  | owner (ref : Nat)
  deriving DecidableEq

/-- A listener that `attachErrorListener` registered. -/
structure ErrorListener where
  emitter : Emitter
  node : NodeName
  startupFailureOwner : Bool
  ready : Bool

inductive BackendStatus where
  | connecting
  | connected
  | disconnected
  deriving DecidableEq

inductive BackendEvent where
  | ready
  | error
  | close
  deriving DecidableEq

/-- What is closed: a BullMQ owner or a raw ioredis connection. -/
abbrev Target := Emitter

/-- A client whose `disconnect(false)` is called. -/
inductive Client where
  | connection (ref : Nat)
  | main (owner : Nat)
  | blocking (owner : Nat)
  deriving DecidableEq

inductive NodeStatus where
  | connecting
  | connected
  | disconnected
  | cleared
  deriving DecidableEq

/-- What the node did that can be seen from outside, and what happened to it; a handler is
named by its task. -/
inductive Effect where
  | created (owner : Nat) (connection : Option Nat)
  | took (handler owner : Nat) (connection : Option Nat)
  | closesPair (handler owner : Nat) (connection : Option Nat)
  | closes (target : Target)
  | closeCalled (owner : Nat)
  | closeSettled (owner : Nat)
  | quitCalled (connection : Nat)
  | disconnected (client : Client)
  | lockManagerClosed (owner : Nat)
  | stalledCheckStopped (owner : Nat)
  | closeBegan (handler : Nat)
  | done (handler : Nat) (error : Option JsError)
  | backend (event : BackendEvent)
  | readiness (failure : Option JsError)
  | subscribed (reader : Nat)
  | unsubscribed (reader : Nat)
  | read (reader : Nat) (status : BackendStatus)
  | reported (error : JsError)
  | status (node : NodeName) (status : NodeStatus)
  | nodeError (node : NodeName) (message : String)

/-- `watched` lists the queues whose backend has the listeners of `watchBackend`, `seeding`
those whose readiness promise is still awaited. -/
structure ConfigState where
  config : QueueConfig
  connections : Store Connection
  owners : Store Owner
  resources : OrderedMap Nat (Option Nat)
  queue : Option Nat
  producerConnection : Option Nat
  telemetry : Option Nat
  telemetryUnavailable : Bool
  backendFailures : List String
  backendStatus : BackendStatus
  backendReaders : List Nat
  listeners : List ErrorListener
  watched : List Nat
  seeding : List Nat
  trace : List Effect

def ConfigState.initial (config : QueueConfig) : ConfigState where
  config
  connections := .empty
  owners := .empty
  resources := .empty
  queue := none
  producerConnection := none
  telemetry := none
  telemetryUnavailable := false
  backendFailures := []
  backendStatus := .connecting
  backendReaders := []
  listeners := []
  watched := []
  seeding := []
  trace := []

def ConfigState.record (effect : Effect) (state : ConfigState) : ConfigState :=
  { state with trace := state.trace ++ [effect] }

/-- What BullMQ and the installation bring: the versions in its messages, and whether
`bullmq-otel` is installed. -/
structure Packages where
  minimumPostgresVersion : String
  recommendedPostgresVersion : String
  bullmqOtel : Bool

/-! ## Reports and the shared status -/

/-- `text.includes(part)` -/
def includes (text part : String) : Bool := text.toList.tails.any part.toList.isPrefixOf

def describeBackendFailure (packages : Packages) (err : JsError) : String × String :=
  let message := if err.message = "" then err.toText else err.message
  match err.class_ with
  | .schemaMigrationRequiredError => ("schema-migration-required", message ++
      " Set the queue configuration node's \"migrate\" property to true so this node " ++
      "initialises the schema, or run BullMQ's PostgreSQL migrations against the database " ++
      "yourself before deploying.")
  | .schemaVersionMismatchError => ("schema-version-mismatch", message ++
      " Upgrade this Node-RED package to a release that uses the required BullMQ major; " ++
      "PostgreSQL schema downgrades are not supported.")
  | .unsupportedPostgresVersionError => ("unsupported-postgres-version", message ++
      " BullMQ's PostgreSQL backend requires server version " ++
      packages.minimumPostgresVersion ++ " or newer (" ++ packages.recommendedPostgresVersion ++
      "+ recommended).")
  | _ =>
    if includes message "npm install pg" then ("pg-missing", message)
    else ("generic", "BullMQ backend is unavailable: " ++ message)

def reportBackendFailure (packages : Packages) (err : JsError) (state : ConfigState) :
    ConfigState :=
  let (category, message) := describeBackendFailure packages err
  if state.backendFailures.contains category then state
  else
    let latched := { state with backendFailures := state.backendFailures ++ [category] }
    (latched.record (.reported err)).record (.nodeError .config message)

def attachErrorListener (emitter : Emitter) (node : NodeName) (startupFailureOwner : Bool)
    (state : ConfigState) : ConfigState :=
  { state with listeners := state.listeners ++ [⟨emitter, node, startupFailureOwner, false⟩] }

/-- A listener of `attachErrorListener` runs. -/
def onError (packages : Packages) (err : JsError) (state : ConfigState)
    (listener : ErrorListener) : ConfigState :=
  let shown := state.record (.status listener.node .disconnected)
  if listener.startupFailureOwner && !listener.ready then
    reportBackendFailure packages err shown
  else shown.record (.nodeError listener.node err.message)

/-- The `error` event of a connection or an owner. -/
def emitError (packages : Packages) (emitter : Emitter) (err : JsError) (state : ConfigState) :
    ConfigState :=
  (state.listeners.filter fun listener => decide (listener.emitter = emitter)).foldl
    (onError packages err) state

def publishBackendStatus (status : BackendStatus) (state : ConfigState) : ConfigState :=
  state.backendReaders.foldl (fun state reader => state.record (.read reader status))
    { state with backendStatus := status }

/-- `watchBackend`, up to where it awaits the readiness promise. -/
def watchBackend (owner : Nat) (state : ConfigState) : ConfigState :=
  { state with watched := state.watched ++ [owner], seeding := state.seeding ++ [owner] }

/-- The listeners of `watchBackend` -/
def onBackendEvent (event : BackendEvent) (state : ConfigState) : ConfigState :=
  let seen := state.record (.backend event)
  match event with
  | .ready => publishBackendStatus .connected seen
  | .error => publishBackendStatus .disconnected seen
  | .close => publishBackendStatus .disconnected seen

/-- The rest of `watchBackend`, once the readiness promise has settled. -/
def onReadiness (packages : Packages) (owner : Nat) (failure : Option JsError)
    (state : ConfigState) : ConfigState :=
  let settled := { state with
    seeding := state.seeding.filter fun other => decide (other ≠ owner) }.record
      (.readiness failure)
  match failure with
  | none =>
    if settled.backendStatus = .connecting then publishBackendStatus .connected settled
    else settled
  | some err =>
    if settled.backendStatus = .connecting then
      reportBackendFailure packages err (publishBackendStatus .disconnected settled)
    else settled

def readBackendStatus (reader : Nat) (state : ConfigState) : ConfigState :=
  let subscribed := { state with
    backendReaders :=
      if state.backendReaders.contains reader then state.backendReaders
      else state.backendReaders ++ [reader] }.record (.subscribed reader)
  subscribed.record (.read reader subscribed.backendStatus)

/-- What `readBackendStatus` returns. -/
def stopReading (reader : Nat) (state : ConfigState) : ConfigState :=
  { state with
    backendReaders := state.backendReaders.filter fun other => decide (other ≠ reader) }.record
      (.unsubscribed reader)

/-! ## Creating resources -/

/-- A synchronous function that can throw: what it returns, and the state it leaves. -/
abbrev Sync (α : Type) := ConfigState → Except JsError α × ConfigState

def getTelemetry (packages : Packages) (state : ConfigState) : Option Nat × ConfigState :=
  if !state.config.telemetry.telemetry then (none, state)
  else if state.telemetry.isSome || state.telemetryUnavailable then (state.telemetry, state)
  else if !packages.bullmqOtel then
    (none, { state with telemetryUnavailable := true }.record (.nodeError .config
      "BullMQ telemetry is enabled but bullmq-otel is not installed; run npm install bullmq-otel"))
  else (some 0, { state with telemetry := some 0 })

def createConnection (config : RedisConfig) (role : Role) (node : NodeName)
    (shape : ConnectionShape) (state : ConfigState) : Nat × ConfigState :=
  let descriptor := buildRedisDescriptor config role
  let (connection, connections) :=
    state.connections.alloc ⟨role, descriptor, node, shape, "connecting", false⟩
  (connection, attachErrorListener (.connection connection) node false { state with connections })

/-- `construct(options, ...)` and then `node.resources.set(resource, connection)` -/
def construct (kind : OwnerKind) (connection : Option Nat) (options : BullMQOptions)
    (outcome : Except JsError OwnerShape) : Sync Nat := fun state =>
  match outcome with
  | .error err => (.error err, state)
  | .ok shape =>
    let (resource, owners) := state.owners.alloc ⟨kind, connection, options, shape⟩
    (.ok resource, { state with
      owners, resources := state.resources.set resource connection }.record
        (.created resource connection))

def createResource (packages : Packages) (kind : OwnerKind) (role : Role) (node : NodeName)
    (telemetry : Option Nat) (construction : Construction) :
    Sync (Option (Nat × Option Nat)) := fun state =>
  match state.config with
  | .postgres target =>
    let options := buildBullMQOptions state.config (.postgres target.postgres) telemetry role
    match construct kind none options construction.owner state with
    | (.ok resource, state) => (.ok (some (resource, none)), state)
    | (.error err, state) =>
      (.ok none, reportBackendFailure packages err (publishBackendStatus .disconnected state))
  | .redis target =>
    let (connection, state) := createConnection target role node construction.connection state
    let options := buildBullMQOptions state.config (.redis connection) telemetry role
    match construct kind (some connection) options construction.owner state with
    | (.ok resource, state) => (.ok (some (resource, some connection)), state)
    | (.error err, state) => (.error err, state)

/-- `node.watchBackend(node.queue.getBackend())`, which fails where there is no backend. -/
def watchOwnBackend (queue : Nat) : Sync Unit := fun state =>
  match (state.owners.read queue).bind fun owner => owner.shape.getBackend with
  | none => (.error (newTypeError "node.queue.getBackend is not a function"), state)
  | some (.error err) => (.error err, state)
  | some (.ok none) =>
    (.error (newTypeError "Cannot read properties of undefined (reading 'on')"), state)
  | some (.ok (some _)) => (.ok (), watchBackend queue state)

def getQueue (packages : Packages) (construction : Construction) : Sync (Option Nat) := fun state =>
  match state.queue with
  | some queue => (.ok (some queue), state)
  | none =>
    let (telemetry, state) := getTelemetry packages state
    match createResource packages .queue .producer .config telemetry construction state with
    | (.error err, state) => (.error err, state)
    | (.ok none, state) => (.ok none, state)
    | (.ok (some (resource, connection)), state) =>
      match watchOwnBackend resource
          { state with queue := some resource, producerConnection := connection } with
      | (.error err, state) => (.error err, state)
      | (.ok _, state) =>
        (.ok (some resource), attachErrorListener (.owner resource) .config false state)

/-- `createResource(...).resource` -/
def resourceOf (created : Except JsError (Option (Nat × Option Nat)) × ConfigState) :
    Except JsError (Option Nat) × ConfigState :=
  (created.1.map (Option.map Prod.fst), created.2)

def createWorker (packages : Packages) (node : NodeName) (construction : Construction) :
    Sync (Option Nat) := fun state =>
  let (telemetry, state) := getTelemetry packages state
  resourceOf (createResource packages .worker .worker node telemetry construction state)

def createQueueEvents (packages : Packages) (node : NodeName) (construction : Construction) :
    Sync (Option Nat) := fun state =>
  resourceOf (createResource packages .events .events node none construction state)

def createFlowProducer (packages : Packages) (node : NodeName) (construction : Construction) :
    Sync (Option Nat) := fun state =>
  let (telemetry, state) := getTelemetry packages state
  resourceOf (createResource packages .flow .producer node telemetry construction state)

/-! ## Closing resources -/

inductive Settlement where
  | settled
  | timeout
  deriving DecidableEq

/-- What a handler of the node awaits: `settleWithin` of a close or a quit, the close of a lock
manager, the closings of all pairs, or an asynchronous function that has ended. -/
inductive ConfigCall where
  | close (owner budget : Nat)
  | quit (connection budget : Nat)
  | lockManager (owner : Nat)
  | all (pairs : List (Nat × Option Nat))
  | ended

def ConfigReply : ConfigCall → Type
  | .close _ _ | .quit _ _ => Settlement
  | .lockManager _ | .all _ | .ended => Unit

abbrev ConfigBody := Async ConfigState ConfigCall ConfigReply JsError

def await (call : ConfigCall) : ConfigBody (ConfigReply call) := Async.call call

def record (effect : Effect) : ConfigBody Unit := modify (ConfigState.record effect)

/-- `await` on an asynchronous function: its end reaches the caller in a later turn. -/
def awaitEnd (body : ConfigBody Unit) : ConfigBody Unit := do
  let result ← try Except.ok <$> body catch err => pure (Except.error err)
  let _ ← await .ended
  match result with
  | .ok _ => pure ()
  | .error err => throw err

def throwIfAny : Option JsError → ConfigBody Unit
  | none => pure ()
  | some err => throw err

def closeGraceMs : Nat := 1000
def gracefulCloseMs : Nat := 10000
def postgresCloseMs : Nat := 10000 + closeGraceMs

def closeBudgetFor (connection : Option Nat) (state : ConfigState) : Nat :=
  match connection with
  | none => postgresCloseMs
  | some ref =>
    match state.connections.read ref with
    | some connection => if connection.status = "ready" then gracefulCloseMs else closeGraceMs
    | none => closeGraceMs

/-- `quit()` and `disconnect()` end a connection for good. -/
def endConnection (ref : Nat) (state : ConfigState) : ConfigState :=
  { state with connections := state.connections.modify ref fun connection =>
      { connection with ended := true } }

def callDisconnect (client : Client) (throws : Option JsError) : ConfigBody Unit := do
  record (.disconnected client)
  match client with
  | .connection ref => modify (endConnection ref)
  | _ => pure ()
  throwIfAny throws

def disconnectClient (client : Client) : Method → ConfigBody Unit
  | none => pure ()
  | some throws => try callDisconnect client throws catch _ => pure ()

def forceDisconnectConnection (ref : Nat) (shape : ConnectionShape) : ConfigBody Unit :=
  disconnectClient (.connection ref) shape.disconnect

/-- The raw Redis clients of an owner; PostgreSQL has none. -/
def disconnectBackend (owner : Nat) : Option BackendShape → ConfigBody Unit
  | some ⟨some main, blocking⟩ => do
    disconnectClient (.main owner) main
    disconnectClient (.blocking owner) (blocking.getD none)
  | _ => pure ()

def stopStalledCheck (owner : Nat) : Method → ConfigBody Unit
  | none => pure ()
  | some throws => do
    record (.stalledCheckStopped owner)
    throwIfAny throws

def forceDisconnectOwner (owner : Nat) (shape : OwnerShape) : ConfigBody Unit :=
  match shape.getBackend with
  | none => pure ()
  | some (.error err) => throw err
  | some (.ok backend) => do
    disconnectBackend owner backend
    if shape.lockManager then
      record (.lockManagerClosed owner)
      let _ ← await (.lockManager owner)
    stopStalledCheck owner shape.stalledCheckStopper

/-- `closeResource` of a raw ioredis connection -/
def closeConnection (ref : Nat) : ConfigBody Unit := do
  record (.closes (.connection ref))
  match (← get).connections.read ref with
  | none => pure ()
  | some connection =>
    match connection.shape.quit with
    | some throws =>
      if connection.status = "ready" then
        record (.quitCalled ref)
        modify (endConnection ref)
        throwIfAny throws
        let settlement : Settlement ← await (.quit ref closeGraceMs)
        if settlement = .timeout then
          awaitEnd (forceDisconnectConnection ref connection.shape)
      else awaitEnd (forceDisconnectConnection ref connection.shape)
    | none => awaitEnd (forceDisconnectConnection ref connection.shape)

/-- `closeResource` of a BullMQ owner -/
def closeOwner (owner : Nat) (connection : Option Nat) : ConfigBody Unit := do
  record (.closes (.owner owner))
  match (← get).owners.read owner with
  | none => pure ()
  | some found =>
    record (.closeCalled owner)
    throwIfAny found.shape.close
    let settlement : Settlement ← await (.close owner (closeBudgetFor connection (← get)))
    match settlement with
    | .settled => record (.closeSettled owner)
    | .timeout => awaitEnd (forceDisconnectOwner owner found.shape)

/-- `closeResource` of the connection that came with an owner, if there is one. -/
def closeCompanion : Option Nat → ConfigBody Unit
  | none => pure ()
  | some ref => closeConnection ref

/-- `if (firstError) throw firstError`, where `firstError ||= err` came before. -/
def throwFirst : Except JsError Unit → Except JsError Unit → ConfigBody Unit
  | .error err, _ => throw err
  | .ok _, .error err => throw err
  | .ok _, .ok _ => pure ()

def closeResourcePair (handler owner : Nat) (connection : Option Nat) : ConfigBody Unit := do
  record (.closesPair handler owner connection)
  let first : Except JsError Unit ←
    try Except.ok <$> awaitEnd (closeOwner owner connection) catch err => pure (.error err)
  let second : Except JsError Unit ←
    try Except.ok <$> awaitEnd (closeCompanion connection) catch err => pure (.error err)
  throwFirst first second

/-- `node.resources.delete(owner)` -/
def take (handler owner : Nat) (connection : Option Nat) (state : ConfigState) : ConfigState :=
  { state with resources := state.resources.delete owner }.record (.took handler owner connection)

def releaseResource (handler owner : Nat) : ConfigBody Unit := do
  match (← get).resources.get owner with
  | none => pure ()
  | some connection =>
    modify (take handler owner connection)
    awaitEnd (closeResourcePair handler owner connection)

/-- `onClose` up to `Promise.all`: what it closes, and the state it leaves. -/
def takeAll (handler : Nat) (state : ConfigState) : List (Nat × Option Nat) × ConfigState :=
  let resources := state.resources.entries.reverse
  (resources, { state with
    backendFailures := []
    resources := .empty
    trace := state.trace ++ [.closeBegan handler] ++
      resources.map fun pair => .took handler pair.1 pair.2 })

def onClose (handler : Nat) : ConfigBody Unit := do
  try
    let resources ← modifyGet (takeAll handler)
    let _ ← await (.all resources)
    record (.status .config .cleared)
    record (.done handler none)
  catch err => record (.done handler (some err))

/-! ## The node as a system -/

/-- What happens to the node. A `processor` call is one of a manual-mode job, and `pair` is the
closing of one pair that a close handler started. -/
inductive ConfigTask where
  | getQueue (construction : Construction)
  | createWorker (node : NodeName) (construction : Construction)
  | createQueueEvents (node : NodeName) (construction : Construction)
  | createFlowProducer (node : NodeName) (construction : Construction)
  | processor (worker : Nat) (construction : Construction)
  | releaseResource (owner : Nat)
  | close
  | pair (handler owner : Nat) (connection : Option Nat)
  | emitError (emitter : Emitter) (err : JsError)
  | backendEvent (queue : Nat) (event : BackendEvent)
  | readiness (queue : Nat) (failure : Option JsError)
  | readBackendStatus (reader : Nat)
  | stopReading (reader : Nat)
  | connectionStatus (connection : Nat) (status : String)

def setStatus (ref : Nat) (status : String) (state : ConfigState) : ConfigState :=
  { state with connections := state.connections.modify ref fun connection =>
      { connection with status } }

/-- Run a synchronous function inside a task. -/
def sync {α : Type} (operation : Sync α) : ConfigBody Unit := do
  match ← modifyGet operation with
  | .ok _ => pure ()
  | .error err => throw err

def runTask (packages : Packages) (index : Nat) : ConfigTask → ConfigBody Unit
  | .getQueue construction => sync (getQueue packages construction)
  | .createWorker node construction => sync (createWorker packages node construction)
  | .createQueueEvents node construction => sync (createQueueEvents packages node construction)
  | .createFlowProducer node construction => sync (createFlowProducer packages node construction)
  | .processor _ construction => sync (getQueue packages construction)
  | .releaseResource owner => releaseResource index owner
  | .close => onClose index
  | .pair _ owner connection => closeResourcePair index owner connection
  | .emitError emitter err => modify (emitError packages emitter err)
  | .backendEvent queue event => do
    if (← get).watched.contains queue then modify (onBackendEvent event)
  | .readiness queue failure => modify (onReadiness packages queue failure)
  | .readBackendStatus reader => modify (readBackendStatus reader)
  | .stopReading reader => modify (stopReading reader)
  | .connectionStatus connection status => modify (setStatus connection status)

abbrev ConfigPool := Pool ConfigState ConfigCall ConfigReply JsError Unit ConfigTask

/-- The closings that close handler `handler` waits for. -/
def promises (pool : ConfigPool) (handler : Nat) :
    List (Paused ConfigState ConfigCall ConfigReply JsError Unit) :=
  pool.tasks.filterMap fun entry =>
    match entry.1 with
    | .pair parent _ _ => if parent = handler then some entry.2 else none
    | _ => none

/-- How `Promise.all` over the closings of a handler settles: it rejects as soon as one of them
has failed. -/
def allSettles (closings : List (Paused ConfigState ConfigCall ConfigReply JsError Unit)) :
    Except JsError Unit → Prop
  | .ok _ => ∀ paused ∈ closings, paused.result = some (.ok ())
  | .error err => ∃ paused ∈ closings, paused.result = some (.error err)

/-- What can start by itself. BullMQ can call a processor until `Worker.close()` has settled, and
a readiness promise settles once. -/
def launches (pool : ConfigPool) : ConfigTask → Prop
  | .processor worker _ =>
    (∃ owner, pool.shared.owners.read worker = some owner ∧ owner.kind = .worker) ∧
      Effect.closeSettled worker ∉ pool.shared.trace
  | .readiness queue _ => queue ∈ pool.shared.seeding
  | .pair _ _ _ => False
  | _ => True

def answered (pool : ConfigPool) (index : Nat) :
    (call : ConfigCall) → Except JsError (ConfigReply call) → Prop
  | .close _ _, reply => ∃ settlement, reply = .ok settlement
  | .quit _ _, reply => ∃ settlement, reply = .ok settlement
  | .lockManager _, _ => True
  | .all _, reply => allSettles (promises pool index) reply
  | .ended, reply => reply = .ok ()

/-- `Promise.all(resources.map(...))` starts the closing of every pair. -/
def forks (index : Nat) : ConfigCall → List ConfigTask
  | .all pairs => pairs.map fun pair => .pair index pair.1 pair.2
  | _ => []

def configSystem (packages : Packages) :
    System ConfigState ConfigCall ConfigReply JsError Unit ConfigTask where
  body := runTask packages
  launch := launches
  answers := answered
  forks := forks

def emptyConfigPool (config : QueueConfig) : ConfigPool := ⟨.initial config, []⟩

end NodeRedBull.ConfigNode
