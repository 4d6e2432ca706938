import NodeRedBull.Credentials
import NodeRedBull.Library.Mirror
import NodeRedBull.ConfigNode

/-! The functions and closings of a configuration node do the same to a state without secrets. -/

namespace NodeRedBull.CredentialFrames
open Js Library Connections ConfigNode Credentials

/-! ## States without secrets -/

def hideOption : ConnectionOption → ConnectionOption
  | .redis connection => .redis connection
  | .postgres target => .postgres (hideTarget target)

def hideOptionsOf (options : BullMQOptions) : BullMQOptions :=
  { options with connection := hideOption options.connection }

def hideOwner (owner : Owner) : Owner := { owner with options := hideOptionsOf owner.options }

def hideConnection (connection : Connection) : Connection :=
  { connection with descriptor := hideDescriptor connection.descriptor }

def hide (state : ConfigState) : ConfigState :=
  { state with
    config := hideConfig state.config
    connections := state.connections.map hideConnection
    owners := state.owners.map hideOwner }

/-- The function does the same to a state without secrets. -/
def Blind (operation : ConfigState → ConfigState) : Prop :=
  ∀ state, hide (operation state) = operation (hide state)

/-- The same of a function that also returns something. -/
def BlindSync {α : Type} (operation : ConfigState → α × ConfigState) : Prop :=
  ∀ state, operation (hide state) = ((operation state).1, hide (operation state).2)

theorem blind_comp {first second : ConfigState → ConfigState} (one : Blind first)
    (other : Blind second) : Blind fun state => second (first state) := by
  intro state
  rw [other, one]

theorem blind_foldl {α : Type} {step : ConfigState → α → ConfigState}
    (blind : ∀ item, Blind fun state => step state item) (items : List α) :
    Blind fun state => items.foldl step state := by
  intro state
  exact (List.foldl_hom hide fun state item => (blind item state).symm).symm

/-! ## Statuses and reports -/

theorem record_blind (effect : Effect) : Blind (ConfigState.record effect) := fun _ => rfl

theorem reportBackendFailure_blind (packages : Packages) (err : JsError) :
    Blind (reportBackendFailure packages err) := by
  intro state
  have failures : (hide state).backendFailures = state.backendFailures := rfl
  unfold reportBackendFailure
  dsimp only
  rw [failures]
  split
  · rfl
  · rfl

theorem publishBackendStatus_blind (status : BackendStatus) :
    Blind (publishBackendStatus status) := by
  intro state
  exact blind_foldl (fun reader => record_blind (.read reader status)) state.backendReaders
    { state with backendStatus := status }

theorem onError_blind (packages : Packages) (err : JsError) (listener : ErrorListener) :
    Blind fun state => ConfigNode.onError packages err state listener := by
  intro state
  unfold ConfigNode.onError
  dsimp only
  split
  · exact reportBackendFailure_blind packages err _
  · rfl

theorem onBackendEvent_blind (event : BackendEvent) : Blind (onBackendEvent event) := by
  intro state
  cases event with
  | ready => exact publishBackendStatus_blind .connected _
  | error => exact publishBackendStatus_blind .disconnected _
  | close => exact publishBackendStatus_blind .disconnected _

theorem onReadiness_blind (packages : Packages) (owner : Nat) (failure : Option JsError) :
    Blind (onReadiness packages owner failure) := by
  intro state
  let settled := { state with
    seeding := state.seeding.filter fun other => decide (other ≠ owner) }.record
      (.readiness failure)
  cases failure with
  | none =>
    change hide (if settled.backendStatus = .connecting then _ else _) =
      if (hide settled).backendStatus = .connecting then _ else _
    have status : (hide settled).backendStatus = settled.backendStatus := rfl
    rw [status]
    split
    · exact publishBackendStatus_blind .connected settled
    · rfl
  | some err =>
    change hide (if settled.backendStatus = .connecting then _ else _) =
      if (hide settled).backendStatus = .connecting then _ else _
    have status : (hide settled).backendStatus = settled.backendStatus := rfl
    rw [status]
    split
    · exact blind_comp (publishBackendStatus_blind .disconnected)
        (reportBackendFailure_blind packages err) settled
    · rfl

theorem stopReading_blind (reader : Nat) : Blind (stopReading reader) := fun _ => rfl

/-! ## Creating resources -/

theorem telemetry_hide (config : QueueConfig) : (hideConfig config).telemetry = config.telemetry := by
  cases config <;> rfl

theorem getTelemetry_blind (packages : Packages) : BlindSync (getTelemetry packages) := by
  intro state
  have config : (hide state).config.telemetry = state.config.telemetry := telemetry_hide state.config
  unfold getTelemetry
  rw [config]
  split
  · rfl
  · have known : ((hide state).telemetry.isSome || (hide state).telemetryUnavailable) =
        (state.telemetry.isSome || state.telemetryUnavailable) := rfl
    rw [known]
    split
    · rfl
    · split
      · rfl
      · rfl

/-- A connection of the configuration without secrets -/
theorem createConnection_blind (config : RedisConfig) (role : Role) (node : NodeName)
    (shape : ConnectionShape) (state : ConfigState) :
    createConnection (hideRedis config) role node shape (hide state) =
      ((createConnection config role node shape state).1,
        hide (createConnection config role node shape state).2) := by
  have opened := Store.alloc_map hideConnection state.connections
    ⟨role, buildRedisDescriptor config role, node, shape, "connecting", false⟩
  have hidden : hideConnection ⟨role, buildRedisDescriptor config role, node, shape, "connecting",
      false⟩ = ⟨role, buildRedisDescriptor (hideRedis config) role, node, shape, "connecting",
        false⟩ := by
    unfold hideConnection
    rw [buildRedisDescriptor_hide]
  rw [hidden] at opened
  have connections : (hide state).connections = state.connections.map hideConnection := rfl
  unfold createConnection
  dsimp only
  rw [connections, opened]
  rfl

theorem construct_blind (kind : OwnerKind) (connection : Option Nat) (options : BullMQOptions)
    (outcome : Except JsError OwnerShape) (state : ConfigState) :
    construct kind connection (hideOptionsOf options) outcome (hide state) =
      ((construct kind connection options outcome state).1,
        hide (construct kind connection options outcome state).2) := by
  cases outcome with
  | error err => rfl
  | ok shape =>
    have built := Store.alloc_map hideOwner state.owners ⟨kind, connection, options, shape⟩
    have owners : (hide state).owners = state.owners.map hideOwner := rfl
    have hidden : hideOwner ⟨kind, connection, options, shape⟩ =
        ⟨kind, connection, hideOptionsOf options, shape⟩ := rfl
    rw [hidden] at built
    unfold construct
    dsimp only
    rw [owners, built]
    rfl

theorem backend_hide (config : QueueConfig) : (hideConfig config).backend = config.backend := by
  cases config <;> rfl

theorem prefixValue_hide (config : QueueConfig) :
    (hideConfig config).prefixValue = config.prefixValue := by
  cases config <;> rfl

theorem buildBullMQOptions_hide (config : QueueConfig) (connection : ConnectionOption)
    (telemetry : Option Nat) (role : Role) :
    buildBullMQOptions (hideConfig config) (hideOption connection) telemetry role =
      hideOptionsOf (buildBullMQOptions config connection telemetry role) := by
  unfold buildBullMQOptions
  rw [prefixValue_hide, backend_hide]
  rfl

theorem createResource_blind (packages : Packages) (kind : OwnerKind) (role : Role)
    (node : NodeName) (telemetry : Option Nat) (construction : Construction) :
    BlindSync (createResource packages kind role node telemetry construction) := by
  intro state
  have config : (hide state).config = hideConfig state.config := rfl
  cases backend : state.config with
  | postgres target =>
    have options : buildBullMQOptions (.postgres (hidePostgres target))
        (.postgres (hidePostgres target).postgres) telemetry role = _ :=
      buildBullMQOptions_hide (.postgres target) (.postgres target.postgres) telemetry role
    have built := construct_blind kind none
      (buildBullMQOptions (.postgres target) (.postgres target.postgres) telemetry role)
      construction.owner state
    rw [← options] at built
    simp only [createResource, config, backend, hideConfig]
    rw [built]
    generalize construct kind none
      (buildBullMQOptions (.postgres target) (.postgres target.postgres) telemetry role)
      construction.owner state = result
    obtain ⟨outcome, after⟩ := result
    cases outcome with
    | ok resource => rfl
    | error err =>
      have reported := blind_comp (publishBackendStatus_blind .disconnected)
        (reportBackendFailure_blind packages err) after
      exact Prod.ext rfl reported.symm
  | redis target =>
    have opened := createConnection_blind target role node construction.connection state
    simp only [createResource, config, backend, hideConfig]
    rw [opened]
    generalize createConnection target role node construction.connection state = result
    obtain ⟨connection, after⟩ := result
    dsimp only
    have options := buildBullMQOptions_hide after.config (.redis connection) telemetry role
    have built := construct_blind kind (some connection)
      (buildBullMQOptions after.config (.redis connection) telemetry role) construction.owner after
    rw [← options] at built
    have made : construct kind (some connection) (buildBullMQOptions (hide after).config
        (.redis connection) telemetry role) construction.owner (hide after) = _ := built
    rw [made]
    generalize construct kind (some connection)
      (buildBullMQOptions after.config (.redis connection) telemetry role) construction.owner
      after = result
    obtain ⟨outcome, last⟩ := result
    cases outcome with
    | ok resource => rfl
    | error err => rfl

theorem watchOwnBackend_blind (queue : Nat) : BlindSync (watchOwnBackend queue) := by
  intro state
  have read : (hide state).owners.read queue = (state.owners.read queue).map hideOwner :=
    Store.read_map hideOwner state.owners queue
  unfold watchOwnBackend
  rw [read]
  cases state.owners.read queue with
  | none => rfl
  | some owner =>
    have shape : (hideOwner owner).shape = owner.shape := rfl
    simp only [Option.map_some, Option.bind_some, shape]
    cases owner.shape.getBackend with
    | none => rfl
    | some backend =>
      cases backend with
      | error err => rfl
      | ok found => cases found <;> rfl

theorem getQueue_blind (packages : Packages) (construction : Construction) :
    BlindSync (getQueue packages construction) := by
  intro state
  have queue : (hide state).queue = state.queue := rfl
  unfold getQueue
  rw [queue]
  cases state.queue with
  | some found => rfl
  | none =>
    dsimp only
    rw [getTelemetry_blind packages state]
    generalize getTelemetry packages state = looked
    obtain ⟨telemetry, known⟩ := looked
    dsimp only
    rw [createResource_blind packages .queue .producer .config telemetry construction known]
    generalize createResource packages .queue .producer .config telemetry construction known = made
    obtain ⟨outcome, after⟩ := made
    cases outcome with
    | error err => rfl
    | ok created =>
      cases created with
      | none => rfl
      | some pair =>
        obtain ⟨resource, connection⟩ := pair
        dsimp only
        have watched := watchOwnBackend_blind resource
          { after with queue := some resource, producerConnection := connection }
        change watchOwnBackend resource { hide after with
          queue := some resource, producerConnection := connection } = _ at watched
        rw [watched]
        generalize watchOwnBackend resource
          { after with queue := some resource, producerConnection := connection } = result
        obtain ⟨value, last⟩ := result
        cases value with
        | error err => rfl
        | ok _ => rfl

theorem resourceOf_blind {create : ConfigState → Except JsError (Option (Nat × Option Nat)) × ConfigState}
    (blind : BlindSync create) : BlindSync fun state => resourceOf (create state) := by
  intro state
  dsimp only
  rw [blind state]
  rfl

theorem createWorker_blind (packages : Packages) (node : NodeName) (construction : Construction) :
    BlindSync (createWorker packages node construction) := by
  intro state
  unfold createWorker
  rw [getTelemetry_blind packages state]
  exact resourceOf_blind (createResource_blind packages .worker .worker node _ construction) _

theorem createQueueEvents_blind (packages : Packages) (node : NodeName)
    (construction : Construction) : BlindSync (createQueueEvents packages node construction) :=
  resourceOf_blind (createResource_blind packages .events .events node none construction)

theorem createFlowProducer_blind (packages : Packages) (node : NodeName)
    (construction : Construction) : BlindSync (createFlowProducer packages node construction) := by
  intro state
  unfold createFlowProducer
  rw [getTelemetry_blind packages state]
  exact resourceOf_blind (createResource_blind packages .flow .producer node _ construction) _

/-! ## Closing resources -/

/-- The second state is the first without its secrets. -/
def configLike : Likeness ConfigState ConfigCall ConfigReply :=
  .sameReplies (fun state other => other = hide state) Eq

/-- The body goes the same way without the secrets. -/
abbrev Same {α : Type} (body : ConfigBody α) : Prop := body.Twins configLike Eq body

theorem modify_same {change : ConfigState → ConfigState} (blind : Blind change) :
    Same (modify change : ConfigBody PUnit) := by
  apply Async.twins_modify _ rfl
  intro state other hidden
  rw [hidden]
  exact (blind state).symm

theorem get_hidden : (get : ConfigBody ConfigState).Twins configLike
    (fun state other => other = hide state) get :=
  Async.twins_get fun _ _ hidden => hidden

theorem record_same (effect : Effect) : Same (ConfigNode.record effect) :=
  modify_same (record_blind effect)

theorem await_same (call : ConfigCall) : Same (await call) := Async.twins_sameCall rfl

theorem throwIfAny_same (err : Option JsError) : Same (throwIfAny err) := by
  cases err with
  | none => exact Async.twins_pure rfl
  | some err => exact Async.twins_throw err

theorem caught_same {body : ConfigBody Unit} (same : Same body) :
    Same (tryCatch (Except.ok <$> body) fun err => pure (.error err) :
      ConfigBody (Except JsError Unit)) := by
  apply Async.twins_tryCatch (Async.twins_map same fun _ _ equal => congrArg Except.ok equal)
  intro err
  exact Async.twins_pure rfl

theorem awaitEnd_same {body : ConfigBody Unit} (same : Same body) : Same (awaitEnd body) := by
  apply Async.twins_seq (caught_same same)
  intro result
  apply Async.twins_seq (await_same .ended)
  intro _
  cases result with
  | ok _ => exact Async.twins_pure rfl
  | error err => exact Async.twins_throw err

theorem endConnection_blind (ref : Nat) : Blind (endConnection ref) := by
  intro state
  let change := fun connection : Connection => { connection with ended := true }
  have commutes : ∀ connection, hideConnection (change connection) =
      change (hideConnection connection) := fun _ => rfl
  have changed : (state.connections.modify ref change).map hideConnection =
      (state.connections.map hideConnection).modify ref change :=
    Store.map_modify commutes state.connections ref
  unfold hide endConnection
  dsimp only
  rw [changed]

theorem setStatus_blind (ref : Nat) (status : String) : Blind (ConfigNode.setStatus ref status) := by
  intro state
  let change := fun connection : Connection => { connection with status }
  have commutes : ∀ connection, hideConnection (change connection) =
      change (hideConnection connection) := fun _ => rfl
  have changed : (state.connections.modify ref change).map hideConnection =
      (state.connections.map hideConnection).modify ref change :=
    Store.map_modify commutes state.connections ref
  unfold hide ConfigNode.setStatus
  dsimp only
  rw [changed]

theorem callDisconnect_same (client : Client) (throws : Option JsError) :
    Same (callDisconnect client throws) := by
  have last : Same (throwIfAny throws) := throwIfAny_same throws
  unfold callDisconnect
  apply Async.twins_seq (record_same _)
  intro _
  cases client with
  | connection ref =>
    exact Async.twins_seq (modify_same (endConnection_blind ref)) fun _ => last
  | _ =>
    have nothing : Same (pure PUnit.unit : ConfigBody PUnit) := Async.twins_pure rfl
    exact Async.twins_seq nothing fun _ => last

theorem disconnectClient_same (client : Client) (disconnect : Method) :
    Same (disconnectClient client disconnect) := by
  cases disconnect with
  | none => exact Async.twins_pure rfl
  | some throws =>
    exact Async.twins_tryCatch (callDisconnect_same client throws) fun _ => Async.twins_pure rfl

theorem disconnectBackend_same (owner : Nat) (backend : Option BackendShape) :
    Same (disconnectBackend owner backend) := by
  unfold disconnectBackend
  split
  · exact Async.twins_seq (disconnectClient_same _ _) fun _ => disconnectClient_same _ _
  · exact Async.twins_pure rfl

theorem stopStalledCheck_same (owner : Nat) (stopper : Method) :
    Same (stopStalledCheck owner stopper) := by
  cases stopper with
  | none => exact Async.twins_pure rfl
  | some throws => exact Async.twins_seq (record_same _) fun _ => throwIfAny_same throws

theorem forceDisconnectOwner_same (owner : Nat) (shape : OwnerShape) :
    Same (forceDisconnectOwner owner shape) := by
  have stopper := stopStalledCheck_same owner shape.stalledCheckStopper
  unfold forceDisconnectOwner
  split
  · exact Async.twins_pure rfl
  · exact Async.twins_throw _
  · apply Async.twins_seq (disconnectBackend_same owner _)
    intro _
    cases shape.lockManager with
    | false => exact stopper
    | true =>
      apply Async.twins_seq (record_same _)
      intro _
      exact Async.twins_seq (await_same (.lockManager owner)) fun _ => stopper

theorem read_connection (ref : Nat) (state : ConfigState) :
    (hide state).connections.read ref = (state.connections.read ref).map hideConnection :=
  Store.read_map hideConnection state.connections ref

theorem read_owner (ref : Nat) (state : ConfigState) :
    (hide state).owners.read ref = (state.owners.read ref).map hideOwner :=
  Store.read_map hideOwner state.owners ref

/-- What a closing reads of a connection is no secret. -/
theorem closeConnection_same (ref : Nat) : Same (closeConnection ref) := by
  apply Async.twins_seq (record_same _)
  intro _
  apply Async.twins_bind get_hidden
  intro state other hidden
  rw [hidden, read_connection]
  cases state.connections.read ref with
  | none => exact Async.twins_pure rfl
  | some connection =>
    have forced : Same (awaitEnd (forceDisconnectConnection ref connection.shape)) :=
      awaitEnd_same (disconnectClient_same _ _)
    have shape : (hideConnection connection).shape = connection.shape := rfl
    have status : (hideConnection connection).status = connection.status := rfl
    simp only [Option.map_some, shape, status]
    cases connection.shape.quit with
    | none => exact forced
    | some throws =>
      dsimp only
      split
      · apply Async.twins_seq (record_same _)
        intro _
        apply Async.twins_seq (modify_same (endConnection_blind ref))
        intro _
        apply Async.twins_seq (throwIfAny_same throws)
        intro _
        apply Async.twins_seq (await_same (.quit ref closeGraceMs))
        intro settlement
        split
        · exact forced
        · exact Async.twins_pure rfl
      · exact forced

theorem closeBudgetFor_hide (connection : Option Nat) (state : ConfigState) :
    closeBudgetFor connection (hide state) = closeBudgetFor connection state := by
  cases connection with
  | none => rfl
  | some ref =>
    unfold closeBudgetFor
    dsimp only
    rw [read_connection]
    cases state.connections.read ref <;> rfl

theorem closeOwner_same (owner : Nat) (connection : Option Nat) :
    Same (closeOwner owner connection) := by
  apply Async.twins_seq (record_same _)
  intro _
  apply Async.twins_bind get_hidden
  intro state other hidden
  rw [hidden, read_owner]
  cases state.owners.read owner with
  | none => exact Async.twins_pure rfl
  | some found =>
    have shape : (hideOwner found).shape = found.shape := rfl
    simp only [Option.map_some, shape]
    apply Async.twins_seq (record_same _)
    intro _
    apply Async.twins_seq (throwIfAny_same found.shape.close)
    intro _
    apply Async.twins_bind get_hidden
    intro later other_later hidden_later
    rw [hidden_later, closeBudgetFor_hide]
    apply Async.twins_seq (await_same (.close owner (closeBudgetFor connection later)))
    intro settlement
    cases settlement with
    | settled => exact record_same _
    | timeout => exact awaitEnd_same (forceDisconnectOwner_same owner found.shape)

theorem closeCompanion_same (connection : Option Nat) : Same (closeCompanion connection) := by
  cases connection with
  | none => exact Async.twins_pure rfl
  | some ref => exact closeConnection_same ref

theorem throwFirst_same (first second : Except JsError Unit) : Same (throwFirst first second) := by
  cases first with
  | error err => exact Async.twins_throw err
  | ok _ =>
    cases second with
    | error err => exact Async.twins_throw err
    | ok _ => exact Async.twins_pure rfl

theorem closeResourcePair_same (handler owner : Nat) (connection : Option Nat) :
    Same (closeResourcePair handler owner connection) := by
  apply Async.twins_seq (record_same _)
  intro _
  apply Async.twins_seq (caught_same (awaitEnd_same (closeOwner_same owner connection)))
  intro first
  apply Async.twins_seq (caught_same (awaitEnd_same (closeCompanion_same connection)))
  intro second
  exact throwFirst_same first second

theorem take_blind (handler owner : Nat) (connection : Option Nat) :
    Blind (take handler owner connection) := fun _ => rfl

theorem releaseResource_same (handler owner : Nat) : Same (releaseResource handler owner) := by
  apply Async.twins_bind get_hidden
  intro state other hidden
  have resources : (hide state).resources = state.resources := rfl
  rw [hidden, resources]
  cases state.resources.get owner with
  | none => exact Async.twins_pure rfl
  | some connection =>
    apply Async.twins_seq (modify_same (take_blind handler owner connection))
    intro _
    exact awaitEnd_same (closeResourcePair_same handler owner connection)

end NodeRedBull.CredentialFrames
