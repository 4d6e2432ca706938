import NodeRedBull.ConfigPairs

/-! What the queue configuration node wires together: which connection and which options each BullMQ
owner has, in every run, and the one queue that its nodes share. -/

namespace NodeRedBull.Wiring
open Js Library Connections ConfigNode ConfigBooks ConfigStep ConfigAccounts
open ConfigPairs (plainRedis plainPackages plainConstruction closingPool closingPool_reached)

/-- The role in which an owner of this kind connects. -/
def roleFor : OwnerKind → Role
  | .queue => .producer
  | .worker => .worker
  | .events => .events
  | .flow => .producer

/-- The telemetry that an owner of this kind is given: all share one, and queue events have none. -/
def telemetryFor (packages : Packages) (config : QueueConfig) (kind : OwnerKind) : Option Nat :=
  if config.telemetry.telemetry && packages.bullmqOtel && decide (kind ≠ .events) then some 0
  else none

/-! ## What stays of a state -/

/-- How a connection was opened. -/
def opening (connection : Connection) : Role × RedisDescriptor :=
  (connection.role, connection.descriptor)

/-- What the node has created, without statuses, reports and listeners. -/
structure Assets where
  config : QueueConfig
  openings : Store (Role × RedisDescriptor)
  owners : Store Owner
  queue : Option Nat
  producerConnection : Option Nat
  watched : List Nat
  telemetry : Option Nat
  telemetryUnavailable : Bool

def assets (state : ConfigState) : Assets where
  config := state.config
  openings := state.connections.map opening
  owners := state.owners
  queue := state.queue
  producerConnection := state.producerConnection
  watched := state.watched
  telemetry := state.telemetry
  telemetryUnavailable := state.telemetryUnavailable

/-- A change of a connection that leaves open how it was opened. -/
theorem openings_modify {change : Connection → Connection}
    (kept : ∀ connection, opening (change connection) = opening connection)
    (connections : Store Connection) (ref : Nat) :
    (connections.modify ref change).map opening = connections.map opening := by
  have commutes : ∀ connection, opening (change connection) = id (opening connection) := kept
  rw [Store.map_modify commutes]
  simp [Store.modify]

theorem openings_unended (connections : Store Connection) :
    Store.map opening ⟨connections.cells.map unended⟩ = connections.map opening := by
  simp only [Store.map, List.map_map]
  rfl

theorem assets_books (state : ConfigState) : assets (books state) = assets state := by
  have openings : (books state).connections.map opening = state.connections.map opening :=
    openings_unended state.connections
  unfold assets
  rw [openings]
  rfl

theorem assets_of_sameBooks {before after : ConfigState} (same : SameBooks before after) :
    assets after = assets before := by
  have equal : books before = books after := same
  calc assets after
    _ = assets (books after) := (assets_books after).symm
    _ = assets (books before) := by rw [equal]
    _ = assets before := assets_books before

theorem assets_foldl {α : Type} {step : ConfigState → α → ConfigState}
    (kept : ∀ state item, assets (step state item) = assets state) (items : List α)
    (state : ConfigState) : assets (items.foldl step state) = assets state := by
  induction items generalizing state with
  | nil => rfl
  | cons item rest ih => exact (ih (step state item)).trans (kept state item)

/-! ## The functions that create nothing -/

theorem assets_report (packages : Packages) (err : JsError) (state : ConfigState) :
    assets (reportBackendFailure packages err state) = assets state := by
  unfold reportBackendFailure
  dsimp only
  split
  · rfl
  · rfl

theorem assets_publish (status : BackendStatus) (state : ConfigState) :
    assets (publishBackendStatus status state) = assets state := by
  unfold publishBackendStatus
  rw [assets_foldl]
  · rfl
  · exact fun state reader => rfl

theorem assets_emitError (packages : Packages) (emitter : Emitter) (err : JsError)
    (state : ConfigState) : assets (emitError packages emitter err state) = assets state := by
  apply assets_foldl
  intro state listener
  unfold onError
  dsimp only
  split
  · exact assets_report packages err _
  · rfl

theorem assets_backendEvent (event : BackendEvent) (state : ConfigState) :
    assets (onBackendEvent event state) = assets state := by
  cases event with
  | ready => exact assets_publish .connected _
  | error => exact assets_publish .disconnected _
  | close => exact assets_publish .disconnected _

theorem assets_readiness (packages : Packages) (owner : Nat) (failure : Option JsError)
    (state : ConfigState) : assets (onReadiness packages owner failure state) = assets state := by
  unfold onReadiness
  dsimp only
  cases failure with
  | none =>
    dsimp only
    split
    · exact assets_publish .connected _
    · rfl
  | some err =>
    dsimp only
    split
    · exact (assets_report packages err _).trans (assets_publish .disconnected _)
    · rfl

theorem assets_startAll (position : Nat) (pairs : List (Nat × Option Nat)) (state : ConfigState) :
    assets (startAll position pairs state) = assets state := by
  induction pairs generalizing position state with
  | nil => rfl
  | cons pair rest ih => exact ih (position + 1) _

theorem assets_setStatus (ref : Nat) (status : String) (state : ConfigState) :
    assets (setStatus ref status state) = assets state := by
  unfold assets setStatus
  rw [openings_modify]
  intro connection
  rfl

/-- The tasks that may create something. -/
def mayCreate : ConfigTask → Bool
  | .getQueue _ | .createWorker _ _ | .createQueueEvents _ _ | .createFlowProducer _ _
  | .processor _ _ => true
  | _ => false

theorem assets_effect (packages : Packages) (index : Nat) {task : ConfigTask} {state : ConfigState}
    (idle : mayCreate task = false) : assets (effect packages index task state) = assets state := by
  cases task with
  | releaseResource owner =>
    unfold effect
    dsimp only
    split
    · rfl
    · rfl
  | close => exact assets_startAll _ _ _
  | pair handler owner connection => rfl
  | emitError emitter err => exact assets_emitError packages emitter err state
  | backendEvent queue event =>
    unfold effect
    dsimp only
    split
    · exact assets_backendEvent event state
    · rfl
  | readiness queue failure => exact assets_readiness packages queue failure state
  | readBackendStatus reader => rfl
  | stopReading reader => rfl
  | connectionStatus connection status => exact assets_setStatus connection status state
  | _ => cases idle

/-- The backend of a queue is watched, or it has none. -/
theorem assets_watchOwnBackend (queue : Nat) (state : ConfigState) :
    ∃ watched, (watched = [] ∨ watched = [queue]) ∧ assets (watchOwnBackend queue state).2 =
      { assets state with watched := state.watched ++ watched } := by
  have unwatched : assets state = { assets state with watched := state.watched ++ [] } := by
    rw [List.append_nil]
    rfl
  unfold watchOwnBackend
  split
  · exact ⟨[], .inl rfl, unwatched⟩
  · exact ⟨[], .inl rfl, unwatched⟩
  · exact ⟨[], .inl rfl, unwatched⟩
  · exact ⟨[queue], .inr rfl, rfl⟩

/-! ## The invariant -/

/-- The owner was constructed as its kind asks for, on a connection that was opened for it or with
the options of the PostgreSQL pool. -/
inductive Wired (packages : Packages) (assets : Assets) (owner : Owner) : Prop where
  | redis {target : RedisConfig} {ref : Nat} (backend : assets.config = .redis target)
      (connection : owner.connection = some ref)
      (opened : assets.openings.read ref =
        some (roleFor owner.kind, buildRedisDescriptor target (roleFor owner.kind)))
      (options : owner.options = buildBullMQOptions assets.config (.redis ref)
        (telemetryFor packages assets.config owner.kind) (roleFor owner.kind))
  | postgres {target : PostgresConfig} (backend : assets.config = .postgres target)
      (connection : owner.connection = none)
      (options : owner.options = buildBullMQOptions assets.config (.postgres target.postgres)
        (telemetryFor packages assets.config owner.kind) (roleFor owner.kind))

/-- The telemetry object is made once, where `bullmq-otel` is installed. -/
structure Informed (packages : Packages) (assets : Assets) : Prop where
  made : assets.telemetry = none ∨ assets.telemetry = some 0 ∧ packages.bullmqOtel = true
  missing : assets.telemetryUnavailable = true → packages.bullmqOtel = false

structure Fitted (packages : Packages) (assets : Assets) : Prop where
  informed : Informed packages assets
  wired : ∀ number owner, assets.owners.read number = some owner → Wired packages assets owner
  apart : assets.owners.Apart Owner.connection
  poolOnly : ∀ target, assets.config = .postgres target → assets.openings.size = 0

/-- The queue of the node is the only one, the connection is that of the queue, and its backend is
watched once at most. -/
structure OneQueue (assets : Assets) : Prop where
  only : ∀ number owner, assets.owners.read number = some owner → owner.kind = .queue →
    assets.queue = some number
  kept : ∀ number, assets.queue = some number → ∃ owner, assets.owners.read number = some owner ∧
    owner.kind = .queue ∧ owner.connection = assets.producerConnection
  watches : assets.watched = [] ∨ ∃ number, assets.queue = some number ∧ assets.watched = [number]

/-- Another connection is opened. -/
theorem Wired.opens {packages : Packages} {assets : Assets} {owner : Owner}
    (wired : Wired packages assets owner) (another : Role × RedisDescriptor) :
    Wired packages { assets with openings := (assets.openings.alloc another).2 } owner := by
  cases wired with
  | redis backend connection opened options =>
    exact .redis backend connection (Store.extends_alloc _ _ _ _ opened) options
  | postgres backend connection options => exact .postgres backend connection options

/-- What an owner is wired to does not depend on the other owners. -/
theorem Wired.of_same {packages : Packages} {before after : Assets} {owner : Owner}
    (wired : Wired packages before owner) (config : after.config = before.config)
    (openings : after.openings = before.openings) : Wired packages after owner := by
  cases wired with
  | redis backend connection opened options =>
    refine .redis (config.trans backend) connection ?_ ?_
    · rw [openings]
      exact opened
    · rw [config]
      exact options
  | postgres backend connection options =>
    refine .postgres (config.trans backend) connection ?_
    rw [config]
    exact options

/-! ## Telemetry -/

theorem getTelemetry_spec {packages : Packages} {state : ConfigState} {kind : OwnerKind}
    (informed : Informed packages (assets state)) (told : kind ≠ .events) :
    (getTelemetry packages state).1 = telemetryFor packages state.config kind ∧
      ∃ telemetry unavailable, assets (getTelemetry packages state).2 = { assets state with
        telemetry := telemetry, telemetryUnavailable := unavailable } ∧
        Informed packages (assets (getTelemetry packages state).2) := by
  have made : state.telemetry = none ∨ state.telemetry = some 0 ∧ packages.bullmqOtel = true :=
    informed.made
  have missing : state.telemetryUnavailable = true → packages.bullmqOtel = false :=
    informed.missing
  unfold getTelemetry telemetryFor
  cases enabled : state.config.telemetry.telemetry with
  | false => exact ⟨rfl, _, _, rfl, informed⟩
  | true =>
    simp only [Bool.not_true, Bool.false_eq_true, if_false, Bool.true_and, told, ne_eq,
      not_false_eq_true, decide_true, Bool.and_true]
    rcases made with absent | present
    · cases unavailable : state.telemetryUnavailable with
      | true =>
        simp only [absent, missing unavailable]
        exact ⟨rfl, _, _, rfl, informed⟩
      | false =>
        cases installed : packages.bullmqOtel with
        | false =>
          simp only [absent]
          exact ⟨rfl, _, _, rfl, ⟨.inl rfl, fun _ => installed⟩⟩
        | true =>
          simp only [absent]
          exact ⟨rfl, _, _, rfl, ⟨.inr ⟨rfl, installed⟩, fun claimed => nomatch claimed⟩⟩
    · simp only [present.1, present.2]
      exact ⟨rfl, _, _, rfl, informed⟩

/-! ## Creating an owner -/

/-- What `createResource` creates and returns. -/
inductive Creates (kind : OwnerKind) (role : Role) (telemetry : Option Nat) (before : Assets) :
    Assets → Except JsError (Option (Nat × Option Nat)) → Prop where
  | redis {target : RedisConfig} (backend : before.config = .redis target) (shape : OwnerShape) :
      Creates kind role telemetry before
        { before with
          openings := (before.openings.alloc (role, buildRedisDescriptor target role)).2
          owners := (before.owners.alloc ⟨kind, some before.openings.size,
            buildBullMQOptions before.config (.redis before.openings.size) telemetry role,
            shape⟩).2 }
        (.ok (some (before.owners.size, some before.openings.size)))
  | connection {target : RedisConfig} (backend : before.config = .redis target) (err : JsError) :
      Creates kind role telemetry before
        { before with
          openings := (before.openings.alloc (role, buildRedisDescriptor target role)).2 }
        (.error err)
  | postgres {target : PostgresConfig} (backend : before.config = .postgres target)
      (shape : OwnerShape) :
      Creates kind role telemetry before
        { before with
          owners := (before.owners.alloc ⟨kind, none, buildBullMQOptions before.config
            (.postgres target.postgres) telemetry role, shape⟩).2 }
        (.ok (some (before.owners.size, none)))
  | nothing : Creates kind role telemetry before before (.ok none)

theorem assets_createConnection (target : RedisConfig) (role : Role) (node : NodeName)
    (shape : ConnectionShape) (state : ConfigState) :
    assets (createConnection target role node shape state).2 = { assets state with
      openings := ((assets state).openings.alloc (role, buildRedisDescriptor target role)).2 } := by
  have moved := Store.alloc_map opening state.connections
    ⟨role, buildRedisDescriptor target role, node, shape, "connecting", false⟩
  have openings : (state.connections.alloc
      ⟨role, buildRedisDescriptor target role, node, shape, "connecting", false⟩).2.map opening =
      ((assets state).openings.alloc (role, buildRedisDescriptor target role)).2 :=
    (congrArg Prod.snd moved).symm
  unfold assets createConnection
  dsimp only [attachErrorListener]
  rw [openings]
  rfl

/-- What `construct` does for BullMQ's constructor, where that succeeds. -/
theorem assets_construct (kind : OwnerKind) (connection : Option Nat) (options : BullMQOptions)
    (shape : OwnerShape) (state : ConfigState) :
    (construct kind connection options (.ok shape) state).1 = .ok (assets state).owners.size ∧
      assets (construct kind connection options (.ok shape) state).2 = { assets state with
        owners := ((assets state).owners.alloc ⟨kind, connection, options, shape⟩).2 } :=
  ⟨rfl, rfl⟩

theorem createResource_creates (packages : Packages) (kind : OwnerKind) (role : Role)
    (node : NodeName) (telemetry : Option Nat) (construction : Construction) (state : ConfigState) :
    Creates kind role telemetry (assets state)
      (assets (createResource packages kind role node telemetry construction state).2)
      (createResource packages kind role node telemetry construction state).1 := by
  unfold createResource
  split
  next target backend =>
    cases built : construction.owner with
    | ok shape => exact .postgres backend shape
    | error err =>
      have reported : assets (reportBackendFailure packages err
          (publishBackendStatus .disconnected state)) = assets state :=
        (assets_report packages err _).trans (assets_publish .disconnected state)
      dsimp only [construct]
      rw [reported]
      exact .nothing
  next target backend =>
    have opened := assets_createConnection target role node construction.connection state
    have ref : (createConnection target role node construction.connection state).1 =
        (assets state).openings.size := (List.length_map _).symm
    have config : (createConnection target role node construction.connection state).2.config =
        (assets state).config := rfl
    dsimp only
    rw [ref, config]
    cases built : construction.owner with
    | ok shape =>
      have built := assets_construct kind (some (assets state).openings.size)
        (buildBullMQOptions (assets state).config (.redis (assets state).openings.size) telemetry role)
        shape (createConnection target role node construction.connection state).2
      rw [opened] at built
      dsimp only [construct] at built ⊢
      rw [built.2]
      exact .redis backend shape
    | error err =>
      dsimp only [construct]
      rw [opened]
      exact .connection backend err

section Created
variable {packages : Packages} {kind : OwnerKind} {before after : Assets}
  {result : Except JsError (Option (Nat × Option Nat))}

theorem fitted_connection {target : RedisConfig} (fits : Fitted packages before)
    (backend : before.config = .redis target) (another : Role × RedisDescriptor) :
    Fitted packages { before with openings := (before.openings.alloc another).2 } where
  informed := ⟨fits.informed.made, fits.informed.missing⟩
  wired := fun number owner found => (fits.wired number owner found).opens another
  apart := fits.apart
  poolOnly := by
    intro pool other
    cases backend.symm.trans other

/-- An owner that refers to no connection, or to one that no owner refers to yet. -/
theorem fitted_owner {owner : Owner} (fits : Fitted packages before)
    (wired : Wired packages before owner)
    (fresh : ∀ ref, owner.connection = some ref → ∀ number old,
      before.owners.read number = some old → old.connection ≠ some ref) :
    Fitted packages { before with owners := (before.owners.alloc owner).2 } where
  informed := ⟨fits.informed.made, fits.informed.missing⟩
  wired := by
    apply Store.all_alloc
    · intro number old found
      exact (fits.wired number old found).of_same rfl rfl
    · exact wired.of_same rfl rfl
  apart := by
    apply fits.apart.alloc
    intro ref number old found refers own
    exact fresh ref own number old found refers
  poolOnly := fits.poolOnly

/-- An owner refers to a connection that is there. -/
theorem Fitted.connection_lt (fits : Fitted packages before) {number ref : Nat} {owner : Owner}
    (found : before.owners.read number = some owner) (refers : owner.connection = some ref) :
    ref < before.openings.size := by
  cases fits.wired number owner found with
  | redis backend connection opened options =>
    cases connection.symm.trans refers
    exact Store.lt_size_of_read opened
  | postgres backend connection options => cases connection.symm.trans refers

theorem Creates.fitted (created : Creates kind (roleFor kind)
    (telemetryFor packages before.config kind) before after result)
    (fits : Fitted packages before) : Fitted packages after := by
  cases created with
  | @redis target backend shape =>
    have opened := fitted_connection fits backend
      (roleFor kind, buildRedisDescriptor target (roleFor kind))
    apply fitted_owner opened
    · refine .redis backend rfl ?_ rfl
      rw [Store.read_alloc, if_pos rfl]
    · intro ref own number old found refers
      cases own
      exact absurd (fits.connection_lt found refers) (Nat.lt_irrefl _)
  | connection backend err => exact fitted_connection fits backend _
  | postgres backend shape =>
    apply fitted_owner fits
    · exact .postgres backend rfl rfl
    · intro ref own
      cases own
  | nothing => exact fits

/-- The number of the owner that has been created, if any has. -/
def createdOwner : Except JsError (Option (Nat × Option Nat)) → Option (Nat × Option Nat)
  | .ok created => created
  | .error _ => none

/-- At most one owner is created, of the kind asked for. -/
theorem Creates.owners {role : Role} {telemetry : Option Nat}
    (created : Creates kind role telemetry before after result) :
    (createdOwner result = none ∧ after.owners = before.owners) ∨
      ∃ owner, createdOwner result = some (before.owners.size, owner.connection) ∧
        owner.kind = kind ∧ after.owners = (before.owners.alloc owner).2 := by
  cases created with
  | redis backend shape => exact .inr ⟨_, rfl, rfl, rfl⟩
  | connection backend err => exact .inl ⟨rfl, rfl⟩
  | postgres backend shape => exact .inr ⟨_, rfl, rfl, rfl⟩
  | nothing => exact .inl ⟨rfl, rfl⟩

theorem Creates.same {role : Role} {telemetry : Option Nat}
    (created : Creates kind role telemetry before after result) :
    after.config = before.config ∧ after.queue = before.queue ∧
      after.producerConnection = before.producerConnection ∧ after.watched = before.watched := by
  cases created <;> exact ⟨rfl, rfl, rfl, rfl⟩

theorem OneQueue.of_same (one : OneQueue before) (owners : after.owners = before.owners)
    (queue : after.queue = before.queue)
    (producer : after.producerConnection = before.producerConnection)
    (watched : after.watched = before.watched) : OneQueue after := by
  constructor
  · rw [owners, queue]
    exact one.only
  · rw [owners, queue, producer]
    exact one.kept
  · rw [queue, watched]
    exact one.watches

/-- Another owner is created. -/
theorem OneQueue.adds {owner : Owner} (one : OneQueue before) (other : owner.kind ≠ .queue) :
    OneQueue { before with owners := (before.owners.alloc owner).2 } where
  only := by
    apply Store.all_alloc
    · exact one.only
    · intro same
      exact absurd same other
  kept := by
    intro number found
    obtain ⟨held, read, kind, connection⟩ := one.kept number found
    exact ⟨held, Store.extends_alloc _ _ _ _ read, kind, connection⟩
  watches := one.watches

/-- The queue is created and kept, and its backend is watched if it has one. -/
theorem OneQueue.made {owner : Owner} {watched : List Nat} (one : OneQueue before)
    (missing : before.queue = none) (queue_kind : owner.kind = .queue)
    (watches : watched = [] ∨ watched = [before.owners.size]) :
    OneQueue { before with
      owners := (before.owners.alloc owner).2
      queue := some before.owners.size
      producerConnection := owner.connection
      watched := before.watched ++ watched } where
  only := by
    apply Store.all_alloc
    · intro number old found same
      cases missing.symm.trans (one.only number old found same)
    · intro _
      rfl
  kept := by
    intro number found
    cases found
    refine ⟨owner, ?_, queue_kind, rfl⟩
    rw [Store.read_alloc, if_pos rfl]
  watches := by
    have none_yet : before.watched = [] := by
      rcases one.watches with empty | ⟨number, found, _⟩
      · exact empty
      · cases missing.symm.trans found
    rw [none_yet]
    rcases watches with empty | single
    · exact .inl empty
    · exact .inr ⟨_, rfl, single⟩

theorem Creates.oneQueue {role : Role} {telemetry : Option Nat}
    (created : Creates kind role telemetry before after result) (other : kind ≠ .queue)
    (one : OneQueue before) : OneQueue after := by
  obtain ⟨_, queue, producer, watched⟩ := created.same
  rcases created.owners with ⟨_, owners⟩ | ⟨owner, _, same_kind, owners⟩
  · exact one.of_same owners queue producer watched
  · have different : owner.kind ≠ .queue := by
      rw [same_kind]
      exact other
    exact (one.adds different).of_same owners queue producer watched

end Created

/-! ## Tasks -/

/-- Everything that holds between the owners, the connections and the queue of the node. -/
structure Sound (packages : Packages) (assets : Assets) : Prop where
  fits : Fitted packages assets
  one : OneQueue assets

variable {packages : Packages}

theorem sound_initial (config : QueueConfig) : Sound packages (assets (.initial config)) := by
  have owners : (assets (.initial config)).owners = .empty := rfl
  have queue : (assets (.initial config)).queue = none := rfl
  have watched : (assets (.initial config)).watched = [] := rfl
  have informed : Informed packages (assets (.initial config)) := by
    refine ⟨.inl rfl, ?_⟩
    intro unavailable
    cases unavailable
  refine ⟨⟨informed, ?_, ?_, fun _ _ => rfl⟩, ?_, ?_, .inl watched⟩
  · rw [owners]
    intro number owner found
    cases found
  · rw [owners]
    exact Store.apart_empty _
  · rw [owners]
    intro number owner found
    cases found
  · rw [queue]
    intro number found
    cases found

/-- Telemetry is looked up. -/
theorem sound_telemetry {state : ConfigState} (kind : OwnerKind) (told : kind ≠ .events)
    (sound : Sound packages (assets state)) :
    (getTelemetry packages state).1 =
        telemetryFor packages (getTelemetry packages state).2.config kind ∧
      (getTelemetry packages state).2.queue = state.queue ∧
      Sound packages (assets (getTelemetry packages state).2) := by
  obtain ⟨given, telemetry, unavailable, kept, informed⟩ :=
    getTelemetry_spec sound.fits.informed told
  have config : (getTelemetry packages state).2.config = state.config :=
    congrArg Assets.config kept
  have queue : (getTelemetry packages state).2.queue = state.queue := congrArg Assets.queue kept
  refine ⟨by rw [config]; exact given, queue, ?_, ?_⟩
  · refine ⟨informed, ?_, ?_, ?_⟩
    · rw [kept]
      exact fun number owner found => (sound.fits.wired number owner found).of_same rfl rfl
    · rw [kept]
      exact sound.fits.apart
    · rw [kept]
      exact sound.fits.poolOnly
  · rw [kept]
    exact sound.one.of_same rfl rfl rfl rfl

theorem sound_createResource {state : ConfigState} (kind : OwnerKind) (other : kind ≠ .queue)
    (node : NodeName) {telemetry : Option Nat} (construction : Construction)
    (told : telemetry = telemetryFor packages state.config kind)
    (sound : Sound packages (assets state)) :
    Sound packages
      (assets (createResource packages kind (roleFor kind) node telemetry construction state).2) := by
  subst told
  have created := createResource_creates packages kind (roleFor kind) node
    (telemetryFor packages state.config kind) construction state
  exact ⟨created.fitted sound.fits, created.oneQueue other sound.one⟩

theorem sound_createWorker {state : ConfigState} (node : NodeName) (construction : Construction)
    (sound : Sound packages (assets state)) :
    Sound packages (assets (createWorker packages node construction state).2) := by
  obtain ⟨told, _, looked⟩ := sound_telemetry .worker (by decide) sound
  exact sound_createResource .worker (by decide) node construction told looked

theorem sound_createFlowProducer {state : ConfigState} (node : NodeName)
    (construction : Construction) (sound : Sound packages (assets state)) :
    Sound packages (assets (createFlowProducer packages node construction state).2) := by
  obtain ⟨told, _, looked⟩ := sound_telemetry .flow (by decide) sound
  exact sound_createResource .flow (by decide) node construction told looked

theorem sound_createQueueEvents {state : ConfigState} (node : NodeName)
    (construction : Construction) (sound : Sound packages (assets state)) :
    Sound packages (assets (createQueueEvents packages node construction state).2) := by
  have untold : none = telemetryFor packages state.config .events := by
    unfold telemetryFor
    simp
  exact sound_createResource .events (by decide) node construction untold sound

/-- The queue is kept as soon as it has been created, and then watched. -/
theorem sound_keepQueue {before created : Assets} {telemetry : Option Nat}
    {result : Except JsError (Option (Nat × Option Nat))} {resource : Nat}
    {connection : Option Nat} {watched : List Nat} (sound : Sound packages before)
    (missing : before.queue = none)
    (told : telemetry = telemetryFor packages before.config .queue)
    (creates : Creates .queue .producer telemetry before created result)
    (built : result = .ok (some (resource, connection)))
    (watches : watched = [] ∨ watched = [resource]) :
    Sound packages { created with
      queue := some resource
      producerConnection := connection
      watched := created.watched ++ watched } := by
  subst told built
  have fits := Creates.fitted creates sound.fits
  obtain ⟨_, _, _, unwatched⟩ := creates.same
  rcases creates.owners with ⟨absent, _⟩ | ⟨owner, given, kind, owners⟩
  · cases absent
  · cases given
    refine ⟨⟨⟨fits.informed.made, fits.informed.missing⟩, ?_, fits.apart, fits.poolOnly⟩, ?_⟩
    · exact fun number owner found => (fits.wired number owner found).of_same rfl rfl
    · refine (sound.one.made missing kind watches).of_same owners ?_ ?_ ?_
      · rfl
      · rfl
      · rw [unwatched]

/-- No queue has been created. -/
theorem sound_noQueue {before after : Assets} {telemetry : Option Nat}
    {result : Except JsError (Option (Nat × Option Nat))} (sound : Sound packages before)
    (told : telemetry = telemetryFor packages before.config .queue)
    (creates : Creates .queue .producer telemetry before after result)
    (failed : createdOwner result = none) : Sound packages after := by
  subst told
  have fits := Creates.fitted creates sound.fits
  obtain ⟨_, queue, producer, watched⟩ := creates.same
  rcases creates.owners with ⟨_, owners⟩ | ⟨owner, given, _, _⟩
  · exact ⟨fits, sound.one.of_same owners queue producer watched⟩
  · cases failed.symm.trans given

theorem sound_getQueue {state : ConfigState} (construction : Construction)
    (sound : Sound packages (assets state)) :
    Sound packages (assets (getQueue packages construction state).2) := by
  cases cached : state.queue with
  | some queue =>
    rw [getQueue_cached packages cached]
    exact sound
  | none =>
    obtain ⟨told, queue, looked⟩ := sound_telemetry .queue (by decide) sound
    have missing := queue.trans cached
    have created := createResource_creates packages .queue .producer .config
      (getTelemetry packages state).1 construction (getTelemetry packages state).2
    unfold getQueue
    rw [cached]
    dsimp only
    split
    next err after same =>
      rw [same] at created
      exact sound_noQueue looked told created rfl
    next after same =>
      rw [same] at created
      exact sound_noQueue looked told created rfl
    next resource connection after same =>
      rw [same] at created
      obtain ⟨watched, watches, watching⟩ := assets_watchOwnBackend resource
        { after with queue := some resource, producerConnection := connection }
      have kept := sound_keepQueue looked missing told created rfl watches
      split
      next err later same =>
        rw [same] at watching
        dsimp only at watching ⊢
        rw [watching]
        exact kept
      next value later same =>
        rw [same] at watching
        have attached : assets (attachErrorListener (.owner resource) .config false later) =
          assets later := rfl
        dsimp only at watching ⊢
        rw [attached, watching]
        exact kept

/-- What the start of a task leaves is sound. -/
theorem sound_effect {state : ConfigState} (index : Nat) (task : ConfigTask)
    (sound : Sound packages (assets state)) :
    Sound packages (assets (effect packages index task state)) := by
  have idle : mayCreate task = false → Sound packages (assets (effect packages index task state)) := by
    intro creates_nothing
    rw [assets_effect packages index creates_nothing]
    exact sound
  cases task with
  | getQueue construction => exact sound_getQueue construction sound
  | createWorker node construction => exact sound_createWorker node construction sound
  | createQueueEvents node construction => exact sound_createQueueEvents node construction sound
  | createFlowProducer node construction => exact sound_createFlowProducer node construction sound
  | processor worker construction => exact sound_getQueue construction sound
  | _ => exact idle rfl

/-! ## Runs -/

theorem sound_reached {allowed : ConfigPool → ConfigMove → Prop} {config : QueueConfig}
    {pool : ConfigPool}
    (reached : Runs (configSystem packages).Step allowed (emptyConfigPool config) pool) :
    Sound packages (assets pool.shared) := by
  let holds : ConfigState → Prop := fun state => Sound packages (assets state)
  have kept : holds pool.shared := by
    refine books_invariant reached (show holds (.initial config) from sound_initial config) ?_ ?_
    · intro before after same sound
      show Sound packages (assets after)
      rw [assets_of_sameBooks same]
      exact sound
    · intro pool task sound _ _
      exact sound_effect _ task sound
  exact kept

/-- A queue once created stays. -/
def KeepsQueue (before after : ConfigState) : Prop :=
  ∀ number, before.queue = some number →
    after.queue = some number ∧ after.producerConnection = before.producerConnection

theorem keepsQueue_of_assets {before after : ConfigState}
    (queue : (assets after).queue = (assets before).queue)
    (producer : (assets after).producerConnection = (assets before).producerConnection) :
    KeepsQueue before after :=
  fun _ found => ⟨queue.trans found, producer⟩

theorem keepsQueue_created {state : ConfigState} (kind : OwnerKind) (role : Role) (node : NodeName)
    (telemetry : Option Nat) (construction : Construction) : KeepsQueue state
      (createResource packages kind role node telemetry construction state).2 := by
  obtain ⟨_, queue, producer, _⟩ :=
    (createResource_creates packages kind role node telemetry construction state).same
  exact keepsQueue_of_assets queue producer

theorem keepsQueue_getTelemetry (state : ConfigState) :
    KeepsQueue state (getTelemetry packages state).2 := by
  have unmoved := unmoved_getTelemetry packages state
  exact keepsQueue_of_assets unmoved.queue unmoved.producerConnection

theorem KeepsQueue.trans {first second third : ConfigState} (left : KeepsQueue first second)
    (right : KeepsQueue second third) : KeepsQueue first third := by
  intro number found
  obtain ⟨queue, producer⟩ := left number found
  obtain ⟨still, same⟩ := right number queue
  exact ⟨still, same.trans producer⟩

theorem keepsQueue_getQueue {state : ConfigState} (construction : Construction) :
    KeepsQueue state (getQueue packages construction state).2 := by
  intro number found
  rw [getQueue_cached packages found]
  exact ⟨found, rfl⟩

theorem keepsQueue_effect {state : ConfigState} (index : Nat) (task : ConfigTask) :
    KeepsQueue state (effect packages index task state) := by
  have idle : mayCreate task = false → KeepsQueue state (effect packages index task state) := by
    intro creates_nothing
    have same : assets (effect packages index task state) = assets state :=
      assets_effect packages index creates_nothing
    exact keepsQueue_of_assets (congrArg Assets.queue same) (congrArg Assets.producerConnection same)
  cases task with
  | getQueue construction => exact keepsQueue_getQueue construction
  | createWorker node construction =>
    exact (keepsQueue_getTelemetry state).trans (keepsQueue_created .worker .worker node _ _)
  | createQueueEvents node construction => exact keepsQueue_created .events .events node none _
  | createFlowProducer node construction =>
    exact (keepsQueue_getTelemetry state).trans (keepsQueue_created .flow .producer node _ _)
  | processor worker construction => exact keepsQueue_getQueue construction
  | _ => exact idle rfl

theorem queue_kept {config : QueueConfig} {pool later : ConfigPool}
    (reached : Runs (configSystem packages).Step anyMove (emptyConfigPool config) pool)
    (further : Runs (configSystem packages).Step anyMove pool later) :
    KeepsQueue pool.shared later.shared := by
  refine books_relates reached further ?_ ?_ ?_ ?_
  · exact fun _ _ found => ⟨found, rfl⟩
  · exact fun _ _ _ left right => left.trans right
  · intro before after same
    have equal := assets_of_sameBooks same
    exact keepsQueue_of_assets (congrArg Assets.queue equal)
      (congrArg Assets.producerConnection equal)
  · exact fun pool task _ _ _ => keepsQueue_effect pool.tasks.length task

/-! ## The wiring of a node -/

/-- What an owner of this kind is connected with under this configuration. -/
def Connected (packages : Packages) (state : ConfigState) (owner : Owner) : QueueConfig → Prop
  | .redis target => ∃ ref connection, owner.connection = some ref ∧
      state.connections.read ref = some connection ∧ connection.role = roleFor owner.kind ∧
      connection.descriptor = buildRedisDescriptor target (roleFor owner.kind) ∧
      owner.options = buildBullMQOptions (.redis target) (.redis ref)
        (telemetryFor packages (.redis target) owner.kind) (roleFor owner.kind)
  | .postgres target => owner.connection = none ∧ state.connections.size = 0 ∧
      owner.options = buildBullMQOptions (.postgres target) (.postgres target.postgres)
        (telemetryFor packages (.postgres target) owner.kind) (roleFor owner.kind)

theorem connected_of_sound {state : ConfigState} (sound : Sound packages (assets state))
    {number : Nat} {owner : Owner} (found : state.owners.read number = some owner) :
    Connected packages state owner state.config := by
  cases sound.fits.wired number owner found with
  | @redis target ref backend connection opened options =>
    have config : state.config = .redis target := backend
    have given : owner.options = buildBullMQOptions state.config (.redis ref)
      (telemetryFor packages state.config owner.kind) (roleFor owner.kind) := options
    have same : (state.connections.read ref).map opening =
        some (roleFor owner.kind, buildRedisDescriptor target (roleFor owner.kind)) :=
      (Store.read_map opening state.connections ref).symm.trans opened
    obtain ⟨held, read, wires⟩ := Option.map_eq_some_iff.mp same
    rw [config] at given ⊢
    exact ⟨ref, held, connection, read, congrArg Prod.fst wires, congrArg Prod.snd wires, given⟩
  | @postgres target backend connection options =>
    have config : state.config = .postgres target := backend
    have given : owner.options = buildBullMQOptions state.config (.postgres target.postgres)
      (telemetryFor packages state.config owner.kind) (roleFor owner.kind) := options
    have pool_only : (state.connections.map opening).size = 0 := sound.fits.poolOnly target backend
    have empty : state.connections.size = 0 := (List.length_map _).symm.trans pool_only
    rw [config] at given ⊢
    exact ⟨connection, empty, given⟩

/-- Whatever was created, released and closed before: every BullMQ owner has the connection and the
options that its kind and the configuration ask for, and no two owners share a connection. -/
theorem owners_wired {config : QueueConfig} {pool : ConfigPool}
    (reached : Runs (configSystem packages).Step anyMove (emptyConfigPool config) pool) :
    (∀ number owner, pool.shared.owners.read number = some owner →
      Connected packages pool.shared owner config) ∧
      pool.shared.owners.Apart Owner.connection := by
  have sound : Sound packages (assets pool.shared) := sound_reached reached
  constructor
  · intro number owner found
    have connected := connected_of_sound sound found
    rw [config_reached packages reached] at connected
    exact connected
  · exact sound.fits.apart

/-- A worker that is released, and queue events that the node closes. -/
theorem owners_wired_closing :
    (∀ number owner, closingPool.shared.owners.read number = some owner →
      Connected plainPackages closingPool.shared owner plainRedis) ∧
      closingPool.shared.owners.Apart Owner.connection :=
  owners_wired closingPool_reached

/-- The nodes of a configuration share one queue: it is created once at most, with the producer
connection, its backend is watched once at most, and nothing replaces it later. -/
theorem one_queue {config : QueueConfig} {pool later : ConfigPool}
    (reached : Runs (configSystem packages).Step anyMove (emptyConfigPool config) pool)
    (further : Runs (configSystem packages).Step anyMove pool later) :
    (∀ number owner, later.shared.owners.read number = some owner → owner.kind = .queue →
      later.shared.queue = some number ∧ owner.connection = later.shared.producerConnection) ∧
      (later.shared.watched = [] ∨
        ∃ number, later.shared.queue = some number ∧ later.shared.watched = [number]) ∧
      ∀ number, pool.shared.queue = some number → later.shared.queue = some number ∧
        later.shared.producerConnection = pool.shared.producerConnection := by
  have sound : Sound packages (assets later.shared) := sound_reached (reached.trans further)
  refine ⟨?_, sound.one.watches, queue_kept reached further⟩
  intro number owner found kind
  have here := sound.one.only number owner found kind
  obtain ⟨held, read, _, producer⟩ := sound.one.kept number here
  cases found.symm.trans read
  exact ⟨here, producer⟩

/-- The queue that two nodes ask for. -/
def askedPool : ConfigPool :=
  (configSystem plainPackages).start (emptyConfigPool plainRedis) (.getQueue plainConstruction)

theorem one_queue_asked :
    ((configSystem plainPackages).start askedPool (.getQueue plainConstruction)).shared.queue =
      some 0 := by
  have asked : Runs (configSystem plainPackages).Step anyMove (emptyConfigPool plainRedis)
      askedPool := System.runs_start (Runs.refl _) _ trivial trivial
  have again : Runs (configSystem plainPackages).Step anyMove askedPool
      ((configSystem plainPackages).start askedPool (.getQueue plainConstruction)) :=
    System.runs_start (Runs.refl _) _ trivial trivial
  exact ((one_queue asked again).2.2 0 rfl).1

end NodeRedBull.Wiring
