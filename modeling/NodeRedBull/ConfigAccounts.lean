import NodeRedBull.ConfigStep

/-! Which pairs the queue configuration node creates, takes and closes, function by function. -/

namespace NodeRedBull.ConfigAccounts
open Js Library Connections ConfigNode ConfigBooks ConfigStep

/-- The creation of a pair, its removal from the map, the start of its closing and what the close
handlers report. -/
def Effect.isAccount : Effect → Bool
  | .created _ _ | .took _ _ _ | .closesPair _ _ _ | .closes _ | .closeBegan _ | .done _ _ => true
  | _ => false

def ledger (state : ConfigState) : List Effect := state.trace.filter Effect.isAccount

/-- Nothing is created, taken or closed. -/
structure Unmoved (before after : ConfigState) : Prop where
  config : after.config = before.config
  resources : after.resources = before.resources
  owners : after.owners = before.owners
  connections : after.connections = before.connections
  queue : after.queue = before.queue
  producerConnection : after.producerConnection = before.producerConnection
  ledger : ledger after = ledger before

theorem Unmoved.refl (state : ConfigState) : Unmoved state state :=
  ⟨rfl, rfl, rfl, rfl, rfl, rfl, rfl⟩

theorem Unmoved.trans {first second third : ConfigState} (left : Unmoved first second)
    (right : Unmoved second third) : Unmoved first third :=
  ⟨right.config.trans left.config, right.resources.trans left.resources,
    right.owners.trans left.owners, right.connections.trans left.connections,
    right.queue.trans left.queue, right.producerConnection.trans left.producerConnection,
    right.ledger.trans left.ledger⟩

theorem Unmoved.record {before now : ConfigState} (unmoved : Unmoved before now) {effect : Effect}
    (other : Effect.isAccount effect = false) : Unmoved before (now.record effect) := by
  refine unmoved.trans ⟨rfl, rfl, rfl, rfl, rfl, rfl, ?_⟩
  simp [ConfigAccounts.ledger, ConfigState.record, other]

theorem unmoved_foldl {α : Type} {step : ConfigState → α → ConfigState}
    (kept : ∀ state item, Unmoved state (step state item)) (items : List α) (state : ConfigState) :
    Unmoved state (items.foldl step state) := by
  induction items generalizing state with
  | nil => exact .refl state
  | cons item rest ih => exact (kept state item).trans (ih (step state item))

/-! ## The functions that create nothing -/

theorem unmoved_report (packages : Packages) (err : JsError) (state : ConfigState) :
    Unmoved state (reportBackendFailure packages err state) := by
  unfold reportBackendFailure
  dsimp only
  split
  · exact .refl state
  · apply Unmoved.record _ rfl
    apply Unmoved.record _ rfl
    exact ⟨rfl, rfl, rfl, rfl, rfl, rfl, rfl⟩

theorem unmoved_publish (status : BackendStatus) (state : ConfigState) :
    Unmoved state (publishBackendStatus status state) := by
  have set : Unmoved state { state with backendStatus := status } :=
    ⟨rfl, rfl, rfl, rfl, rfl, rfl, rfl⟩
  apply set.trans
  apply unmoved_foldl
  exact fun state reader => (Unmoved.refl state).record rfl

theorem unmoved_emitError (packages : Packages) (emitter : Emitter) (err : JsError)
    (state : ConfigState) : Unmoved state (emitError packages emitter err state) := by
  apply unmoved_foldl
  intro state listener
  have shown : Unmoved state (state.record (.status listener.node .disconnected)) :=
    (Unmoved.refl state).record rfl
  unfold onError
  dsimp only
  split
  · exact shown.trans (unmoved_report packages err _)
  · exact shown.record rfl

theorem unmoved_backendEvent (event : BackendEvent) (state : ConfigState) :
    Unmoved state (onBackendEvent event state) := by
  have seen : Unmoved state (state.record (.backend event)) := (Unmoved.refl state).record rfl
  cases event with
  | ready => exact seen.trans (unmoved_publish .connected _)
  | error => exact seen.trans (unmoved_publish .disconnected _)
  | close => exact seen.trans (unmoved_publish .disconnected _)

theorem unmoved_readiness (packages : Packages) (owner : Nat) (failure : Option JsError)
    (state : ConfigState) : Unmoved state (onReadiness packages owner failure state) := by
  have settled : Unmoved state ({ state with
      seeding := state.seeding.filter fun other => decide (other ≠ owner) }.record
        (.readiness failure)) := by
    apply Unmoved.record _ rfl
    exact ⟨rfl, rfl, rfl, rfl, rfl, rfl, rfl⟩
  unfold onReadiness
  dsimp only
  cases failure with
  | none =>
    dsimp only
    split
    · exact settled.trans (unmoved_publish .connected _)
    · exact settled
  | some err =>
    dsimp only
    split
    · exact (settled.trans (unmoved_publish .disconnected _)).trans (unmoved_report packages err _)
    · exact settled

theorem unmoved_readBackendStatus (reader : Nat) (state : ConfigState) :
    Unmoved state (readBackendStatus reader state) := by
  apply Unmoved.record _ rfl
  apply Unmoved.record _ rfl
  exact ⟨rfl, rfl, rfl, rfl, rfl, rfl, rfl⟩

theorem unmoved_stopReading (reader : Nat) (state : ConfigState) :
    Unmoved state (stopReading reader state) := by
  apply Unmoved.record _ rfl
  exact ⟨rfl, rfl, rfl, rfl, rfl, rfl, rfl⟩

theorem unmoved_getTelemetry (packages : Packages) (state : ConfigState) :
    Unmoved state (getTelemetry packages state).2 := by
  unfold getTelemetry
  split
  · exact .refl state
  · split
    · exact .refl state
    · split
      · apply Unmoved.record _ rfl
        exact ⟨rfl, rfl, rfl, rfl, rfl, rfl, rfl⟩
      · exact ⟨rfl, rfl, rfl, rfl, rfl, rfl, rfl⟩

/-! ## The functions that create something -/

/-- One pair is created and tracked. -/
structure Adds (before after : ConfigState) (owner : Nat) (connection : Option Nat) : Prop where
  config : after.config = before.config
  fresh : owner = before.owners.size
  owners : after.owners.size = before.owners.size + 1
  resources : after.resources = before.resources.set owner connection
  connections : after.connections.size = before.connections.size + connection.toList.length
  opened : ∀ ref, connection = some ref → ref = before.connections.size
  ledger : ledger after = ledger before ++ [.created owner connection]

/-- A connection is opened, and nothing else is created. -/
structure Opens (before after : ConfigState) : Prop where
  config : after.config = before.config
  resources : after.resources = before.resources
  owners : after.owners = before.owners
  connections : ∃ connection, connection.ended = false ∧
    after.connections = (before.connections.alloc connection).2
  queue : after.queue = before.queue
  producerConnection : after.producerConnection = before.producerConnection
  ledger : ledger after = ledger before

theorem Adds.after_unmoved {first second third : ConfigState} {owner : Nat}
    {connection : Option Nat} (left : Unmoved first second)
    (right : Adds second third owner connection) : Adds first third owner connection :=
  ⟨right.config.trans left.config, by rw [right.fresh, left.owners], by rw [right.owners, left.owners],
    by rw [right.resources, left.resources], by rw [right.connections, left.connections],
    fun ref same => by rw [right.opened ref same, left.connections],
    by rw [right.ledger, left.ledger]⟩

theorem Opens.after_unmoved {first second third : ConfigState} (left : Unmoved first second)
    (right : Opens second third) : Opens first third := by
  obtain ⟨connection, open_, cells⟩ := right.connections
  exact ⟨right.config.trans left.config, right.resources.trans left.resources,
    right.owners.trans left.owners, ⟨connection, open_, by rw [cells, left.connections]⟩,
    right.queue.trans left.queue, right.producerConnection.trans left.producerConnection,
    right.ledger.trans left.ledger⟩

theorem createConnection_opens (config : RedisConfig) (role : Role) (node : NodeName)
    (shape : ConnectionShape) (state : ConfigState) :
    (createConnection config role node shape state).1 = state.connections.size ∧
      Opens state (createConnection config role node shape state).2 :=
  ⟨rfl, rfl, rfl, rfl, ⟨_, rfl, rfl⟩, rfl, rfl, rfl⟩

variable (packages : Packages) (kind : OwnerKind) (role : Role) (node : NodeName)
  (telemetry : Option Nat) {construction : Construction} {state : ConfigState}

theorem createResource_failed_postgres {target : PostgresConfig} {err : JsError}
    (backend : state.config = .postgres target) (failed : construction.owner = .error err) :
    (createResource packages kind role node telemetry construction state).1 = .ok none ∧
      Unmoved state (createResource packages kind role node telemetry construction state).2 := by
  simp only [createResource, backend, construct, failed]
  exact ⟨trivial, (unmoved_publish .disconnected state).trans (unmoved_report packages err _)⟩

theorem createResource_failed_redis {target : RedisConfig} {err : JsError}
    (backend : state.config = .redis target) (failed : construction.owner = .error err) :
    (createResource packages kind role node telemetry construction state).1 = .error err ∧
      Opens state (createResource packages kind role node telemetry construction state).2 := by
  simp only [createResource, backend, construct, failed]
  exact ⟨trivial, (createConnection_opens target role node construction.connection state).2⟩

theorem createResource_constructed {shape : OwnerShape} (built : construction.owner = .ok shape) :
    ∃ owner connection,
      (createResource packages kind role node telemetry construction state).1 =
        .ok (some (owner, connection)) ∧
      Adds state (createResource packages kind role node telemetry construction state).2 owner
        connection := by
  cases backend : state.config with
  | postgres target =>
    refine ⟨state.owners.size, none, ?_, ?_⟩
    · simp only [createResource, backend, construct, built]
      rfl
    · simp only [createResource, backend, construct, built]
      refine ⟨backend.symm, rfl, Store.size_alloc _ _, rfl, rfl, by simp, ?_⟩
      simp [ledger, ConfigState.record, Effect.isAccount]
  | redis target =>
    refine ⟨state.owners.size, some state.connections.size, ?_, ?_⟩
    · simp only [createResource, backend, construct, built]
      rfl
    · simp only [createResource, backend, construct, built]
      refine ⟨rfl, rfl, Store.size_alloc _ _, rfl, Store.size_alloc _ _, ?_, ?_⟩
      · intro ref same
        cases same
        rfl
      · simp [ledger, ConfigState.record, Effect.isAccount, createConnection, attachErrorListener]

theorem unmoved_watchOwnBackend (queue : Nat) (state : ConfigState) :
    Unmoved state (watchOwnBackend queue state).2 := by
  unfold watchOwnBackend
  split
  · exact .refl state
  · exact .refl state
  · exact .refl state
  · exact ⟨rfl, rfl, rfl, rfl, rfl, rfl, rfl⟩

/-- What `getQueue` still does once it has its queue. -/
theorem adds_kept {before created after : ConfigState} {owner : Nat} {connection : Option Nat}
    (adds : Adds before created owner connection)
    (kept : Unmoved { created with queue := some owner, producerConnection := connection } after) :
    Adds before after owner connection ∧ after.queue = some owner :=
  ⟨⟨kept.config.trans adds.config, adds.fresh, by rw [kept.owners]; exact adds.owners,
    kept.resources.trans adds.resources, by rw [kept.connections]; exact adds.connections,
    adds.opened, kept.ledger.trans adds.ledger⟩, kept.queue⟩

theorem getQueue_cached {queue : Nat} (cached : state.queue = some queue) :
    getQueue packages construction state = (.ok (some queue), state) := by
  simp only [getQueue, cached]

theorem getQueue_failed_postgres {target : PostgresConfig} {err : JsError}
    (missing : state.queue = none) (backend : state.config = .postgres target)
    (failed : construction.owner = .error err) :
    (getQueue packages construction state).1 = .ok none ∧
      Unmoved state (getQueue packages construction state).2 := by
  have looked := unmoved_getTelemetry packages state
  have result := createResource_failed_postgres packages .queue .producer .config
    (getTelemetry packages state).1 (looked.config.trans backend) failed
  obtain ⟨returned, unmoved⟩ := result
  unfold getQueue
  rw [missing]
  dsimp only
  split
  next _ err after same => rw [same] at returned; cases returned
  next _ after same => rw [same] at unmoved; exact ⟨rfl, looked.trans unmoved⟩
  next _ resource connection after same => rw [same] at returned; cases returned

theorem getQueue_failed_redis {target : RedisConfig} {err : JsError}
    (missing : state.queue = none) (backend : state.config = .redis target)
    (failed : construction.owner = .error err) :
    (getQueue packages construction state).1 = .error err ∧
      Opens state (getQueue packages construction state).2 := by
  have looked := unmoved_getTelemetry packages state
  obtain ⟨returned, opens⟩ := createResource_failed_redis packages .queue .producer .config
    (getTelemetry packages state).1 (looked.config.trans backend) failed
  unfold getQueue
  rw [missing]
  dsimp only
  split
  next _ thrown after same =>
    rw [same] at returned opens
    cases returned
    exact ⟨rfl, opens.after_unmoved looked⟩
  next _ after same => rw [same] at returned; cases returned
  next _ resource connection after same => rw [same] at returned; cases returned

theorem getQueue_constructed {shape : OwnerShape} (missing : state.queue = none)
    (built : construction.owner = .ok shape) :
    ∃ owner connection,
      Adds state (getQueue packages construction state).2 owner connection ∧
      (getQueue packages construction state).2.queue = some owner := by
  have looked := unmoved_getTelemetry packages state
  obtain ⟨owner, connection, returned, adds⟩ := createResource_constructed packages .queue
    .producer .config (getTelemetry packages state).1 built
  refine ⟨owner, connection, ?_⟩
  have kept : Adds state _ owner connection := adds.after_unmoved looked
  unfold getQueue
  rw [missing]
  dsimp only
  split
  next _ err after same => rw [same] at returned; cases returned
  next _ after same => rw [same] at returned; cases returned
  next _ resource other after same =>
    rw [same] at returned kept
    cases returned
    have watched := unmoved_watchOwnBackend owner
      { after with queue := some owner, producerConnection := connection }
    split
    next _ err later same =>
      rw [same] at watched
      exact adds_kept kept watched
    next _ value later same =>
      rw [same] at watched
      exact adds_kept kept (watched.trans ⟨rfl, rfl, rfl, rfl, rfl, rfl, rfl⟩)

/-! ## Tasks -/

/-- The construction that the start of a task runs. -/
def constructs (state : ConfigState) : ConfigTask → Option Construction
  | .getQueue construction | .processor _ construction =>
    if state.queue.isNone then some construction else none
  | .createWorker _ construction | .createQueueEvents _ construction
  | .createFlowProducer _ construction => some construction
  | _ => none

/-- The tasks that take or close pairs, and the one that changes a connection. -/
def closesSomething : ConfigTask → Bool
  | .releaseResource _ | .close | .pair _ _ _ | .connectionStatus _ _ => true
  | _ => false

theorem queue_of_constructs_none {construction : Construction}
    (idle : (if state.queue.isNone then some construction else none) = none) :
    ∃ queue, state.queue = some queue := by
  cases found : state.queue with
  | none => simp [found] at idle
  | some queue => exact ⟨queue, rfl⟩

theorem queue_of_constructs_some {construction other : Construction}
    (busy : (if state.queue.isNone then some construction else none) = some other) :
    state.queue = none ∧ construction = other := by
  cases found : state.queue with
  | none => exact ⟨rfl, by simpa [found] using busy⟩
  | some queue => simp [found] at busy

theorem effect_unmoved (index : Nat) {task : ConfigTask} (idle : constructs state task = none)
    (ordinary : closesSomething task = false) :
    Unmoved state (effect packages index task state) := by
  cases task with
  | getQueue construction =>
    obtain ⟨queue, cached⟩ := queue_of_constructs_none idle
    simp only [effect, getQueue_cached packages cached]
    exact .refl state
  | processor worker construction =>
    obtain ⟨queue, cached⟩ := queue_of_constructs_none idle
    simp only [effect, getQueue_cached packages cached]
    exact .refl state
  | createWorker node construction => cases idle
  | createQueueEvents node construction => cases idle
  | createFlowProducer node construction => cases idle
  | releaseResource owner => cases ordinary
  | close => cases ordinary
  | pair handler owner connection => cases ordinary
  | connectionStatus connection status => cases ordinary
  | emitError emitter err => exact unmoved_emitError packages emitter err state
  | backendEvent queue event =>
    unfold effect
    dsimp only
    split
    · exact unmoved_backendEvent event state
    · exact .refl state
  | readiness queue failure => exact unmoved_readiness packages queue failure state
  | readBackendStatus reader => exact unmoved_readBackendStatus reader state
  | stopReading reader => exact unmoved_stopReading reader state

theorem effect_adds (index : Nat) {task : ConfigTask} {shape : OwnerShape}
    (busy : constructs state task = some construction) (built : construction.owner = .ok shape) :
    ∃ owner connection, Adds state (effect packages index task state) owner connection := by
  have looked := unmoved_getTelemetry packages state
  cases task with
  | getQueue given =>
    obtain ⟨missing, rfl⟩ := queue_of_constructs_some busy
    obtain ⟨owner, connection, adds, _⟩ := getQueue_constructed packages missing built
    exact ⟨owner, connection, adds⟩
  | processor worker given =>
    obtain ⟨missing, rfl⟩ := queue_of_constructs_some busy
    obtain ⟨owner, connection, adds, _⟩ := getQueue_constructed packages missing built
    exact ⟨owner, connection, adds⟩
  | createWorker node given =>
    cases busy
    obtain ⟨owner, connection, _, adds⟩ :=
      createResource_constructed packages .worker .worker node (getTelemetry packages state).1 built
    exact ⟨owner, connection, adds.after_unmoved looked⟩
  | createQueueEvents node given =>
    cases busy
    obtain ⟨owner, connection, _, adds⟩ :=
      createResource_constructed packages .events .events node none built
    exact ⟨owner, connection, adds⟩
  | createFlowProducer node given =>
    cases busy
    obtain ⟨owner, connection, _, adds⟩ :=
      createResource_constructed packages .flow .producer node (getTelemetry packages state).1 built
    exact ⟨owner, connection, adds.after_unmoved looked⟩
  | _ => cases busy

theorem effect_failed_postgres (index : Nat) {task : ConfigTask} {target : PostgresConfig}
    {err : JsError} (backend : state.config = .postgres target)
    (busy : constructs state task = some construction) (failed : construction.owner = .error err) :
    Unmoved state (effect packages index task state) := by
  have looked := unmoved_getTelemetry packages state
  have known := looked.config.trans backend
  cases task with
  | getQueue given =>
    obtain ⟨missing, rfl⟩ := queue_of_constructs_some busy
    exact (getQueue_failed_postgres packages missing backend failed).2
  | processor worker given =>
    obtain ⟨missing, rfl⟩ := queue_of_constructs_some busy
    exact (getQueue_failed_postgres packages missing backend failed).2
  | createWorker node given =>
    cases busy
    exact looked.trans (createResource_failed_postgres packages .worker .worker node _ known failed).2
  | createQueueEvents node given =>
    cases busy
    exact (createResource_failed_postgres packages .events .events node none backend failed).2
  | createFlowProducer node given =>
    cases busy
    exact looked.trans (createResource_failed_postgres packages .flow .producer node _ known failed).2
  | _ => cases busy

theorem effect_failed_redis (index : Nat) {task : ConfigTask} {target : RedisConfig}
    {err : JsError} (backend : state.config = .redis target)
    (busy : constructs state task = some construction) (failed : construction.owner = .error err) :
    Opens state (effect packages index task state) := by
  have looked := unmoved_getTelemetry packages state
  have known := looked.config.trans backend
  cases task with
  | getQueue given =>
    obtain ⟨missing, rfl⟩ := queue_of_constructs_some busy
    exact (getQueue_failed_redis packages missing backend failed).2
  | processor worker given =>
    obtain ⟨missing, rfl⟩ := queue_of_constructs_some busy
    exact (getQueue_failed_redis packages missing backend failed).2
  | createWorker node given =>
    cases busy
    exact (createResource_failed_redis packages .worker .worker node _ known failed).2.after_unmoved
      looked
  | createQueueEvents node given =>
    cases busy
    exact (createResource_failed_redis packages .events .events node none backend failed).2
  | createFlowProducer node given =>
    cases busy
    exact (createResource_failed_redis packages .flow .producer node _ known failed).2.after_unmoved
      looked
  | _ => cases busy

/-- The start of a task that closes nothing: it creates nothing, a pair, or a connection only. -/
theorem effect_cases (index : Nat) {task : ConfigTask} (ordinary : closesSomething task = false) :
    Unmoved state (effect packages index task state) ∨
      (∃ owner connection, Adds state (effect packages index task state) owner connection) ∨
      Opens state (effect packages index task state) := by
  cases busy : constructs state task with
  | none => exact .inl (effect_unmoved packages index busy ordinary)
  | some construction =>
    cases built : construction.owner with
    | ok shape => exact .inr (.inl (effect_adds packages index busy built))
    | error err =>
      cases backend : state.config with
      | postgres target => exact .inl (effect_failed_postgres packages index backend busy built)
      | redis target => exact .inr (.inr (effect_failed_redis packages index backend busy built))

/-- Such a task enters at most the creation of a pair in the ledger. -/
theorem effect_ledger (index : Nat) {task : ConfigTask} (ordinary : closesSomething task = false) :
    ∃ events, ledger (effect packages index task state) = ledger state ++ events ∧
      ∀ event ∈ events, ∃ owner connection, event = .created owner connection := by
  rcases effect_cases packages index ordinary with unmoved | ⟨owner, connection, adds⟩ | opens
  · exact ⟨[], unmoved.ledger.trans (List.append_nil _).symm, by simp⟩
  · exact ⟨_, adds.ledger, fun event member => ⟨owner, connection, List.mem_singleton.mp member⟩⟩
  · exact ⟨[], opens.ledger.trans (List.append_nil _).symm, by simp⟩

theorem startAll_config (position : Nat) (pairs : List (Nat × Option Nat)) (state : ConfigState) :
    (startAll position pairs state).config = state.config := by
  induction pairs generalizing position state with
  | nil => rfl
  | cons pair rest ih => exact ih (position + 1) _

theorem effect_config (index : Nat) (task : ConfigTask) :
    (effect packages index task state).config = state.config := by
  by_cases closing : closesSomething task = true
  · cases task with
    | releaseResource owner =>
      unfold effect
      dsimp only
      split
      · rfl
      · rfl
    | close => exact startAll_config _ _ _
    | pair handler owner connection => rfl
    | connectionStatus connection status => rfl
    | _ => cases closing
  · have ordinary : closesSomething task = false := by simpa using closing
    rcases effect_cases packages index ordinary with unmoved | ⟨owner, connection, adds⟩ | opens
    · exact unmoved.config
    · exact adds.config
    · exact opens.config

/-- The configuration never changes. -/
theorem config_reached {allowed : ConfigPool → ConfigMove → Prop} {config : QueueConfig}
    {pool : ConfigPool}
    (reached : Runs (configSystem packages).Step allowed (emptyConfigPool config) pool) :
    pool.shared.config = config := by
  let holds : ConfigState → Prop := fun state => state.config = config
  have kept : holds pool.shared := by
    refine books_invariant reached (show holds (.initial config) from rfl) ?_ ?_
    · intro before after same known
      have equal : books before = books after := same
      have configs : (books before).config = (books after).config :=
        congrArg ConfigState.config equal
      exact configs.symm.trans known
    · intro pool task known _ _
      exact (effect_config packages _ task).trans known
  exact kept

end NodeRedBull.ConfigAccounts
