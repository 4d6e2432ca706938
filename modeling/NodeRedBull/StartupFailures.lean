import NodeRedBull.NodesSteps
import NodeRedBull.Library.Once
import NodeRedBull.StatusRecovery

/-! The failures of the resources of one PostgreSQL configuration node while they start, and how
often each category of them is reported. -/

namespace NodeRedBull.StartupFailures
open Js Library Connections ConfigNode ConfigCalls RuntimeNodes NodesSteps
open ConfigPairs (plainPackages plainConstruction plainPostgres failedConstruction)

/-! ## Failures and reports -/

def category (packages : Packages) (err : JsError) : String := (describeBackendFailure packages err).1

/-- A failure of this category is among the failures. -/
def Occurred (packages : Packages) (err : JsError) (failures : List JsError) : Prop :=
  category packages err ∈ failures.map (category packages)

def configError : Effect → Option String
  | .nodeError .config message => some message
  | _ => none

/-- The calls of the configuration node's error reporting. -/
def configErrors (config : ConfigState) : List String := config.trace.filterMap configError

/-- What `getTelemetry` reports once if `bullmq-otel` is not there; it is no backend failure. -/
def telemetryNotice (config : ConfigState) : List String :=
  if config.telemetryUnavailable then
    ["BullMQ telemetry is enabled but bullmq-otel is not installed; run npm install bullmq-otel"]
  else []

/-- The failure is reported as described, or by its own message. -/
def Tells (packages : Packages) (err : JsError) (message : String) : Prop :=
  message = (describeBackendFailure packages err).2 ∨ message = err.message

/-- Each category of the failures is reported exactly once on the configuration node, which
reports nothing else, and no runtime node reports anything. -/
structure ReportedOnce (packages : Packages) (failures : List JsError) (config : ConfigState) :
    Prop where
  once : ∃ told messages, OncePerKey (category packages) failures told ∧
    List.Forall₂ (Tells packages) told messages ∧
      (configErrors config).Perm (telemetryNotice config ++ messages)
  silent : ∀ id message, .nodeError (.runtime id) message ∉ config.trace

/-! ## Runs in which nothing is ready yet when it fails -/

/-- An object that BullMQ has constructed has a backend. -/
def Backed (construction : Construction) : Prop :=
  ∀ shape, construction.owner = .ok shape →
    ∃ backend, shape.getBackend = some (.ok (some backend))

/-- No node that listens to the emitter has seen it ready. -/
def Unready (emitter : Emitter) (config : ConfigState) : Prop :=
  ∀ listener ∈ config.listeners, listener.emitter = emitter →
    listener.ready = false ∧ (listener.node = .config → .readiness none ∉ config.trace)

/-- Nothing closes, and what fails is not ready yet. -/
def Startup (pool : NodesPool) : NodesMove → Prop
  | .start (.deploy _ construction) => Backed construction
  | .start (.getQueue _ construction) => Backed construction
  | .start (.emitError emitter _) =>
    (∃ owner < pool.shared.config.owners.size, emitter = .owner owner) ∧
      Unready emitter pool.shared.config
  | .start (.running _ failure) => failure = none
  | .start (.closeNode _) | .start .closeConfig | .start (.pair _ _ _) => False
  | .resume _ _ _ => False
  | _ => True

/-- What fails in `getQueue`, which constructs the queue once. -/
def queueFailures (config : ConfigState) (construction : Construction) : List JsError :=
  if config.queue.isNone then failed construction else []

/-- What fails synchronously in this task. -/
def constructionFailures (config : ConfigState) : NodesTask → List JsError
  | .deploy .cmd construction => queueFailures config construction
  | .deploy _ construction => failed construction
  | .getQueue _ construction => queueFailures config construction
  | _ => []

/-- The category is latched, or new. -/
def Latchable (packages : Packages) (failures : List JsError) (config : ConfigState)
    (err : JsError) : Prop :=
  category packages err ∈ config.backendFailures ∨ ¬Occurred packages err failures

/-- The listener on the shared queue is the configuration node's own. -/
def OnSharedQueue (emitter : Emitter) (config : ConfigState) : Prop :=
  ∃ listener ∈ config.listeners, listener.emitter = emitter ∧ listener.node = .config

/-- What fails is reported once: an `error` event of the shared queue is the first failure of its
category, the readiness promise of the queue rejects while the status is still `connecting`, or
with a category that has been reported, and no category reported for an event of the queue comes
again through the latch. -/
def Reportable (packages : Packages) (state : NodesState) : NodesTask → Prop
  | .emitError emitter err =>
    (OnSharedQueue emitter state.config → ¬Occurred packages err state.failures) ∧
      (¬OnSharedQueue emitter state.config → Latchable packages state.failures state.config err)
  | .seed _ (some err) =>
    (state.config.backendStatus = .connecting →
        Latchable packages state.failures state.config err) ∧
      (state.config.backendStatus ≠ .connecting → Occurred packages err state.failures)
  | .readiness _ (some err) => Latchable packages state.failures state.config err
  | task => ∀ err ∈ constructionFailures state.config task,
      Latchable packages state.failures state.config err

/-- A startup in which everything that fails is reported once. -/
def Latching (packages : Packages) (pool : NodesPool) (move : NodesMove) : Prop :=
  Startup pool move ∧ ∀ task, move = .start task → Reportable packages pool.shared task

/-! ## What is kept in the books -/

/-- Effects that report nothing and close nothing. -/
def Plain : Effect → Prop
  | .nodeError _ _ | .closeCalled _ => False
  | _ => True

/-- What reports nothing. -/
structure Unreported (before after : ConfigState) : Prop where
  config : after.config = before.config
  latched : after.backendFailures = before.backendFailures
  notice : after.telemetryUnavailable = before.telemetryUnavailable
  trace : ∃ effects, after.trace = before.trace ++ effects ∧ ∀ effect ∈ effects, Plain effect

/-- Reports so far, with what later ones depend on. -/
structure Booked (packages : Packages) (failures : List JsError) (config : ConfigState) : Prop where
  postgres : ∃ target, config.config = .postgres target
  reported : ReportedOnce packages failures config
  unclosed : ∀ owner, .closeCalled owner ∉ config.trace
  latched : ∀ name ∈ config.backendFailures, name ∈ failures.map (category packages)

/-- Every owner has one `error` listener, in order of creation, and only the one of the shared
queue does not report to the latch. -/
structure Ears (config : ConfigState) : Prop where
  own : ∀ listener ∈ config.listeners, listener.startupFailureOwner = true ↔
    listener.node ≠ .config
  paired : config.listeners.map ErrorListener.emitter =
    (List.range config.owners.size).map Emitter.owner

section Booked

variable {packages : Packages} {failures : List JsError} {before after config : ConfigState}
  {err : JsError}

theorem Unreported.refl (config : ConfigState) : Unreported config config :=
  ⟨rfl, rfl, rfl, [], by rw [List.append_nil], by simp⟩

theorem Unreported.trans {first second third : ConfigState} (left : Unreported first second)
    (right : Unreported second third) : Unreported first third := by
  obtain ⟨early, grown, plain⟩ := left.trace
  obtain ⟨late, grown', plain'⟩ := right.trace
  refine ⟨right.config.trans left.config, right.latched.trans left.latched,
    right.notice.trans left.notice, early ++ late, ?_, ?_⟩
  · rw [grown', grown, List.append_assoc]
  · intro effect member
    exact (List.mem_append.mp member).elim (plain effect) (plain' effect)

theorem Unreported.record (unreported : Unreported before after) {effect : Effect}
    (plain : Plain effect) : Unreported before (after.record effect) := by
  apply unreported.trans
  refine ⟨rfl, rfl, rfl, [effect], rfl, ?_⟩
  intro other member
  rw [List.mem_singleton.mp member]
  exact plain

theorem unreported_publish (status : BackendStatus) (config : ConfigState) :
    Unreported config (publishBackendStatus status config) := by
  rw [publish_spec]
  refine ⟨rfl, rfl, rfl, reads config.backendReaders status, rfl, ?_⟩
  intro effect member
  obtain ⟨reader, _, rfl⟩ := List.mem_map.mp member
  trivial

theorem unreported_still (same : after.config = before.config)
    (latched : after.backendFailures = before.backendFailures)
    (notice : after.telemetryUnavailable = before.telemetryUnavailable)
    (trace : after.trace = before.trace) : Unreported before after :=
  ⟨same, latched, notice, [], by rw [trace, List.append_nil], by simp⟩

theorem unreported_readBackendStatus (reader : Nat) (config : ConfigState) :
    Unreported config (readBackendStatus reader config) := by
  let subscribed := { config with
    backendReaders :=
      if config.backendReaders.contains reader then config.backendReaders
      else config.backendReaders ++ [reader] }
  have still : Unreported config subscribed := unreported_still rfl rfl rfl rfl
  have recorded : Unreported config (subscribed.record (.subscribed reader)) := still.record trivial
  exact recorded.record trivial

theorem Unreported.errors (unreported : Unreported before after) :
    configErrors after = configErrors before := by
  obtain ⟨effects, grown, plain⟩ := unreported.trace
  have none_ : effects.filterMap configError = [] := by
    rw [List.filterMap_eq_nil_iff]
    intro effect member
    have reports := plain effect member
    cases effect with
    | nodeError node message => exact reports.elim
    | _ => rfl
  unfold configErrors
  rw [grown, List.filterMap_append, none_, List.append_nil]

theorem Unreported.not_mem (unreported : Unreported before after) {effect : Effect}
    (reports : ¬Plain effect) (absent : effect ∉ before.trace) : effect ∉ after.trace := by
  obtain ⟨effects, grown, plain⟩ := unreported.trace
  rw [grown]
  intro member
  rcases List.mem_append.mp member with old | new
  · exact absent old
  · exact reports (plain effect new)

theorem Booked.unreported (booked : Booked packages failures before)
    (unreported : Unreported before after) : Booked packages failures after := by
  obtain ⟨told, messages, once, tells, called⟩ := booked.reported.once
  refine ⟨?_, ⟨⟨told, messages, once, tells, ?_⟩, ?_⟩, ?_, ?_⟩
  · rw [unreported.config]
    exact booked.postgres
  · unfold telemetryNotice
    rw [unreported.errors, unreported.notice]
    exact called
  · exact fun node message => unreported.not_mem not_false (booked.reported.silent node message)
  · exact fun owner => unreported.not_mem not_false (booked.unclosed owner)
  · rw [unreported.latched]
    exact booked.latched

/-- A failure of a category that has been reported, and nothing reported now. -/
theorem Booked.again (booked : Booked packages failures config)
    (occurred : Occurred packages err failures) : Booked packages (failures ++ [err]) config := by
  obtain ⟨told, messages, once, tells, called⟩ := booked.reported.once
  refine ⟨booked.postgres, ⟨⟨told, messages, once.again occurred, tells, called⟩,
    booked.reported.silent⟩, booked.unclosed, ?_⟩
  intro name member
  rw [List.map_append]
  exact List.mem_append_left _ (booked.latched name member)

/-- The first failure of its category is reported on the configuration node. -/
theorem Booked.first (booked : Booked packages failures before)
    (fresh : ¬Occurred packages err failures) {message : String}
    (tells : Tells packages err message) (same : after.config = before.config)
    (notice : after.telemetryUnavailable = before.telemetryUnavailable)
    (trace : after.trace = before.trace ++ [.nodeError .config message])
    (latched : ∀ name ∈ after.backendFailures, name ∈ before.backendFailures ∨
      name = category packages err) : Booked packages (failures ++ [err]) after := by
  obtain ⟨told, messages, once, each, called⟩ := booked.reported.once
  have errors : configErrors after = configErrors before ++ [message] := by
    unfold configErrors
    rw [trace, List.filterMap_append]
    rfl
  have absent : ∀ effect, effect ≠ .nodeError .config message → effect ∉ before.trace →
      effect ∉ after.trace := by
    intro effect different old
    rw [trace]
    intro member
    rcases List.mem_append.mp member with earlier | new
    · exact old earlier
    · exact different (List.mem_singleton.mp new)
  refine ⟨?_, ⟨⟨told ++ [err], messages ++ [message], once.first fresh, ?_, ?_⟩, ?_⟩, ?_, ?_⟩
  · rw [same]
    exact booked.postgres
  · exact List.rel_append each (.cons tells .nil)
  · unfold telemetryNotice
    rw [errors, notice, ← List.append_assoc]
    exact called.append_right [message]
  · exact fun id text => absent _ (by simp) (booked.reported.silent id text)
  · exact fun owner => absent _ (by simp) (booked.unclosed owner)
  · intro name member
    rw [List.map_append]
    rcases latched name member with old | new
    · exact List.mem_append_left _ (booked.latched name old)
    · exact List.mem_append_right _ (by simp [new])

theorem report_known (known : category packages err ∈ config.backendFailures) :
    reportBackendFailure packages err config = config := by
  have contained : config.backendFailures.contains (describeBackendFailure packages err).1 = true :=
    List.contains_iff_mem.mpr known
  exact if_pos contained

theorem report_new (new : category packages err ∉ config.backendFailures) :
    reportBackendFailure packages err config =
      { config with
        backendFailures := config.backendFailures ++ [category packages err]
        trace := config.trace ++ [.reported err] ++
          [.nodeError .config (describeBackendFailure packages err).2] } := by
  have absent : ¬config.backendFailures.contains (describeBackendFailure packages err).1 = true :=
    fun contained => new (List.contains_iff_mem.mp contained)
  exact (if_neg absent).trans rfl

/-- A failure that goes through the latch. -/
theorem booked_report (booked : Booked packages failures config)
    (latchable : Latchable packages failures config err) :
    Booked packages (failures ++ [err]) (reportBackendFailure packages err config) := by
  by_cases known : category packages err ∈ config.backendFailures
  · rw [report_known known]
    exact booked.again (booked.latched _ known)
  · have fresh : ¬Occurred packages err failures := latchable.resolve_left known
    have noted : Booked packages failures (config.record (.reported err)) :=
      booked.unreported ((Unreported.refl config).record trivial)
    have latched : ∀ name ∈ config.backendFailures ++ [category packages err],
        name ∈ config.backendFailures ∨ name = category packages err := by simp
    rw [report_new known]
    exact noted.first fresh (.inl rfl) rfl rfl rfl latched

/-- The `error` listener of the configuration node reports by itself. -/
theorem booked_nodeError (booked : Booked packages failures config)
    (fresh : ¬Occurred packages err failures) :
    Booked packages (failures ++ [err]) (config.record (.nodeError .config err.message)) :=
  booked.first fresh (.inr rfl) rfl rfl rfl fun _ member => .inl member

theorem booked_getTelemetry (booked : Booked packages failures config) :
    Booked packages failures (getTelemetry packages config).2 := by
  unfold getTelemetry
  split
  · exact booked
  · split
    · exact booked
    next unasked =>
      split
      · obtain ⟨told, messages, once, tells, called⟩ := booked.reported.once
        have unavailable : config.telemetryUnavailable = false := by
          cases flag : config.telemetryUnavailable with
          | false => rfl
          | true => simp [flag] at unasked
        unfold telemetryNotice at called
        rw [unavailable] at called
        refine ⟨booked.postgres, ⟨⟨told, messages, once, tells, ?_⟩, ?_⟩, ?_, booked.latched⟩
        · unfold telemetryNotice configErrors ConfigState.record
          dsimp only
          rw [List.filterMap_append, if_pos rfl]
          exact (called.append_right _).trans List.perm_append_comm
        · intro id message member
          rcases List.mem_append.mp member with old | new
          · exact booked.reported.silent id message old
          · cases List.mem_singleton.mp new
        · intro owner member
          rcases List.mem_append.mp member with old | new
          · exact booked.unclosed owner old
          · cases List.mem_singleton.mp new
      · exact booked.unreported (unreported_still rfl rfl rfl rfl)

/-! ### Listeners -/

/-- The listeners and the number of owners are the same. -/
def SameOwners (before after : ConfigState) : Prop :=
  after.listeners = before.listeners ∧ after.owners.size = before.owners.size

theorem Ears.same (ears : Ears before) (same : SameOwners before after) : Ears after := by
  refine ⟨?_, ?_⟩
  · rw [same.1]
    exact ears.own
  · rw [same.1, same.2]
    exact ears.paired

theorem sameOwners_publish (status : BackendStatus) (config : ConfigState) :
    SameOwners config (publishBackendStatus status config) := by
  rw [publish_spec]
  exact ⟨rfl, rfl⟩

theorem sameOwners_report (packages : Packages) (err : JsError) (config : ConfigState) :
    SameOwners config (reportBackendFailure packages err config) := by
  unfold reportBackendFailure
  dsimp only
  split
  · exact ⟨rfl, rfl⟩
  · exact ⟨rfl, rfl⟩

theorem sameOwners_getTelemetry (packages : Packages) (config : ConfigState) :
    SameOwners config (getTelemetry packages config).2 := by
  unfold getTelemetry
  split
  · exact ⟨rfl, rfl⟩
  · split
    · exact ⟨rfl, rfl⟩
    · split
      · exact ⟨rfl, rfl⟩
      · exact ⟨rfl, rfl⟩

theorem ears_markReady (ears : Ears config) (id resource : Nat) :
    Ears (markReady id resource config) := by
  refine ⟨?_, ?_⟩
  · intro listener member
    obtain ⟨earlier, old, rfl⟩ := List.mem_map.mp member
    split
    · exact ears.own earlier old
    · exact ears.own earlier old
  · show (config.listeners.map _).map _ = (List.range config.owners.size).map _
    rw [← ears.paired, List.map_map]
    apply List.map_congr_left
    intro listener _
    dsimp only [Function.comp_apply]
    split
    · rfl
    · rfl

/-- A new owner gets its listener. -/
theorem ears_attach (ears : Ears before) (listeners : after.listeners = before.listeners)
    (owners : after.owners.size = before.owners.size + 1) {node : NodeName} {shared : Bool}
    (own : shared = true ↔ node ≠ .config) :
    Ears (attachErrorListener (.owner before.owners.size) node shared after) := by
  refine ⟨?_, ?_⟩
  · intro listener member
    rcases List.mem_append.mp member with old | new
    · exact ears.own listener (listeners ▸ old)
    · rw [List.mem_singleton.mp new]
      exact own
  · show (after.listeners ++ [_]).map _ = (List.range after.owners.size).map _
    rw [owners, List.range_succ, List.map_append, List.map_append, listeners, ears.paired]
    rfl

/-- The one listener of an owner. -/
theorem Ears.listener (ears : Ears config) {owner : Nat} (bound : owner < config.owners.size) :
    ∃ listener ∈ config.listeners, listener.emitter = .owner owner ∧
      config.listeners.filter (fun other => decide (other.emitter = .owner owner)) =
        [listener] := by
  have member : Emitter.owner owner ∈ config.listeners.map ErrorListener.emitter := by
    rw [ears.paired]
    exact List.mem_map_of_mem (List.mem_range.mpr bound)
  obtain ⟨listener, registered, same⟩ := List.mem_map.mp member
  have nodup : (config.listeners.map ErrorListener.emitter).Nodup := by
    rw [ears.paired]
    exact List.nodup_range.map fun _ _ equal => Emitter.owner.inj equal
  refine ⟨listener, registered, same, ?_⟩
  rw [← same]
  exact filter_key_eq_singleton nodup registered

/-! ### Constructions -/

theorem Latchable.same (latchable : Latchable packages failures before err)
    (same : after.backendFailures = before.backendFailures) :
    Latchable packages failures after err := by
  unfold Latchable
  rw [same]
  exact latchable

theorem getTelemetry_latched (packages : Packages) (config : ConfigState) :
    (getTelemetry packages config).2.backendFailures = config.backendFailures := by
  unfold getTelemetry
  split
  · rfl
  · split
    · rfl
    · split
      · rfl
      · rfl

/-- What the construction of one BullMQ object comes to. -/
structure Made (packages : Packages) (failures : List JsError) (construction : Construction)
    (before after : ConfigState) (made : Option Nat) : Prop where
  booked : Booked packages (failures ++ failed construction) after
  listeners : after.listeners = before.listeners
  owners : match made with
    | none => after.owners.size = before.owners.size
    | some resource => resource = before.owners.size ∧
        after.owners.size = before.owners.size + 1 ∧
        ∃ owner, after.owners.read resource = some owner ∧ construction.owner = .ok owner.shape

theorem made_createResource (booked : Booked packages failures config)
    {construction : Construction} (latchable : ∀ err ∈ failed construction,
      Latchable packages failures config err) (kind : OwnerKind) (role : Role) (node : NodeName)
    (telemetry : Option Nat) :
    ∃ made, (createResource packages kind role node telemetry construction config).1 =
        .ok (made.map fun resource => (resource, none)) ∧
      Made packages failures construction config
        (createResource packages kind role node telemetry construction config).2 made := by
  obtain ⟨target, postgres⟩ := booked.postgres
  cases outcome : construction.owner with
  | ok shape =>
    have nothing : failed construction = [] := by simp [failed, outcome]
    simp only [createResource, construct, postgres, outcome]
    refine ⟨some config.owners.size, rfl, ?_, rfl, rfl, ?_, ?_⟩
    · rw [nothing, List.append_nil]
      apply booked.unreported
      exact ⟨postgres.symm, rfl, rfl, [.created config.owners.size none], rfl, by simp [Plain]⟩
    · simp [ConfigState.record, Store.alloc, Store.size]
    · let options := buildBullMQOptions (.postgres target) (.postgres target.postgres) telemetry role
      refine ⟨⟨kind, none, options, shape⟩, ?_, outcome⟩
      show (config.owners.alloc _).2.read config.owners.size = _
      rw [Store.read_alloc, if_pos rfl]
  | error err =>
    simp only [createResource, construct, postgres, outcome]
    have one : failed construction = [err] := by simp [failed, outcome]
    have shown := sameOwners_publish .disconnected config
    have told := sameOwners_report packages err (publishBackendStatus .disconnected config)
    refine ⟨none, rfl, ?_, told.1.trans shown.1, told.2.trans shown.2⟩
    rw [one]
    apply booked_report (booked.unreported (unreported_publish .disconnected config))
    exact (latchable err (by simp [one])).same (unreported_publish .disconnected config).latched

/-- An owner that has a backend is watched. -/
theorem watchOwnBackend_backed {queue : Nat} {owner : Owner} {backend : BackendShape}
    (found : config.owners.read queue = some owner)
    (backed : owner.shape.getBackend = some (.ok (some backend))) :
    watchOwnBackend queue config = (.ok (), watchBackend queue config) := by
  unfold watchOwnBackend
  rw [found, Option.bind_some, backed]

theorem booked_getQueue (booked : Booked packages failures config) (ears : Ears config)
    {construction : Construction} (backed : Backed construction)
    (latchable : ∀ err ∈ queueFailures config construction,
      Latchable packages failures config err) :
    Booked packages (failures ++ queueFailures config construction)
        (getQueue packages construction config).2 ∧
      Ears (getQueue packages construction config).2 := by
  cases cached : config.queue with
  | some queue =>
    simp only [getQueue, queueFailures, cached]
    rw [if_neg (by simp), List.append_nil]
    exact ⟨booked, ears⟩
  | none =>
    have all : queueFailures config construction = failed construction := by
      simp [queueFailures, cached]
    rw [all] at latchable ⊢
    unfold getQueue
    rw [cached]
    have same := sameOwners_getTelemetry packages config
    have asked : ∀ err ∈ failed construction,
        Latchable packages failures (getTelemetry packages config).2 err := fun err member =>
      (latchable err member).same (getTelemetry_latched packages config)
    obtain ⟨made, result, built⟩ := made_createResource (booked_getTelemetry booked) asked .queue
      .producer .config (getTelemetry packages config).1
    have listening := ears.same same
    dsimp only
    split
    next _ err after created =>
      rw [created] at result
      cases result
    next _ after created =>
      rw [created] at result built
      cases made with
      | some resource => cases result
      | none => exact ⟨built.booked, listening.same ⟨built.listeners, built.owners⟩⟩
    next _ resource connection after created =>
      rw [created] at result built
      cases made with
      | none => cases result
      | some resource =>
        cases result
        obtain ⟨rfl, owners, owner, found, shape⟩ := built.owners
        obtain ⟨backend, own⟩ := backed owner.shape shape
        have watched : watchOwnBackend (getTelemetry packages config).2.owners.size { after with
            queue := some (getTelemetry packages config).2.owners.size
            producerConnection := none } = (.ok (), watchBackend _ _) :=
          watchOwnBackend_backed found own
        rw [watched]
        refine ⟨built.booked.unreported (unreported_still rfl rfl rfl rfl), ?_⟩
        have unlatched : false = true ↔ NodeName.config ≠ .config := by simp
        have attached : ∀ last : ConfigState, last.listeners = after.listeners →
            last.owners = after.owners → Ears (attachErrorListener
              (.owner (getTelemetry packages config).2.owners.size) .config false last) := by
          intro last registered same
          exact ears_attach listening (registered.trans built.listeners) (same ▸ owners) unlatched
        exact attached _ rfl rfl

/-- A function of the configuration node that creates a resource for a runtime node. -/
def Creates (packages : Packages) (construction : Construction)
    (create : NodeName → Sync (Option Nat)) : Prop :=
  ∀ failures config node, Booked packages failures config →
    (∀ err ∈ failed construction, Latchable packages failures config err) →
      ∃ made, (create node config).1 = .ok made ∧
        Made packages failures construction config (create node config).2 made

theorem creates_of_createResource {construction : Construction} {kind : OwnerKind} {role : Role}
    {node : NodeName} {telemetry : Option Nat} (same : SameOwners before config)
    (built : ∃ made, (createResource packages kind role node telemetry construction config).1 =
        .ok (made.map fun resource => (resource, none)) ∧
      Made packages failures construction config
        (createResource packages kind role node telemetry construction config).2 made) :
    ∃ made, (resourceOf (createResource packages kind role node telemetry construction
        config)).1 = .ok made ∧
      Made packages failures construction before (resourceOf (createResource packages kind role
        node telemetry construction config)).2 made := by
  obtain ⟨made, result, booked, listeners, owners⟩ := built
  refine ⟨made, ?_, booked, listeners.trans same.1, ?_⟩
  · unfold resourceOf
    rw [result]
    cases made with
    | none => rfl
    | some resource => rfl
  · cases made with
    | none => exact owners.trans same.2
    | some resource =>
      rw [same.2] at owners
      exact owners

theorem creates_createWorker (packages : Packages) (construction : Construction) :
    Creates packages construction fun node => createWorker packages node construction := by
  intro failures config node booked latchable
  have asked := fun err member => (latchable err member).same (getTelemetry_latched packages config)
  exact creates_of_createResource (sameOwners_getTelemetry packages config)
    (made_createResource (booked_getTelemetry booked) asked .worker .worker node
      (getTelemetry packages config).1)

theorem creates_createQueueEvents (packages : Packages) (construction : Construction) :
    Creates packages construction fun node => createQueueEvents packages node construction := by
  intro failures config node booked latchable
  exact creates_of_createResource ⟨rfl, rfl⟩
    (made_createResource booked latchable .events .events node none)

theorem creates_createFlowProducer (packages : Packages) (construction : Construction) :
    Creates packages construction fun node => createFlowProducer packages node construction := by
  intro failures config node booked latchable
  have asked := fun err member => (latchable err member).same (getTelemetry_latched packages config)
  exact creates_of_createResource (sameOwners_getTelemetry packages config)
    (made_createResource (booked_getTelemetry booked) asked .flow .producer node
      (getTelemetry packages config).1)

end Booked

/-! ## The nodes -/

/-- The books, and that only a node with a resource awaits its readiness. -/
structure Reporting (packages : Packages) (state : NodesState) : Prop where
  booked : Booked packages state.failures state.config
  ears : Ears state.config
  awaiting : ∀ id node, state.nodes.read id = some node → node.pending = .readiness →
    node.kind ≠ .cmd ∧ ∃ resource, node.resource = some resource

section Reporting

variable {packages : Packages} {state : NodesState}

theorem Booked.isPostgres {failures : List JsError} (booked : Booked packages failures state.config) :
    state.isPostgres = true := by
  obtain ⟨target, postgres⟩ := booked.postgres
  unfold NodesState.isPostgres
  rw [postgres]

/-- Nothing closes, so no worker is closing. -/
theorem Reporting.not_closing (reporting : Reporting packages state) (worker : Nat) :
    closing worker state = false := by
  unfold closing
  rw [List.any_eq_false]
  intro effect member
  cases effect with
  | closeCalled owner => exact absurd member (reporting.booked.unclosed owner)
  | _ => simp

/-- A callback that reports nothing. -/
theorem reporting_callback (reporting : Reporting packages state) {who : NodeName}
    {operation : ConfigState → ConfigState}
    (unreported : Unreported state.config (operation state.config))
    (ears : Ears (operation state.config)) : Reporting packages (callback who operation state) :=
  ⟨reporting.booked.unreported unreported, ears, reporting.awaiting⟩

theorem reporting_setStatus (reporting : Reporting packages state) (id : Nat)
    (status : NodeStatus) : Reporting packages (RuntimeNodes.setStatus id status state) :=
  reporting_callback reporting ((Unreported.refl _).record trivial)
    (reporting.ears.same ⟨rfl, rfl⟩)

theorem reporting_ready (reporting : Reporting packages state) (id resource : Nat) :
    Reporting packages (ready id resource state) := by
  have marked : Unreported state.config (markReady id resource state.config) :=
    unreported_still rfl rfl rfl rfl
  have listening : Ears ((markReady id resource state.config).record
      (.status (.runtime id) .connected)) :=
    (ears_markReady reporting.ears id resource).same ⟨rfl, rfl⟩
  exact reporting_callback reporting (marked.record trivial) listening

theorem reporting_waitFor (reporting : Reporting packages state) (id : Nat) {pending : Pending}
    (other : pending ≠ .readiness) : Reporting packages (waitFor id pending state) := by
  refine ⟨reporting.booked, reporting.ears, ?_⟩
  intro other node found awaits
  have read : (state.nodes.modify id fun node => { node with pending }).read other = some node :=
    found
  rw [Store.read_modify] at read
  split at read
  · obtain ⟨earlier, _, rfl⟩ := Option.map_eq_some_iff.mp read
    contradiction
  · exact reporting.awaiting other node read awaits

/-! ### Constructors -/

theorem reporting_createNode (reporting : Reporting packages state) (kind : NodeKind) :
    Reporting packages (createNode kind state).2 := by
  refine ⟨reporting.booked, reporting.ears, ?_⟩
  intro id node found awaits
  have read : (state.nodes.alloc ⟨kind, none, .nothing, false⟩).2.read id = some node := found
  rw [Store.read_alloc] at read
  split at read
  · cases read
    cases awaits
  · exact reporting.awaiting id node read awaits

theorem reporting_getQueueFor (reporting : Reporting packages state) {construction : Construction}
    (backed : Backed construction) (latchable : ∀ err ∈ queueFailures state.config construction,
      Latchable packages state.failures state.config err) (node : NodeName) :
    Reporting packages (getQueueFor packages node construction state).2 := by
  obtain ⟨booked, ears⟩ := booked_getQueue reporting.booked reporting.ears backed latchable
  have fields : (getQueueFor packages node construction state).2.failures =
        state.failures ++ queueFailures state.config construction ∧
      (getQueueFor packages node construction state).2.config =
        (getQueue packages construction state.config).2 ∧
      (getQueueFor packages node construction state).2.nodes = state.nodes := by
    unfold getQueueFor queueFailures
    cases state.config.queue with
    | none => exact ⟨rfl, rfl, rfl⟩
    | some queue => exact ⟨(List.append_nil _).symm, rfl, rfl⟩
  refine ⟨?_, ?_, ?_⟩
  · rw [fields.1, fields.2.1]
    exact booked
  · rw [fields.2.1]
    exact ears
  · rw [fields.2.2]
    exact reporting.awaiting

theorem reporting_BullQueueCmdNode (reporting : Reporting packages state)
    {construction : Construction} (backed : Backed construction)
    (latchable : ∀ err ∈ queueFailures state.config construction,
      Latchable packages state.failures state.config err) :
    Reporting packages (BullQueueCmdNode packages construction state).2 := by
  have created : Reporting packages (queueOfCmd packages construction state) :=
    reporting_getQueueFor (reporting_createNode reporting .cmd) backed latchable _
  rcases BullQueueCmdNode_cases packages construction state with same | same
  · rw [same]
    exact created
  · rw [same]
    let id := state.nodes.size
    have reading : Reporting packages (callback (.runtime id) (readBackendStatus id)
        (queueOfCmd packages construction state)) := by
      exact reporting_callback created (unreported_readBackendStatus id _)
        (created.ears.same ⟨rfl, rfl⟩)
    refine ⟨reading.booked, reading.ears, ?_⟩
    intro other node found awaits
    unfold closable NodesState.change at found
    dsimp only at found
    rw [Store.read_modify] at found
    split at found
    next own =>
      obtain ⟨earlier, read, rfl⟩ := Option.map_eq_some_iff.mp found
      exact reading.awaiting _ earlier read awaits
    next => exact reading.awaiting other node found awaits

/-- What the constructor of a new node with a resource does with it on PostgreSQL. -/
structure Wires (wire : Nat → Nat → NodesState → NodesState) : Prop where
  failures : ∀ id resource before, (wire id resource before).failures = before.failures
  config : ∀ id resource before, before.isPostgres = true →
    (wire id resource before).config = (attachErrorListener (.owner resource) (.runtime id) true
      before.config).record (.status (.runtime id) .connecting)
  nodes : ∀ id resource before, before.isPostgres = true → (wire id resource before).nodes =
    before.nodes.modify id fun node => { node with pending := .readiness }

theorem wires_wireWorker : Wires wireWorker where
  failures := by
    intro id resource before
    unfold wireWorker
    dsimp only
    split
    · rfl
    · rfl
  config := by
    intro id resource before postgres
    unfold wireWorker attachOwnListener
    dsimp only
    rw [postgres, if_pos rfl]
    rfl
  nodes := by
    intro id resource before postgres
    unfold wireWorker
    dsimp only
    rw [postgres, if_pos rfl]
    rfl

theorem wires_wireReadiness : Wires wireReadiness where
  failures := fun _ _ _ => rfl
  config := by
    intro id resource before postgres
    unfold wireReadiness attachOwnListener
    rw [postgres]
    rfl
  nodes := fun _ _ _ _ => rfl

theorem reporting_withResource (reporting : Reporting packages state) {kind : NodeKind}
    (command : kind ≠ .cmd) {create : NodeName → Sync (Option Nat)} {construction : Construction}
    (creates : Creates packages construction create)
    (latchable : ∀ err ∈ failed construction,
      Latchable packages state.failures state.config err)
    {wire : Nat → Nat → NodesState → NodesState} (wires : Wires wire) :
    Reporting packages (withResource kind create construction wire state).2 := by
  let id := state.nodes.size
  obtain ⟨made, result, built⟩ := creates state.failures state.config (.runtime id)
    reporting.booked latchable
  have awaiting := (reporting_createNode reporting kind).awaiting
  rcases withResource_cases kind create construction wire state with
    ⟨_, err, failed⟩ | ⟨same, none_⟩ | ⟨resource, some_, same⟩
  · cases result.symm.trans failed
  · cases result.symm.trans none_
    have created : Reporting packages (constructing kind create construction state).2 :=
      ⟨built.booked, reporting.ears.same ⟨built.listeners, built.owners⟩, awaiting⟩
    rw [same]
    exact reporting_setStatus created id .disconnected
  · cases result.symm.trans some_
    obtain ⟨fresh, owners, _⟩ := built.owners
    let held := holding id resource (constructing kind create construction state).2
    have booked : Booked packages (state.failures ++ failed construction) held.config :=
      built.booked
    have postgres : held.isPostgres = true := booked.isPostgres
    rw [same]
    refine ⟨?_, ?_, ?_⟩
    · rw [wires.failures, wires.config _ _ _ postgres]
      apply built.booked.unreported
      have attached : Unreported held.config
          (attachErrorListener (.owner resource) (.runtime id) true held.config) :=
        unreported_still rfl rfl rfl rfl
      exact attached.record trivial
    · rw [wires.config _ _ _ postgres, fresh]
      have latching : true = true ↔ NodeName.runtime id ≠ .config := by simp
      have attached := ears_attach reporting.ears built.listeners owners latching
      exact attached.same ⟨rfl, rfl⟩
    · rw [wires.nodes _ _ _ postgres]
      intro other node found awaits
      rw [Store.read_modify] at found
      split at found
      next own =>
        obtain ⟨earlier, read, rfl⟩ := Option.map_eq_some_iff.mp found
        rw [read_holding] at read
        cases read
        exact ⟨command, resource, rfl⟩
      next different =>
        have read : ((constructing kind create construction state).2.nodes.modify id _).read other =
          some node := found
        rw [Store.read_modify, if_neg different] at read
        exact awaiting other node read awaits

/-! ### Events and promises -/

theorem sameOwners_onError (packages : Packages) (err : JsError) (config : ConfigState)
    (listener : ErrorListener) :
    SameOwners config (ConfigNode.onError packages err config listener) := by
  unfold ConfigNode.onError
  dsimp only
  split
  · exact sameOwners_report packages err _
  · exact ⟨rfl, rfl⟩

/-- An `error` event before its resource is ready. -/
theorem reporting_emitError (reporting : Reporting packages state) {owner : Nat} {err : JsError}
    (bound : owner < state.config.owners.size) (unready : Unready (.owner owner) state.config)
    (shared : OnSharedQueue (.owner owner) state.config → ¬Occurred packages err state.failures)
    (own : ¬OnSharedQueue (.owner owner) state.config →
      Latchable packages state.failures state.config err) :
    Reporting packages (RuntimeNodes.emitError packages (.owner owner) err state) := by
  obtain ⟨listener, registered, emitter, only⟩ := reporting.ears.listener bound
  have heard : RuntimeNodes.emitError packages (.owner owner) err state =
      RuntimeNodes.onError packages err (state.failWith [err]) listener := by
    unfold RuntimeNodes.emitError
    rw [only]
    rfl
  have shown : Unreported state.config
      (state.config.record (.status listener.node .disconnected)) :=
    (Unreported.refl _).record trivial
  rw [heard]
  refine ⟨?_, reporting.ears.same (sameOwners_onError packages err _ listener),
    reporting.awaiting⟩
  show Booked packages (state.failures ++ [err])
    (ConfigNode.onError packages err state.config listener)
  unfold ConfigNode.onError
  dsimp only
  by_cases node : listener.node = .config
  · have unlatched : listener.startupFailureOwner = false := by
      cases flag : listener.startupFailureOwner with
      | false => rfl
      | true => exact absurd node ((reporting.ears.own listener registered).mp flag)
    rw [if_neg (by simp [unlatched]), node]
    rw [node] at shown
    exact booked_nodeError (reporting.booked.unreported shown)
      (shared ⟨listener, registered, emitter, node⟩)
  · have latching : listener.startupFailureOwner = true :=
      (reporting.ears.own listener registered).mpr node
    have early : listener.ready = false := (unready listener registered emitter).1
    have alone : ¬OnSharedQueue (.owner owner) state.config := by
      intro given
      obtain ⟨other, member, same, config⟩ := given
      have among : other ∈ state.config.listeners.filter fun item =>
          decide (item.emitter = .owner owner) :=
        List.mem_filter.mpr ⟨member, decide_eq_true same⟩
      rw [only] at among
      exact node (List.mem_singleton.mp among ▸ config)
    rw [if_pos (by simp [latching, early])]
    exact booked_report (reporting.booked.unreported shown) ((own alone).same shown.latched)

/-- The readiness promise of the shared queue. -/
theorem reporting_seed (reporting : Reporting packages state) (queue : Nat)
    {failure : Option JsError} (reportable : Reportable packages state (.seed queue failure)) :
    Reporting packages (seed packages queue failure state) := by
  let awaited := { state.config with
    seeding := state.config.seeding.filter fun other => decide (other ≠ queue) }
  have still : Unreported state.config awaited := unreported_still rfl rfl rfl rfl
  have settled : Unreported state.config (awaited.record (.readiness failure)) :=
    still.record trivial
  have published : ∀ status, Unreported state.config
      (publishBackendStatus status (awaited.record (.readiness failure))) := fun status =>
    settled.trans (unreported_publish status _)
  have readers : ∀ status, SameOwners state.config
      (publishBackendStatus status (awaited.record (.readiness failure))) := fun status =>
    sameOwners_publish status _
  cases failure with
  | none =>
    have quiet : Unreported state.config (onReadiness packages queue none state.config) ∧
        SameOwners state.config (onReadiness packages queue none state.config) := by
      unfold onReadiness
      dsimp only
      split
      · exact ⟨published .connected, readers .connected⟩
      · exact ⟨settled, rfl, rfl⟩
    refine ⟨?_, reporting.ears.same quiet.2, reporting.awaiting⟩
    show Booked packages (state.failures ++ []) _
    rw [List.append_nil]
    exact reporting.booked.unreported quiet.1
  | some err =>
    obtain ⟨first, later⟩ := reportable
    refine ⟨?_, ?_, reporting.awaiting⟩
    · show Booked packages (state.failures ++ [err])
        (onReadiness packages queue (some err) state.config)
      unfold onReadiness
      dsimp only
      split
      next connecting =>
        exact booked_report (reporting.booked.unreported (published .disconnected))
          ((first connecting).same (published .disconnected).latched)
      next told => exact (reporting.booked.unreported settled).again (later told)
    · show Ears (onReadiness packages queue (some err) state.config)
      unfold onReadiness
      dsimp only
      split
      · exact (reporting.ears.same (readers .disconnected)).same (sameOwners_report packages err _)
      · exact reporting.ears.same ⟨rfl, rfl⟩

/-- A routine shows that its node is disconnected and reports to the latch. -/
theorem reporting_disconnected (reporting : Reporting packages state) (id : Nat) {err : JsError}
    (latchable : Latchable packages state.failures state.config err) :
    Reporting packages (callback (.runtime id) (fun config => reportBackendFailure packages err
      (config.record (.status (.runtime id) .disconnected))) (state.failWith [err])) := by
  have shown : Unreported state.config
      (state.config.record (.status (.runtime id) .disconnected)) :=
    (Unreported.refl _).record trivial
  refine ⟨?_, ?_, reporting.awaiting⟩
  · exact booked_report (reporting.booked.unreported shown) (latchable.same shown.latched)
  · exact reporting.ears.same (sameOwners_report packages err _)

theorem failWith_nil (state : NodesState) : state.failWith [] = state := by
  unfold NodesState.failWith
  rw [List.append_nil]

/-- The routine of a worker that becomes ready, or does not. -/
theorem reporting_startPostgresWorker (reporting : Reporting packages state) (id worker : Nat)
    {failure : Option JsError} (latchable : ∀ err, failure = some err →
      Latchable packages state.failures state.config err) :
    Reporting packages
      (startPostgresWorker packages id worker failure (state.failWith failure.toList)) := by
  have quiet : Reporting packages (waitFor id .nothing state) :=
    reporting_waitFor reporting id (by decide)
  cases failure with
  | none =>
    have started : Reporting packages (waitFor id .running state) :=
      reporting_waitFor reporting id (by decide)
    show Reporting packages (startPostgresWorker packages id worker none (state.failWith []))
    rw [failWith_nil]
    unfold startPostgresWorker
    dsimp only
    split
    · exact quiet
    · exact reporting_ready started id worker
  | some err =>
    have open_ : closing worker (waitFor id .nothing (state.failWith [err])) = false :=
      reporting.not_closing worker
    show Reporting packages
      (workerFailed packages id worker false err (waitFor id .nothing (state.failWith [err])))
    unfold workerFailed
    rw [open_]
    exact reporting_disconnected quiet id (latchable err rfl)

theorem reporting_updateReadyStatus (reporting : Reporting packages state) (id resource : Nat)
    {failure : Option JsError} (latchable : ∀ err, failure = some err →
      Latchable packages state.failures state.config err) :
    Reporting packages
      (updateReadyStatus packages id resource failure (state.failWith failure.toList)) := by
  have quiet : Reporting packages (waitFor id .nothing state) :=
    reporting_waitFor reporting id (by decide)
  cases failure with
  | none =>
    show Reporting packages (ready id resource (waitFor id .nothing (state.failWith [])))
    rw [failWith_nil]
    exact reporting_ready quiet id resource
  | some err =>
    have postgres : (state.failWith [err]).isPostgres = true := reporting.booked.isPostgres
    show Reporting packages (updateReadyStatus packages id resource (some err)
      (state.failWith [err]))
    unfold updateReadyStatus
    dsimp only
    rw [postgres]
    exact reporting_disconnected quiet id (latchable err rfl)

theorem reporting_readiness (reporting : Reporting packages state) {id : Nat} {node : RuntimeNode}
    (found : state.nodes.read id = some node) (awaits : node.pending = .readiness)
    {failure : Option JsError} (latchable : ∀ err, failure = some err →
      Latchable packages state.failures state.config err) :
    Reporting packages (readiness packages id failure state) := by
  obtain ⟨command, resource, owned⟩ := reporting.awaiting id node found awaits
  obtain ⟨kind, _, pending, closes⟩ := node
  cases owned
  unfold readiness
  rw [found]
  cases kind with
  | cmd => exact absurd rfl command
  | run => exact reporting_startPostgresWorker reporting id resource latchable
  | events => exact reporting_updateReadyStatus reporting id resource latchable
  | flow => exact reporting_updateReadyStatus reporting id resource latchable

theorem reporting_emitOwner (reporting : Reporting packages state) (owner : Nat)
    (event : OwnerEvent) : Reporting packages (emitOwner owner event state) := by
  have all : ∀ (listeners : List OwnerListener) before, Reporting packages before →
      Reporting packages (listeners.foldl onOwnerEvent before) := by
    intro listeners
    induction listeners with
    | nil => exact fun _ held => held
    | cons listener rest ih =>
      intro before held
      apply ih
      unfold onOwnerEvent
      cases listener.event with
      | ready => exact reporting_ready held listener.node listener.owner
      | closed => exact reporting_setStatus held listener.node .disconnected
  exact all _ state reporting

theorem reporting_emitBackend (reporting : Reporting packages state) (queue : Nat)
    (event : BackendEvent) : Reporting packages (emitBackend queue event state) := by
  have seen : Unreported state.config (state.config.record (.backend event)) :=
    (Unreported.refl _).record trivial
  have published : ∀ status, Unreported state.config
      (publishBackendStatus status (state.config.record (.backend event))) ∧
        Ears (publishBackendStatus status (state.config.record (.backend event))) := fun status =>
    ⟨seen.trans (unreported_publish status _),
      reporting.ears.same (sameOwners_publish status (state.config.record (.backend event)))⟩
  unfold emitBackend
  split
  · cases event with
    | ready => exact reporting_callback reporting (published .connected).1 (published .connected).2
    | error =>
      exact reporting_callback reporting (published .disconnected).1 (published .disconnected).2
    | close =>
      exact reporting_callback reporting (published .disconnected).1 (published .disconnected).2
  · exact reporting

/-! ## Every run -/

/-- What each task of a startup keeps. -/
theorem reporting_effect {pool : NodesPool} (reporting : Reporting packages pool.shared)
    {task : NodesTask} (launched : nodesLaunches pool task) (startup : Startup pool (.start task))
    (reportable : Reportable packages pool.shared task) :
    Reporting packages (nodesEffect packages task pool.shared) := by
  cases task with
  | deploy kind construction =>
    cases kind with
    | cmd => exact reporting_BullQueueCmdNode reporting startup reportable
    | run =>
      exact reporting_withResource reporting (by decide)
        (creates_createWorker packages construction) reportable wires_wireWorker
    | events =>
      exact reporting_withResource reporting (by decide)
        (creates_createQueueEvents packages construction) reportable wires_wireReadiness
    | flow =>
      exact reporting_withResource reporting (by decide)
        (creates_createFlowProducer packages construction) reportable wires_wireReadiness
  | getQueue caller construction =>
    exact reporting_getQueueFor reporting startup reportable (.runtime caller)
  | closeNode id => exact startup.elim
  | closeConfig => exact startup.elim
  | pair handler owner connection => exact startup.elim
  | emitError emitter err =>
    obtain ⟨⟨owner, bound, rfl⟩, unready⟩ := startup
    exact reporting_emitError reporting bound unready reportable.1 reportable.2
  | ownerEvent owner event => exact reporting_emitOwner reporting owner event
  | backendEvent queue event => exact reporting_emitBackend reporting queue event
  | seed queue failure => exact reporting_seed reporting queue reportable
  | readiness id failure =>
    obtain ⟨node, found, awaits⟩ := launched
    apply reporting_readiness reporting found awaits
    rintro err rfl
    exact reportable
  | running id failure =>
    cases startup
    have quiet := reporting_waitFor reporting id (by decide : Pending.nothing ≠ .readiness)
    show Reporting packages (running packages id none pool.shared)
    unfold running
    dsimp only
    split
    next failed => cases failed
    next => exact quiet
  | connectionStatus connection status =>
    have still : Unreported pool.shared.config
        (ConfigNode.setStatus connection status pool.shared.config) :=
      unreported_still rfl rfl rfl rfl
    exact ⟨reporting.booked.unreported still, reporting.ears.same ⟨rfl, rfl⟩, reporting.awaiting⟩

theorem ordinary_of_startup {pool : NodesPool} {task : NodesTask}
    (startup : Startup pool (.start task)) : closesSomething task = false := by
  cases task with
  | closeNode id => exact startup.elim
  | closeConfig => exact startup.elim
  | pair handler owner connection => exact startup.elim
  | _ => rfl

theorem reporting_initial (target : PostgresConfig) :
    Reporting packages (.initial (.postgres target)) := by
  refine ⟨⟨⟨target, rfl⟩, ⟨⟨[], [], .nil _, .nil, ?_⟩, ?_⟩, ?_, ?_⟩, ⟨?_, rfl⟩, ?_⟩
  · exact List.Perm.refl _
  · simp [NodesState.initial, ConfigState.initial]
  · simp [NodesState.initial, ConfigState.initial]
  · simp [NodesState.initial, ConfigState.initial]
  · simp [NodesState.initial, ConfigState.initial]
  · intro id node found
    cases (Store.read_empty id).symm.trans found

end Reporting

/-- While the resources of a PostgreSQL configuration node start, each category of their failures
is reported exactly once, if every failure meets the latch. -/
theorem failures_reported_once {packages : Packages} {target : PostgresConfig} {pool : NodesPool}
    (reached : Runs (nodesSystem packages).Step (Latching packages)
      (emptyNodesPool (.postgres target)) pool) :
    ReportedOnce packages pool.shared.failures pool.shared.config := by
  have reporting : Reporting packages pool.shared := by
    let holds : NodesPool → Prop := fun pool => Reporting packages pool.shared
    have kept : holds pool := by
      apply reached.invariant (reporting_initial target)
      intro before move after held permitted made
      cases made with
      | @start task launched =>
        show Reporting packages ((nodesSystem packages).start before task).shared
        rw [shared_start packages (ordinary_of_startup permitted.1)]
        exact reporting_effect held launched permitted.1 (permitted.2 task rfl)
      | resume waiting answered => exact permitted.1.elim
    exact kept
  exact reporting.booked.reported

/-! ## Startups of one configuration node -/

theorem latching_start {packages : Packages} {pool : NodesPool} {task : NodesTask}
    (startup : Startup pool (.start task)) (reportable : Reportable packages pool.shared task) :
    Latching packages pool (.start task) := by
  refine ⟨startup, ?_⟩
  rintro other same
  cases same
  exact reportable

theorem failed_backed : Backed failedConstruction := by
  intro shape made
  cases made

def missingPg : JsError := newError "Cannot find module 'pg'"

def failedOnce : NodesPool :=
  (nodesSystem plainPackages).start (emptyNodesPool plainPostgres) (.deploy .run failedConstruction)

/-- Two runtime nodes whose constructions fail for the same reason. -/
def failedTwice : NodesPool :=
  (nodesSystem plainPackages).start failedOnce (.deploy .events failedConstruction)

theorem failedOnce_reached : Runs (nodesSystem plainPackages).Step (Latching plainPackages)
    (emptyNodesPool plainPostgres) failedOnce := by
  have permitted : Latching plainPackages (emptyNodesPool plainPostgres)
      (.start (.deploy .run failedConstruction)) := by
    apply latching_start
    · exact failed_backed
    · intro err member
      exact .inr (by simp [Occurred, emptyNodesPool, NodesState.initial])
  exact System.runs_start (Runs.refl _) _ trivial permitted

theorem failedTwice_reported : failedTwice.shared.failures = [missingPg, missingPg] ∧
    (configErrors failedTwice.shared.config).length = 1 ∧
      ReportedOnce plainPackages failedTwice.shared.failures failedTwice.shared.config := by
  have permitted : Latching plainPackages failedOnce
      (.start (.deploy .events failedConstruction)) := by
    apply latching_start
    · exact failed_backed
    · intro err member
      have known : failedOnce.shared.config.backendFailures[0]? =
          some (category plainPackages missingPg) := rfl
      rw [List.mem_singleton.mp (member : err ∈ [missingPg])]
      exact .inl (List.mem_of_getElem? known)
  have twice : Runs (nodesSystem plainPackages).Step (Latching plainPackages)
      (emptyNodesPool plainPostgres) failedTwice :=
    System.runs_start failedOnce_reached _ trivial permitted
  exact ⟨rfl, rfl, failures_reported_once twice⟩

/-- The configuration node has called its error reporting once for each failure told. -/
theorem reported_length {packages : Packages} {failures : List JsError} {config : ConfigState}
    (reported : ReportedOnce packages failures config) : ∃ told,
      OncePerKey (category packages) failures told ∧
        (configErrors config).length = (telemetryNotice config).length + told.length := by
  obtain ⟨told, messages, once, tells, called⟩ := reported.once
  refine ⟨told, once, ?_⟩
  rw [called.length_eq, List.length_append, tells.length_eq]

def migrationRequired : JsError := ⟨.schemaMigrationRequiredError, "schema migration required"⟩

def queueCreated : NodesPool :=
  (nodesSystem plainPackages).start failedOnce (.deploy .cmd plainConstruction)

/-- A failed construction has published `disconnected` before the queue's promise rejects. -/
def skippedPool : NodesPool :=
  (nodesSystem plainPackages).start queueCreated (.seed 0 (some migrationRequired))

theorem plain_backed : Backed plainConstruction := by
  intro shape made
  cases made
  exact ⟨_, rfl⟩

theorem skippedPool_reached : Runs (nodesSystem plainPackages).Step Startup
    (emptyNodesPool plainPostgres) skippedPool := by
  have failed : Runs (nodesSystem plainPackages).Step Startup (emptyNodesPool plainPostgres)
      failedOnce := failedOnce_reached.weaken fun _ _ permitted => permitted.1
  have created : Runs (nodesSystem plainPackages).Step Startup (emptyNodesPool plainPostgres)
      queueCreated := System.runs_start failed _ trivial plain_backed
  have awaited : nodesLaunches queueCreated (.seed 0 (some migrationRequired)) :=
    List.mem_singleton.mpr rfl
  have permitted : Startup queueCreated (.start (.seed 0 (some migrationRequired))) := trivial
  exact System.runs_start created _ awaited permitted

theorem skippedPool_misreported :
    ¬ReportedOnce plainPackages skippedPool.shared.failures skippedPool.shared.config := by
  intro reported
  obtain ⟨told, once, length⟩ := reported_length reported
  have failures : skippedPool.shared.failures = [missingPg, migrationRequired] := rfl
  have called : (configErrors skippedPool.shared.config).length = 1 := rfl
  have notice : (telemetryNotice skippedPool.shared.config).length = 0 := rfl
  rw [called, notice] at length
  obtain ⟨only, rfl⟩ := List.length_eq_one_iff.mp (show told.length = 1 by omega)
  have first := once.all missingPg (by simp [failures])
  have second := once.all migrationRequired (by simp [failures])
  have same : category plainPackages missingPg = category plainPackages migrationRequired :=
    (List.mem_singleton.mp first).trans (List.mem_singleton.mp second).symm
  exact absurd same (by decide)

def queuePool : NodesPool :=
  (nodesSystem plainPackages).start (emptyNodesPool plainPostgres) (.deploy .cmd plainConstruction)

def erredOnce : NodesPool :=
  (nodesSystem plainPackages).start queuePool (.emitError (.owner 0) missingPg)

/-- The queue emits two errors before it is ready. -/
def erredTwice : NodesPool :=
  (nodesSystem plainPackages).start erredOnce (.emitError (.owner 0) missingPg)

/-- The error listener of the queue hears before it is ready. -/
theorem startup_queueError {pool : NodesPool} (err : JsError)
    (owners : pool.shared.config.owners.size = 1)
    (listeners : pool.shared.config.listeners = [⟨.owner 0, .config, false, false⟩])
    (unsettled : .readiness none ∉ pool.shared.config.trace) :
    Startup pool (.start (.emitError (.owner 0) err)) := by
  refine ⟨⟨0, by omega, rfl⟩, ?_⟩
  intro listener member _
  rw [listeners] at member
  rw [List.mem_singleton.mp member]
  exact ⟨rfl, fun _ => unsettled⟩

theorem erredTwice_reached : Runs (nodesSystem plainPackages).Step Startup
    (emptyNodesPool plainPostgres) erredTwice := by
  have created : Runs (nodesSystem plainPackages).Step Startup (emptyNodesPool plainPostgres)
      queuePool := System.runs_start (Runs.refl _) _ trivial plain_backed
  have trace : queuePool.shared.config.trace =
      [.created 0 none, .subscribed 0, .read 0 .connecting] := rfl
  have later : erredOnce.shared.config.trace = [.created 0 none, .subscribed 0,
      .read 0 .connecting, .status .config .disconnected, .nodeError .config missingPg.message] :=
    rfl
  have first : Startup queuePool (.start (.emitError (.owner 0) missingPg)) :=
    startup_queueError missingPg rfl rfl (by simp [trace])
  have second : Startup erredOnce (.start (.emitError (.owner 0) missingPg)) :=
    startup_queueError missingPg rfl rfl (by simp [later])
  have once : Runs (nodesSystem plainPackages).Step Startup (emptyNodesPool plainPostgres)
      erredOnce := System.runs_start created _ trivial first
  exact System.runs_start once _ trivial second

theorem erredTwice_misreported :
    ¬ReportedOnce plainPackages erredTwice.shared.failures erredTwice.shared.config := by
  intro reported
  obtain ⟨told, once, length⟩ := reported_length reported
  have called : (configErrors erredTwice.shared.config).length = 2 := rfl
  have notice : (telemetryNotice erredTwice.shared.config).length = 0 := rfl
  have same : ∀ err ∈ told, err = missingPg := by
    intro err member
    have among : err ∈ [missingPg, missingPg] := once.among member
    simpa using among
  rw [called, notice] at length
  obtain ⟨one, two, rfl⟩ := List.length_eq_two.mp (show told.length = 2 by omega)
  have nodup := once.once
  rw [same one (by simp), same two (by simp)] at nodup
  simp at nodup

/-- The readiness promise of the shared queue reports only while the status is `connecting`, and
the queue's own `error` listener does not use the latch. -/
theorem failures_misreported :
    (∃ pool, Runs (nodesSystem plainPackages).Step Startup (emptyNodesPool plainPostgres) pool ∧
      pool.shared.failures = [missingPg, migrationRequired] ∧
      ¬ReportedOnce plainPackages pool.shared.failures pool.shared.config) ∧
    ∃ pool, Runs (nodesSystem plainPackages).Step Startup (emptyNodesPool plainPostgres) pool ∧
      pool.shared.failures = [missingPg, missingPg] ∧
      ¬ReportedOnce plainPackages pool.shared.failures pool.shared.config :=
  ⟨⟨skippedPool, skippedPool_reached, rfl, skippedPool_misreported⟩,
    erredTwice, erredTwice_reached, rfl, erredTwice_misreported⟩

end NodeRedBull.StartupFailures
