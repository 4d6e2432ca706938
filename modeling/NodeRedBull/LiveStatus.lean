import NodeRedBull.NodesClosings
import NodeRedBull.Library.Trace
import NodeRedBull.BackendStatus

/-! The visible status of a runtime node on Redis, event by event of its backend. -/

namespace NodeRedBull.LiveStatus
open Js Library Connections ConfigNode ConfigCalls RuntimeNodes NodesSteps NodesClosings
open BackendStatus (addReader mem_addReader)
open ConfigPairs (plainRedis plainPackages plainConstruction)

/-! ## Events and what they should show -/

/-- What a backend goes through once it is ready. -/
inductive LiveEvent where
  | error (err : JsError)
  | close
  | ready

def expected : LiveEvent → NodeStatus
  | .ready => .connected
  | .error _ | .close => .disconnected

/-- What such an event makes the shared queue's backend or the resource of a node emit.
`workerCloses` says whether BullMQ's worker emits `closed` when its backend closes. -/
def emissions (workerCloses : Bool) (kind : NodeKind) (source : Nat) : LiveEvent → List NodesTask
  | .error err =>
    match kind with
    | .cmd => [.backendEvent source .error]
    | _ => [.emitError (.owner source) err]
  | .ready =>
    match kind with
    | .cmd => [.backendEvent source .ready]
    | _ => [.ownerEvent source .ready]
  | .close =>
    match kind with
    | .cmd => [.backendEvent source .close]
    | .run => if workerCloses then [.ownerEvent source .closed] else []
    | _ => [.ownerEvent source .closed]

/-- The pool after one event. -/
def emit (packages : Packages) (workerCloses : Bool) (kind : NodeKind) (source : Nat)
    (pool : NodesPool) (event : LiveEvent) : NodesPool :=
  (emissions workerCloses kind source event).foldl (nodesSystem packages).start pool

/-- The status that an act sets for the node. -/
def shows (id : Nat) (act : Act) : Option NodeStatus :=
  match act.effect with
  | .status (.runtime other) status => if other = id then some status else none
  | _ => none

/-- The status that the node shows. -/
def visible (id : Nat) (acts : List Act) : Option NodeStatus := latest (shows id) acts

/-- A run with these live events of the source of the node. Between them anything else happens
that neither closes the node nor sets its status. -/
inductive LiveRun (packages : Packages) (workerCloses : Bool) (kind : NodeKind) (source id : Nat)
    (first : NodesPool) : NodesPool → List LiveEvent → Prop where
  | start : LiveRun packages workerCloses kind source id first first []
  | event {pool : NodesPool} {events : List LiveEvent} (event : LiveEvent)
      (run : LiveRun packages workerCloses kind source id first pool events) :
      LiveRun packages workerCloses kind source id first
        (emit packages workerCloses kind source pool event) (events ++ [event])
  | other {pool later : NodesPool} {events : List LiveEvent} {move : NodesMove}
      (run : LiveRun packages workerCloses kind source id first pool events)
      (made : (nodesSystem packages).Step pool move later) (open_ : move ≠ .start (.closeNode id))
      (silent : visible id later.shared.acts = visible id pool.shared.acts) :
      LiveRun packages workerCloses kind source id first later events

/-- After each event, and until the next one, the node shows what it should. -/
def Follows (packages : Packages) (workerCloses : Bool) (kind : NodeKind) (source id : Nat)
    (first : NodesPool) (events : List LiveEvent) : Prop :=
  ∀ before event after last, events = before ++ event :: after →
    LiveRun packages workerCloses kind source id first last (before ++ [event]) →
      visible id last.shared.acts = some (expected event)

/-- The events that the listeners of a node of this kind can keep up with: all of them for
`bullmq cmd`; for `bullmq run`, if its worker does not emit `closed`, no close but directly after
an error or a close; for `bullmq events` and `bullmq flow` no close before the first error, and no
ready after it. -/
def Tracks (workerCloses : Bool) (kind : NodeKind) (events : List LiveEvent) : Prop :=
  match kind with
  | .cmd => True
  | .run => workerCloses = true ∨ ∀ before after, events = before ++ .close :: after →
      ∃ earlier event, before = earlier ++ [event] ∧ event ≠ .ready
  | _ => ∀ before event after, events = before ++ event :: after →
      (event = .close → ∃ err, .error err ∈ before) ∧
        (event = .ready → ∀ err, .error err ∉ before)

/-- What a node of this kind shows after the event, given what it showed before. -/
def shownAfter (workerCloses : Bool) (kind : NodeKind) (status : NodeStatus) :
    LiveEvent → NodeStatus
  | .error _ => .disconnected
  | .ready =>
    match kind with
    | .cmd | .run => .connected
    | _ => status
  | .close =>
    match kind with
    | .cmd => .disconnected
    | .run => if workerCloses then .disconnected else status
    | _ => status

/-- What it shows after these events. -/
def shownBy (workerCloses : Bool) (kind : NodeKind) (events : List LiveEvent) : NodeStatus :=
  events.foldl (shownAfter workerCloses kind) .connected

theorem shownBy_snoc (workerCloses : Bool) (kind : NodeKind) (before : List LiveEvent)
    (event : LiveEvent) : shownBy workerCloses kind (before ++ [event]) =
      shownAfter workerCloses kind (shownBy workerCloses kind before) event := by
  unfold shownBy
  rw [List.foldl_append]
  rfl

/-! ## What one task shows -/

section Shown

variable {id : Nat}

theorem visible_append (acts added : List Act) :
    visible id (acts ++ added) = (latest (shows id) added).or (visible id acts) :=
  latest_append (shows id) acts added

theorem visible_callback {who : NodeName} {operation : ConfigState → ConfigState}
    {state : NodesState} {effects : List Effect}
    (grown : (operation state.config).trace = state.config.trace ++ effects) :
    visible id (callback who operation state).acts =
      (latest (shows id) (effects.map (actOf who))).or (visible id state.acts) := by
  rw [callback_acts grown, visible_append]

theorem visible_setStatus (other : Nat) (status : NodeStatus) (state : NodesState) :
    visible id (RuntimeNodes.setStatus other status state).acts =
      if other = id then some status else visible id state.acts := by
  have recorded : (state.config.record (.status (.runtime other) status)).trace =
      state.config.trace ++ [.status (.runtime other) status] := rfl
  unfold RuntimeNodes.setStatus
  rw [visible_callback recorded, List.map_singleton, latest_singleton]
  show (if other = id then some status else none : Option NodeStatus).or _ = _
  split <;> rfl

theorem visible_ready (other resource : Nat) (state : NodesState) :
    visible id (ready other resource state).acts =
      if other = id then some .connected else visible id state.acts := by
  have recorded : ((markReady other resource state.config).record
      (.status (.runtime other) .connected)).trace =
        state.config.trace ++ [.status (.runtime other) .connected] := rfl
  have shown : visible id (ready other resource state).acts =
      (latest (shows id) ([.status (.runtime other) .connected].map
        (actOf (.runtime other)))).or (visible id state.acts) := visible_callback recorded
  rw [shown, List.map_singleton, latest_singleton]
  show (if other = id then some NodeStatus.connected else none).or _ = _
  split <;> rfl

/-- An `error` listener sets the status of its node first. -/
theorem onError_trace (id : Nat) (packages : Packages) (err : JsError) (config : ConfigState)
    (listener : ErrorListener) : ∃ rest, (ConfigNode.onError packages err config listener).trace =
      config.trace ++ .status listener.node .disconnected :: rest ∧
        ∀ effect ∈ rest, shows id (actOf listener.node effect) = none := by
  unfold ConfigNode.onError reportBackendFailure
  dsimp only
  split
  next owned =>
    split
    next => exact ⟨[], rfl, by simp⟩
    next =>
      refine ⟨[.reported err, .nodeError .config (describeBackendFailure packages err).2], ?_, ?_⟩
      · simp only [ConfigState.record, List.append_assoc, List.cons_append, List.nil_append]
      · simp [shows, actOf]
  next =>
    refine ⟨[.nodeError listener.node err.message], ?_, ?_⟩
    · simp only [ConfigState.record, List.append_assoc, List.cons_append, List.nil_append]
    · simp [shows, actOf]

theorem visible_onError (packages : Packages) (err : JsError) (state : NodesState)
    (listener : ErrorListener) :
    visible id (RuntimeNodes.onError packages err state listener).acts =
      if listener.node = .runtime id then some .disconnected else visible id state.acts := by
  obtain ⟨rest, grown, silent⟩ := onError_trace id packages err state.config listener
  have shown : visible id (RuntimeNodes.onError packages err state listener).acts =
      (latest (shows id) ((.status listener.node .disconnected :: rest).map
        (actOf listener.node))).or (visible id state.acts) := visible_callback grown
  have quiet : latest (shows id) (rest.map (actOf listener.node)) = none := by
    apply latest_eq_none_iff.mpr
    simpa using silent
  rw [shown, List.map_cons, ← List.singleton_append, latest_append, quiet, Option.none_or,
    latest_singleton]
  cases listener.node with
  | config => rfl
  | runtime other =>
    simp only [NodeName.runtime.injEq]
    show (if other = id then some NodeStatus.disconnected else none).or _ = _
    split <;> rfl

/-- Listeners that run one after another, of which those of the node set the same status. -/
theorem visible_foldl {α : Type} {step : NodesState → α → NodesState} {own : α → Prop}
    [DecidablePred own] {status : NodeStatus} {items : List α}
    (each : ∀ item ∈ items, ∀ state, visible id (step state item).acts =
      if own item then some status else visible id state.acts) (state : NodesState) :
    visible id (items.foldl step state).acts =
      if ∃ item ∈ items, own item then some status else visible id state.acts := by
  induction items generalizing state with
  | nil => simp
  | cons item rest ih =>
    rw [List.foldl_cons, ih (fun other member => each other (List.mem_cons_of_mem _ member)),
      each item (by simp)]
    simp only [List.mem_cons, exists_eq_or_imp]
    by_cases later : ∃ other ∈ rest, own other
    · rw [if_pos later, if_pos (.inr later)]
    · rw [if_neg later]
      by_cases first : own item
      · rw [if_pos first, if_pos (.inl first)]
      · have neither : ¬(own item ∨ ∃ other ∈ rest, own other) := fun given =>
          given.elim first later
        rw [if_neg first, if_neg neither]

/-! ### The events of a source -/

theorem visible_emitError (packages : Packages) (err : JsError) (source : Nat) (state : NodesState)
    (listens : ∃ listener ∈ state.config.listeners, listener.emitter = .owner source ∧
      listener.node = .runtime id) :
    visible id (RuntimeNodes.emitError packages (.owner source) err state).acts =
      some .disconnected := by
  obtain ⟨listener, registered, emitter, node⟩ := listens
  have own : ∃ item ∈ state.config.listeners.filter fun listener =>
      decide (listener.emitter = .owner source), item.node = .runtime id :=
    ⟨listener, List.mem_filter.mpr ⟨registered, decide_eq_true emitter⟩, node⟩
  unfold RuntimeNodes.emitError
  rw [visible_foldl (fun listener _ state => visible_onError packages err state listener),
    if_pos own]

/-- What a listener for this event of a worker shows. -/
def ownerStatus : OwnerEvent → NodeStatus
  | .ready => .connected
  | .closed => .disconnected

theorem visible_onOwnerEvent (listener : OwnerListener) (state : NodesState) :
    visible id (onOwnerEvent state listener).acts =
      if listener.node = id then some (ownerStatus listener.event) else visible id state.acts := by
  unfold onOwnerEvent
  cases listener.event with
  | ready => exact visible_ready listener.node listener.owner state
  | closed => exact visible_setStatus listener.node .disconnected state

theorem visible_emitOwner (source : Nat) (event : OwnerEvent) (state : NodesState)
    [Decidable (∃ listener ∈ state.ownerListeners,
      (listener.owner = source ∧ listener.event = event) ∧ listener.node = id)] :
    visible id (emitOwner source event state).acts =
      if ∃ listener ∈ state.ownerListeners,
          (listener.owner = source ∧ listener.event = event) ∧ listener.node = id then
        some (ownerStatus event) else visible id state.acts := by
  have each : ∀ listener ∈ state.ownerListeners.filter (fun listener =>
      decide (listener.owner = source ∧ listener.event = event)), ∀ state : NodesState,
      visible id (onOwnerEvent state listener).acts =
        if listener.node = id then some (ownerStatus event) else visible id state.acts := by
    intro listener member before
    obtain ⟨_, emits⟩ := List.mem_filter.mp member
    rw [visible_onOwnerEvent, (of_decide_eq_true emits).2]
  unfold emitOwner
  rw [visible_foldl each]
  simp only [List.mem_filter, decide_eq_true_eq, and_assoc]

theorem latest_reads {readers : List Nat} (member : id ∈ readers) (status : BackendStatus) :
    latest (shows id) ((reads readers status).map (actOf .config)) =
      some (applyBackendStatus status) := by
  induction readers using List.reverseRecOn with
  | nil => cases member
  | append_singleton rest last ih =>
    have split : reads (rest ++ [last]) status = reads rest status ++ [.read last status] := by
      simp [reads]
    rw [split, List.map_append, latest_append, List.map_singleton, latest_singleton]
    show (if last = id then some (applyBackendStatus status) else none).or _ = _
    by_cases same : last = id
    · rw [if_pos same, Option.some_or]
    · rw [if_neg same, Option.none_or]
      rcases List.mem_append.mp member with earlier | own
      · exact ih earlier
      · exact absurd (List.mem_singleton.mp own).symm same

/-- The status that the listeners of `watchBackend` publish. -/
def backendStatusOf : BackendEvent → BackendStatus
  | .ready => .connected
  | .error | .close => .disconnected

theorem onBackendEvent_trace (event : BackendEvent) (config : ConfigState) :
    (onBackendEvent event config).trace = config.trace ++
      .backend event :: reads config.backendReaders (backendStatusOf event) := by
  cases event <;>
    simp only [onBackendEvent, publish_spec, ConfigState.record, List.append_assoc,
      List.singleton_append, backendStatusOf]

theorem visible_emitBackend {source : Nat} {state : NodesState} (event : BackendEvent)
    (watched : source ∈ state.config.watched) (reading : id ∈ state.config.backendReaders) :
    visible id (emitBackend source event state).acts =
      some (applyBackendStatus (backendStatusOf event)) := by
  unfold emitBackend
  rw [if_pos (List.contains_iff_mem.mpr watched),
    visible_callback (onBackendEvent_trace event state.config), List.map_cons,
    ← List.singleton_append, latest_append, latest_reads reading, Option.some_or, Option.some_or]

end Shown

/-! ## The listeners of a node -/

/-- An `error` listener of the node on its resource. -/
def Listening (source id : Nat) (state : NodesState) : Prop :=
  ∃ listener ∈ state.config.listeners, listener.emitter = .owner source ∧
    listener.node = .runtime id

/-- What a node of this kind hears of its source. -/
def Attached (kind : NodeKind) (source id : Nat) (state : NodesState) : Prop :=
  match kind with
  | .cmd => source ∈ state.config.watched ∧ id ∈ state.config.backendReaders
  | .run => Listening source id state ∧ ⟨source, .ready, id⟩ ∈ state.ownerListeners ∧
      ⟨source, .closed, id⟩ ∈ state.ownerListeners
  | _ => Listening source id state ∧ ∀ listener ∈ state.ownerListeners, listener.node ≠ id

theorem listening_kept {source id : Nat} {before after : NodesState}
    (kept : Kept before.config.listeners after.config.listeners)
    (listening : Listening source id before) : Listening source id after := by
  obtain ⟨listener, registered, emitter, node⟩ := listening
  obtain ⟨later, found, emitter', node'⟩ := kept listener registered
  exact ⟨later, found, emitter'.trans emitter, node'.trans node⟩

theorem attached_stays {kind : NodeKind} {source id : Nat} {builds : Nat → Prop}
    {before after : NodesState} (stays : Stays builds before after) (old : ¬builds id)
    (attached : Attached kind source id before) : Attached kind source id after := by
  have quiet : (∀ listener ∈ before.ownerListeners, listener.node ≠ id) →
      ∀ listener ∈ after.ownerListeners, listener.node ≠ id := by
    intro silent listener member own
    rcases stays.added listener member with earlier | built
    · exact silent listener earlier own
    · exact old (own ▸ built)
  cases kind with
  | cmd => exact ⟨stays.watched attached.1, stays.readers ▸ attached.2⟩
  | run => exact ⟨listening_kept stays.listeners attached.1, stays.ears _ attached.2.1,
      stays.ears _ attached.2.2⟩
  | events => exact ⟨listening_kept stays.listeners attached.1, quiet attached.2⟩
  | flow => exact ⟨listening_kept stays.listeners attached.1, quiet attached.2⟩

theorem attached_reading {kind : NodeKind} {source id : Nat} {state : NodesState} (reader : Nat)
    (attached : Attached kind source id state) :
    Attached kind source id (callback (.runtime reader) (readBackendStatus reader) state) := by
  cases kind with
  | cmd => exact ⟨attached.1, (mem_addReader reader id state.config).mpr (.inl attached.2)⟩
  | run => exact attached
  | events => exact attached
  | flow => exact attached

/-- On Redis every node that has a resource hears of it, and only `bullmq run` nodes listen to
anything but errors of one. -/
structure Wired (target : RedisConfig) (state : NodesState) : Prop where
  redis : state.config.config = .redis target
  ears : ∀ listener ∈ state.ownerListeners, ∃ node, state.nodes.read listener.node = some node ∧
    node.kind = .run
  attached : ∀ id node source, state.nodes.read id = some node → node.resource = some source →
    node.kind ≠ .cmd ∧ Attached node.kind source id state

section Wired

variable {target : RedisConfig}

theorem wired_stays {builds : Nat → Prop} {before after : NodesState} (wired : Wired target before)
    (stays : Stays builds before after) (fresh : ∀ id, builds id → before.nodes.read id = none)
    (ears : ∀ listener ∈ after.ownerListeners, builds listener.node →
      ∃ node, after.nodes.read listener.node = some node ∧ node.kind = .run)
    (built : ∀ id node source, builds id → after.nodes.read id = some node →
      node.resource = some source → node.kind ≠ .cmd ∧ Attached node.kind source id after) :
    Wired target after := by
  refine ⟨stays.config.trans wired.redis, ?_, ?_⟩
  · intro listener member
    rcases stays.added listener member with earlier | own
    · obtain ⟨node, found, kind⟩ := wired.ears listener earlier
      obtain ⟨later, stored, kind'⟩ := stays.nodes _ node found
      exact ⟨later, stored, kind'.trans kind⟩
    · exact ears listener member own
  · intro id later source found resource
    rcases stays.known id later found with own | none | ⟨node, stored, kind, same⟩
    · exact built id later source own found resource
    · rw [none] at resource
      cases resource
    · obtain ⟨command, attached⟩ := wired.attached id node source stored (same ▸ resource)
      have old : ¬builds id := by
        intro own
        rw [fresh id own] at stored
        cases stored
      rw [kind]
      exact ⟨command, attached_stays stays old attached⟩

/-- What builds no node. -/
theorem wired_doing {speaks : NodeName → Prop} {before after : NodesState}
    (wired : Wired target before) (doing : Doing speaks (fun _ => False) before after) :
    Wired target after :=
  wired_stays wired (stays_of_doing doing) (fun _ => False.elim) (fun _ _ => False.elim)
    (fun _ _ _ => False.elim)

theorem read_new (nodes : Store RuntimeNode) : nodes.read nodes.size = none := by
  rw [Store.read_eq_none_iff]

/-- The constructor of a node with a resource of its own. -/
theorem wired_withResource {kind : NodeKind} {create : NodeName → Sync (Option Nat)}
    {construction : Construction} {wire : Nat → Nat → NodesState → NodesState} {state : NodesState}
    (wired : Wired target state) (command : kind ≠ .cmd)
    (stays : Stays (· = state.nodes.size) state (withResource kind create construction wire state).2)
    (calls : ∀ node config, Calls Shared config (create node config).2)
    (nodes : ∀ resource before node, before.nodes.read state.nodes.size = some node →
      ∃ later, (wire state.nodes.size resource before).nodes.read state.nodes.size = some later ∧
        later.kind = node.kind ∧ later.resource = node.resource)
    (ears : ∀ resource before, ∀ listener ∈ (wire state.nodes.size resource before).ownerListeners,
      listener ∈ before.ownerListeners ∨ kind = .run)
    (hears : ∀ resource before, before.config.config = .redis target →
      (∀ listener ∈ before.ownerListeners, listener.node ≠ state.nodes.size) →
        Attached kind resource state.nodes.size (wire state.nodes.size resource before)) :
    Wired target (withResource kind create construction wire state).2 := by
  have others : ∀ listener ∈ state.ownerListeners, listener.node ≠ state.nodes.size := by
    intro listener member same
    obtain ⟨node, found, _⟩ := wired.ears listener member
    rw [same, read_new] at found
    cases found
  let created := (constructing kind create construction state).2
  have config : created.config.config = .redis target :=
    (calls (.runtime state.nodes.size) state.config).config.trans wired.redis
  have unbuilt : ∀ after : NodesState, after.nodes = created.nodes →
      after.ownerListeners = created.ownerListeners →
        Stays (· = state.nodes.size) state after → Wired target after := by
    intro after same listeners still
    apply wired_stays wired still
    · exact fun id own => own ▸ read_new state.nodes
    · intro listener member own
      rw [listeners] at member
      exact absurd own (others listener member)
    · intro id node source own found resource
      rw [same, own] at found
      cases (read_createNode kind state).symm.trans found
      cases resource
  rcases withResource_cases kind create construction wire state with
    ⟨same, _⟩ | ⟨same, _⟩ | ⟨resource, _, same⟩
  · rw [same] at stays ⊢
    exact unbuilt created rfl rfl stays
  · rw [same] at stays ⊢
    exact unbuilt _ rfl rfl stays
  · rw [same] at stays ⊢
    let held := holding state.nodes.size resource created
    have modified : held.nodes.read state.nodes.size = some ⟨kind, some resource, .nothing, true⟩ :=
      read_holding kind create construction state resource
    obtain ⟨later, stored, sameKind, owned⟩ := nodes resource held _ modified
    apply wired_stays wired stays
    · exact fun id own => own ▸ read_new state.nodes
    · intro listener member own
      rcases ears resource held listener member with earlier | run
      · exact absurd own (others listener earlier)
      · rw [own]
        exact ⟨later, stored, sameKind.trans run⟩
    · intro id node source own found resource'
      rw [own] at found ⊢
      cases stored.symm.trans found
      cases owned.symm.trans resource'
      rw [sameKind]
      exact ⟨command, hears resource held config others⟩

theorem listening_attach (id resource : Nat) (state : NodesState) :
    Listening resource id (attachOwnListener id resource state) :=
  ⟨⟨.owner resource, .runtime id, state.isPostgres, false⟩, by simp [attachOwnListener,
    attachErrorListener], rfl, rfl⟩

theorem read_waitFor (id : Nat) (pending : Pending) {state : NodesState} {node : RuntimeNode}
    (found : state.nodes.read id = some node) : ∃ later,
      (waitFor id pending state).nodes.read id = some later ∧ later.kind = node.kind ∧
        later.resource = node.resource := by
  refine ⟨{ node with pending }, ?_, rfl, rfl⟩
  show (state.nodes.modify id _).read id = _
  rw [Store.read_modify, if_pos rfl, found]
  rfl

theorem wired_BullQueueRunNode {packages : Packages} {construction : Construction}
    {state : NodesState} (wired : Wired target state) :
    Wired target (BullQueueRunNode packages construction state).2 := by
  apply wired_withResource wired (by decide)
  · have doing : Doing anyNode (· = state.nodes.size) state
        (BullQueueRunNode packages construction state).2 :=
      doing_BullQueueRunNode packages construction trivial rfl
    exact stays_of_doing doing
  · exact fun node config => calls_createWorker packages node construction shared_config config
  · intro resource before node found
    unfold wireWorker
    dsimp only
    split
    · exact read_waitFor _ .readiness found
    · exact ⟨node, found, rfl, rfl⟩
  · exact fun _ _ _ _ => .inr rfl
  · intro resource before config others
    have redis : before.isPostgres = false := by
      unfold NodesState.isPostgres
      rw [config]
    unfold wireWorker
    dsimp only
    rw [redis]
    refine ⟨listening_attach _ resource before, ?_, ?_⟩
    · show _ ∈ (before.ownerListeners ++ [_]) ++ [_]
      simp
    · show _ ∈ (before.ownerListeners ++ [_]) ++ [_]
      simp

/-- `bullmq events` and `bullmq flow` -/
theorem wired_wireReadiness {kind : NodeKind} {create : NodeName → Sync (Option Nat)}
    {construction : Construction} {state : NodesState} (wired : Wired target state)
    (awaits : kind = .events ∨ kind = .flow)
    (calls : ∀ node config, Calls Shared config (create node config).2) :
    Wired target (withResource kind create construction wireReadiness state).2 := by
  have command : kind ≠ .cmd := by
    rintro rfl
    rcases awaits with same | same <;> cases same
  apply wired_withResource wired command
  · have doing : Doing anyNode (· = state.nodes.size) state
        (withResource kind create construction wireReadiness state).2 :=
      doing_withResource trivial rfl calls
        fun resource before => doing_wireReadiness trivial resource before
    exact stays_of_doing doing
  · exact calls
  · exact fun resource before node found => read_waitFor _ .readiness found
  · exact fun _ _ _ member => .inl member
  · intro resource before _ others
    rcases awaits with rfl | rfl
    · exact ⟨listening_attach _ resource before, others⟩
    · exact ⟨listening_attach _ resource before, others⟩

theorem wired_reading {state : NodesState} (wired : Wired target state) (reader : Nat) :
    Wired target (callback (.runtime reader) (readBackendStatus reader) state) := by
  refine ⟨wired.redis, wired.ears, ?_⟩
  intro id node source found resource
  obtain ⟨command, attached⟩ := wired.attached id node source found resource
  exact ⟨command, attached_reading reader attached⟩

theorem wired_BullQueueCmdNode {packages : Packages} {construction : Construction}
    {state : NodesState} (wired : Wired target state) :
    Wired target (BullQueueCmdNode packages construction state).2 := by
  have queued : Doing anyNode (fun _ => False) state (queueOfCmd packages construction state) :=
    doing_queueOfCmd packages construction state
  have created := wired_doing wired queued
  rcases BullQueueCmdNode_cases packages construction state with same | same
  · rw [same]
    exact created
  · rw [same]
    have closing : ∀ before, Doing anyNode (fun _ => False) before
        (closable state.nodes.size before) := doing_closable state.nodes.size
    exact wired_doing (wired_reading created state.nodes.size) (closing _)

theorem wired_deploy {packages : Packages} {construction : Construction} {state : NodesState}
    (wired : Wired target state) (kind : NodeKind) :
    Wired target (deploy packages construction kind state).2 := by
  cases kind with
  | cmd => exact wired_BullQueueCmdNode wired
  | run => exact wired_BullQueueRunNode wired
  | events =>
    exact wired_wireReadiness wired (.inl rfl)
      fun node config => calls_createQueueEvents packages node construction shared_config config
  | flow =>
    exact wired_wireReadiness wired (.inr rfl)
      fun node config => calls_createFlowProducer packages node construction shared_config config

theorem wired_effect {packages : Packages} {state : NodesState} (wired : Wired target state)
    (task : NodesTask) : Wired target (nodesEffect packages task state) := by
  cases built : isDeploy task with
  | false => exact wired_doing wired (doing_nodesEffect packages built state)
  | true =>
    cases task with
    | deploy kind construction => exact wired_deploy wired kind
    | _ => cases built

/-- A node with a resource is no `bullmq cmd` node, so it does not mind who reads the status. -/
theorem wired_stopNode {state : NodesState} (wired : Wired target state) (handler id : Nat) :
    Wired target (stopNode handler id state) := by
  refine ⟨wired.redis, wired.ears, ?_⟩
  intro other node source found resource
  obtain ⟨command, attached⟩ := wired.attached other node source found resource
  refine ⟨command, ?_⟩
  cases kind : node.kind with
  | cmd => exact absurd kind command
  | _ =>
    rw [kind] at attached
    exact attached

theorem wired_survives (packages : Packages) (allowed : NodesPool → NodesMove → Prop) :
    Survives packages allowed (Wired target) where
  started := fun _ task _ wired _ _ => wired_effect wired task
  closes := by
    intro before after closes wired
    exact wired_stays wired (closes.stays fun _ => False) (fun _ => False.elim)
      (fun _ _ => False.elim) (fun _ _ _ => False.elim)
  stopped := fun pool id wired _ => wired_stopNode wired pool.tasks.length id

theorem wired_run {packages : Packages} {allowed : NodesPool → NodesMove → Prop} {pool : NodesPool}
    (reached : Runs (nodesSystem packages).Step allowed (emptyNodesPool (.redis target)) pool) :
    (survivors (Wired target)).Covers pool := by
  apply (wired_survives packages allowed).run reached
  refine ⟨rfl, by simp [NodesState.initial], ?_⟩
  intro id node source found
  cases (Store.read_empty id).symm.trans found

end Wired

/-! ## What stays as long as the node is open -/

/-- A move that does not close the node. -/
def Open (id : Nat) (_ : NodesPool) (move : NodesMove) : Prop := move ≠ .start (.closeNode id)

/-- The node is there and hears of its source. -/
def Hears (kind : NodeKind) (source id : Nat) (state : NodesState) : Prop :=
  (∃ node, state.nodes.read id = some node) ∧ Attached kind source id state

section Hears

variable {kind : NodeKind} {source id : Nat}

theorem hears_stays {builds : Nat → Prop} {before after : NodesState}
    (hears : Hears kind source id before) (stays : Stays builds before after) (old : ¬builds id) :
    Hears kind source id after := by
  obtain ⟨node, found⟩ := hears.1
  obtain ⟨later, stored, _⟩ := stays.nodes id node found
  exact ⟨⟨later, stored⟩, attached_stays stays old hears.2⟩

theorem hears_doing {speaks : NodeName → Prop} {before after : NodesState}
    (hears : Hears kind source id before) (doing : Doing speaks (fun _ => False) before after) :
    Hears kind source id after :=
  hears_stays hears (stays_of_doing doing) not_false

theorem hears_BullQueueCmdNode {packages : Packages} {state : NodesState}
    (hears : Hears kind source id state) (construction : Construction) :
    Hears kind source id (BullQueueCmdNode packages construction state).2 := by
  have queued : Doing anyNode (fun _ => False) state (queueOfCmd packages construction state) :=
    doing_queueOfCmd packages construction state
  have created := hears_doing hears queued
  rcases BullQueueCmdNode_cases packages construction state with same | same
  · rw [same]
    exact created
  · rw [same]
    let read := callback (.runtime state.nodes.size) (readBackendStatus state.nodes.size)
      (queueOfCmd packages construction state)
    have reading : Hears kind source id read :=
      ⟨created.1, attached_reading state.nodes.size created.2⟩
    have closing : Doing anyNode (fun _ => False) read (closable state.nodes.size read) :=
      doing_closable state.nodes.size read
    exact hears_doing reading closing

theorem hears_effect {packages : Packages} {state : NodesState} (hears : Hears kind source id state)
    (task : NodesTask) : Hears kind source id (nodesEffect packages task state) := by
  cases built : isDeploy task with
  | false => exact hears_doing hears (doing_nodesEffect packages built state)
  | true =>
    cases task with
    | deploy new construction =>
      have old : id ≠ state.nodes.size := by
        obtain ⟨node, found⟩ := hears.1
        have bound := Store.lt_size_of_read found
        omega
      cases new with
      | cmd => exact hears_BullQueueCmdNode hears construction
      | run =>
        have doing : Doing anyNode (· = state.nodes.size) state
            (BullQueueRunNode packages construction state).2 :=
          doing_BullQueueRunNode packages construction trivial rfl
        exact hears_stays hears (stays_of_doing doing) old
      | events =>
        have doing : Doing anyNode (· = state.nodes.size) state
            (BullEventsNode packages construction state).2 :=
          doing_BullEventsNode packages construction trivial rfl
        exact hears_stays hears (stays_of_doing doing) old
      | flow =>
        have doing : Doing anyNode (· = state.nodes.size) state
            (BullFlowNode packages construction state).2 :=
          doing_BullFlowNode packages construction trivial rfl
        exact hears_stays hears (stays_of_doing doing) old
    | _ => cases built

theorem hears_stopNode {state : NodesState} (hears : Hears kind source id state) {other : Nat}
    (different : id ≠ other) (handler : Nat) :
    Hears kind source id (stopNode handler other state) := by
  refine ⟨hears.1, ?_⟩
  have attached := hears.2
  cases kind with
  | cmd => exact ⟨attached.1, List.mem_filter.mpr ⟨attached.2, by simpa using different⟩⟩
  | run => exact attached
  | events => exact attached
  | flow => exact attached

theorem hears_survives (packages : Packages) :
    Survives packages (Open id) (Hears kind source id) where
  started := fun _ task _ hears _ _ => hears_effect hears task
  closes := fun _ _ closes hears => hears_stays hears (closes.stays fun _ => False) not_false
  stopped := by
    intro pool other hears open_
    apply hears_stopNode hears
    rintro rfl
    exact open_ rfl

/-! ## Whole histories -/

variable {packages : Packages} {workerCloses : Bool}

/-- Backends and owners can emit at any time, and what they emit closes nothing. -/
theorem emissions_spec {event : LiveEvent} {task : NodesTask}
    (member : task ∈ emissions workerCloses kind source event) :
    closesSomething task = false ∧ ∀ pool, nodesLaunches pool task := by
  have cases_ : (∃ event, task = .backendEvent source event) ∨
      (∃ err, task = .emitError (.owner source) err) ∨ ∃ event, task = .ownerEvent source event := by
    unfold emissions at member
    cases event <;> cases kind <;> cases workerCloses <;> simp at member <;> simp [member]
  rcases cases_ with ⟨event, rfl⟩ | ⟨err, rfl⟩ | ⟨event, rfl⟩
  · exact ⟨rfl, fun _ => trivial⟩
  · exact ⟨rfl, fun _ => trivial⟩
  · exact ⟨rfl, fun _ => trivial⟩

theorem covers_emit {pool : NodesPool} (covers : (survivors (Hears kind source id)).Covers pool)
    (event : LiveEvent) :
    (survivors (Hears kind source id)).Covers
      (emit packages workerCloses kind source pool event) := by
  have all : ∀ (tasks : List NodesTask) pool, (∀ task ∈ tasks, closesSomething task = false ∧
      ∀ pool, nodesLaunches pool task) → (survivors (Hears kind source id)).Covers pool →
        (survivors (Hears kind source id)).Covers
          (tasks.foldl (nodesSystem packages).start pool) := by
    intro tasks
    induction tasks with
    | nil => exact fun _ _ covered => covered
    | cons task rest ih =>
      intro pool each covered
      obtain ⟨ordinary, launched⟩ := each task (by simp)
      have open_ : Open id pool (.start task) := by
        rintro same
        cases same
        cases ordinary
      have next := (hears_survives packages).step covered open_ (.start (launched pool))
      exact ih _ (fun other member => each other (List.mem_cons_of_mem _ member)) next
  exact all _ pool (fun _ member => emissions_spec member) covers

theorem visible_emit {pool : NodesPool} {status : NodeStatus}
    (attached : Attached kind source id pool.shared)
    (shown : visible id pool.shared.acts = some status) (event : LiveEvent) :
    visible id (emit packages workerCloses kind source pool event).shared.acts =
      some (shownAfter workerCloses kind status event) := by
  have one : ∀ {task}, closesSomething task = false →
      emissions workerCloses kind source event = [task] →
        (emit packages workerCloses kind source pool event).shared =
          nodesEffect packages task pool.shared := by
    intro task ordinary same
    unfold emit
    rw [same]
    exact shared_start packages ordinary pool
  -- What a listener for an event of the worker shows, or keeps where there is none.
  have heard : ∀ event, (⟨source, event, id⟩ : OwnerListener) ∈ pool.shared.ownerListeners →
      visible id (emitOwner source event pool.shared).acts = some (ownerStatus event) := by
    intro event member
    classical rw [visible_emitOwner, if_pos ⟨_, member, ⟨rfl, rfl⟩, rfl⟩]
  have unheard : ∀ event, (∀ listener ∈ pool.shared.ownerListeners, listener.node ≠ id) →
      visible id (emitOwner source event pool.shared).acts = some status := by
    intro event deaf
    have none_ : ¬∃ listener ∈ pool.shared.ownerListeners,
        (listener.owner = source ∧ listener.event = event) ∧ listener.node = id := by
      intro given
      obtain ⟨listener, member, _, own⟩ := given
      exact deaf listener member own
    classical rw [visible_emitOwner, if_neg none_, shown]
  cases kind with
  | cmd =>
    obtain ⟨watched, reading⟩ := attached
    cases event with
    | error err =>
      rw [one rfl rfl]
      exact visible_emitBackend .error watched reading
    | close =>
      rw [one rfl rfl]
      exact visible_emitBackend .close watched reading
    | ready =>
      rw [one rfl rfl]
      exact visible_emitBackend .ready watched reading
  | run =>
    obtain ⟨listening, ready, closed⟩ := attached
    cases event with
    | error err =>
      rw [one rfl rfl]
      exact visible_emitError packages err source pool.shared listening
    | close =>
      cases workerCloses with
      | true =>
        rw [one rfl rfl]
        exact heard .closed closed
      | false => exact shown
    | ready =>
      rw [one rfl rfl]
      exact heard .ready ready
  | events =>
    obtain ⟨listening, deaf⟩ := attached
    cases event with
    | error err =>
      rw [one rfl rfl]
      exact visible_emitError packages err source pool.shared listening
    | close =>
      rw [one rfl rfl]
      exact unheard .closed deaf
    | ready =>
      rw [one rfl rfl]
      exact unheard .ready deaf
  | flow =>
    obtain ⟨listening, deaf⟩ := attached
    cases event with
    | error err =>
      rw [one rfl rfl]
      exact visible_emitError packages err source pool.shared listening
    | close =>
      rw [one rfl rfl]
      exact unheard .closed deaf
    | ready =>
      rw [one rfl rfl]
      exact unheard .ready deaf

/-- What the node shows in the course of a run depends on the events of its source alone. -/
theorem liveRun_spec {first last : NodesPool} {events : List LiveEvent}
    (covers : (survivors (Hears kind source id)).Covers first)
    (shown : visible id first.shared.acts = some .connected)
    (run : LiveRun packages workerCloses kind source id first last events) :
    (survivors (Hears kind source id)).Covers last ∧ visible id last.shared.acts =
      some (shownBy workerCloses kind events) := by
  induction run with
  | start => exact ⟨covers, shown⟩
  | event event _ ih =>
    obtain ⟨covered, status⟩ := ih
    rw [shownBy_snoc]
    exact ⟨covers_emit covered event, visible_emit covered.1.2 status event⟩
  | other _ made open_ silent ih =>
    obtain ⟨covered, status⟩ := ih
    exact ⟨(hears_survives packages).step covered open_ made, silent.trans status⟩

/-- There is such a run, with nothing in between. -/
theorem liveRun_exists (first : NodesPool) (events : List LiveEvent) :
    ∃ last, LiveRun packages workerCloses kind source id first last events := by
  induction events using List.reverseRecOn with
  | nil => exact ⟨first, .start⟩
  | append_singleton before event ih =>
    obtain ⟨pool, run⟩ := ih
    exact ⟨_, .event event run⟩

end Hears

/-! ## Which events a node can follow -/

/-- After each event, what the node shows is what it should show. -/
def Agrees (workerCloses : Bool) (kind : NodeKind) (events : List LiveEvent) : Prop :=
  ∀ before event after, events = before ++ event :: after →
    shownBy workerCloses kind (before ++ [event]) = expected event

section Tracks

variable {workerCloses : Bool}

/-- A worker that does not emit `closed` shows a close only where something else has. -/
theorem tracks_run (events : List LiveEvent) :
    Agrees false .run events ↔ ∀ before after, events = before ++ .close :: after →
      ∃ earlier event, before = earlier ++ [event] ∧ event ≠ .ready := by
  constructor
  · intro agrees before after split
    have shown : shownBy false .run (before ++ [.close]) = .disconnected :=
      agrees before .close after split
    rw [shownBy_snoc] at shown
    rcases List.eq_nil_or_concat before with rfl | ⟨earlier, event, rfl⟩
    · cases shown
    · refine ⟨earlier, event, List.concat_eq_append, ?_⟩
      rintro rfl
      rw [List.concat_eq_append, shownBy_snoc] at shown
      cases shown
  · intro tracks before
    induction before using List.reverseRecOn with
    | nil =>
      intro event after split
      cases event with
      | error err => rfl
      | ready => rfl
      | close =>
        obtain ⟨earlier, event, same, _⟩ := tracks [] after split
        exact absurd same.symm (by simp)
    | append_singleton earlier last ih =>
      intro event after split
      have shown := ih last (event :: after) (by rw [split, List.append_assoc]; rfl)
      rw [shownBy_snoc, shown]
      cases event with
      | error err => rfl
      | ready => rfl
      | close =>
        obtain ⟨front, event, same, different⟩ := tracks (earlier ++ [last]) after split
        obtain ⟨_, last_eq⟩ := List.append_inj' same rfl
        cases last_eq
        cases last with
        | ready => exact absurd rfl different
        | error err => rfl
        | close => rfl

/-- The nodes that await their readiness once hear of errors only. -/
def Awaits (kind : NodeKind) : Prop := kind = .events ∨ kind = .flow

theorem shownAfter_awaits (workerCloses : Bool) {kind : NodeKind} (awaits : Awaits kind)
    (status : NodeStatus) :
    (∀ err, shownAfter workerCloses kind status (.error err) = .disconnected) ∧
      shownAfter workerCloses kind status .close = status ∧
        shownAfter workerCloses kind status .ready = status := by
  rcases awaits with rfl | rfl
  · exact ⟨fun _ => rfl, rfl, rfl⟩
  · exact ⟨fun _ => rfl, rfl, rfl⟩

theorem shownBy_awaits (workerCloses : Bool) {kind : NodeKind} (awaits : Awaits kind)
    (events : List LiveEvent) :
    ((∃ err, .error err ∈ events) ∧ shownBy workerCloses kind events = .disconnected) ∨
      (∀ err, .error err ∉ events) ∧ shownBy workerCloses kind events = .connected := by
  induction events using List.reverseRecOn with
  | nil => exact .inr ⟨by simp, rfl⟩
  | append_singleton before event ih =>
    obtain ⟨failed, closed, ready⟩ :=
      shownAfter_awaits workerCloses awaits (shownBy workerCloses kind before)
    rw [shownBy_snoc]
    cases event with
    | error err => exact .inl ⟨⟨err, by simp⟩, failed err⟩
    | close =>
      rw [closed]
      simpa using ih
    | ready =>
      rw [ready]
      simpa using ih

theorem tracks_awaits {kind : NodeKind} (awaits : Awaits kind) (events : List LiveEvent) :
    Agrees workerCloses kind events ↔ ∀ before event after, events = before ++ event :: after →
      (event = .close → ∃ err, .error err ∈ before) ∧
        (event = .ready → ∀ err, .error err ∉ before) := by
  have each : ∀ before event, shownBy workerCloses kind (before ++ [event]) = expected event ↔
      (event = .close → ∃ err, .error err ∈ before) ∧
        (event = .ready → ∀ err, .error err ∉ before) := by
    intro before event
    obtain ⟨failed, closed, ready⟩ :=
      shownAfter_awaits workerCloses awaits (shownBy workerCloses kind before)
    rw [shownBy_snoc]
    rcases shownBy_awaits workerCloses awaits before with ⟨⟨err, member⟩, shown⟩ | ⟨clean, shown⟩
    · cases event with
      | error other => simp [failed other, expected]
      | close =>
        rw [closed, shown]
        exact iff_of_true rfl ⟨fun _ => ⟨err, member⟩, fun same => (by cases same)⟩
      | ready =>
        rw [ready, shown]
        exact iff_of_false (by decide) fun given => given.2 rfl err member
    · cases event with
      | error other => simp [failed other, expected]
      | close =>
        rw [closed, shown]
        apply iff_of_false (by decide)
        intro given
        obtain ⟨err, member⟩ := given.1 rfl
        exact clean err member
      | ready =>
        rw [ready, shown]
        exact iff_of_true rfl ⟨fun same => (by cases same), fun _ => clean⟩
  constructor
  · exact fun agrees before event after split => (each before event).mp (agrees _ _ after split)
  · exact fun tracks before event after split => (each before event).mpr (tracks _ _ after split)

theorem tracks_iff (kind : NodeKind) (events : List LiveEvent) :
    Agrees workerCloses kind events ↔ Tracks workerCloses kind events := by
  cases kind with
  | cmd =>
    apply iff_of_true _ trivial
    intro before event after split
    rw [shownBy_snoc]
    cases event <;> rfl
  | run =>
    cases workerCloses with
    | true =>
      apply iff_of_true _ (.inl rfl)
      intro before event after split
      rw [shownBy_snoc]
      cases event <;> rfl
    | false =>
      rw [tracks_run]
      constructor
      · exact .inr
      · exact fun tracks => tracks.elim (fun same => by cases same) id
  | events => exact tracks_awaits (.inl rfl) events
  | flow => exact tracks_awaits (.inr rfl) events

end Tracks

/-! ## Every run on Redis -/

/-- The resource of the node, or the shared queue that a `bullmq cmd` node reads about. -/
def Serves (node : RuntimeNode) (id source : Nat) (config : ConfigState) : Prop :=
  match node.kind with
  | .cmd => source ∈ config.watched ∧ id ∈ config.backendReaders
  | _ => node.resource = some source

/-- From where a node on Redis shows that it is connected, it shows after each live event what it
should in all runs exactly if its kind can follow the events. -/
theorem status_follows_iff {packages : Packages} {target : RedisConfig} {pool : NodesPool}
    (reached : Runs (nodesSystem packages).Step anyMove (emptyNodesPool (.redis target)) pool)
    {id source : Nat} {node : RuntimeNode} (found : pool.shared.nodes.read id = some node)
    (serves : Serves node id source pool.shared.config)
    (shown : visible id pool.shared.acts = some .connected) (workerCloses : Bool)
    (events : List LiveEvent) :
    Follows packages workerCloses node.kind source id pool events ↔
      Tracks workerCloses node.kind events := by
  have wired := wired_run reached
  have attached : Attached node.kind source id pool.shared := by
    unfold Serves at serves
    cases kind : node.kind with
    | cmd =>
      rw [kind] at serves
      exact serves
    | _ =>
      rw [kind] at serves
      rw [← kind]
      exact (wired.1.attached id node source found serves).2
  have covers : (survivors (Hears node.kind source id)).Covers pool :=
    survivors_covers wired ⟨⟨node, found⟩, attached⟩
  rw [← tracks_iff]
  constructor
  · intro follows before event after split
    obtain ⟨last, run⟩ := liveRun_exists pool (before ++ [event])
    obtain ⟨_, status⟩ := liveRun_spec covers shown run
    exact Option.some.inj (status.symm.trans (follows before event after last split run))
  · intro agrees before event after last split run
    obtain ⟨_, status⟩ := liveRun_spec covers shown run
    rw [status, agrees before event after split]

/-- A node that is deployed and then ready. -/
def connectedPool (kind : NodeKind) (task : NodesTask) : NodesPool :=
  let system := nodesSystem plainPackages
  system.start (system.start (emptyNodesPool plainRedis) (.deploy kind plainConstruction)) task

def refused : JsError := newError "connect ECONNREFUSED"

/-- A worker that reconnects. -/
theorem run_follows : Follows plainPackages true .run 0 0
    (connectedPool .run (.ownerEvent 0 .ready)) [.error refused, .close, .ready] := by
  have reached : Runs (nodesSystem plainPackages).Step anyMove (emptyNodesPool plainRedis)
      (connectedPool .run (.ownerEvent 0 .ready)) :=
    System.runs_start (System.runs_start (Runs.refl _) _ trivial trivial) _ trivial trivial
  let worker : RuntimeNode := ⟨.run, some 0, .nothing, true⟩
  have found : (connectedPool .run (.ownerEvent 0 .ready)).shared.nodes.read 0 = some worker := rfl
  have serves : Serves worker 0 0 (connectedPool .run (.ownerEvent 0 .ready)).shared.config := rfl
  have tracks : Tracks true worker.kind [.error refused, .close, .ready] := Or.inl rfl
  exact (status_follows_iff reached found serves rfl true _).mpr tracks

/-- `bullmq events` does not hear that its backend is ready again. -/
theorem events_stay_disconnected : ∃ pool,
    Runs (nodesSystem plainPackages).Step anyMove (emptyNodesPool plainRedis) pool ∧
      ∃ node, pool.shared.nodes.read 0 = some node ∧ node.kind = .events ∧
        Serves node 0 0 pool.shared.config ∧
        visible 0 pool.shared.acts = some .connected ∧
        ¬Follows plainPackages true .events 0 0 pool [.error refused, .ready] := by
  have deployed : Runs (nodesSystem plainPackages).Step anyMove (emptyNodesPool plainRedis)
      ((nodesSystem plainPackages).start (emptyNodesPool plainRedis)
        (.deploy .events plainConstruction)) := System.runs_start (Runs.refl _) _ trivial trivial
  refine ⟨connectedPool .events (.readiness 0 none), ?_, _, rfl, rfl, rfl, rfl, ?_⟩
  · exact System.runs_start deployed _ ⟨_, rfl, rfl⟩ trivial
  · intro follows
    have recovered := follows [.error refused] .ready [] _ rfl
      (.event .ready (.event (.error refused) .start))
    have shown : visible 0 (emit plainPackages true .events 0 (emit plainPackages true .events 0
        (connectedPool .events (.readiness 0 none)) (.error refused)) .ready).shared.acts =
      some .disconnected := rfl
    cases shown.symm.trans recovered

end NodeRedBull.LiveStatus
