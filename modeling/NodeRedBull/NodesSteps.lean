import NodeRedBull.RuntimeNodes
import NodeRedBull.ConfigCalls

/-! What one task of the runtime nodes does: which callbacks it runs, and what it leaves. -/

namespace NodeRedBull.NodesSteps
open Js Library Connections ConfigNode ConfigBooks ConfigStep ConfigCalls RuntimeNodes

theorem kept_markReady (id resource : Nat) (config : ConfigState) :
    Kept config.listeners (markReady id resource config).listeners := by
  intro listener member
  refine ⟨_, List.mem_map_of_mem member, ?_⟩
  split
  · exact ⟨rfl, rfl⟩
  · exact ⟨rfl, rfl⟩

theorem callback_acts {who : NodeName} {operation : ConfigState → ConfigState} {state : NodesState}
    {effects : List Effect} (grown : (operation state.config).trace = state.config.trace ++ effects) :
    (callback who operation state).acts = state.acts ++ effects.map (actOf who) := by
  unfold callback
  dsimp only
  rw [grown, List.drop_left]

/-! ## What a task does -/

/-- Every node is still there, of the same kind. -/
def Evolves (before after : Store RuntimeNode) : Prop :=
  ∀ id node, before.read id = some node → ∃ later, after.read id = some later ∧
    later.kind = node.kind

/-- What a step leaves of the nodes and their listeners, except for the node that it `builds`. -/
structure Stays (builds : Nat → Prop) (before after : NodesState) : Prop where
  config : after.config.config = before.config.config
  watched : before.config.watched ⊆ after.config.watched
  readers : after.config.backendReaders = before.config.backendReaders
  listeners : Kept before.config.listeners after.config.listeners
  nodes : Evolves before.nodes after.nodes
  known : ∀ id later, after.nodes.read id = some later → builds id ∨ later.resource = none ∨
    ∃ node, before.nodes.read id = some node ∧ later.kind = node.kind ∧
      later.resource = node.resource
  ears : ∀ listener ∈ before.ownerListeners, listener ∈ after.ownerListeners
  added : ∀ listener ∈ after.ownerListeners, listener ∈ before.ownerListeners ∨
    builds listener.node

/-- Callbacks that speak about such nodes, and changes that nobody sees. -/
inductive Doing (speaks : NodeName → Prop) (builds : Nat → Prop) :
    NodesState → NodesState → Prop where
  | speak {state : NodesState} (who : NodeName) {operation : ConfigState → ConfigState}
      (calls : Calls (fun node => node = who → speaks who) state.config (operation state.config)) :
      Doing speaks builds state (callback who operation state)
  | still {before after : NodesState} (acts : after.acts = before.acts)
      (stays : Stays builds before after) : Doing speaks builds before after
  | trans {first second third : NodesState} (left : Doing speaks builds first second)
      (right : Doing speaks builds second third) : Doing speaks builds first third

theorem Evolves.refl (nodes : Store RuntimeNode) : Evolves nodes nodes :=
  fun _ node found => ⟨node, found, rfl⟩

theorem Evolves.trans {first second third : Store RuntimeNode} (left : Evolves first second)
    (right : Evolves second third) : Evolves first third := by
  intro id node found
  obtain ⟨middle, read, kind⟩ := left id node found
  obtain ⟨later, stored, kind'⟩ := right id middle read
  exact ⟨later, stored, kind'.trans kind⟩

theorem evolves_modify (nodes : Store RuntimeNode) (id : Nat) {change : RuntimeNode → RuntimeNode}
    (kind : ∀ node, (change node).kind = node.kind) : Evolves nodes (nodes.modify id change) := by
  intro other node found
  rw [Store.read_modify]
  by_cases same : other = id
  · rw [if_pos same, ← same, found]
    exact ⟨change node, rfl, kind node⟩
  · rw [if_neg same]
    exact ⟨node, found, rfl⟩

theorem evolves_alloc (nodes : Store RuntimeNode) (added : RuntimeNode) :
    Evolves nodes (nodes.alloc added).2 := by
  intro id node found
  have bound := Store.lt_size_of_read found
  rw [Store.read_alloc, if_neg (by omega)]
  exact ⟨node, found, rfl⟩

section Doing

variable {speaks : NodeName → Prop} {builds : Nat → Prop}

theorem Stays.refl (state : NodesState) : Stays builds state state where
  config := rfl
  watched := List.Subset.refl _
  readers := rfl
  listeners := .refl _
  nodes := .refl _
  known := fun _ later found => .inr (.inr ⟨later, found, rfl, rfl⟩)
  ears := fun _ member => member
  added := fun _ member => .inl member

theorem Stays.trans {first second third : NodesState} (left : Stays builds first second)
    (right : Stays builds second third) : Stays builds first third where
  config := right.config.trans left.config
  watched := List.Subset.trans left.watched right.watched
  readers := right.readers.trans left.readers
  listeners := left.listeners.trans right.listeners
  nodes := left.nodes.trans right.nodes
  known := by
    intro id later found
    rcases right.known id later found with own | none | ⟨middle, read, kind, resource⟩
    · exact .inl own
    · exact .inr (.inl none)
    · rcases left.known id middle read with own | none | ⟨node, stored, kind', resource'⟩
      · exact .inl own
      · exact .inr (.inl (resource.trans none))
      · exact .inr (.inr ⟨node, stored, kind.trans kind', resource.trans resource'⟩)
  ears := fun listener member => right.ears listener (left.ears listener member)
  added := by
    intro listener member
    rcases right.added listener member with old | own
    · exact left.added listener old
    · exact .inr own

theorem stays_callback {about : NodeName → Prop} {who : NodeName}
    {operation : ConfigState → ConfigState} {state : NodesState}
    (calls : Calls about state.config (operation state.config)) :
    Stays builds state (callback who operation state) where
  config := calls.config
  watched := calls.watched
  readers := calls.readers
  listeners := calls.listeners
  nodes := .refl _
  known := fun _ later found => .inr (.inr ⟨later, found, rfl, rfl⟩)
  ears := fun _ member => member
  added := fun _ member => .inl member

/-- A change of one node, which must be the one that is built if its resource changes. -/
theorem stays_change {id : Nat} {change : RuntimeNode → RuntimeNode} (state : NodesState)
    (kind : ∀ node, (change node).kind = node.kind)
    (resource : builds id ∨ ∀ node, (change node).resource = node.resource) :
    Stays builds state (state.change id change) where
  config := rfl
  watched := List.Subset.refl _
  readers := rfl
  listeners := .refl _
  nodes := evolves_modify _ _ kind
  known := by
    intro other later found
    have read : (state.nodes.modify id change).read other = some later := found
    rw [Store.read_modify] at read
    by_cases same : other = id
    · rw [if_pos same] at read
      obtain ⟨node, stored, rfl⟩ := Option.map_eq_some_iff.mp read
      rcases resource with own | kept
      · exact .inl (same ▸ own)
      · exact .inr (.inr ⟨node, same ▸ stored, kind node, kept node⟩)
    · rw [if_neg same] at read
      exact .inr (.inr ⟨later, read, rfl, rfl⟩)
  ears := fun _ member => member
  added := fun _ member => .inl member

theorem stays_createNode (kind : NodeKind) (state : NodesState) :
    Stays builds state (createNode kind state).2 where
  config := rfl
  watched := List.Subset.refl _
  readers := rfl
  listeners := .refl _
  nodes := evolves_alloc _ _
  known := by
    intro id later found
    have read : (state.nodes.alloc ⟨kind, none, .nothing, false⟩).2.read id = some later := found
    rw [Store.read_alloc] at read
    split at read
    · cases read
      exact .inr (.inl rfl)
    · exact .inr (.inr ⟨later, read, rfl, rfl⟩)
  ears := fun _ member => member
  added := fun _ member => .inl member

theorem stays_listen {id owner : Nat} (own : builds id) (event : OwnerEvent) (state : NodesState) :
    Stays builds state (listen ⟨owner, event, id⟩ state) where
  config := rfl
  watched := List.Subset.refl _
  readers := rfl
  listeners := .refl _
  nodes := .refl _
  known := fun _ later found => .inr (.inr ⟨later, found, rfl, rfl⟩)
  ears := fun _ member => List.mem_append_left _ member
  added := by
    intro listener member
    rcases List.mem_append.mp member with old | new
    · exact .inl old
    · rw [List.mem_singleton.mp new]
      exact .inr own

/-- What changes neither the nodes nor what they listen to with a resource of their own. -/
theorem stays_config {before after : NodesState} (nodes : after.nodes = before.nodes)
    (ears : after.ownerListeners = before.ownerListeners)
    (config : after.config.config = before.config.config)
    (watched : before.config.watched ⊆ after.config.watched)
    (readers : after.config.backendReaders = before.config.backendReaders)
    (listeners : Kept before.config.listeners after.config.listeners) :
    Stays builds before after where
  config := config
  watched := watched
  readers := readers
  listeners := listeners
  nodes := by
    rw [nodes]
    exact .refl _
  known := by
    intro id later found
    rw [nodes] at found
    exact .inr (.inr ⟨later, found, rfl, rfl⟩)
  ears := by
    rw [ears]
    exact fun _ member => member
  added := by
    rw [ears]
    exact fun _ member => .inl member

theorem Doing.refl (state : NodesState) : Doing speaks builds state state :=
  .still rfl (.refl _)

/-- A callback of a node that may speak. -/
theorem Doing.heard {who : NodeName} (may : speaks who) {about : NodeName → Prop}
    {operation : ConfigState → ConfigState} {state : NodesState}
    (calls : Calls about state.config (operation state.config)) :
    Doing speaks builds state (callback who operation state) :=
  .speak who (calls.mono fun _ _ _ => may)

theorem stays_of_doing {before after : NodesState} (doing : Doing speaks builds before after) :
    Stays builds before after := by
  induction doing with
  | speak who calls => exact stays_callback calls
  | still acts stays => exact stays
  | trans _ _ left right => exact left.trans right

theorem doing_waitFor (id : Nat) (pending : Pending) (state : NodesState) :
    Doing speaks builds state (waitFor id pending state) :=
  .still rfl (stays_change state (fun _ => rfl) (.inr fun _ => rfl))

theorem doing_failWith (failures : List JsError) (state : NodesState) :
    Doing speaks builds state (state.failWith failures) :=
  .still rfl (stays_config rfl rfl rfl (List.Subset.refl _) rfl (.refl _))

theorem doing_setStatus {id : Nat} (may : speaks (.runtime id)) (status : NodeStatus)
    (state : NodesState) : Doing speaks builds state (RuntimeNodes.setStatus id status state) := by
  have recorded : Calls (· = .runtime id) state.config
      (state.config.record (.status (.runtime id) status)) := (Calls.refl _).record rfl
  exact Doing.heard may recorded

theorem doing_ready {id : Nat} (may : speaks (.runtime id)) (resource : Nat) (state : NodesState) :
    Doing speaks builds state (ready id resource state) := by
  have marked : Calls (· = .runtime id) state.config (markReady id resource state.config) :=
    .still rfl (List.Subset.refl _) (kept_markReady id resource _) rfl rfl
  have shown : Calls (· = .runtime id) state.config
      ((markReady id resource state.config).record (.status (.runtime id) .connected)) :=
    marked.record rfl
  exact Doing.heard may shown

theorem doing_foldl {α : Type} {step : NodesState → α → NodesState} {items : List α}
    (each : ∀ item ∈ items, ∀ state, Doing speaks builds state (step state item)) (state : NodesState) :
    Doing speaks builds state (items.foldl step state) := by
  induction items generalizing state with
  | nil => exact .refl state
  | cons item rest ih =>
    exact (each item (by simp) state).trans
      (ih (fun other member => each other (List.mem_cons_of_mem _ member)) _)

theorem doing_emitError (packages : Packages) (emitter : Emitter) (err : JsError)
    {state : NodesState} (may : ∀ listener ∈ state.config.listeners, listener.emitter = emitter →
      speaks listener.node) : Doing speaks builds state (emitError packages emitter err state) := by
  apply (doing_failWith [err] state).trans
  apply doing_foldl
  intro listener member before
  obtain ⟨registered, emits⟩ := List.mem_filter.mp member
  exact Doing.heard (may listener registered (of_decide_eq_true emits))
    (calls_onError packages err before.config listener)

theorem doing_emitOwner (owner : Nat) (event : OwnerEvent) {state : NodesState}
    (may : ∀ listener ∈ state.ownerListeners, listener.owner = owner → listener.event = event →
      speaks (.runtime listener.node)) : Doing speaks builds state (emitOwner owner event state) := by
  apply doing_foldl
  intro listener member before
  obtain ⟨registered, emits⟩ := List.mem_filter.mp member
  obtain ⟨same, kind⟩ := of_decide_eq_true emits
  have speaker := may listener registered same kind
  unfold onOwnerEvent
  cases listener.event with
  | ready => exact doing_ready speaker listener.owner before
  | closed => exact doing_setStatus speaker .disconnected before

theorem doing_emitBackend (queue : Nat) (event : BackendEvent) (state : NodesState) :
    Doing speaks builds state (emitBackend queue event state) := by
  unfold emitBackend
  split
  · exact .speak .config (calls_backendEvent event state.config)
  · exact .refl state

theorem doing_seed (packages : Packages) (queue : Nat) (failure : Option JsError)
    {state : NodesState} (may : ∀ err, failure = some err →
      state.config.backendStatus = .connecting →
      state.config.backendFailures.contains (describeBackendFailure packages err).1 = false →
        speaks .config) : Doing speaks builds state (seed packages queue failure state) := by
  apply (doing_failWith failure.toList state).trans
  apply Doing.speak .config
  apply calls_readiness
  intro err rejected connecting fresh _
  exact may err rejected connecting fresh

theorem doing_workerFailed (packages : Packages) {id worker : Nat} (workerReady : Bool)
    (err : JsError) {state : NodesState}
    (may : closing worker state = false → speaks (.runtime id)) :
    Doing speaks builds state (workerFailed packages id worker workerReady err state) := by
  unfold workerFailed
  split
  next => exact .refl state
  next open_ =>
    have heard : speaks (.runtime id) := may (by simpa using open_)
    have shown : Calls anyNode state.config
        (state.config.record (.status (.runtime id) .disconnected)) := (Calls.refl _).record trivial
    have spoken : Calls anyNode state.config (if workerReady then
        (state.config.record (.status (.runtime id) .disconnected)).record
          (.nodeError (.runtime id) err.message)
        else reportBackendFailure packages err
          (state.config.record (.status (.runtime id) .disconnected))) := by
      cases workerReady with
      | true => exact shown.record trivial
      | false => exact shown.trans (calls_report packages err trivial _)
    exact Doing.heard heard spoken

theorem doing_startPostgresWorker (packages : Packages) {id worker : Nat}
    (failure : Option JsError) {state : NodesState}
    (may : closing worker state = false → speaks (.runtime id)) :
    Doing speaks builds state (startPostgresWorker packages id worker failure state) := by
  unfold startPostgresWorker
  cases failure with
  | none =>
    dsimp only
    split
    next => exact doing_waitFor id .nothing state
    next open_ =>
      have heard : speaks (.runtime id) := may (by simpa using open_)
      exact (doing_waitFor id .running state).trans (doing_ready heard worker _)
  | some err =>
    exact (doing_waitFor id .nothing state).trans (doing_workerFailed packages false err may)

theorem doing_updateReadyStatus (packages : Packages) {id : Nat} (resource : Nat)
    (failure : Option JsError) {state : NodesState} (may : speaks (.runtime id)) :
    Doing speaks builds state (updateReadyStatus packages id resource failure state) := by
  apply (doing_waitFor id .nothing state).trans
  cases failure with
  | none => exact doing_ready may resource _
  | some err =>
    have shown : Calls anyNode state.config
        (state.config.record (.status (.runtime id) .disconnected)) := (Calls.refl _).record trivial
    have spoken : Calls anyNode state.config (if state.isPostgres then
        reportBackendFailure packages err
          (state.config.record (.status (.runtime id) .disconnected))
        else (state.config.record (.status (.runtime id) .disconnected)).record
          (.nodeError (.runtime id) err.message)) := by
      split
      · exact shown.trans (calls_report packages err trivial _)
      · exact shown.record trivial
    unfold updateReadyStatus
    apply Doing.heard may
    exact spoken

/-- The routine of a run node whose worker is closing says nothing any more. -/
def Guarded (id : Nat) (state : NodesState) : Prop :=
  ∃ node worker, state.nodes.read id = some node ∧ node.kind = .run ∧
    node.resource = some worker ∧ closing worker state = true

theorem not_guarded_of_open {id worker : Nat} {state : NodesState} {node : RuntimeNode}
    (found : state.nodes.read id = some node) (holds : node.resource = some worker)
    (open_ : closing worker state = false) : ¬Guarded id state := by
  intro guarded
  obtain ⟨other, held, read, _, same, closed⟩ := guarded
  cases found.symm.trans read
  cases holds.symm.trans same
  rw [open_] at closed
  cases closed

theorem not_guarded_of_kind {id : Nat} {state : NodesState} {node : RuntimeNode}
    (found : state.nodes.read id = some node) (other : node.kind ≠ .run) : ¬Guarded id state := by
  intro guarded
  obtain ⟨run, _, read, kind, _⟩ := guarded
  cases found.symm.trans read
  exact other kind

theorem doing_readiness (packages : Packages) {id : Nat} (failure : Option JsError)
    {state : NodesState} (may : ¬Guarded id state → speaks (.runtime id)) :
    Doing speaks builds state (readiness packages id failure state) := by
  have seen : Doing speaks builds state (state.failWith failure.toList) := doing_failWith _ state
  unfold readiness
  dsimp only
  split
  next worker pending closes found =>
    apply seen.trans
    apply doing_startPostgresWorker
    intro open_
    exact may (not_guarded_of_open found rfl open_)
  next resource pending closes found =>
    apply seen.trans (doing_updateReadyStatus packages resource failure (may _))
    exact not_guarded_of_kind found (by simp)
  next resource pending closes found =>
    apply seen.trans (doing_updateReadyStatus packages resource failure (may _))
    exact not_guarded_of_kind found (by simp)
  next => exact seen

theorem doing_running (packages : Packages) {id : Nat} (failure : Option JsError)
    {state : NodesState} (may : failure ≠ none → ¬Guarded id state → speaks (.runtime id)) :
    Doing speaks builds state (running packages id failure state) := by
  apply (doing_waitFor id .nothing state).trans
  unfold running
  dsimp only
  split
  next worker pending closes err found =>
    apply doing_workerFailed
    intro open_
    exact may (by simp) (not_guarded_of_open found rfl open_)
  next => exact .refl _

/-! ### Constructors -/

theorem doing_createNode (kind : NodeKind) (state : NodesState) :
    Doing speaks builds state (createNode kind state).2 :=
  .still rfl (stays_createNode kind state)

theorem doing_change {id : Nat} {change : RuntimeNode → RuntimeNode} (state : NodesState)
    (kind : ∀ node, (change node).kind = node.kind)
    (resource : builds id ∨ ∀ node, (change node).resource = node.resource) :
    Doing speaks builds state (state.change id change) :=
  .still rfl (stays_change state kind resource)

/-- A function of the configuration node that a runtime node calls. -/
theorem doing_called {α : Type} {id : Nat} {operation : Sync α} {state : NodesState}
    (calls : Calls Shared state.config (operation state.config).2) :
    Doing speaks builds state (called (.runtime id) operation state).2 := by
  have silent : Calls (fun node => node = .runtime id → speaks (.runtime id)) state.config
      (operation state.config).2 := by
    apply calls.mono
    intro node config same
    rw [config] at same
    cases same
  unfold called
  dsimp only
  apply Doing.speak
  exact silent

theorem doing_getQueueFor (packages : Packages) (id : Nat) (construction : Construction)
    (state : NodesState) :
    Doing speaks builds state (getQueueFor packages (.runtime id) construction state).2 := by
  have calls : ∀ config, Calls Shared config (getQueue packages construction config).2 :=
    fun config => calls_getQueue packages construction shared_config config
  unfold getQueueFor
  split
  · exact (doing_failWith _ state).trans (doing_called (calls _))
  · exact doing_called (calls _)

theorem doing_attachOwnListener (id resource : Nat) (state : NodesState) :
    Doing speaks builds state (attachOwnListener id resource state) :=
  .still rfl (stays_config rfl rfl rfl (List.Subset.refl _) rfl (kept_append _ _))

theorem doing_listen {id owner : Nat} (own : builds id) (event : OwnerEvent) (state : NodesState) :
    Doing speaks builds state (listen ⟨owner, event, id⟩ state) :=
  .still rfl (stays_listen own event state)

theorem doing_wireWorker {id : Nat} (may : speaks (.runtime id)) (own : builds id) (worker : Nat)
    (state : NodesState) : Doing speaks builds state (wireWorker id worker state) := by
  have attached : Doing speaks builds state (attachOwnListener id worker state) :=
    doing_attachOwnListener id worker state
  unfold wireWorker
  dsimp only
  split
  · exact attached.trans ((doing_waitFor id .readiness _).trans
      ((doing_listen own .closed _).trans (doing_setStatus may .connecting _)))
  · exact attached.trans ((doing_listen own .ready _).trans
      ((doing_listen own .closed _).trans (doing_setStatus may .connecting _)))

theorem doing_wireReadiness {id : Nat} (may : speaks (.runtime id)) (resource : Nat)
    (state : NodesState) : Doing speaks builds state (wireReadiness id resource state) :=
  (doing_attachOwnListener id resource state).trans
    ((doing_setStatus may .connecting _).trans (doing_waitFor id .readiness _))

/-- A new `bullmq cmd` node has called `getQueue`. -/
def queueOfCmd (packages : Packages) (construction : Construction) (state : NodesState) :
    NodesState :=
  (getQueueFor packages (.runtime state.nodes.size) construction (createNode .cmd state).2).2

/-- The constructor of the node has registered its close handler. -/
def closable (id : Nat) : NodesState → NodesState :=
  NodesState.change id fun node => { node with closes := true }

theorem doing_queueOfCmd (packages : Packages) (construction : Construction) (state : NodesState) :
    Doing speaks builds state (queueOfCmd packages construction state) :=
  (doing_createNode .cmd state).trans (doing_getQueueFor packages _ construction _)

theorem doing_closable (id : Nat) (state : NodesState) :
    Doing speaks builds state (closable id state) :=
  doing_change state (fun _ => rfl) (.inr fun _ => rfl)

/-- What the constructor of a `bullmq cmd` node comes to. -/
theorem BullQueueCmdNode_cases (packages : Packages) (construction : Construction)
    (state : NodesState) :
    (BullQueueCmdNode packages construction state).2 = queueOfCmd packages construction state ∨
      (BullQueueCmdNode packages construction state).2 = closable state.nodes.size
        (callback (.runtime state.nodes.size) (readBackendStatus state.nodes.size)
          (queueOfCmd packages construction state)) := by
  unfold BullQueueCmdNode
  dsimp only
  split
  next _ err after same => exact .inl (congrArg Prod.snd same).symm
  next _ queue after same =>
    have result : queueOfCmd packages construction state = after := congrArg Prod.snd same
    rw [result]
    exact .inr rfl

/-- The function of the configuration node that creates the resource of a new node. -/
def constructing (kind : NodeKind) (create : NodeName → Sync (Option Nat))
    (construction : Construction) (state : NodesState) :
    Except JsError (Option Nat) × NodesState :=
  called (.runtime state.nodes.size) (create (.runtime state.nodes.size))
    ((createNode kind state).2.failWith (failed construction))

/-- The new node keeps the resource and its close handler. -/
def holding (id resource : Nat) : NodesState → NodesState :=
  NodesState.change id fun node => { node with resource := some resource, closes := true }

theorem read_createNode (kind : NodeKind) (state : NodesState) :
    (createNode kind state).2.nodes.read state.nodes.size = some ⟨kind, none, .nothing, false⟩ := by
  show (state.nodes.alloc _).2.read state.nodes.size = _
  rw [Store.read_alloc, if_pos rfl]

theorem read_holding (kind : NodeKind) (create : NodeName → Sync (Option Nat))
    (construction : Construction) (state : NodesState) (resource : Nat) :
    (holding state.nodes.size resource
        (constructing kind create construction state).2).nodes.read state.nodes.size =
      some ⟨kind, some resource, .nothing, true⟩ := by
  show ((createNode kind state).2.nodes.modify _ _).read _ = _
  rw [Store.read_modify, if_pos rfl, read_createNode]
  rfl

/-- What the constructor of a node with a resource of its own comes to. -/
theorem withResource_cases (kind : NodeKind) (create : NodeName → Sync (Option Nat))
    (construction : Construction) (wire : Nat → Nat → NodesState → NodesState) (state : NodesState) :
    ((withResource kind create construction wire state).2 =
        (constructing kind create construction state).2 ∧
      ∃ err, (constructing kind create construction state).1 = .error err) ∨
    ((withResource kind create construction wire state).2 =
        RuntimeNodes.setStatus state.nodes.size .disconnected
          (constructing kind create construction state).2 ∧
      (constructing kind create construction state).1 = .ok none) ∨
    ∃ resource, (constructing kind create construction state).1 = .ok (some resource) ∧
      (withResource kind create construction wire state).2 = wire state.nodes.size resource
        (holding state.nodes.size resource (constructing kind create construction state).2) := by
  unfold withResource
  dsimp only
  split
  next _ err after same =>
    have result : constructing kind create construction state = (.error err, after) := same
    rw [result]
    exact .inl ⟨rfl, err, rfl⟩
  next _ after same =>
    have result : constructing kind create construction state = (.ok none, after) := same
    rw [result]
    exact .inr (.inl ⟨rfl, rfl⟩)
  next _ resource after same =>
    have result : constructing kind create construction state = (.ok (some resource), after) := same
    rw [result]
    exact .inr (.inr ⟨resource, rfl, rfl⟩)

theorem doing_withResource {kind : NodeKind} {create : NodeName → Sync (Option Nat)}
    {construction : Construction} {wire : Nat → Nat → NodesState → NodesState} {state : NodesState}
    (may : speaks (.runtime state.nodes.size)) (own : builds state.nodes.size)
    (calls : ∀ node config, Calls Shared config (create node config).2)
    (wired : ∀ resource before, Doing speaks builds before (wire state.nodes.size resource before)) :
    Doing speaks builds state (withResource kind create construction wire state).2 := by
  have created : Doing speaks builds state (constructing kind create construction state).2 :=
    (doing_createNode kind state).trans ((doing_failWith _ _).trans (doing_called (calls _ _)))
  rcases withResource_cases kind create construction wire state with
    ⟨same, _⟩ | ⟨same, _⟩ | ⟨resource, _, same⟩
  · rw [same]
    exact created
  · rw [same]
    exact created.trans (doing_setStatus may .disconnected _)
  · rw [same]
    have held : Doing speaks builds (constructing kind create construction state).2
        (holding state.nodes.size resource (constructing kind create construction state).2) :=
      doing_change _ (fun _ => rfl) (.inl own)
    exact created.trans (held.trans (wired resource _))

theorem doing_BullQueueRunNode (packages : Packages) (construction : Construction)
    {state : NodesState} (may : speaks (.runtime state.nodes.size)) (own : builds state.nodes.size) :
    Doing speaks builds state (BullQueueRunNode packages construction state).2 :=
  doing_withResource may own
    (fun node config => calls_createWorker packages node construction shared_config config)
    fun resource before => doing_wireWorker may own resource before

theorem doing_BullEventsNode (packages : Packages) (construction : Construction)
    {state : NodesState} (may : speaks (.runtime state.nodes.size)) (own : builds state.nodes.size) :
    Doing speaks builds state (BullEventsNode packages construction state).2 :=
  doing_withResource may own
    (fun node config => calls_createQueueEvents packages node construction shared_config config)
    fun resource before => doing_wireReadiness may resource before

theorem doing_BullFlowNode (packages : Packages) (construction : Construction)
    {state : NodesState} (may : speaks (.runtime state.nodes.size)) (own : builds state.nodes.size) :
    Doing speaks builds state (BullFlowNode packages construction state).2 :=
  doing_withResource may own
    (fun node config => calls_createFlowProducer packages node construction shared_config config)
    fun resource before => doing_wireReadiness may resource before

end Doing

/-! ## What a move does -/

/-- Close handlers, and the closings that they start. -/
def closesSomething : NodesTask → Bool
  | .closeNode _ | .closeConfig | .pair _ _ _ => true
  | _ => false

/-- What the start of a task that closes nothing does. -/
def nodesEffect (packages : Packages) (task : NodesTask) (state : NodesState) : NodesState :=
  match task with
  | .deploy kind construction => (deploy packages construction kind state).2
  | .getQueue caller construction => (getQueueFor packages (.runtime caller) construction state).2
  | .emitError emitter err => emitError packages emitter err state
  | .ownerEvent owner event => emitOwner owner event state
  | .backendEvent queue event => emitBackend queue event state
  | .seed queue failure => seed packages queue failure state
  | .readiness id failure => readiness packages id failure state
  | .running id failure => running packages id failure state
  | .connectionStatus connection status => onConfig (ConfigNode.setStatus connection status) state
  | _ => state

def isDeploy : NodesTask → Bool
  | .deploy _ _ => true
  | _ => false

/-- All tasks but constructors leave the nodes and their listeners there. -/
theorem doing_nodesEffect (packages : Packages) {builds : Nat → Prop} {task : NodesTask}
    (ordinary : isDeploy task = false) (state : NodesState) :
    Doing anyNode builds state (nodesEffect packages task state) := by
  cases task with
  | deploy kind construction => cases ordinary
  | getQueue caller construction => exact doing_getQueueFor packages caller construction state
  | emitError emitter err => exact doing_emitError packages emitter err fun _ _ _ => trivial
  | ownerEvent owner event => exact doing_emitOwner owner event fun _ _ _ _ => trivial
  | backendEvent queue event => exact doing_emitBackend queue event state
  | seed queue failure => exact doing_seed packages queue failure fun _ _ _ _ => trivial
  | readiness id failure => exact doing_readiness packages failure fun _ => trivial
  | running id failure => exact doing_running packages failure fun _ _ => trivial
  | connectionStatus connection status =>
    exact .still rfl (stays_config rfl rfl rfl (List.Subset.refl _) rfl (.refl _))
  | closeNode id => exact .refl state
  | closeConfig => exact .refl state
  | pair handler owner connection => exact .refl state

theorem syncNodes_segment {α : Type} (operation : NodesState → Except JsError α × NodesState)
    (state : NodesState) : ∃ result, (syncNodes operation).segment state =
      ((operation state).2, .finished result) := by
  unfold syncNodes
  rw [Async.segment_bind, Async.segment_modifyGet]
  generalize (operation state).1 = result
  cases result with
  | ok value => exact ⟨.ok (), rfl⟩
  | error err => exact ⟨.error err, rfl⟩

theorem segment_sync (packages : Packages) {task : NodesTask}
    (ordinary : closesSomething task = false) (index : Nat) (state : NodesState) :
    ∃ result, (runNodesTask packages index task).segment state =
      (nodesEffect packages task state, .finished result) := by
  cases task with
  | deploy kind construction => exact syncNodes_segment (deploy packages construction kind) state
  | getQueue caller construction =>
    exact syncNodes_segment (getQueueFor packages (.runtime caller) construction) state
  | closeNode id => cases ordinary
  | closeConfig => cases ordinary
  | pair handler owner connection => cases ordinary
  | emitError emitter err => exact ⟨_, rfl⟩
  | ownerEvent owner event => exact ⟨_, rfl⟩
  | backendEvent queue event => exact ⟨_, rfl⟩
  | seed queue failure => exact ⟨_, rfl⟩
  | readiness id failure => exact ⟨_, rfl⟩
  | running id failure => exact ⟨_, rfl⟩
  | connectionStatus connection status => exact ⟨_, rfl⟩

theorem start_sync (packages : Packages) {task : NodesTask} (ordinary : closesSomething task = false)
    (pool : NodesPool) : ∃ result, (nodesSystem packages).start pool task =
      ⟨nodesEffect packages task pool.shared, pool.tasks ++ [(task, .finished result)]⟩ := by
  obtain ⟨result, segment⟩ := segment_sync packages ordinary pool.tasks.length pool.shared
  refine ⟨result, ?_⟩
  unfold System.start
  rw [show (nodesSystem packages).body pool.tasks.length task =
    runNodesTask packages pool.tasks.length task from rfl, segment]
  rfl

theorem shared_start (packages : Packages) {task : NodesTask}
    (ordinary : closesSomething task = false) (pool : NodesPool) :
    ((nodesSystem packages).start pool task).shared = nodesEffect packages task pool.shared := by
  obtain ⟨result, started⟩ := start_sync packages ordinary pool
  rw [started]

end NodeRedBull.NodesSteps
