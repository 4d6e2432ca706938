import NodeRedBull.ClosedNodes
import NodeRedBull.Library.Reporter

/-! Node-RED waits for the close handlers of the nodes: each of them calls `done` once, with what
its closing has come to. -/

namespace NodeRedBull.NodeShutdown
open Js Library Connections ConfigNode ConfigBooks ConfigCalls RuntimeNodes NodesSteps NodesClosings
open ClosedNodes (adds_of_doing PlainRun closedPool closedPool_reached closingPool_reached)
open ConfigPairs (plainPackages plainPostgres)

/-! ## What a close handler does before it calls `done` -/

def closeCase (handler id : Nat) : Option RuntimeNode → NodesBody Unit
  | some ⟨.cmd, _, _, _⟩ => modify (callback (.runtime id) (stopReading id))
  | some ⟨_, some resource, _, _⟩ => (releaseResource handler resource).onPart configPart
  | _ => pure ()

def closeProgram (handler id : Nat) : NodesBody Unit := do
  closeCase handler id ((← get).nodes.read id)

def closeConfigProgram (handler : Nat) : NodesBody Unit := do
  let resources ← modifyGet fun state =>
    let (resources, config) := takeAll handler state.config
    (resources, { state with config })
  let _ ← Async.call (ConfigCall.all resources)
  modify (onConfig (ConfigState.record (.status .config .cleared)))

/-- The close handlers, with the node and what is done before `done`. -/
def closeOf (handler : Nat) : NodesTask → Option (NodeName × NodesBody Unit)
  | .closeNode id => some (.runtime id, closeProgram handler id)
  | .closeConfig => some (.config, closeConfigProgram handler)
  | _ => none

def doneReporter (node : NodeName) (handler : Nat) :
    Reporter NodesState ConfigCall ConfigReply JsError Unit Unit :=
  ⟨fun _ => callDone node handler none, fun err => callDone node handler (some err), ()⟩

/-- What `done` is called with. -/
def failureOf : Except JsError Unit → Option JsError
  | .ok _ => none
  | .error err => some err

def doneOf (handler : Nat) (act : Act) : Option (NodeName × Option JsError) :=
  match act.effect with
  | .done caller error => if caller = handler then some (act.node, error) else none
  | _ => none

/-- The calls of `done` by one handler. -/
def doneBy (handler : Nat) (state : NodesState) : List (NodeName × Option JsError) :=
  state.acts.filterMap (doneOf handler)

theorem doneReporter_reports (node : NodeName) (handler : Nat) :
    (doneReporter node handler).Reports
      fun outcome => NodesState.act ⟨node, .done handler (failureOf outcome)⟩ where
  returned := fun _ _ => rfl
  thrown := fun _ _ => rfl

/-! ## What is seen of a handler -/

theorem doneBy_act {handler : Nat} (node : NodeName) (error : Option JsError) (state : NodesState) :
    doneBy handler (state.act ⟨node, .done handler error⟩) =
      doneBy handler state ++ [(node, error)] := by
  have own : doneOf handler ⟨node, .done handler error⟩ = some (node, error) := if_pos rfl
  unfold doneBy NodesState.act
  rw [List.filterMap_append, List.filterMap_cons_some own]
  rfl

/-- Acts that are no `done` of the handler. -/
theorem doneBy_of_added {handler : Nat} {before after : NodesState} {added : List Act}
    (grown : after.acts = before.acts ++ added) (others : ∀ act ∈ added, doneOf handler act = none) :
    doneBy handler after = doneBy handler before := by
  unfold doneBy
  rw [grown, List.filterMap_append, List.filterMap_eq_nil_iff.mpr others, List.append_nil]

theorem doneOf_ordinary {handler : Nat} {act : Act}
    (other : ∀ caller error, act.effect ≠ .done caller error) : doneOf handler act = none := by
  unfold doneOf
  cases effect : act.effect with
  | done caller error => exact absurd effect (other caller error)
  | _ => rfl

theorem doneOf_other {handler caller : Nat} (different : caller ≠ handler) (node : NodeName)
    (error : Option JsError) : doneOf handler ⟨node, .done caller error⟩ = none :=
  if_neg different

/-- Nobody calls `done`. -/
def Hushes (before after : NodesState) : Prop := ∀ handler, doneBy handler after = doneBy handler before

theorem Hushes.refl (state : NodesState) : Hushes state state := fun _ => rfl

theorem Hushes.trans (first second third : NodesState) (left : Hushes first second)
    (right : Hushes second third) : Hushes first third :=
  fun handler => (right handler).trans (left handler)

theorem hushes_of_acts {before after : NodesState} (same : after.acts = before.acts) :
    Hushes before after := by
  intro handler
  unfold doneBy
  rw [same]

/-- What a task does that closes nothing. -/
theorem hushes_doing {speaks : NodeName → Prop} {builds : Nat → Prop} {before after : NodesState}
    (doing : Doing speaks builds before after) : Hushes before after := by
  intro handler
  obtain ⟨added, grown, heard⟩ := adds_of_doing doing
  exact doneBy_of_added grown fun act member => doneOf_ordinary (heard act member).1

theorem hushes_reading (id : Nat) (state : NodesState) :
    Hushes state (callback (.runtime id) (readBackendStatus id) state) := by
  have grown : (readBackendStatus id state.config).trace = state.config.trace ++
      [.subscribed id, .read id state.config.backendStatus] := by
    simp [readBackendStatus, ConfigState.record]
  intro handler
  apply doneBy_of_added (callback_acts grown)
  intro act member
  obtain ⟨effect, found, same⟩ := List.mem_map.mp member
  rw [← same]
  rcases List.mem_cons.mp found with subscribed | read
  · rw [subscribed]
    rfl
  · rw [List.mem_singleton.mp read]
    rfl

theorem hushes_stopReading (id : Nat) (state : NodesState) :
    Hushes state (callback (.runtime id) (stopReading id) state) := by
  have grown : (stopReading id state.config).trace = state.config.trace ++ [.unsubscribed id] := rfl
  intro handler
  apply doneBy_of_added (callback_acts grown)
  intro act member
  rw [List.mem_singleton.mp member]
  rfl

theorem hushes_deploy (packages : Packages) (construction : Construction) (kind : NodeKind)
    (state : NodesState) : Hushes state (deploy packages construction kind state).2 := by
  let anyBuilt : Nat → Prop := fun _ => True
  have may : anyNode (.runtime state.nodes.size) := trivial
  have own : anyBuilt state.nodes.size := trivial
  cases kind with
  | cmd =>
    have queued : Doing anyNode anyBuilt state (queueOfCmd packages construction state) :=
      doing_queueOfCmd packages construction state
    have closing : ∀ before, Doing anyNode anyBuilt before (closable state.nodes.size before) :=
      fun before => doing_closable state.nodes.size before
    rcases BullQueueCmdNode_cases packages construction state with same | same
    · exact same ▸ hushes_doing queued
    · have read := (hushes_doing queued).trans _ _ _ (hushes_reading state.nodes.size _)
      exact same ▸ read.trans _ _ _ (hushes_doing (closing _))
  | run => exact hushes_doing (doing_BullQueueRunNode packages construction may own)
  | events => exact hushes_doing (doing_BullEventsNode packages construction may own)
  | flow => exact hushes_doing (doing_BullFlowNode packages construction may own)

theorem hushes_effect (packages : Packages) (task : NodesTask) (state : NodesState) :
    Hushes state (nodesEffect packages task state) := by
  by_cases ordinary : isDeploy task = false
  · have doing : Doing anyNode (fun _ => False) state (nodesEffect packages task state) :=
      doing_nodesEffect packages ordinary state
    exact hushes_doing doing
  · cases task with
    | deploy kind construction => exact hushes_deploy packages construction kind state
    | _ => exact absurd rfl ordinary

/-! ## What the tasks leave alone -/

theorem respects_any {σ κ : Type} {ρ : κ → Type} {ε α : Type} (program : Async σ κ ρ ε α)
    (start now : σ) : program.Framed (fun _ _ => True) (fun _ => True) start now := by
  induction program generalizing start now with
  | pure value => trivial
  | throw error => trivial
  | read next ih => exact ih now start now
  | write state next ih => exact ih start state
  | await call next ih =>
    exact ⟨trivial, trivial, trivial, fun later _ _ reply _ => ih reply later later⟩

/-- What only changes the configuration node. -/
theorem onPart_hushes {α : Type} (body : ConfigBody α) :
    (body.onPart configPart).Respects Hushes fun _ => True := by
  intro start now near
  have whole : (body.onPart configPart).Framed (configPart.Only fun _ _ => True) (fun _ => True)
      now now := Async.framed_onPart (respects_any body _ _) rfl
  have hushes : ∀ before after, configPart.Only (fun _ _ => True) before after →
      Hushes before after := by
    intro before after only
    have rest : after = { before with config := after.config } := only.2
    apply hushes_of_acts
    rw [rest]
  exact Async.framed_weaken hushes (fun _ passed => passed)
    (fun after only => near.trans _ _ _ (hushes now after only)) whole

theorem closeProgram_hushes (handler id : Nat) :
    (closeProgram handler id).Respects Hushes fun _ => True := by
  apply Async.respects_bind Async.respects_get
  intro state
  have stops : (modify (callback (.runtime id) (stopReading id)) : NodesBody Unit).Respects Hushes
      fun _ => True := Async.respects_modify Hushes.trans (hushes_stopReading id)
  have nothing : (pure () : NodesBody Unit).Respects Hushes fun _ => True := Async.respects_pure ()
  cases state.nodes.read id with
  | none => exact nothing
  | some node =>
    obtain ⟨kind, resource, pending, closes⟩ := node
    cases kind with
    | cmd => exact stops
    | _ =>
      cases resource with
      | none => exact nothing
      | some resource => exact onPart_hushes (releaseResource handler resource)

theorem closeConfigProgram_hushes (handler : Nat) :
    (closeConfigProgram handler).Respects Hushes fun _ => True := by
  have quiet : ∀ (change : ConfigState → ConfigState) (state : NodesState),
      Hushes state (onConfig change state) := fun change state => hushes_of_acts rfl
  apply Async.respects_bind
  · exact fun start now near => near.trans _ _ _ (hushes_of_acts rfl)
  intro resources
  apply Async.respects_bind (Async.respects_call Hushes.refl trivial)
  exact fun _ => Async.respects_modify Hushes.trans (quiet _)

theorem closeOf_hushes {handler : Nat} {task : NodesTask} {node : NodeName}
    {program : NodesBody Unit} (closes : closeOf handler task = some (node, program)) :
    program.Respects Hushes fun _ => True := by
  cases task with
  | closeNode id =>
    cases closes
    exact closeProgram_hushes handler id
  | closeConfig =>
    cases closes
    exact closeConfigProgram_hushes handler
  | _ => cases closes

theorem callDone_leaves (node : NodeName) (handler : Nat) (error : Option JsError) :
    (callDone node handler error).Respects (Reporter.LeavesOthers doneBy handler) fun _ => True := by
  apply Async.respects_modify
  · exact fun _ _ _ left right other different =>
      (right other different).trans (left other different)
  · intro state other different
    have none := doneOf_other (Ne.symm different) node error
    exact doneBy_of_added rfl fun act member => List.mem_singleton.mp member ▸ none

section Leaves
variable {handler : Nat} {program : NodesBody Unit}

theorem leaves_of_hushes (hushes : program.Respects Hushes fun _ => True) :
    program.Respects (Reporter.LeavesOthers doneBy handler) fun _ => True := by
  intro start now near
  apply Async.framed_weaken _ (fun _ passed => passed) _ (hushes now now (Hushes.refl now))
  · exact fun before after quiet other _ => quiet other
  · exact fun after quiet other different => (quiet other).trans (near other different)

theorem silent_of_hushes (hushes : program.Respects Hushes fun _ => True) :
    program.Respects (Reporter.Silent doneBy handler) fun _ => True := by
  intro start now near
  apply Async.framed_weaken _ (fun _ passed => passed) _ (hushes now now (Hushes.refl now))
  · exact fun before after quiet => quiet handler
  · exact fun after quiet => (quiet handler).trans near

/-- A task that ends at once. -/
theorem leaves_of_ends {effect : NodesState → NodesState}
    (ends : ∀ state, ∃ result, program.segment state = (effect state, .finished result))
    (hushes : ∀ state, Hushes state (effect state)) :
    program.Respects (Reporter.LeavesOthers doneBy handler) fun _ => True := by
  apply leaves_of_hushes
  intro start now near
  unfold Async.Framed
  rw [Async.wp_iff_segment]
  obtain ⟨result, segment⟩ := ends now
  rw [segment]
  exact near.trans _ _ _ (hushes now)

/-- What ends with `done`, or with `done` and what was thrown. -/
theorem around_leaves (node : NodeName) (hushes : program.Respects Hushes fun _ => True) :
    ((doneReporter node handler).around program).Respects
      (Reporter.LeavesOthers doneBy handler) fun _ => True :=
  Reporter.around_respects (leaves_of_hushes hushes) (fun _ => callDone_leaves node handler none)
    fun err => callDone_leaves node handler (some err)

end Leaves

/-! ## Close handlers and their programs -/

theorem bind_unit {σ κ : Type} {ρ : κ → Type} {ε : Type} (program : Async σ κ ρ ε Unit) :
    (program >>= fun _ => Pure.pure ()) = program := by
  change program.bind _ = program
  induction program with
  | pure value => rfl
  | throw error => rfl
  | read next ih => exact congrArg Async.read (funext ih)
  | write state next ih => exact congrArg (Async.write state) ih
  | await call next ih => exact congrArg (Async.await call) (funext ih)

theorem bind_bind {σ κ : Type} {ρ : κ → Type} {ε α β γ : Type} (program : Async σ κ ρ ε α)
    (first : α → Async σ κ ρ ε β) (second : β → Async σ κ ρ ε γ) :
    (program >>= first) >>= second = program >>= fun value => first value >>= second := by
  change (program.bind first).bind second = program.bind fun value => (first value).bind second
  induction program with
  | pure value => rfl
  | throw error => rfl
  | read next ih => exact congrArg Async.read (funext ih)
  | write state next ih => exact congrArg (Async.write state) ih
  | await call next ih => exact congrArg (Async.await call) (funext ih)

theorem releaseAndReport_around (handler id resource : Nat) :
    releaseAndReport handler id resource = (doneReporter (.runtime id) handler).around
      ((releaseResource handler resource).onPart configPart) :=
  (bind_unit _).symm

theorem onCloseConfig_around (handler : Nat) :
    onCloseConfig handler = (doneReporter .config handler).around (closeConfigProgram handler) := by
  unfold Reporter.around closeConfigProgram doneReporter
  rw [bind_unit]
  simp only [bind_bind]
  rfl

/-- The close handler of a node that has registered it. -/
theorem onCloseNode_around {id : Nat} {state : NodesState} {node : RuntimeNode}
    (found : state.nodes.read id = some node)
    (equipped : node.kind = .cmd ∨ ∃ resource, node.resource = some resource) (handler : Nat) :
    (onCloseNode handler id).segment state =
      ((doneReporter (.runtime id) handler).around (closeProgram handler id)).segment state := by
  have reports := doneReporter_reports (.runtime id) handler
  have reads : ∀ program : NodesBody Unit,
      (closeProgram handler id).segment state = program.segment state →
      (closeHandler handler id (some node)).segment state =
        ((doneReporter (.runtime id) handler).around program).segment state →
      (onCloseNode handler id).segment state =
        ((doneReporter (.runtime id) handler).around (closeProgram handler id)).segment state := by
    intro program same ends
    rw [onCloseNode_segment found, ends, Reporter.segment_around reports,
      Reporter.segment_around reports, same]
  have looked : (closeProgram handler id).segment state =
      (closeCase handler id (some node)).segment state := by
    unfold closeProgram
    rw [Async.segment_bind, Async.segment_get, ← found]
    rfl
  apply reads _ looked
  obtain ⟨kind, resource, pending, closes⟩ := node
  have released : ∀ owner, resource = some owner →
      (releaseAndReport handler id owner).segment state = ((doneReporter (.runtime id) handler).around
        ((releaseResource handler owner).onPart configPart)).segment state :=
    fun owner _ => congrArg (fun body => body.segment state) (releaseAndReport_around handler id owner)
  rcases equipped with command | ⟨owner, owned⟩
  · cases command
    rfl
  · cases owned
    cases kind with
    | cmd => rfl
    | _ => exact released owner rfl

theorem onCloseNode_leaves (handler id : Nat) :
    (onCloseNode handler id).Respects (Reporter.LeavesOthers doneBy handler) fun _ => True := by
  apply Async.respects_bind Async.respects_get
  intro state
  have nothing : (pure () : NodesBody Unit).Respects (Reporter.LeavesOthers doneBy handler)
      fun _ => True := Async.respects_pure ()
  have released : ∀ resource, (releaseAndReport handler id resource).Respects
      (Reporter.LeavesOthers doneBy handler) fun _ => True := by
    intro resource
    rw [releaseAndReport_around]
    exact around_leaves _ (onPart_hushes _)
  cases state.nodes.read id with
  | none => exact nothing
  | some node =>
    obtain ⟨kind, resource, pending, closes⟩ := node
    cases kind with
    | cmd =>
      have stops : (modify (callback (.runtime id) (stopReading id)) : NodesBody Unit).Respects
          Hushes fun _ => True := Async.respects_modify Hushes.trans (hushes_stopReading id)
      exact Async.respects_bind (leaves_of_hushes stops) fun _ => callDone_leaves _ handler none
    | _ =>
      cases resource with
      | none => exact nothing
      | some resource => exact released resource

theorem task_leaves (packages : Packages) (index : Nat) (task : NodesTask) :
    (runNodesTask packages index task).Respects (Reporter.LeavesOthers doneBy index)
      fun _ => True := by
  by_cases ordinary : closesSomething task = false
  · exact leaves_of_ends (segment_sync packages ordinary index) (hushes_effect packages task)
  · cases task with
    | closeNode id => exact onCloseNode_leaves index id
    | closeConfig =>
      change (onCloseConfig index).Respects _ _
      rw [onCloseConfig_around]
      exact around_leaves _ (closeConfigProgram_hushes index)
    | pair handler owner connection => exact leaves_of_hushes (onPart_hushes _)
    | _ => exact absurd rfl ordinary

/-! ## Nodes that can be closed -/

/-- A node that has registered its close handler has something for it to do. -/
def Equipped (node : RuntimeNode) : Prop :=
  node.closes = true → node.kind = .cmd ∨ ∃ resource, node.resource = some resource

def AllEquipped (state : NodesState) : Prop :=
  ∀ id node, state.nodes.read id = some node → Equipped node

theorem equipped_of_nodes {before after : NodesState} (same : after.nodes = before.nodes)
    (equipped : AllEquipped before) : AllEquipped after := by
  unfold AllEquipped
  rw [same]
  exact equipped

theorem equipped_change {state : NodesState} {id : Nat} {change : RuntimeNode → RuntimeNode}
    (equipped : AllEquipped state)
    (kept : ∀ node, state.nodes.read id = some node → Equipped (change node)) :
    AllEquipped (state.change id change) := by
  intro other later found
  have read : (state.nodes.modify id change).read other = some later := found
  rw [Store.read_modify] at read
  split at read
  next same =>
    obtain ⟨node, stored, rfl⟩ := Option.map_eq_some_iff.mp read
    exact kept node stored
  next => exact equipped other later read

theorem equipped_waitFor {state : NodesState} (equipped : AllEquipped state) (id : Nat)
    (pending : Pending) : AllEquipped (waitFor id pending state) :=
  equipped_change equipped fun node found => equipped id node found

theorem equipped_createNode {state : NodesState} (equipped : AllEquipped state) (kind : NodeKind) :
    AllEquipped (createNode kind state).2 := by
  intro id node found
  have read : (state.nodes.alloc ⟨kind, none, .nothing, false⟩).2.read id = some node := found
  rw [Store.read_alloc] at read
  split at read
  next =>
    cases read
    exact nofun
  next => exact equipped id node read

/-! The functions of the nodes that change no node at all. -/

theorem foldl_nodes {α : Type} {step : NodesState → α → NodesState}
    (same : ∀ state item, (step state item).nodes = state.nodes) (items : List α)
    (state : NodesState) : (items.foldl step state).nodes = state.nodes := by
  induction items generalizing state with
  | nil => rfl
  | cons item rest ih => exact (ih _).trans (same state item)

theorem emitError_nodes (packages : Packages) (emitter : Emitter) (err : JsError)
    (state : NodesState) : (emitError packages emitter err state).nodes = state.nodes := by
  have each : ∀ before listener,
      (RuntimeNodes.onError packages err before listener).nodes = before.nodes :=
    fun _ _ => rfl
  exact foldl_nodes each _ _

theorem onOwnerEvent_nodes (state : NodesState) (listener : OwnerListener) :
    (onOwnerEvent state listener).nodes = state.nodes := by
  unfold onOwnerEvent
  cases listener.event with
  | ready => rfl
  | closed => rfl

theorem emitBackend_nodes (queue : Nat) (event : BackendEvent) (state : NodesState) :
    (emitBackend queue event state).nodes = state.nodes := by
  unfold emitBackend
  split
  · rfl
  · rfl

theorem getQueueFor_nodes (packages : Packages) (node : NodeName) (construction : Construction)
    (state : NodesState) :
    (getQueueFor packages node construction state).2.nodes = state.nodes := by
  unfold getQueueFor
  split
  · rfl
  · rfl

theorem workerFailed_nodes (packages : Packages) (id worker : Nat) (workerReady : Bool)
    (err : JsError) (state : NodesState) :
    (workerFailed packages id worker workerReady err state).nodes = state.nodes := by
  unfold workerFailed
  split
  · rfl
  · rfl

section Equipped
variable {packages : Packages} {state : NodesState}

theorem equipped_readiness (equipped : AllEquipped state) (id : Nat) (failure : Option JsError) :
    AllEquipped (readiness packages id failure state) := by
  have seen : AllEquipped (state.failWith failure.toList) := equipped_of_nodes rfl equipped
  have updated : ∀ resource, AllEquipped
      (updateReadyStatus packages id resource failure (state.failWith failure.toList)) := by
    intro resource
    unfold updateReadyStatus
    cases failure with
    | none => exact equipped_of_nodes rfl (equipped_waitFor seen id .nothing)
    | some err => exact equipped_of_nodes rfl (equipped_waitFor seen id .nothing)
  unfold readiness
  dsimp only
  split
  next worker pending closes found =>
    unfold startPostgresWorker
    cases failure with
    | none =>
      dsimp only
      split
      · exact equipped_waitFor seen id .nothing
      · exact equipped_of_nodes rfl (equipped_waitFor seen id .running)
    | some err =>
      apply equipped_of_nodes (workerFailed_nodes packages id worker false err _)
      exact equipped_waitFor seen id .nothing
  next resource pending closes found => exact updated resource
  next resource pending closes found => exact updated resource
  next => exact seen

theorem equipped_running (equipped : AllEquipped state) (id : Nat) (failure : Option JsError) :
    AllEquipped (running packages id failure state) := by
  have settled : AllEquipped (waitFor id .nothing state) := equipped_waitFor equipped id .nothing
  unfold running
  dsimp only
  split
  next worker pending closes err found =>
    exact equipped_of_nodes (workerFailed_nodes packages id worker true err _) settled
  next => exact settled

theorem equipped_BullQueueCmdNode (equipped : AllEquipped state) (construction : Construction) :
    AllEquipped (BullQueueCmdNode packages construction state).2 := by
  have created := equipped_createNode equipped .cmd
  have queued : (queueOfCmd packages construction state).nodes = (createNode .cmd state).2.nodes :=
    getQueueFor_nodes packages _ construction _
  rcases BullQueueCmdNode_cases packages construction state with failed | reads
  · rw [failed]
    exact equipped_of_nodes queued created
  · rw [reads]
    apply equipped_change (equipped_of_nodes queued created)
    intro node found _
    have read : (createNode .cmd state).2.nodes.read state.nodes.size = some node := queued ▸ found
    rw [read_createNode] at read
    cases read
    exact .inl rfl

theorem equipped_withResource {kind : NodeKind} {create : NodeName → Sync (Option Nat)}
    {construction : Construction} {wire : Nat → Nat → NodesState → NodesState}
    (equipped : AllEquipped state)
    (wired : ∀ id resource before, AllEquipped before → AllEquipped (wire id resource before)) :
    AllEquipped (withResource kind create construction wire state).2 := by
  have built : AllEquipped (constructing kind create construction state).2 :=
    equipped_of_nodes rfl (equipped_createNode equipped kind)
  rcases withResource_cases kind create construction wire state with
    ⟨same, _⟩ | ⟨same, _⟩ | ⟨resource, _, same⟩
  · rw [same]
    exact built
  · rw [same]
    exact equipped_of_nodes rfl built
  · rw [same]
    apply wired
    exact equipped_change built fun node _ _ => .inr ⟨resource, rfl⟩

theorem equipped_wireWorker (id worker : Nat) (equipped : AllEquipped state) :
    AllEquipped (wireWorker id worker state) := by
  have attached : AllEquipped (attachOwnListener id worker state) := equipped_of_nodes rfl equipped
  unfold wireWorker
  dsimp only
  split
  · exact equipped_of_nodes rfl (equipped_waitFor attached id .readiness)
  · exact equipped_of_nodes rfl attached

theorem equipped_wireReadiness (id resource : Nat) (equipped : AllEquipped state) :
    AllEquipped (wireReadiness id resource state) :=
  equipped_waitFor (equipped_of_nodes rfl equipped) id .readiness

theorem equipped_deploy (equipped : AllEquipped state) (construction : Construction)
    (kind : NodeKind) : AllEquipped (deploy packages construction kind state).2 := by
  cases kind with
  | cmd => exact equipped_BullQueueCmdNode equipped construction
  | run => exact equipped_withResource equipped fun id worker _ => equipped_wireWorker id worker
  | events => exact equipped_withResource equipped fun id owner _ => equipped_wireReadiness id owner
  | flow => exact equipped_withResource equipped fun id owner _ => equipped_wireReadiness id owner

theorem equipped_effect (equipped : AllEquipped state) (task : NodesTask) :
    AllEquipped (nodesEffect packages task state) := by
  cases task with
  | deploy kind construction => exact equipped_deploy equipped construction kind
  | getQueue caller construction =>
    exact equipped_of_nodes (getQueueFor_nodes packages _ construction state) equipped
  | emitError emitter err =>
    exact equipped_of_nodes (emitError_nodes packages emitter err state) equipped
  | ownerEvent owner event =>
    exact equipped_of_nodes (foldl_nodes onOwnerEvent_nodes _ _) equipped
  | backendEvent queue event => exact equipped_of_nodes (emitBackend_nodes queue event state) equipped
  | readiness id failure => exact equipped_readiness equipped id failure
  | running id failure => exact equipped_running equipped id failure
  | _ => exact equipped_of_nodes rfl equipped

end Equipped

theorem survives_equipped (packages : Packages) : Survives packages anyMove AllEquipped where
  started := fun _ task _ equipped _ _ => equipped_effect equipped task
  closes := fun _ _ closes equipped => equipped_of_nodes closes.nodes equipped
  stopped := fun _ _ equipped _ => equipped_of_nodes rfl equipped

/-! ## Every run -/

theorem unforked {packages : Packages} {handler : Nat} {task : NodesTask} {node : NodeName}
    {program : NodesBody Unit} (closes : closeOf handler task = some (node, program))
    (position : Nat) (call : ConfigCall) : task ∉ (nodesSystem packages).forks position call := by
  intro member
  cases call with
  | all pairs =>
    obtain ⟨pair, _, rfl⟩ := List.mem_map.mp member
    cases closes
  | _ => cases member

/-- The close handlers, from where they are started. -/
theorem closeOf_around {packages : Packages} {config : QueueConfig} {pool : NodesPool}
    (reached : Runs (nodesSystem packages).Step anyMove (emptyNodesPool config) pool)
    {handler : Nat} {task : NodesTask} {node : NodeName} {program : NodesBody Unit}
    (closes : closeOf handler task = some (node, program)) (launched : nodesLaunches pool task) :
    (runNodesTask packages handler task).segment pool.shared =
      ((doneReporter node handler).around program).segment pool.shared := by
  have equipped : AllEquipped pool.shared :=
    ((survives_equipped packages).run reached (by simp [AllEquipped, NodesState.initial])).1
  cases task with
  | closeNode id =>
    cases closes
    obtain ⟨found, read, registered⟩ := launched
    exact onCloseNode_around read (equipped id found read registered) handler
  | closeConfig =>
    cases closes
    exact congrArg (fun body => body.segment pool.shared) (onCloseConfig_around handler)
  | _ => cases closes

theorem closings_reportIn {packages : Packages} (config : QueueConfig) {handler : Nat}
    {task : NodesTask} {node : NodeName} {program : NodesBody Unit}
    (closes : closeOf handler task = some (node, program)) :
    Reporter.ReportsIn (nodesSystem packages) (emptyNodesPool config) doneBy []
      (fun outcome => [(node, failureOf outcome)]) (doneReporter node handler) program handler
      task where
  unforked := unforked closes
  respects := task_leaves packages
  body := fun _ reached launched => closeOf_around reached closes launched
  silent := silent_of_hushes (closeOf_hushes closes)
  reports := by
    refine ⟨_, doneReporter_reports node handler, ?_⟩
    intro outcome now unseen
    rw [doneBy_act, unseen]
    rfl

/-- While its closing still waits, a close handler has not called `done`. Afterwards it has called
it once, with what its closing has come to, whatever the other nodes have done. -/
theorem closings_report {packages : Packages} {config : QueueConfig} {moves : List NodesMove}
    {last : NodesPool} (run : Path (nodesSystem packages).Step (emptyNodesPool config) moves last)
    {handler : Nat} {task : NodesTask} {paused : Paused NodesState ConfigCall ConfigReply JsError Unit}
    (found : last.tasks[handler]? = some (task, paused)) {node : NodeName} {program : NodesBody Unit}
    (closes : closeOf handler task = some (node, program)) :
    (doneReporter node handler).Stands program []
      (fun outcome => [(node, failureOf outcome)]) (exchangesOf handler moves)
      (doneBy handler last.shared) paused :=
  Reporter.reported_of_path (closings_reportIn config closes) (fun _ => rfl) run found

theorem closings_report_run : ∃ moves outcome,
    Path (nodesSystem plainPackages).Step (emptyNodesPool plainPostgres) moves (closedPool .run) ∧
      Course (closeProgram 1 0) (exchangesOf 1 moves) (.finished outcome) ∧
      doneBy 1 (closedPool .run).shared = [(.runtime 0, failureOf outcome)] := by
  have closed : PlainRun (closedPool .run) :=
    closedPool_reached (closingPool_reached .run ⟨_, rfl, rfl⟩) rfl rfl rfl rfl
  obtain ⟨moves, path⟩ := closed.path
  have ended : (closedPool .run).tasks[1]? = some (.closeNode 0, .finished (.ok ())) := rfl
  rcases closings_report path ended rfl with ⟨_, _, _, waits, _⟩ | ⟨outcome, course, _, reported⟩
  · cases waits
  · exact ⟨moves, outcome, path, course, reported⟩

end NodeRedBull.NodeShutdown
