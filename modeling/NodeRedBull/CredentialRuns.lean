import NodeRedBull.ClusterPrefix
import NodeRedBull.ConfigPairs
import NodeRedBull.CredentialFrames
import NodeRedBull.RuntimeNodes

/-! What the credentials of a queue configuration are to its nodes: with other credentials every
run is still a run, with the same statuses, reports and closings. -/

namespace NodeRedBull.CredentialRuns
open Js Library Connections ConfigNode RuntimeNodes Credentials CredentialFrames
open ConfigPairs (plainPackages plainConstruction)

def hideNodes (state : NodesState) : NodesState := { state with config := hide state.config }

/-- The function does the same to nodes without secrets. -/
def BlindNodes (operation : NodesState → NodesState) : Prop :=
  ∀ state, hideNodes (operation state) = operation (hideNodes state)

def BlindCall {α : Type} (operation : NodesState → α × NodesState) : Prop :=
  ∀ state, operation (hideNodes state) = ((operation state).1, hideNodes (operation state).2)

/-! ## Events -/

theorem isPostgres_hide (state : NodesState) : (hideNodes state).isPostgres = state.isPostgres := by
  have config : (hideNodes state).config.config = hideConfig state.config.config := rfl
  unfold NodesState.isPostgres
  rw [config]
  cases state.config.config <;> rfl

theorem callback_blind (node : NodeName) {operation : ConfigState → ConfigState}
    (blind : Blind operation) : BlindNodes (callback node operation) := by
  intro state
  have same : operation (hideNodes state).config = hide (operation state.config) :=
    (blind state.config).symm
  unfold callback
  rw [same]
  rfl

theorem setStatus_nodes (id : Nat) (status : NodeStatus) :
    BlindNodes (RuntimeNodes.setStatus id status) :=
  callback_blind _ (record_blind _)

theorem ready_blind (id resource : Nat) : BlindNodes (ready id resource) :=
  callback_blind _ fun _ => rfl

theorem onError_nodes (packages : Packages) (err : JsError) (listener : ErrorListener) :
    BlindNodes fun state => RuntimeNodes.onError packages err state listener :=
  callback_blind _ (onError_blind packages err listener)

theorem nodes_foldl {α : Type} {step : NodesState → α → NodesState}
    (blind : ∀ item, BlindNodes fun state => step state item) (items : List α)
    (state : NodesState) : hideNodes (items.foldl step state) = items.foldl step (hideNodes state) :=
  (List.foldl_hom hideNodes fun state item => (blind item state).symm).symm

theorem emitError_nodes (packages : Packages) (emitter : Emitter) (err : JsError) :
    BlindNodes (RuntimeNodes.emitError packages emitter err) := by
  intro state
  exact nodes_foldl (fun listener => onError_nodes packages err listener)
    (state.config.listeners.filter fun listener => decide (listener.emitter = emitter))
    (state.failWith [err])

theorem onOwnerEvent_blind (listener : OwnerListener) :
    BlindNodes fun state => onOwnerEvent state listener := by
  intro state
  unfold onOwnerEvent
  cases listener.event with
  | ready => exact ready_blind listener.node listener.owner state
  | closed => exact setStatus_nodes listener.node .disconnected state

theorem emitOwner_blind (owner : Nat) (event : OwnerEvent) : BlindNodes (emitOwner owner event) := by
  intro state
  exact nodes_foldl onOwnerEvent_blind (state.ownerListeners.filter fun listener =>
    decide (listener.owner = owner ∧ listener.event = event)) state

theorem emitBackend_blind (queue : Nat) (event : BackendEvent) :
    BlindNodes (emitBackend queue event) := by
  intro state
  have watched : (hideNodes state).config.watched = state.config.watched := rfl
  unfold emitBackend
  rw [watched]
  split
  · exact callback_blind _ (onBackendEvent_blind event) state
  · rfl

theorem seed_blind (packages : Packages) (queue : Nat) (failure : Option JsError) :
    BlindNodes (seed packages queue failure) := by
  intro state
  exact callback_blind _ (onReadiness_blind packages queue failure)
    (state.failWith failure.toList)

theorem closing_hide (worker : Nat) (state : NodesState) :
    closing worker (hideNodes state) = closing worker state := rfl

/-- What a failed worker shows and reports -/
theorem failure_blind (packages : Packages) (id : Nat) (err : JsError) (reports : Bool) :
    Blind fun config =>
      let shown := config.record (.status (.runtime id) .disconnected)
      if reports then shown.record (.nodeError (.runtime id) err.message)
      else reportBackendFailure packages err shown := by
  intro state
  cases reports with
  | true => rfl
  | false => exact reportBackendFailure_blind packages err _

theorem workerFailed_blind (packages : Packages) (id worker : Nat) (workerReady : Bool)
    (err : JsError) : BlindNodes (workerFailed packages id worker workerReady err) := by
  intro state
  unfold workerFailed
  rw [closing_hide]
  split
  · rfl
  · exact callback_blind _ (failure_blind packages id err workerReady) state

theorem startPostgresWorker_blind (packages : Packages) (id worker : Nat)
    (failure : Option JsError) : BlindNodes (startPostgresWorker packages id worker failure) := by
  intro state
  cases failure with
  | none =>
    unfold startPostgresWorker
    rw [closing_hide]
    dsimp only
    split
    · rfl
    · exact ready_blind id worker (waitFor id .running state)
  | some err => exact workerFailed_blind packages id worker false err (waitFor id .nothing state)

theorem updateReadyStatus_blind (packages : Packages) (id resource : Nat)
    (failure : Option JsError) : BlindNodes (updateReadyStatus packages id resource failure) := by
  intro state
  cases failure with
  | none => exact ready_blind id resource (waitFor id .nothing state)
  | some err =>
    have shows : Blind fun config =>
        let shown := config.record (.status (.runtime id) .disconnected)
        if state.isPostgres then reportBackendFailure packages err shown
        else shown.record (.nodeError (.runtime id) err.message) := by
      intro config
      dsimp only
      split
      · exact reportBackendFailure_blind packages err _
      · rfl
    unfold updateReadyStatus
    dsimp only
    rw [isPostgres_hide]
    exact callback_blind _ shows (waitFor id .nothing state)

theorem readiness_blind (packages : Packages) (id : Nat) (failure : Option JsError) :
    BlindNodes (readiness packages id failure) := by
  intro state
  have nodes : (hideNodes state).nodes = state.nodes := rfl
  have seen : (hideNodes state).failWith failure.toList =
      hideNodes (state.failWith failure.toList) := rfl
  unfold readiness
  rw [nodes, seen]
  dsimp only
  split
  · exact startPostgresWorker_blind packages id _ failure _
  · exact updateReadyStatus_blind packages id _ failure _
  · exact updateReadyStatus_blind packages id _ failure _
  · rfl

theorem running_blind (packages : Packages) (id : Nat) (failure : Option JsError) :
    BlindNodes (running packages id failure) := by
  intro state
  have nodes : (hideNodes state).nodes = state.nodes := rfl
  unfold running
  rw [nodes]
  dsimp only
  split
  · exact workerFailed_blind packages id _ true _ (waitFor id .nothing state)
  · rfl

/-! ## Constructors -/

theorem called_blind {α : Type} (node : NodeName) {operation : Sync α}
    (blind : BlindSync operation) : BlindCall (called node operation) := by
  intro state
  have same : operation (hideNodes state).config =
      ((operation state.config).1, hide (operation state.config).2) := blind state.config
  have value : (operation (hideNodes state).config).1 = (operation state.config).1 := by rw [same]
  have changed : Blind fun config => (operation config).2 := by
    intro config
    exact (congrArg Prod.snd (blind config)).symm
  unfold called
  rw [value]
  exact Prod.ext rfl (callback_blind node changed state).symm

theorem createNode_blind (kind : NodeKind) : BlindCall (createNode kind) := fun _ => rfl

theorem getQueueFor_blind (packages : Packages) (node : NodeName) (construction : Construction) :
    BlindCall (getQueueFor packages node construction) := by
  intro state
  have queue : (hideNodes state).config.queue = state.config.queue := rfl
  have blind := called_blind node (getQueue_blind packages construction)
  unfold getQueueFor
  rw [queue]
  split
  · exact blind (state.failWith (failed construction))
  · exact blind state

theorem deployCmd_blind (packages : Packages) (construction : Construction) :
    BlindCall (BullQueueCmdNode packages construction) := by
  intro state
  unfold BullQueueCmdNode
  rw [createNode_blind .cmd state]
  generalize createNode .cmd state = made
  obtain ⟨id, created⟩ := made
  dsimp only
  rw [getQueueFor_blind packages (.runtime id) construction created]
  generalize getQueueFor packages (.runtime id) construction created = result
  obtain ⟨outcome, after⟩ := result
  cases outcome with
  | error err => rfl
  | ok queue => rfl

theorem attachOwnListener_blind (id resource : Nat) :
    BlindNodes (attachOwnListener id resource) := by
  intro state
  unfold attachOwnListener
  rw [isPostgres_hide]
  rfl

theorem wireWorker_blind (id worker : Nat) : BlindNodes (wireWorker id worker) := by
  intro state
  have attached := attachOwnListener_blind id worker state
  unfold wireWorker
  rw [isPostgres_hide, ← attached]
  dsimp only
  split
  · rfl
  · rfl

theorem wireReadiness_blind (id resource : Nat) : BlindNodes (wireReadiness id resource) := by
  intro state
  unfold wireReadiness
  rw [← attachOwnListener_blind id resource state]
  rfl

theorem withResource_blind (kind : NodeKind) {create : NodeName → Sync (Option Nat)}
    (construction : Construction) {wire : Nat → Nat → NodesState → NodesState}
    (creates : ∀ node, BlindSync (create node)) (wires : ∀ id resource, BlindNodes (wire id resource)) :
    BlindCall (withResource kind create construction wire) := by
  intro state
  unfold withResource
  rw [createNode_blind kind state]
  generalize createNode kind state = made
  obtain ⟨id, created⟩ := made
  dsimp only
  have result := called_blind (.runtime id) (creates (.runtime id))
    (created.failWith (failed construction))
  have failing : (hideNodes created).failWith (failed construction) =
      hideNodes (created.failWith (failed construction)) := rfl
  rw [failing, result]
  generalize called (.runtime id) (create (.runtime id))
    (created.failWith (failed construction)) = answer
  obtain ⟨outcome, after⟩ := answer
  cases outcome with
  | error err => rfl
  | ok found =>
    cases found with
    | none => rfl
    | some resource =>
      exact Prod.ext rfl (wires id resource (after.change id fun node =>
        { node with resource := some resource, closes := true })).symm

theorem deploy_blind (packages : Packages) (construction : Construction) (kind : NodeKind) :
    BlindCall (deploy packages construction kind) := by
  cases kind with
  | cmd => exact deployCmd_blind packages construction
  | run =>
    exact withResource_blind .run construction
      (fun node => createWorker_blind packages node construction) wireWorker_blind
  | events =>
    exact withResource_blind .events construction
      (fun node => createQueueEvents_blind packages node construction) wireReadiness_blind
  | flow =>
    exact withResource_blind .flow construction
      (fun node => createFlowProducer_blind packages node construction) wireReadiness_blind

/-! ## Tasks -/

/-- The second state is the first without its secrets. -/
def nodesStates : Likeness NodesState ConfigCall ConfigReply :=
  .sameReplies (fun state other => other = hideNodes state) Eq

abbrev SameNodes {α : Type} (body : NodesBody α) : Prop := body.Twins nodesStates Eq body

theorem modify_nodes {change : NodesState → NodesState} (blind : BlindNodes change) :
    SameNodes (modify change : NodesBody PUnit) := by
  apply Async.twins_modify _ rfl
  intro state other hidden
  rw [hidden]
  exact (blind state).symm

theorem modifyGet_nodes {α : Type} {change : NodesState → α × NodesState}
    (blind : BlindCall change) : SameNodes (modifyGet change : NodesBody α) := by
  apply Async.twins_modifyGet
  intro state other hidden
  rw [hidden, blind state]
  exact ⟨rfl, rfl⟩

/-- A body of the configuration node, run among the nodes -/
theorem onPart_same {α : Type} {body : ConfigBody α} (same : Same body) :
    SameNodes (body.onPart configPart) := by
  apply Async.twins_onPart _ _ _ _ same
  · intro state other hidden
    rw [hidden]
    rfl
  · intro state other left right hidden changed
    rw [hidden, changed]
    rfl
  · exact fun _ _ equal => equal
  · exact fun _ _ _ _ equal => equal

theorem callDone_same (node : NodeName) (handler : Nat) (error : Option JsError) :
    SameNodes (callDone node handler error) :=
  modify_nodes fun _ => rfl

theorem releaseAndReport_same (handler id resource : Nat) :
    SameNodes (releaseAndReport handler id resource) := by
  apply Async.twins_tryCatch _ fun err => callDone_same (.runtime id) handler (some err)
  exact Async.twins_seq (onPart_same (releaseResource_same handler resource)) fun _ =>
    callDone_same (.runtime id) handler none

theorem closeHandler_same (handler id : Nat) (node : Option RuntimeNode) :
    SameNodes (closeHandler handler id node) := by
  unfold closeHandler
  split
  · exact Async.twins_seq (modify_nodes (callback_blind _ (stopReading_blind id))) fun _ =>
      callDone_same (.runtime id) handler none
  · exact releaseAndReport_same handler id _
  · exact Async.twins_pure rfl

theorem onCloseNode_same (handler id : Nat) : SameNodes (onCloseNode handler id) := by
  apply Async.twins_bind (Async.twins_get fun _ _ hidden => hidden)
  intro state other hidden
  have nodes : (hideNodes state).nodes = state.nodes := rfl
  rw [hidden, nodes]
  exact closeHandler_same handler id _

theorem onCloseConfig_same (handler : Nat) : SameNodes (onCloseConfig handler) := by
  apply Async.twins_tryCatch _ fun err => callDone_same .config handler (some err)
  apply Async.twins_seq (modifyGet_nodes fun _ => rfl)
  intro resources
  have closings : SameNodes (Async.call (ConfigCall.all resources) :
      NodesBody (ConfigReply (ConfigCall.all resources))) := Async.twins_sameCall rfl
  apply Async.twins_seq closings
  intro _
  exact Async.twins_seq (modify_nodes fun _ => rfl) fun _ => callDone_same .config handler none

theorem syncNodes_same {α : Type} {operation : NodesState → Except JsError α × NodesState}
    (blind : BlindCall operation) : SameNodes (syncNodes operation) := by
  apply Async.twins_seq (modifyGet_nodes blind)
  intro outcome
  cases outcome with
  | ok value => exact Async.twins_pure rfl
  | error err => exact Async.twins_throw err

theorem runNodesTask_same (packages : Packages) (index : Nat) (task : NodesTask) :
    SameNodes (runNodesTask packages index task) := by
  cases task with
  | deploy kind construction => exact syncNodes_same (deploy_blind packages construction kind)
  | getQueue caller construction =>
    exact syncNodes_same (getQueueFor_blind packages (.runtime caller) construction)
  | closeNode id => exact onCloseNode_same index id
  | closeConfig => exact onCloseConfig_same index
  | pair handler owner connection =>
    exact onPart_same (closeResourcePair_same index owner connection)
  | emitError emitter err => exact modify_nodes (emitError_nodes packages emitter err)
  | ownerEvent owner event => exact modify_nodes (emitOwner_blind owner event)
  | backendEvent queue event => exact modify_nodes (emitBackend_blind queue event)
  | seed queue failure => exact modify_nodes (seed_blind packages queue failure)
  | readiness id failure => exact modify_nodes (readiness_blind packages id failure)
  | running id failure => exact modify_nodes (running_blind packages id failure)
  | connectionStatus connection status =>
    apply modify_nodes
    intro state
    have blind := setStatus_blind connection status state.config
    unfold onConfig hideNodes
    dsimp only
    rw [blind]

/-! ## Runs -/

/-- Pools that differ in secrets only. -/
def nodesLike : PoolLikeness NodesState ConfigCall ConfigReply JsError Unit NodesTask where
  toLikeness := nodesStates
  tasks := Eq
  results := Eq
  assumed := fun one other reply answer => one = other ∧ HEq reply answer

theorem nodesLike_respected (packages : Packages) : nodesLike.Respected (nodesSystem packages) where
  bodies := by
    intro index task other same
    cases same
    exact runNodesTask_same packages index task
  forks := by
    intro index call other same
    cases same
    exact List.forall₂_same.mpr fun _ _ => rfl
  answers := by
    intro left right index call other reply answer _ _ given _ _
    obtain ⟨rfl, same⟩ := given
    cases same
    cases reply with
    | ok value => exact .succeeds HEq.rfl
    | error err => exact .fails err

theorem shared_of_alike {left right : NodesPool} (alike : nodesLike.Alike left right) :
    right.shared = hideNodes left.shared := alike.1

theorem nodesPromises_eq {left right : NodesPool} (alike : nodesLike.Alike left right)
    (handler : Nat) : nodesPromises left handler = nodesPromises right handler := by
  have tasks := alike.2
  unfold nodesPromises
  generalize left.tasks = one at tasks
  generalize right.tasks = other at tasks
  induction tasks with
  | nil => rfl
  | @cons entry found _ _ stopped _ ih =>
    have same : entry.1 = found.1 := stopped.1
    have results : entry.2.result = found.2.result := stopped.2.result_eq
    rw [List.filterMap_cons, List.filterMap_cons, same, results, ih]

theorem nodesLaunches_iff {left right : NodesPool} (alike : nodesLike.Alike left right)
    (task : NodesTask) : nodesLaunches left task ↔ nodesLaunches right task := by
  have shared := shared_of_alike alike
  have nodes : right.shared.nodes = left.shared.nodes := by rw [shared]; rfl
  have seeding : right.shared.config.seeding = left.shared.config.seeding := by rw [shared]; rfl
  unfold nodesLaunches
  cases task <;> simp only [nodes, seeding]

theorem nodesAnswered_iff {left right : NodesPool} (alike : nodesLike.Alike left right)
    (index : Nat) (call : ConfigCall) (reply : Except JsError (ConfigReply call)) :
    nodesAnswered left index call reply ↔ nodesAnswered right index call reply := by
  cases call with
  | all pairs =>
    unfold nodesAnswered
    rw [nodesPromises_eq alike index]
  | _ => rfl

theorem nodesLike_mirrors (packages : Packages) : nodesLike.Mirrors (nodesSystem packages) where
  launches := fun _ _ task alike launched => ⟨task, rfl, (nodesLaunches_iff alike task).mp launched⟩
  answers := by
    intro left right index call other reply alike same answered
    cases same
    exact ⟨reply, ⟨rfl, HEq.rfl⟩, (nodesAnswered_iff alike index call reply).mp answered⟩

theorem flip_mirrors (packages : Packages) : nodesLike.flip.Mirrors (nodesSystem packages) where
  launches := fun _ _ task alike launched =>
    ⟨task, rfl, (nodesLaunches_iff alike.flip task).mpr launched⟩
  answers := by
    intro left right index call other reply alike same answered
    cases same
    exact ⟨reply, ⟨rfl, HEq.rfl⟩, (nodesAnswered_iff alike.flip index call reply).mpr answered⟩

theorem moves_eq {moves others : List NodesMove}
    (same : List.Forall₂ nodesLike.SameMove moves others) : others = moves := by
  induction same with
  | nil => rfl
  | cons first _ ih =>
    rw [ih]
    cases first with
    | start equal =>
      cases equal
      rfl
    | resume given =>
      obtain ⟨rfl, equal⟩ := given
      cases equal
      rfl

theorem flip_moves_eq {moves others : List NodesMove}
    (same : List.Forall₂ nodesLike.flip.SameMove moves others) : others = moves := by
  induction same with
  | nil => rfl
  | cons first _ ih =>
    rw [ih]
    cases first with
    | start equal =>
      cases equal
      rfl
    | resume given =>
      obtain ⟨rfl, equal⟩ := given
      cases equal
      rfl

theorem alike_initial (config : QueueConfig) :
    nodesLike.Alike (emptyNodesPool config) (emptyNodesPool (hideConfig config)) :=
  ⟨rfl, .nil⟩

/-- Two configurations that are equal without their secrets have the same runs. -/
theorem run_of_hidden {packages : Packages} {left right : QueueConfig}
    (same : hideConfig left = hideConfig right) {moves : List NodesMove} {pool : NodesPool}
    (run : Path (nodesSystem packages).Step (emptyNodesPool left) moves pool) :
    ∃ other, Path (nodesSystem packages).Step (emptyNodesPool right) moves other ∧
      hideNodes other.shared = hideNodes pool.shared := by
  obtain ⟨others, hidden, middle, moved, alike⟩ :=
    PoolLikeness.Alike.mirror (nodesLike_respected packages) (nodesLike_mirrors packages) run
      (alike_initial left)
  rw [moves_eq moved, same] at middle
  obtain ⟨last_moves, other, further, again, back⟩ :=
    PoolLikeness.Alike.mirror (nodesLike_respected packages).flip (flip_mirrors packages) middle
      (alike_initial right).flip
  rw [flip_moves_eq again] at further
  refine ⟨other, further, ?_⟩
  rw [← shared_of_alike alike]
  exact (shared_of_alike back.flip).symm

/-- Accepted with other credentials, a saved configuration has the same runs: each node shows and
reports the same, the same is created and closed, and what BullMQ and ioredis get differs in
secret options only. -/
theorem runs_blind {packages : Packages} {platform : Platform} {config credentials others : JsValue}
    {left right : QueueConfig}
    (accepted : normalizeQueueConfig platform config credentials = .ok left)
    (also_accepted : normalizeQueueConfig platform config others = .ok right)
    {moves : List NodesMove} {pool : NodesPool}
    (run : Path (nodesSystem packages).Step (emptyNodesPool left) moves pool) :
    ∃ other, Path (nodesSystem packages).Step (emptyNodesPool right) moves other ∧
      other.shared.acts = pool.shared.acts ∧
      other.shared.config.trace = pool.shared.config.trace ∧
      other.shared.config.connections.map hideConnection =
        pool.shared.config.connections.map hideConnection ∧
      other.shared.config.owners.map hideOwner = pool.shared.config.owners.map hideOwner := by
  have one := normalizeQueueConfig_hide platform config credentials
  have two := normalizeQueueConfig_hide platform config others
  rw [accepted, ← two, also_accepted] at one
  obtain ⟨other, further, same⟩ := run_of_hidden (Except.ok.inj one) run
  have acts : (hideNodes other.shared).acts = (hideNodes pool.shared).acts := by rw [same]
  have configs : hide other.shared.config = hide pool.shared.config :=
    congrArg NodesState.config same
  have trace : (hide other.shared.config).trace = (hide pool.shared.config).trace := by rw [configs]
  exact ⟨other, further, acts, trace, congrArg ConfigState.connections configs,
    congrArg ConfigState.owners configs⟩

def savedQueue : JsValue := .object [("name", .string "orders")]

def passwordOf (password : String) : JsValue := .object [("password", .string password)]

/-- A worker is deployed with one password, and with another one. -/
theorem runs_blind_password : ∃ left right : QueueConfig,
    normalizeQueueConfig ClusterPrefix.noUrls savedQueue (passwordOf "one") = .ok left ∧
      normalizeQueueConfig ClusterPrefix.noUrls savedQueue (passwordOf "two") = .ok right ∧
      ∃ other, Path (nodesSystem plainPackages).Step (emptyNodesPool right)
          [.start (.deploy .run plainConstruction)] other ∧
        other.shared.config.trace =
          [.created 0 (some 0), .status (.runtime 0) .connecting] := by
  refine ⟨_, _, rfl, rfl, ?_⟩
  have left : normalizeQueueConfig ClusterPrefix.noUrls savedQueue (passwordOf "one") = .ok _ := rfl
  have right : normalizeQueueConfig ClusterPrefix.noUrls savedQueue (passwordOf "two") = .ok _ := rfl
  have deployed : ∀ config, (nodesSystem plainPackages).Step (emptyNodesPool config)
      (.start (.deploy .run plainConstruction))
      ((nodesSystem plainPackages).start (emptyNodesPool config)
        (.deploy .run plainConstruction)) := fun config => .start trivial
  obtain ⟨other, run, _, trace, _⟩ := runs_blind left right (.cons (deployed _) (.nil _))
  exact ⟨other, run, trace⟩

end NodeRedBull.CredentialRuns
