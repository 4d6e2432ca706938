import NodeRedBull.NodesClosings
import NodeRedBull.StatusRecovery

/-! A node whose close handler has called `done` stays silent, as long as nothing happens that it
still listens to. -/

namespace NodeRedBull.ClosedNodes
open Js Library Connections ConfigNode ConfigBooks ConfigStep ConfigCalls RuntimeNodes NodesSteps
open NodesClosings
open BackendStatus (addReader mem_addReader)
open ConfigPairs (plainPackages plainConstruction plainPostgres)

/-- The close handler of the node has called `done`. -/
def Closed (node : NodeName) (acts : List Act) : Prop :=
  ∃ handler error, ⟨node, .done handler error⟩ ∈ acts

/-- A callback of the node sets its status or calls its error reporting. -/
def Reports (node : NodeName) (act : Act) : Prop :=
  act.node = node ∧ ((∃ status, act.effect = .status node status) ∨
    ∃ message, act.effect = .nodeError node message)

/-- Nothing comes that a closed node still listens to: no `error`, `ready` or `closed` event of a
resource it listens to, no end of its readiness promise or its worker's run, unless that worker is
closing, and no rejection of the shared readiness promise that would be reported. -/
def Quiet (packages : Packages) (pool : NodesPool) : NodesMove → Prop
  | .start (.emitError emitter _) => ∀ listener ∈ pool.shared.config.listeners,
      listener.emitter = emitter → ¬Closed listener.node pool.shared.acts
  | .start (.ownerEvent owner event) => ∀ listener ∈ pool.shared.ownerListeners,
      listener.owner = owner → listener.event = event →
        ¬Closed (.runtime listener.node) pool.shared.acts
  | .start (.seed _ (some err)) => Closed .config pool.shared.acts →
      pool.shared.config.backendStatus ≠ .connecting ∨
        (describeBackendFailure packages err).1 ∈ pool.shared.config.backendFailures
  | .start (.readiness id _) => Closed (.runtime id) pool.shared.acts → Guarded id pool.shared
  | .start (.running id (some _)) => Closed (.runtime id) pool.shared.acts →
      Guarded id pool.shared
  | _ => True

/-- A closed node does not report. -/
def Justified (before : List Act) (act : Act) : Prop :=
  ∀ node, Reports node act → ¬Closed node before

/-- Closed nodes have been silent, and nobody reads the status for one. -/
structure Hushed (state : NodesState) : Prop where
  silent : Always Justified state.acts
  readers : ∀ reader ∈ state.config.backendReaders, ¬Closed (.runtime reader) state.acts ∧
    ∃ node, state.nodes.read reader = some node ∧ node.kind = .cmd
  known : ∀ id, Closed (.runtime id) state.acts → id < state.nodes.size

/-! ## Acts at the end of a trace -/

theorem closed_append {node : NodeName} {acts added : List Act}
    (others : ∀ act ∈ added, ∀ handler error, act.effect ≠ .done handler error) :
    Closed node (acts ++ added) ↔ Closed node acts := by
  constructor
  · intro closed
    obtain ⟨handler, error, member⟩ := closed
    rcases List.mem_append.mp member with old | new
    · exact ⟨handler, error, old⟩
    · exact absurd rfl (others _ new handler error)
  · intro closed
    obtain ⟨handler, error, member⟩ := closed
    exact ⟨handler, error, List.mem_append_left _ member⟩

/-- Acts that are no reports of closed nodes, and call no `done` unless they report nothing. -/
theorem always_append {acts added : List Act} (always : Always Justified acts)
    (others : ∀ act ∈ added, ∀ handler error, act.effect ≠ .done handler error)
    (justified : ∀ act ∈ added, Justified acts act) : Always Justified (acts ++ added) := by
  induction added using List.reverseRecOn with
  | nil => rwa [List.append_nil]
  | append_singleton rest last ih =>
    have members : ∀ act ∈ rest, act ∈ rest ++ [last] := fun act => List.mem_append_left _
    have earlier := ih (fun act member => others act (members act member))
      (fun act member => justified act (members act member))
    rw [← List.append_assoc]
    apply earlier.snoc
    intro node reports closed
    have before := (closed_append fun act member => others act (members act member)).mp closed
    exact justified last (by simp) node reports before

theorem always_silent {acts added : List Act} (always : Always Justified acts)
    (silent : ∀ act ∈ added, ∀ node, ¬Reports node act) : Always Justified (acts ++ added) := by
  induction added using List.reverseRecOn with
  | nil => rwa [List.append_nil]
  | append_singleton rest last ih =>
    have earlier := ih fun act member => silent act (List.mem_append_left _ member)
    rw [← List.append_assoc]
    exact earlier.snoc fun node reports => absurd reports (silent last (by simp) node)

/-! ## What a task that closes nothing adds -/

/-- A spoken effect is no `done`, and it reports nothing but its own node or a reader. -/
theorem actOf_heard {who : NodeName} {speaks : NodeName → Prop} {readers : List Nat}
    {effect : Effect} (spoken : Spoken (fun node => node = who → speaks who) readers effect) :
    (∀ handler error, (actOf who effect).effect ≠ .done handler error) ∧
      ∀ node, Reports node (actOf who effect) →
        speaks node ∨ ∃ reader ∈ readers, node = .runtime reader := by
  cases effect with
  | read reader status =>
    refine ⟨by simp [actOf], ?_⟩
    intro node reports
    exact .inr ⟨reader, spoken, reports.1.symm⟩
  | status about status =>
    refine ⟨by simp [actOf], ?_⟩
    intro node reports
    obtain ⟨same, ⟨shown, equal⟩ | ⟨message, equal⟩⟩ := reports
    · have mine : about = who := (Effect.status.inj equal).1.trans same.symm
      exact .inl (same ▸ spoken mine)
    · cases equal
  | nodeError about message =>
    refine ⟨by simp [actOf], ?_⟩
    intro node reports
    obtain ⟨same, ⟨shown, equal⟩ | ⟨text, equal⟩⟩ := reports
    · cases equal
    · have mine : about = who := (Effect.nodeError.inj equal).1.trans same.symm
      exact .inl (same ▸ spoken mine)
  | done handler error => exact spoken.elim
  | _ =>
    refine ⟨by simp [actOf], ?_⟩
    intro node reports
    obtain ⟨_, ⟨_, equal⟩ | ⟨_, equal⟩⟩ := reports
    · cases equal
    · cases equal

/-- What `Doing` adds. -/
def Adds (speaks : NodeName → Prop) (before after : NodesState) : Prop :=
  ∃ added, after.acts = before.acts ++ added ∧ ∀ act ∈ added,
    (∀ handler error, act.effect ≠ .done handler error) ∧ ∀ node, Reports node act →
      speaks node ∨ ∃ reader ∈ before.config.backendReaders, node = .runtime reader

theorem adds_of_doing {speaks : NodeName → Prop} {builds : Nat → Prop} {before after : NodesState}
    (doing : Doing speaks builds before after) : Adds speaks before after := by
  induction doing with
  | @speak state who operation calls =>
    obtain ⟨effects, grown, spoken⟩ := calls.trace
    refine ⟨effects.map (actOf who), callback_acts grown, ?_⟩
    intro act member
    obtain ⟨effect, found, rfl⟩ := List.mem_map.mp member
    exact actOf_heard (spoken effect found)
  | still acts stays => exact ⟨[], by rw [acts, List.append_nil], by simp⟩
  | @trans first second third earlier _ left right =>
    obtain ⟨early, grown, heard⟩ := left
    obtain ⟨late, grown', heard'⟩ := right
    refine ⟨early ++ late, ?_, ?_⟩
    · rw [grown', grown, List.append_assoc]
    · intro act member
      rcases List.mem_append.mp member with old | new
      · exact heard act old
      · rw [← (stays_of_doing earlier).readers]
        exact heard' act new

theorem lt_size_of_evolves {before after : Store RuntimeNode} (evolves : Evolves before after)
    {id : Nat} (bound : id < before.size) : id < after.size := by
  obtain ⟨node, found⟩ := Store.exists_read bound
  obtain ⟨later, stored, _⟩ := evolves id node found
  exact Store.lt_size_of_read stored

theorem closed_doing {speaks : NodeName → Prop} {builds : Nat → Prop} {before after : NodesState}
    (doing : Doing speaks builds before after) (node : NodeName) :
    Closed node after.acts ↔ Closed node before.acts := by
  obtain ⟨added, grown, heard⟩ := adds_of_doing doing
  rw [grown]
  exact closed_append fun act member => (heard act member).1

theorem hushed_doing {speaks : NodeName → Prop} {builds : Nat → Prop} {before after : NodesState}
    (hushed : Hushed before) (may : ∀ node, speaks node → ¬Closed node before.acts)
    (doing : Doing speaks builds before after) : Hushed after := by
  obtain ⟨added, grown, heard⟩ := adds_of_doing doing
  have stays := stays_of_doing doing
  have others : ∀ act ∈ added, ∀ handler error, act.effect ≠ .done handler error :=
    fun act member => (heard act member).1
  have same := closed_doing doing
  refine ⟨?_, ?_, ?_⟩
  · rw [grown]
    apply always_append hushed.silent others
    intro act member node reports
    rcases (heard act member).2 node reports with speaker | ⟨reader, subscribed, rfl⟩
    · exact may node speaker
    · exact (hushed.readers reader subscribed).1
  · intro reader subscribed
    rw [stays.readers] at subscribed
    obtain ⟨open_, node, found, kind⟩ := hushed.readers reader subscribed
    obtain ⟨later, stored, kind'⟩ := stays.nodes reader node found
    exact ⟨fun closed => open_ ((same _).mp closed), later, stored, kind'.trans kind⟩
  · intro id closed
    exact lt_size_of_evolves stays.nodes (hushed.known id ((same _).mp closed))

/-- Acts of an open node. -/
theorem always_open {acts added : List Act} {who : NodeName} (always : Always Justified acts)
    (open_ : ¬Closed who acts) (own : ∀ act ∈ added, act.node = who)
    (others : ∀ act ∈ added, ∀ handler error, act.effect ≠ .done handler error) :
    Always Justified (acts ++ added) := by
  apply always_append always others
  intro act member node reports
  rw [← reports.1, own act member]
  exact open_

/-- A new reader. -/
theorem hushed_readBackendStatus {state : NodesState} (hushed : Hushed state) {id : Nat}
    (open_ : ¬Closed (.runtime id) state.acts) {node : RuntimeNode}
    (found : state.nodes.read id = some node) (kind : node.kind = .cmd) :
    Hushed (callback (.runtime id) (readBackendStatus id) state) := by
  have grown : (readBackendStatus id state.config).trace = state.config.trace ++
      [.subscribed id, .read id state.config.backendStatus] := by
    simp [readBackendStatus, ConfigState.record]
  have acts : (callback (.runtime id) (readBackendStatus id) state).acts = state.acts ++
      [⟨.runtime id, .subscribed id⟩,
        ⟨.runtime id, .status (.runtime id) (applyBackendStatus state.config.backendStatus)⟩] :=
    callback_acts grown
  have others : ∀ act ∈ ([⟨.runtime id, .subscribed id⟩,
      ⟨.runtime id, .status (.runtime id) (applyBackendStatus state.config.backendStatus)⟩] :
        List Act), ∀ handler error, act.effect ≠ .done handler error := by simp
  refine ⟨?_, ?_, ?_⟩
  · rw [acts]
    exact always_open hushed.silent open_ (by simp) others
  · intro reader subscribed
    rw [acts, closed_append others]
    have member : reader ∈ state.config.backendReaders ∨ reader = id :=
      (mem_addReader id reader state.config).mp subscribed
    rcases member with old | rfl
    · exact hushed.readers reader old
    · exact ⟨open_, node, found, kind⟩
  · intro other closed
    rw [acts, closed_append others] at closed
    exact hushed.known other closed

/-! ## Closings -/

/-- A closing leaves closed nodes silent. -/
theorem hushed_closes {who : NodeName → Prop} {before after : NodesState} (hushed : Hushed before)
    (unread : ∀ id, who (.runtime id) → id < before.nodes.size ∧
      id ∉ before.config.backendReaders)
    (closes : Closes who before after) : Hushed after := by
  obtain ⟨nodes, _, ⟨_, _, readers, _⟩, added, grown, done⟩ := closes
  have silent : ∀ act ∈ added, ∀ node, ¬Reports node act := by
    intro act member node reports
    obtain ⟨_, handler, error, effect⟩ := done act member
    obtain ⟨_, ⟨status, equal⟩ | ⟨message, equal⟩⟩ := reports
    · cases effect.symm.trans equal
    · cases effect.symm.trans equal
  have closed : ∀ node, Closed node after.acts → Closed node before.acts ∨ who node := by
    intro node given
    obtain ⟨handler, error, member⟩ := given
    rw [grown] at member
    rcases List.mem_append.mp member with old | new
    · exact .inl ⟨handler, error, old⟩
    · exact .inr (done _ new).1
  refine ⟨?_, ?_, ?_⟩
  · rw [grown]
    exact always_silent hushed.silent silent
  · intro reader subscribed
    rw [readers] at subscribed
    obtain ⟨open_, known⟩ := hushed.readers reader subscribed
    rw [nodes]
    refine ⟨?_, known⟩
    intro given
    rcases closed _ given with old | own
    · exact open_ old
    · exact (unread reader own).2 subscribed
  · intro id given
    rw [nodes]
    rcases closed _ given with old | own
    · exact hushed.known id old
    · exact (unread id own).1

/-! ## Every run -/

/-- A close handler of a runtime node that waits is one of a node with a resource. -/
def Releasing (nodes : Store RuntimeNode) (task : NodesTask) : Prop :=
  ∀ id, task = .closeNode id → ∃ node, nodes.read id = some node ∧ node.kind ≠ .cmd

def waits : Paused NodesState ConfigCall ConfigReply JsError Unit → Prop
  | .finished _ => False
  | .awaiting _ _ => True

def closingNodes : PoolInvariant NodesState ConfigCall ConfigReply JsError Unit NodesTask where
  shared := Hushed
  scope := fun _ _ => True
  guarantee := fun _ before after => Evolves before.nodes after.nodes
  task := fun _ task state paused => paused.Respects (Closes (ofTask task)) anyCall ∧
    (waits paused → Releasing state.nodes task)

theorem releasing_evolves {before after : Store RuntimeNode} (evolves : Evolves before after)
    {task : NodesTask} (releasing : Releasing before task) : Releasing after task := by
  intro id same
  obtain ⟨node, found, kind⟩ := releasing id same
  obtain ⟨later, stored, kind'⟩ := evolves id node found
  exact ⟨later, stored, kind' ▸ kind⟩

/-- The constructor of a `bullmq cmd` node. -/
theorem hushed_BullQueueCmdNode {packages : Packages} {construction : Construction}
    {state : NodesState} (hushed : Hushed state)
    (fresh : ¬Closed (.runtime state.nodes.size) state.acts) :
    Hushed (BullQueueCmdNode packages construction state).2 ∧
      Evolves state.nodes (BullQueueCmdNode packages construction state).2.nodes := by
  let nobody : NodeName → Prop := fun _ => False
  let nothing : Nat → Prop := fun _ => False
  have created : Doing nobody nothing state (queueOfCmd packages construction state) :=
    doing_queueOfCmd packages construction state
  have stays := hushed_doing hushed (fun _ => False.elim) created
  have evolves := (stays_of_doing created).nodes
  rcases BullQueueCmdNode_cases packages construction state with failed | reads
  · rw [failed]
    exact ⟨stays, evolves⟩
  · rw [reads]
    have called : Doing nobody nothing (createNode .cmd state).2
        (queueOfCmd packages construction state) :=
      doing_getQueueFor packages state.nodes.size construction _
    have found : (createNode .cmd state).2.nodes.read state.nodes.size =
        some ⟨.cmd, none, .nothing, false⟩ := by
      show (state.nodes.alloc _).2.read state.nodes.size = _
      rw [Store.read_alloc, if_pos rfl]
    obtain ⟨node, stored, kind⟩ := (stays_of_doing called).nodes _ _ found
    have open_ : ¬Closed (.runtime state.nodes.size)
        (queueOfCmd packages construction state).acts := by
      rw [closed_doing created]
      exact fresh
    have reading := hushed_readBackendStatus stays open_ stored kind
    have ready : Doing nobody nothing
        (callback (.runtime state.nodes.size) (readBackendStatus state.nodes.size)
          (queueOfCmd packages construction state)) _ := doing_closable state.nodes.size _
    exact ⟨hushed_doing reading (fun _ => False.elim) ready,
      evolves.trans (stays_of_doing ready).nodes⟩

theorem hushed_deploy {packages : Packages} {construction : Construction} {state : NodesState}
    (hushed : Hushed state) (kind : NodeKind) :
    Hushed (deploy packages construction kind state).2 ∧
      Evolves state.nodes (deploy packages construction kind state).2.nodes := by
  have fresh : ¬Closed (.runtime state.nodes.size) state.acts := by
    intro closed
    have bound := hushed.known _ closed
    omega
  have ordinary : ∀ after,
      Doing (· = .runtime state.nodes.size) (· = state.nodes.size) state after →
      Hushed after ∧ Evolves state.nodes after.nodes := by
    intro after doing
    refine ⟨hushed_doing hushed ?_ doing, (stays_of_doing doing).nodes⟩
    intro node same
    rw [same]
    exact fresh
  cases kind with
  | cmd => exact hushed_BullQueueCmdNode hushed fresh
  | run => exact ordinary _ (doing_BullQueueRunNode packages construction rfl rfl)
  | events => exact ordinary _ (doing_BullEventsNode packages construction rfl rfl)
  | flow => exact ordinary _ (doing_BullFlowNode packages construction rfl rfl)

theorem hushed_effect {packages : Packages} {pool : NodesPool} {task : NodesTask}
    (hushed : Hushed pool.shared) (quiet : Quiet packages pool (.start task)) :
    Hushed (nodesEffect packages task pool.shared) ∧
      Evolves pool.shared.nodes (nodesEffect packages task pool.shared).nodes := by
  let open_ : NodeName → Prop := fun node => ¬Closed node pool.shared.acts
  let nothing : Nat → Prop := fun _ => False
  have ordinary : ∀ after, Doing open_ nothing pool.shared after →
      Hushed after ∧ Evolves pool.shared.nodes after.nodes := fun after doing =>
    ⟨hushed_doing hushed (fun _ speaker => speaker) doing, (stays_of_doing doing).nodes⟩
  cases task with
  | deploy kind construction => exact hushed_deploy hushed kind
  | getQueue caller construction =>
    exact ordinary _ (doing_getQueueFor packages caller construction pool.shared)
  | emitError emitter err => exact ordinary _ (doing_emitError packages emitter err quiet)
  | ownerEvent owner event => exact ordinary _ (doing_emitOwner owner event quiet)
  | backendEvent queue event => exact ordinary _ (doing_emitBackend queue event pool.shared)
  | seed queue failure =>
    apply ordinary _ (doing_seed packages queue failure _)
    intro err rejected connecting fresh closed
    subst rejected
    rcases quiet closed with known | reported
    · exact known connecting
    · simp [reported] at fresh
  | readiness id failure =>
    apply ordinary _ (doing_readiness packages failure _)
    exact fun unguarded closed => unguarded (quiet closed)
  | running id failure =>
    apply ordinary _ (doing_running packages failure _)
    intro rejected unguarded closed
    cases failure with
    | none => exact rejected rfl
    | some err => exact unguarded (quiet closed)
  | connectionStatus connection status =>
    exact ordinary _ (.still rfl (stays_config rfl rfl rfl (List.Subset.refl _) rfl (.refl _)))
  | closeNode id => exact ordinary _ (.refl _)
  | closeConfig => exact ordinary _ (.refl _)
  | pair handler owner connection => exact ordinary _ (.refl _)

/-- The close handler of a `bullmq cmd` node. -/
theorem hushed_stopReading {state : NodesState} (hushed : Hushed state) {id : Nat}
    (bound : id < state.nodes.size) (handler : Nat) :
    Hushed (stopNode handler id state) := by
  let after := stopNode handler id state
  have grown : (stopReading id state.config).trace = state.config.trace ++ [.unsubscribed id] := rfl
  have acts : after.acts = state.acts ++
      [⟨.runtime id, .unsubscribed id⟩, ⟨.runtime id, .done handler none⟩] := by
    show (callback (.runtime id) (stopReading id) state).acts ++ _ = _
    rw [callback_acts grown, List.append_assoc]
    rfl
  have closed : ∀ node, Closed node after.acts → Closed node state.acts ∨ node = .runtime id := by
    intro node given
    obtain ⟨other, error, member⟩ := given
    rw [acts] at member
    rcases List.mem_append.mp member with old | new
    · exact .inl ⟨other, error, old⟩
    · right
      simp only [List.mem_cons, Act.mk.injEq, List.not_mem_nil, or_false] at new
      rcases new with ⟨same, _⟩ | ⟨same, _⟩
      · exact same
      · exact same
  refine ⟨?_, ?_, ?_⟩
  · show Always Justified after.acts
    rw [acts]
    apply always_silent hushed.silent
    simp [Reports]
  · intro reader subscribed
    have kept : reader ∈ state.config.backendReaders.filter fun other => decide (other ≠ id) :=
      subscribed
    obtain ⟨member, other⟩ := List.mem_filter.mp kept
    obtain ⟨open_, known⟩ := hushed.readers reader member
    refine ⟨?_, known⟩
    intro given
    rcases closed _ given with old | own
    · exact open_ old
    · simp [NodeName.runtime.inj own] at other
  · intro other given
    rcases closed _ given with old | own
    · exact hushed.known other old
    · rw [NodeName.runtime.inj own]
      exact bound

/-- A segment of a task that closes something. -/
theorem settles_closes {index : Nat} {task : NodesTask} {state : NodesState}
    {program : NodesBody Unit} (hushed : Hushed state) (releasing : Releasing state.nodes task)
    (framed : program.Framed (Closes (ofTask task)) anyCall state state) :
    closingNodes.Settles index task state program := by
  obtain ⟨closes, _, respects⟩ := Async.segment_of_frame framed
  have same : Evolves state.nodes (program.segment state).1.nodes := by
    rw [closes.nodes]
    exact .refl _
  refine ⟨hushed_closes hushed ?_ closes, same, ?_, respects, ?_⟩
  · intro id own
    cases task with
    | closeNode other =>
      cases own
      obtain ⟨node, found, kind⟩ := releasing id rfl
      refine ⟨Store.lt_size_of_read found, ?_⟩
      intro reading
      obtain ⟨_, reader, stored, cmd⟩ := hushed.readers id reading
      cases found.symm.trans stored
      exact kind cmd
    | closeConfig => cases own
    | _ => exact own.elim
  · intro other found paused _ held
    exact ⟨held.1, fun waiting => releasing_evolves same (held.2 waiting)⟩
  · exact fun _ => releasing_evolves same releasing

theorem settles_finished {index : Nat} {task : NodesTask} {state after : NodesState}
    {program : NodesBody Unit} {result : Except JsError Unit}
    (segment : program.segment state = (after, .finished result)) (hushed : Hushed after)
    (evolves : Evolves state.nodes after.nodes) :
    closingNodes.Settles index task state program := by
  unfold PoolInvariant.Settles
  rw [segment]
  refine ⟨hushed, evolves, ?_, trivial, False.elim⟩
  intro other found paused _ held
  exact ⟨held.1, fun waiting => releasing_evolves evolves (held.2 waiting)⟩

/-- Only the first segment of a body counts. -/
theorem settles_congr {index : Nat} {task : NodesTask} {state : NodesState}
    {program other : NodesBody Unit} (same : program.segment state = other.segment state)
    (settles : closingNodes.Settles index task state other) :
    closingNodes.Settles index task state program := by
  unfold PoolInvariant.Settles
  rw [same]
  exact settles

theorem settles_releaseAndReport (packages : Packages) {index id : Nat} {state : NodesState}
    (hushed : Hushed state) {node : RuntimeNode} (found : state.nodes.read id = some node)
    (other : node.kind ≠ .cmd) (owner : Nat) :
    closingNodes.Settles index (.closeNode id) state (releaseAndReport index id owner) := by
  have own : ofTask (.closeNode id) (.runtime id) := rfl
  apply settles_closes hushed
  · intro closed same
    cases same
    exact ⟨node, found, other⟩
  · exact Async.framed_weaken (fun _ _ closes => closes) (fun _ _ => trivial)
      (fun _ closes => closes) (releaseAndReport_closes packages index id owner own state state
        (Closes.refl state))

theorem settles_closeNode (packages : Packages) {index id : Nat} {state : NodesState}
    (hushed : Hushed state) {node : RuntimeNode} (found : state.nodes.read id = some node) :
    closingNodes.Settles index (.closeNode id) state (onCloseNode index id) := by
  have bound := Store.lt_size_of_read found
  apply settles_congr (onCloseNode_segment found index)
  obtain ⟨kind, resource, pending, closes⟩ := node
  have nothing : closingNodes.Settles index (.closeNode id) state (pure () : NodesBody Unit) :=
    settles_finished rfl hushed (.refl _)
  cases kind with
  | cmd => exact settles_finished rfl (hushed_stopReading hushed bound index) (.refl _)
  | run =>
    cases resource with
    | none => exact nothing
    | some owner => exact settles_releaseAndReport packages hushed found (by simp) owner
  | events =>
    cases resource with
    | none => exact nothing
    | some owner => exact settles_releaseAndReport packages hushed found (by simp) owner
  | flow =>
    cases resource with
    | none => exact nothing
    | some owner => exact settles_releaseAndReport packages hushed found (by simp) owner

theorem closingNodes_kept (packages : Packages) :
    closingNodes.Kept (nodesSystem packages) (Quiet packages) where
  widened := fun _ _ _ => trivial
  inScope := fun _ _ _ _ _ _ _ => trivial
  launched := by
    intro pool task covers launched quiet
    by_cases ordinary : closesSomething task = false
    · obtain ⟨result, segment⟩ := segment_sync packages ordinary pool.tasks.length pool.shared
      obtain ⟨hushed, evolves⟩ := hushed_effect covers.1 quiet
      exact settles_finished segment hushed evolves
    · cases task with
      | closeNode id =>
        obtain ⟨node, found, _⟩ := launched
        exact settles_closeNode packages covers.1 found
      | closeConfig =>
        have own : ofTask .closeConfig .config := rfl
        exact settles_closes covers.1 (by simp [Releasing])
          (onCloseConfig_closes _ own _ _ (Closes.refl _))
      | pair handler owner connection => exact launched.elim
      | _ => exact absurd rfl ordinary
  forked := by
    intro pool index call task member covers
    cases call with
    | all pairs =>
      obtain ⟨pair, _, rfl⟩ := List.mem_map.mp member
      apply settles_closes covers.1 (by simp [Releasing])
      exact Async.framed_weaken (fun _ _ closes => closes) (fun _ _ => trivial)
        (fun _ closes => closes) (pair_closes _ pair.1 pair.2 _ _ (Closes.refl pool.shared))
    | _ => cases member
  resumed := by
    intro pool index task call next reply covers waiting _ _
    obtain ⟨respects, releasing⟩ := covers.2.2 index task _ waiting
    exact settles_closes covers.1 (releasing trivial) (respects reply pool.shared)

theorem hushed_initial (config : QueueConfig) : Hushed (.initial config) where
  silent := always_nil _
  readers := by simp [NodesState.initial, ConfigState.initial]
  known := by
    intro id closed
    obtain ⟨_, _, member⟩ := closed
    cases member

/-- After the close handler of a node has called `done`, no callback of the node reports. -/
theorem silent_after_done {packages : Packages} {config : QueueConfig} {pool : NodesPool}
    (reached : Runs (nodesSystem packages).Step (Quiet packages) (emptyNodesPool config) pool)
    (node : NodeName) (before after : List Act) (handler : Nat) (error : Option JsError)
    (split : pool.shared.acts = before ++ ⟨node, .done handler error⟩ :: after) :
    ∀ act ∈ after, ¬Reports node act := by
  have covers : closingNodes.Covers pool :=
    PoolInvariant.covers_run (closingNodes_kept packages) reached
      ⟨hushed_initial config, trivial, by simp [emptyNodesPool]⟩
  intro act member reports
  obtain ⟨first, last, same⟩ := List.append_of_mem member
  have whole : pool.shared.acts =
      (before ++ ⟨node, .done handler error⟩ :: first) ++ act :: last := by
    rw [split, same]
    simp
  exact covers.1.silent _ _ _ whole node reports ⟨handler, error, by simp⟩

/-! ## A node that is closed before it is ready -/

/-- Every close and quit settles in time. -/
def settling : (call : ConfigCall) → Except JsError (ConfigReply call)
  | .close _ _ | .quit _ _ => .ok Settlement.settled
  | .lockManager _ | .all _ | .ended => .ok ()

def closingPool (kind : NodeKind) : NodesPool :=
  let system := nodesSystem plainPackages
  system.start (system.start (emptyNodesPool plainPostgres) (.deploy kind plainConstruction))
    (.closeNode 0)

def settlePool (pool : NodesPool) : NodesPool :=
  (nodesSystem plainPackages).resumeWith pool 1 settling

/-- The close handler of the one runtime node has called `done`. -/
def closedPool (kind : NodeKind) : NodesPool :=
  settlePool (settlePool (settlePool (settlePool (closingPool kind))))

def connectionClosed : JsError := newError "Connection is closed."

/-- The readiness promise rejects because the resource was closed. -/
def latePool (kind : NodeKind) : NodesPool :=
  (nodesSystem plainPackages).start (closedPool kind) (.readiness 0 (some connectionClosed))

/-- The pool is reached in a quiet run. -/
def PlainRun (pool : NodesPool) : Prop :=
  Runs (nodesSystem plainPackages).Step (Quiet plainPackages) (emptyNodesPool plainPostgres) pool

theorem runs_settling {pool : NodesPool} (run : PlainRun pool) {task : NodesTask} {call : ConfigCall}
    {next : Except JsError (ConfigReply call) → NodesBody Unit}
    (known : pool.tasks[1]? = some (task, Paused.awaiting call next)) (alone : single call) :
    PlainRun (settlePool pool) := by
  apply System.runs_resumeWith run
  intro other asked rest waiting
  cases known.symm.trans waiting
  refine ⟨?_, trivial⟩
  cases call with
  | close owner budget => exact ⟨.settled, rfl⟩
  | quit connection budget => exact ⟨.settled, rfl⟩
  | lockManager owner => trivial
  | all pairs => exact alone.elim
  | ended => rfl

theorem closingPool_reached (kind : NodeKind) (closes : ∃ node,
      ((nodesSystem plainPackages).start (emptyNodesPool plainPostgres)
        (.deploy kind plainConstruction)).shared.nodes.read 0 = some node ∧ node.closes = true) :
    PlainRun (closingPool kind) := by
  apply System.runs_start _ _ closes trivial
  exact System.runs_start (Runs.refl _) _ trivial trivial

theorem closedPool_reached {kind : NodeKind} (closing : PlainRun (closingPool kind))
    {owner budget : Nat} {close : Except JsError (ConfigReply (.close owner budget)) → NodesBody Unit}
    {first second third : Except JsError (ConfigReply .ended) → NodesBody Unit}
    (closes : (closingPool kind).tasks[1]? =
      some (NodesTask.closeNode 0, Paused.awaiting (.close owner budget) close))
    (ends : (settlePool (closingPool kind)).tasks[1]? =
      some (NodesTask.closeNode 0, Paused.awaiting .ended first))
    (ends' : (settlePool (settlePool (closingPool kind))).tasks[1]? =
      some (NodesTask.closeNode 0, Paused.awaiting .ended second))
    (ends'' : (settlePool (settlePool (settlePool (closingPool kind)))).tasks[1]? =
      some (NodesTask.closeNode 0, Paused.awaiting .ended third)) :
    PlainRun (closedPool kind) := by
  have once := runs_settling closing closes trivial
  have twice := runs_settling once ends trivial
  have thrice := runs_settling twice ends' trivial
  exact runs_settling thrice ends'' trivial

theorem runPool_reached : PlainRun (latePool .run) := by
  have closed : PlainRun (closedPool .run) :=
    closedPool_reached (closingPool_reached .run ⟨_, rfl, rfl⟩) rfl rfl rfl rfl
  apply System.runs_start closed
  · exact ⟨_, rfl, rfl⟩
  · exact fun _ => ⟨_, 0, rfl, rfl, rfl, rfl⟩

theorem silent_after_done_run : ∃ before after,
    (latePool .run).shared.acts = before ++ ⟨.runtime 0, .done 1 none⟩ :: after ∧
      ∀ act ∈ after, ¬Reports (.runtime 0) act :=
  ⟨_, [], rfl, silent_after_done runPool_reached (.runtime 0) _ [] 1 none rfl⟩

/-- A `bullmq flow` node has no such guard. -/
theorem late_rejection_reported : ∃ pool,
    Runs (nodesSystem plainPackages).Step anyMove (emptyNodesPool plainPostgres) pool ∧
      ∃ before after act, pool.shared.acts = before ++ ⟨.runtime 0, .done 1 none⟩ :: after ∧
        act ∈ after ∧ Reports (.runtime 0) act := by
  have closed : PlainRun (closedPool .flow) :=
    closedPool_reached (closingPool_reached .flow ⟨_, rfl, rfl⟩) rfl rfl rfl rfl
  refine ⟨latePool .flow, ?_, ?_⟩
  · exact System.runs_start (closed.weaken fun _ _ _ => trivial) _ ⟨_, rfl, rfl⟩ trivial
  · have split : (latePool .flow).shared.acts =
        [⟨.runtime 0, .created 0 none⟩, ⟨.runtime 0, .status (.runtime 0) .connecting⟩] ++
          ⟨.runtime 0, .done 1 none⟩ :: (latePool .flow).shared.acts.drop 3 := rfl
    have shown : ((latePool .flow).shared.acts.drop 3)[0]? =
        some ⟨.runtime 0, .status (.runtime 0) .disconnected⟩ := rfl
    exact ⟨_, _, _, split, List.mem_of_getElem? shown, rfl, .inl ⟨_, rfl⟩⟩

end NodeRedBull.ClosedNodes
