import NodeRedBull.NodesSteps

/-! What close handlers of the runtime nodes leave alone, and the rule for invariants of runs. -/

namespace NodeRedBull.NodesClosings
open Js Library Connections ConfigNode ConfigBooks ConfigStep RuntimeNodes NodesSteps

/-! ## Closings -/

/-- What the nodes see of the configuration node is left alone. -/
structure SameEars (before after : ConfigState) : Prop where
  config : after.config = before.config
  watched : after.watched = before.watched
  readers : after.backendReaders = before.backendReaders
  listeners : after.listeners = before.listeners

theorem SameEars.refl (state : ConfigState) : SameEars state state := ⟨rfl, rfl, rfl, rfl⟩

theorem SameEars.trans (first second third : ConfigState) (left : SameEars first second)
    (right : SameEars second third) : SameEars first third :=
  ⟨right.config.trans left.config, right.watched.trans left.watched, right.readers.trans left.readers,
    right.listeners.trans left.listeners⟩

theorem sameEars_frame : ClosingFrame SameEars where
  refl := SameEars.refl
  trans := SameEars.trans
  record := fun _ _ _ => ⟨rfl, rfl, rfl, rfl⟩
  ended := fun _ _ => ⟨rfl, rfl, rfl, rfl⟩

/-- A close handler adds that it has called `done`, and nothing else that the nodes see. -/
structure Closes (who : NodeName → Prop) (before after : NodesState) : Prop where
  nodes : after.nodes = before.nodes
  ears : after.ownerListeners = before.ownerListeners
  config : SameEars before.config after.config
  acts : ∃ added, after.acts = before.acts ++ added ∧ ∀ act ∈ added, who act.node ∧
    ∃ handler error, act.effect = .done handler error

section Closings

variable {who : NodeName → Prop}

theorem Closes.still {before after : NodesState} (nodes : after.nodes = before.nodes)
    (ears : after.ownerListeners = before.ownerListeners)
    (config : SameEars before.config after.config) (acts : after.acts = before.acts) :
    Closes who before after :=
  ⟨nodes, ears, config, [], by rw [acts, List.append_nil], by simp⟩

theorem Closes.refl (state : NodesState) : Closes who state state := .still rfl rfl (.refl _) rfl

theorem Closes.trans (first second third : NodesState) (left : Closes who first second)
    (right : Closes who second third) : Closes who first third := by
  obtain ⟨early, grown, done⟩ := left.acts
  obtain ⟨late, grown', done'⟩ := right.acts
  refine ⟨right.nodes.trans left.nodes, right.ears.trans left.ears,
    left.config.trans _ _ _ right.config, early ++ late, ?_, ?_⟩
  · rw [grown', grown, List.append_assoc]
  · intro act member
    exact (List.mem_append.mp member).elim (done act) (done' act)

theorem Closes.stays {before after : NodesState} (closes : Closes who before after)
    (builds : Nat → Prop) : Stays builds before after := by
  apply stays_config closes.nodes closes.ears closes.config.config _ closes.config.readers
  · rw [closes.config.listeners]
    exact .refl _
  · rw [closes.config.watched]
    exact List.Subset.refl _

def anyCall (_ : ConfigCall) : Prop := True

/-- A body of the configuration node that leaves what the nodes see alone. -/
theorem onPart_closes {body : ConfigBody Unit} {base : ConfigState → ConfigState}
    (kept : ∀ state, SameEars state (base state))
    (framed : ∀ state, body.Framed SameEars single (base state) state) :
    (body.onPart configPart).Respects (Closes who) single := by
  intro start now near
  have whole : (body.onPart configPart).Framed (configPart.Only SameEars) single now now := by
    apply Async.framed_onPart _ rfl
    apply Async.framed_weaken (fun _ _ same => same) (fun _ alone => alone) _ (framed now.config)
    exact fun after same => SameEars.trans _ _ _ (kept now.config) same
  have seen : ∀ before after, configPart.Only SameEars before after → Closes who before after := by
    intro before after only
    have rest : after = { before with config := after.config } := only.2
    have nodes : after.nodes = before.nodes := by rw [rest]
    have ears : after.ownerListeners = before.ownerListeners := by rw [rest]
    have acts : after.acts = before.acts := by rw [rest]
    exact .still nodes ears only.1 acts
  exact Async.framed_weaken seen (fun _ alone => alone)
    (fun after only => Closes.trans _ _ _ near (seen now after only)) whole

theorem callDone_closes {node : NodeName} (own : who node) (handler : Nat)
    (error : Option JsError) (calls : ConfigCall → Prop) :
    (callDone node handler error).Respects (Closes who) calls := by
  apply Async.respects_modify Closes.trans
  intro state
  exact ⟨rfl, rfl, .refl _, [⟨node, .done handler error⟩], rfl, by simpa using own⟩

theorem releaseResource_closes (packages : Packages) (handler owner : Nat) :
    ((releaseResource handler owner).onPart configPart).Respects (Closes who) single := by
  apply onPart_closes _ (releaseResource_framed sameEars_frame packages handler owner)
  intro state
  cases tracked : state.resources.get owner with
  | none =>
    simp only [effect, tracked]
    exact .refl _
  | some connection =>
    simp only [effect, tracked]
    exact ⟨rfl, rfl, rfl, rfl⟩

theorem releaseAndReport_closes (packages : Packages) (handler id resource : Nat)
    (own : who (.runtime id)) : (releaseAndReport handler id resource).Respects (Closes who) single := by
  apply Async.respects_tryCatch
  · exact Async.respects_bind (releaseResource_closes packages handler resource) fun _ =>
      callDone_closes own handler none single
  · exact fun err => callDone_closes own handler (some err) single

theorem pair_closes (handler owner : Nat) (connection : Option Nat) :
    ((closeResourcePair handler owner connection).onPart configPart).Respects (Closes who) single := by
  apply onPart_closes _ (closeResourcePair_framed sameEars_frame handler owner connection)
  exact fun _ => ⟨rfl, rfl, rfl, rfl⟩

theorem onCloseConfig_closes (handler : Nat) (own : who .config) :
    (onCloseConfig handler).Respects (Closes who) anyCall := by
  have taken : ∀ state : NodesState, Closes who state
      { state with config := (takeAll handler state.config).2 } := 
    fun _ => .still rfl rfl ⟨rfl, rfl, rfl, rfl⟩ rfl
  have cleared : ∀ state : NodesState, Closes who state
      (onConfig (ConfigState.record (.status .config .cleared)) state) := 
    fun _ => .still rfl rfl ⟨rfl, rfl, rfl, rfl⟩ rfl
  apply Async.respects_tryCatch
  · apply Async.respects_bind
    · exact fun start now near => Closes.trans _ _ _ near (taken now)
    intro resources
    apply Async.respects_bind (Async.respects_call Closes.refl trivial)
    intro _
    apply Async.respects_bind (Async.respects_modify Closes.trans cleared)
    intro _
    exact callDone_closes own handler none anyCall
  · exact fun err => callDone_closes own handler (some err) anyCall

end Closings

/-- The node whose close handler the task is. -/
def ofTask : NodesTask → NodeName → Prop
  | .closeNode id, node => node = .runtime id
  | .closeConfig, node => node = .config
  | _, _ => False

/-! ## The rule for runs -/

theorem onCloseNode_segment {id : Nat} {state : NodesState} {node : RuntimeNode}
    (found : state.nodes.read id = some node) (index : Nat) :
    (onCloseNode index id).segment state = (closeHandler index id (some node)).segment state := by
  unfold onCloseNode
  rw [Async.segment_bind, Async.segment_get, ← found]
  rfl

/-- The close handler of a `bullmq cmd` node. -/
def stopNode (handler id : Nat) (state : NodesState) : NodesState :=
  (callback (.runtime id) (stopReading id) state).act ⟨.runtime id, .done handler none⟩

def anyone (_ : NodeName) : Prop := True

/-- What a condition on the nodes must survive: the tasks that close nothing, and closings. -/
structure Survives (packages : Packages) (allowed : NodesPool → NodesMove → Prop)
    (holds : NodesState → Prop) : Prop where
  started : ∀ (pool : NodesPool) task, closesSomething task = false → holds pool.shared →
    nodesLaunches pool task → allowed pool (.start task) →
      holds (nodesEffect packages task pool.shared)
  closes : ∀ before after, Closes anyone before after → holds before → holds after
  stopped : ∀ (pool : NodesPool) id, holds pool.shared → allowed pool (.start (.closeNode id)) →
    holds (stopNode pool.tasks.length id pool.shared)

/-- The condition on the shared state, and that every task that waits only closes something. -/
def survivors (holds : NodesState → Prop) :
    PoolInvariant NodesState ConfigCall ConfigReply JsError Unit NodesTask where
  shared := holds
  scope := fun _ _ => True
  guarantee := fun _ _ _ => True
  task := fun _ _ _ paused => paused.Respects (Closes anyone) anyCall

section Survives

variable {packages : Packages} {allowed : NodesPool → NodesMove → Prop} {holds : NodesState → Prop}

theorem settles_framed (survives : Survives packages allowed holds) {index : Nat} {task : NodesTask}
    {state : NodesState} {program : NodesBody Unit} (held : holds state) {calls : ConfigCall → Prop}
    (respects : program.Respects (Closes anyone) calls) :
    (survivors holds).Settles index task state program := by
  have framed : program.Framed (Closes anyone) anyCall state state :=
    Async.framed_weaken (fun _ _ closes => closes) (fun _ _ => trivial) (fun _ closes => closes)
      (respects state state (Closes.refl state))
  obtain ⟨closes, _, further⟩ := Async.segment_of_frame framed
  exact ⟨survives.closes _ _ closes held, trivial, fun _ _ _ _ given => given, further⟩

theorem settles_ended {index : Nat} {task : NodesTask} {state after : NodesState}
    {program : NodesBody Unit} {result : Except JsError Unit}
    (segment : program.segment state = (after, .finished result)) (held : holds after) :
    (survivors holds).Settles index task state program := by
  unfold PoolInvariant.Settles
  rw [segment]
  exact ⟨held, trivial, fun _ _ _ _ given => given, trivial⟩

theorem survivors_kept (survives : Survives packages allowed holds) :
    (survivors holds).Kept (nodesSystem packages) allowed where
  widened := fun _ _ _ => trivial
  inScope := fun _ _ _ _ _ _ _ => trivial
  launched := by
    intro pool task covers launched permitted
    by_cases ordinary : closesSomething task = false
    · obtain ⟨result, segment⟩ := segment_sync packages ordinary pool.tasks.length pool.shared
      exact settles_ended segment (survives.started pool task ordinary covers.1 launched permitted)
    · cases task with
      | closeNode id =>
        obtain ⟨node, found, _⟩ := launched
        have segment := onCloseNode_segment found pool.tasks.length
        obtain ⟨kind, resource, pending, closes⟩ := node
        have released : ∀ owner, (survivors holds).Settles pool.tasks.length (.closeNode id)
            pool.shared (releaseAndReport pool.tasks.length id owner) := fun owner =>
          settles_framed survives covers.1 (releaseAndReport_closes packages _ id owner trivial)
        have nothing : (survivors holds).Settles pool.tasks.length (.closeNode id) pool.shared
            (pure () : NodesBody Unit) := settles_ended rfl covers.1
        show (survivors holds).Settles pool.tasks.length (.closeNode id) pool.shared
          (onCloseNode pool.tasks.length id)
        unfold PoolInvariant.Settles
        rw [segment]
        cases kind with
        | cmd => exact settles_ended rfl (survives.stopped pool id covers.1 permitted)
        | _ =>
          cases resource with
          | none => exact nothing
          | some owner => exact released owner
      | closeConfig => exact settles_framed survives covers.1 (onCloseConfig_closes _ trivial)
      | pair handler owner connection => exact launched.elim
      | _ => exact absurd rfl ordinary
  forked := by
    intro pool index call task member covers
    cases call with
    | all pairs =>
      obtain ⟨pair, _, rfl⟩ := List.mem_map.mp member
      exact settles_framed survives covers.1 (pair_closes _ pair.1 pair.2)
    | _ => cases member
  resumed := by
    intro pool index task call next reply covers waiting _ _
    have respects : Paused.Respects (Closes anyone) anyCall (.awaiting call next) :=
      covers.2.2 index task _ waiting
    obtain ⟨closes, _, further⟩ := Async.segment_of_frame (respects reply pool.shared)
    exact ⟨survives.closes _ _ closes covers.1, trivial, fun _ _ _ _ given => given, further⟩

/-- The tasks that wait only close something, whatever else holds. -/
theorem survivors_covers {other : NodesState → Prop} {pool : NodesPool}
    (covers : (survivors other).Covers pool) (held : holds pool.shared) :
    (survivors holds).Covers pool := ⟨held, covers.2⟩

/-- What survives every task and closing holds of every state reached. -/
theorem Survives.run {config : QueueConfig} {pool : NodesPool}
    (survives : Survives packages allowed holds)
    (reached : Runs (nodesSystem packages).Step allowed (emptyNodesPool config) pool)
    (initial : holds (.initial config)) : (survivors holds).Covers pool :=
  PoolInvariant.covers_run (survivors_kept survives) reached
    ⟨initial, trivial, by simp [emptyNodesPool]⟩

theorem Survives.step {pool later : NodesPool} {move : NodesMove}
    (survives : Survives packages allowed holds) (covers : (survivors holds).Covers pool)
    (permitted : allowed pool move) (made : (nodesSystem packages).Step pool move later) :
    (survivors holds).Covers later :=
  (PoolInvariant.step_spec (survivors_kept survives) PoolInvariant.respected_any covers permitted
    made).1

end Survives

end NodeRedBull.NodesClosings
