import NodeRedBull.Library.Drain
import NodeRedBull.NodeShutdown

/-! Whatever has happened to the nodes, all their close handlers can still call `done`, even if
BullMQ and the backend settle nothing any more. -/

namespace NodeRedBull.Quiescence
open Js Library Connections ConfigNode ConfigBooks RuntimeNodes NodesSteps NodesClosings NodeShutdown
open ClosedNodes (PlainRun closingPool closingPool_reached)
open ConfigPairs (plainPackages)

/-- Nothing new happens, and no `close` and no `quit` settles before its budget has run out. -/
def Unhelped (_ : NodesPool) : NodesMove → Prop
  | .start _ => False
  | .resume _ (.close _ _) reply => reply = .ok Settlement.timeout
  | .resume _ (.quit _ _) reply => reply = .ok Settlement.timeout
  | .resume _ _ _ => True

abbrev Stopped := Paused NodesState ConfigCall ConfigReply JsError Unit

def anyChange (_ _ : NodesState) : Prop := True

/-! ## What a task waits for -/

/-- The close handler of the configuration node has ended, or it awaits the closings of all its
pairs, and then it ends. -/
def AwaitsAll : Stopped → Prop
  | .finished _ => True
  | .awaiting call next => (∃ pairs, call = .all pairs) ∧
      ∀ reply state, ∃ result, ((next reply).segment state).2 = .finished result

/-- What every task is like, wherever it has stopped. -/
def Waits (_ : Nat) (task : NodesTask) (paused : Stopped) : Prop :=
  (task ≠ .closeConfig → paused.WaitsAt single ∧ paused.Respects anyChange single) ∧
    (task = .closeConfig → AwaitsAll paused)

theorem respects_anyChange {body : NodesBody Unit} {who : NodeName → Prop}
    (closes : body.Respects (Closes who) single) : body.Respects anyChange single := by
  intro start now _
  exact Async.framed_weaken (fun _ _ _ => trivial) (fun _ alone => alone) (fun _ _ => trivial)
    (closes now now (Closes.refl now))

theorem onCloseNode_alone (packages : Packages) (handler id : Nat) :
    (onCloseNode handler id).Respects anyChange single := by
  apply Async.respects_bind Async.respects_get
  intro state
  have nothing : (pure () : NodesBody Unit).Respects anyChange single := Async.respects_pure ()
  have released : ∀ resource, (releaseAndReport handler id resource).Respects anyChange single :=
    fun resource => respects_anyChange (releaseAndReport_closes packages handler id resource trivial :
      (releaseAndReport handler id resource).Respects (Closes anyone) single)
  cases state.nodes.read id with
  | none => exact nothing
  | some node =>
    obtain ⟨kind, resource, pending, closes⟩ := node
    cases kind with
    | cmd => exact Async.respects_bind (fun _ _ _ => trivial) fun _ _ _ _ => trivial
    | _ =>
      cases resource with
      | none => exact nothing
      | some resource => exact released resource

theorem waits_of_respects {body : NodesBody Unit} (respects : body.Respects anyChange single)
    (state : NodesState) : (body.segment state).2.WaitsAt single ∧
      (body.segment state).2.Respects anyChange single :=
  (Async.segment_of_frame (respects state state trivial)).2

theorem waits_shape (packages : Packages) : Shape (nodesSystem packages) Waits where
  begun := by
    intro index task state
    constructor
    · intro other
      change ((runNodesTask packages index task).segment state).2.WaitsAt single ∧
        ((runNodesTask packages index task).segment state).2.Respects anyChange single
      by_cases ordinary : closesSomething task = false
      · obtain ⟨result, segment⟩ := segment_sync packages ordinary index state
        rw [segment]
        exact ⟨trivial, trivial⟩
      · cases task with
        | closeNode id => exact waits_of_respects (onCloseNode_alone packages index id) state
        | closeConfig => exact absurd rfl other
        | pair handler owner connection =>
          have closes : ((closeResourcePair index owner connection).onPart configPart).Respects
              (Closes anyone) single := pair_closes index owner connection
          exact waits_of_respects (respects_anyChange closes) state
        | _ => exact absurd rfl ordinary
    · intro same
      subst same
      refine ⟨⟨_, rfl⟩, ?_⟩
      intro reply later
      cases reply with
      | ok value => exact ⟨.ok (), rfl⟩
      | error err => exact ⟨.ok (), rfl⟩
  resumed := by
    intro index task call next reply state waits
    constructor
    · intro other
      have respects : Paused.Respects anyChange single (Paused.awaiting call next) :=
        (waits.1 other).2
      exact (Async.segment_of_frame (respects reply state)).2
    · intro same
      obtain ⟨_, ends⟩ := waits.2 same
      obtain ⟨result, ended⟩ := ends reply state
      rw [ended]
      trivial

/-! ## How the tasks end -/

section Ends
variable {packages : Packages} {config : QueueConfig}

/-- The pool is reached from the beginning. -/
def Reached (packages : Packages) (config : QueueConfig) (pool : NodesPool) : Prop :=
  Runs (nodesSystem packages).Step anyMove (emptyNodesPool config) pool

theorem Reached.further {pool last : NodesPool} (reached : Reached packages config pool)
    (run : Runs (nodesSystem packages).Step Unhelped pool last) : Reached packages config last :=
  reached.trans (run.weaken fun _ _ _ => trivial)

/-- Whatever a task waits for, but for `Promise.all`, the wait can end without any help. -/
theorem answerable (index : Nat) (pool : NodesPool) (call : ConfigCall) (alone : single call) :
    ∃ reply, nodesAnswered pool index call reply ∧ Unhelped pool (.resume index call reply) := by
  cases call with
  | close owner budget => exact ⟨.ok .timeout, ⟨.timeout, rfl⟩, rfl⟩
  | quit connection budget => exact ⟨.ok .timeout, ⟨.timeout, rfl⟩, rfl⟩
  | lockManager owner => exact ⟨.ok (), trivial, trivial⟩
  | all pairs => exact absurd alone id
  | ended => exact ⟨.ok (), rfl, trivial⟩

theorem forks_single (index : Nat) (call : ConfigCall) (alone : single call) :
    (nodesSystem packages).forks index call = [] := by
  cases call with
  | all pairs => exact absurd alone id
  | _ => rfl

theorem others_end (pool : NodesPool) (index : Nat) (task : NodesTask) (paused : Stopped)
    (reached : Reached packages config pool) (found : pool.tasks[index]? = some (task, paused))
    (other : task ≠ .closeConfig) :
    ∃ last, Runs (nodesSystem packages).Step Unhelped pool last ∧ Reached packages config last ∧
      (∃ result, last.tasks[index]? = some (task, .finished result)) ∧
      ∀ other, other ≠ index → last.tasks[other]? = pool.tasks[other]? := by
  obtain ⟨waits, respects⟩ := ((waits_shape packages).run reached found).1 other
  have free : ∀ pool call, single call → ∃ reply, (nodesSystem packages).answers pool index call reply ∧
      Unhelped pool (.resume index call reply) := answerable index
  obtain ⟨last, run, ended, others⟩ := System.runs_to_end_of_paused (fun _ => trivial)
    (forks_single index) free waits respects found
  exact ⟨last, run, reached.further run, ended, others⟩

/-- All tasks have ended but for close handlers of the configuration node. -/
def OthersEnded (pool : NodesPool) : Prop :=
  ∀ (index : Nat) (task : NodesTask) (paused : Stopped), pool.tasks[index]? = some (task, paused) →
    task ≠ .closeConfig → ∃ result, paused = .finished result

/-- `Promise.all` settles when the closings of the pairs have. -/
theorem all_settles {pool : NodesPool} (ended : OthersEnded pool) (handler : Nat)
    (pairs : List (Nat × Option Nat)) :
    ∃ reply : Except JsError Unit, nodesAnswered pool handler (.all pairs) reply := by
  have settled : ∀ promise ∈ nodesPromises pool handler, ∃ result, promise = some result := by
    intro promise member
    obtain ⟨entry, found, picked⟩ := List.mem_filterMap.mp member
    obtain ⟨index, place⟩ := List.mem_iff_getElem?.mp found
    obtain ⟨task, paused⟩ := entry
    cases task with
    | pair parent owner connection =>
      obtain ⟨result, finished⟩ := ended index _ paused place nofun
      subst finished
      simp only [Option.ite_none_right_eq_some, Option.some.injEq] at picked
      exact ⟨result, picked.2.symm⟩
    | _ => cases picked
  by_cases failed : ∃ err, some (.error err) ∈ nodesPromises pool handler
  · obtain ⟨err, member⟩ := failed
    exact ⟨.error err, member⟩
  · refine ⟨.ok (), ?_⟩
    intro promise member
    obtain ⟨result, same⟩ := settled promise member
    subst same
    cases result with
    | ok value => rfl
    | error err => exact absurd ⟨err, member⟩ failed

theorem config_ends (pool : NodesPool) (index : Nat) (task : NodesTask) (paused : Stopped)
    (held : Reached packages config pool ∧ OthersEnded pool)
    (found : pool.tasks[index]? = some (task, paused)) (closes : task = .closeConfig) :
    ∃ last, Runs (nodesSystem packages).Step Unhelped pool last ∧
      (Reached packages config last ∧ OthersEnded last) ∧
      (∃ result, last.tasks[index]? = some (task, .finished result)) ∧
      ∀ other, other ≠ index → last.tasks[other]? = pool.tasks[other]? := by
  obtain ⟨reached, ended⟩ := held
  subst closes
  have waits := ((waits_shape packages).run reached found).2 rfl
  cases paused with
  | finished result => exact ⟨pool, .refl _, ⟨reached, ended⟩, ⟨result, found⟩, fun _ _ => rfl⟩
  | awaiting call next =>
    obtain ⟨⟨pairs, same⟩, ends⟩ := waits
    subst same
    obtain ⟨reply, answer⟩ := all_settles ended index pairs
    have step : (nodesSystem packages).Step pool (.resume index (.all pairs) reply)
        ((nodesSystem packages).resume pool index .closeConfig (next reply)) :=
      .resume found answer
    obtain ⟨result, stops⟩ := ends reply pool.shared
    have unforked : (nodesSystem packages).forked index ((next reply).segment pool.shared).2 = [] := by
      rw [stops]
      rfl
    have alone : Unhelped pool (.resume index (.all pairs) reply) := trivial
    have run : Runs (nodesSystem packages).Step Unhelped pool
        ((nodesSystem packages).resume pool index .closeConfig (next reply)) :=
      (Runs.refl pool).extend alone step
    rw [System.resume_eq_set _ unforked, stops] at run
    have bound := (List.getElem?_eq_some_iff.mp found).1
    have others : ∀ other, other ≠ index → (pool.tasks.set index (.closeConfig, .finished result))[other]? =
        pool.tasks[other]? := fun other different => List.getElem?_set_ne (Ne.symm different)
    refine ⟨_, run, ⟨reached.further run, ?_⟩, ⟨result, List.getElem?_set_self bound⟩, others⟩
    intro place task stopped member picked
    by_cases here : place = index
    · subst here
      rw [List.getElem?_set_self bound] at member
      cases member
      exact absurd rfl picked
    · rw [others place here] at member
      exact ended place task stopped member picked

/-- From every state reached, without any help: all tasks end, and every close handler has called
`done` once. -/
theorem shutdown_completes {pool : NodesPool}
    (reached : Runs (nodesSystem packages).Step anyMove (emptyNodesPool config) pool) :
    ∃ last, Runs (nodesSystem packages).Step Unhelped pool last ∧
      last.tasks.map Prod.fst = pool.tasks.map Prod.fst ∧
      (∀ entry ∈ last.tasks, ∃ result, entry.2 = .finished result) ∧
      ∀ (handler : Nat) (task : NodesTask) (paused : Stopped) (node : NodeName)
        (program : NodesBody Unit), pool.tasks[handler]? = some (task, paused) →
          closeOf handler task = some (node, program) →
            ∃ error, doneBy handler last.shared = [(node, error)] := by
  obtain ⟨middle, run, arrived, drained⟩ :=
    System.drains others_end (show Reached packages config pool from reached) pool.tasks.length
  have others : OthersEnded middle := fun _ _ _ found other => drained.finished found other
  obtain ⟨last, further, held, settled⟩ :=
    System.drains config_ends ⟨arrived, others⟩ middle.tasks.length
  obtain ⟨reached, still⟩ := held
  have all : ∀ (index : Nat) (task : NodesTask) (paused : Stopped),
      last.tasks[index]? = some (task, paused) → ∃ result, paused = .finished result := by
    intro index task paused found
    by_cases closes : task = .closeConfig
    · exact settled.finished found closes
    · exact still index task paused found closes
  have kinds : last.tasks.map Prod.fst = pool.tasks.map Prod.fst :=
    settled.kinds.trans drained.kinds
  refine ⟨last, run.trans further, kinds, ?_, ?_⟩
  · intro entry member
    obtain ⟨index, found⟩ := List.mem_iff_getElem?.mp member
    exact all index entry.1 entry.2 found
  · intro handler task paused node program found closes
    obtain ⟨stopped, there⟩ := System.found_of_kinds kinds.symm found
    obtain ⟨result, ended⟩ := all handler task stopped there
    obtain ⟨moves, path⟩ := reached.path
    rcases Reporter.reported_of_path (closings_reportIn config closes) (fun _ => rfl) path there with
      ⟨_, _, _, waits, _⟩ | ⟨outcome, _, _, reported⟩
    · rw [ended] at waits
      cases waits
    · exact ⟨failureOf outcome, reported⟩

end Ends

theorem shutdown_completes_closing : ∃ last error,
    Runs (nodesSystem plainPackages).Step Unhelped (closingPool .run) last ∧
      doneBy 1 last.shared = [(.runtime 0, error)] := by
  have closing : PlainRun (closingPool .run) := closingPool_reached .run ⟨_, rfl, rfl⟩
  obtain ⟨last, run, _, _, reports⟩ := shutdown_completes (closing.weaken fun _ _ _ => trivial)
  have waiting : ∃ paused, (closingPool .run).tasks[1]? = some (.closeNode 0, paused) := ⟨_, rfl⟩
  obtain ⟨paused, found⟩ := waiting
  obtain ⟨error, reported⟩ := reports 1 (.closeNode 0) paused _ _ found rfl
  exact ⟨last, error, run, reported⟩

end NodeRedBull.Quiescence
