import NodeRedBull.ClosingOutline
import NodeRedBull.CloseReports

/-! Nothing outlives the close of the node, as long as nothing is created once it has begun. -/

namespace NodeRedBull.NothingOutlives
open Js Library Connections ConfigNode ConfigBooks ConfigStep ConfigAccounts ConfigPairs
open ClosingOutline CloseReports

/-- Every owner and every connection belongs to a pair, and nothing is tracked once a close
handler has begun. -/
structure Owned (state : ConfigState) : Prop where
  owners : ∀ owner, owner < state.owners.size →
    ∃ connection, (owner, connection) ∈ createdPairs state.trace
  connections : ∀ ref, ref < state.connections.size →
    ∃ owner, (owner, some ref) ∈ createdPairs state.trace
  emptied : ∀ handler, .closeBegan handler ∈ state.trace → state.resources.entries = []

/-- No BullMQ constructor throws. -/
def Builds (pool : ConfigPool) : ConfigMove → Prop
  | .start task => ∀ construction, constructs pool.shared task = some construction →
      ∃ shape, construction.owner = .ok shape
  | .resume _ _ _ => True

/-- No BullMQ constructor throws, and none runs once a close handler has begun. -/
def BuildsBeforeClose (pool : ConfigPool) (move : ConfigMove) : Prop :=
  Builds pool move ∧ ∀ task, move = .start task → constructs pool.shared task ≠ none →
    ∀ handler, .closeBegan handler ∉ pool.shared.trace

theorem Owned.of_same {before after : ConfigState} (holds : Owned before)
    (created : createdPairs after.trace = createdPairs before.trace)
    (began : ∀ handler, .closeBegan handler ∈ after.trace → .closeBegan handler ∈ before.trace)
    (resources : after.resources = before.resources)
    (owners : after.owners.size = before.owners.size)
    (connections : after.connections.size = before.connections.size) : Owned after := by
  constructor
  · intro owner bound
    rw [created]
    exact holds.owners owner (by omega)
  · intro ref bound
    rw [created]
    exact holds.connections ref (by omega)
  · intro handler member
    rw [resources]
    exact holds.emptied handler (began handler member)

theorem Owned.unmoved {before after : ConfigState} (kept : Unmoved before after)
    (holds : Owned before) : Owned after := by
  refine holds.of_same ?_ ?_ kept.resources (by rw [kept.owners]) (by rw [kept.connections])
  · rw [createdPairs_ledger, kept.ledger, ← createdPairs_ledger]
  · intro handler member
    rw [← mem_ledger rfl, kept.ledger] at member
    exact (mem_ledger rfl before).mp member

theorem closeBegan_books (handler : Nat) (state : ConfigState) :
    .closeBegan handler ∈ (books state).trace ↔ .closeBegan handler ∈ state.trace := by
  unfold books
  dsimp only
  rw [List.mem_filter]
  exact and_iff_left rfl

theorem Owned.seen {before after : ConfigState} (same : SameBooks before after)
    (holds : Owned before) : Owned after := by
  have equal : books before = books after := same
  have owners : (books before).owners.size = (books after).owners.size :=
    congrArg (fun state => state.owners.size) equal
  have connections : before.connections.size = after.connections.size := by
    have sizes := congrArg (fun state => state.connections.size) equal
    simpa [books, Store.size] using sizes
  refine holds.of_same ?_ ?_ (resources_of_sameBooks same) owners.symm connections.symm
  · exact filterMap_of_sameBooks (fun effect => by cases effect <;> simp [Effect.isShutdown,
      createdPair]) same
  · intro handler member
    rw [← closeBegan_books, ← equal, closeBegan_books] at member
    exact member

theorem Owned.adds {before after : ConfigState} {owner : Nat} {connection : Option Nat}
    (adds : Adds before after owner connection) (holds : Owned before)
    (open_ : ∀ handler, .closeBegan handler ∉ before.trace) : Owned after := by
  have created : createdPairs after.trace = createdPairs before.trace ++ [(owner, connection)] := by
    rw [createdPairs_ledger, adds.ledger, createdPairs_ledger before]
    simp [createdPairs, createdPair]
  have last : (owner, connection) ∈ createdPairs after.trace := by
    rw [created]
    exact List.mem_append_right _ (List.mem_singleton_self _)
  have old : ∀ pair, pair ∈ createdPairs before.trace → pair ∈ createdPairs after.trace := by
    intro pair member
    rw [created]
    exact List.mem_append_left _ member
  constructor
  · intro other bound
    rw [adds.owners] at bound
    by_cases earlier : other < before.owners.size
    · obtain ⟨ref, member⟩ := holds.owners other earlier
      exact ⟨ref, old _ member⟩
    · have same : other = owner := by
        have position := adds.fresh
        omega
      rw [same]
      exact ⟨connection, last⟩
  · intro ref bound
    rw [adds.connections] at bound
    by_cases earlier : ref < before.connections.size
    · obtain ⟨other, member⟩ := holds.connections ref earlier
      exact ⟨other, old _ member⟩
    · cases opened : connection with
      | none =>
        rw [opened] at bound
        exact absurd bound earlier
      | some fresh =>
        rw [opened, Option.toList_some, List.length_singleton] at bound
        have position := adds.opened fresh opened
        have same : ref = fresh := by omega
        rw [same, ← opened]
        exact ⟨owner, last⟩
  · intro handler member
    rw [← mem_ledger rfl, adds.ledger] at member
    rcases List.mem_append.mp member with earlier | new
    · exact absurd ((mem_ledger rfl before).mp earlier) (open_ handler)
    · cases List.mem_singleton.mp new

theorem Owned.release {state : ConfigState} {index owner : Nat} {connection : Option Nat}
    (found : state.resources.get owner = some connection) (holds : Owned state) :
    Owned ((take index owner connection state).record (.closesPair index owner connection)) := by
  have trace : ((take index owner connection state).record
      (.closesPair index owner connection)).trace =
        state.trace ++ [.took index owner connection, .closesPair index owner connection] := by
    simp [take, ConfigState.record]
  have created : createdPairs ((take index owner connection state).record
      (.closesPair index owner connection)).trace = createdPairs state.trace := by
    rw [trace, createdPairs, List.filterMap_append]
    exact List.append_nil _
  constructor
  · intro other bound
    rw [created]
    exact holds.owners other bound
  · intro ref bound
    rw [created]
    exact holds.connections ref bound
  · intro handler member
    rw [trace] at member
    have earlier : .closeBegan handler ∈ state.trace := by simpa using member
    have empty := holds.emptied handler earlier
    unfold OrderedMap.get at found
    rw [empty] at found
    cases found

theorem Owned.closeAll {state : ConfigState} (packages : Packages) (index : Nat)
    (holds : Owned state) : Owned (effect packages index .close state) := by
  obtain ⟨starts, result, noCreated, _, _⟩ :=
    startAll_trace (index + 1) (takeAll index state).1 (takeAll index state).2
  have after : effect packages index .close state =
      { (takeAll index state).2 with trace := (takeAll index state).2.trace ++ starts } := result
  have created : createdPairs (effect packages index .close state).trace =
      createdPairs state.trace := by
    have took := (createdPairs_took index state.resources.entries.reverse).1
    rw [after]
    unfold takeAll
    simp only [createdPairs, List.filterMap_append] at took noCreated ⊢
    rw [took, noCreated]
    simp [createdPair]
  constructor
  · rw [created, after]
    exact holds.owners
  · rw [created, after]
    exact holds.connections
  · intro handler _
    rw [after]
    rfl

theorem owned_effect (packages : Packages) (index : Nat) {task : ConfigTask} {state : ConfigState}
    (notForked : ∀ handler owner connection, task ≠ .pair handler owner connection)
    (holds : Owned state)
    (builds : ∀ construction, constructs state task = some construction →
      ∃ shape, construction.owner = .ok shape)
    (open_ : constructs state task ≠ none → ∀ handler, .closeBegan handler ∉ state.trace) :
    Owned (effect packages index task state) := by
  by_cases closing : closesSomething task = true
  · cases task with
    | releaseResource owner =>
      unfold effect
      dsimp only
      cases found : state.resources.get owner with
      | none => exact holds
      | some connection => exact holds.release found
    | close => exact holds.closeAll packages index
    | pair handler owner connection => exact absurd rfl (notForked handler owner connection)
    | connectionStatus connection status =>
      exact holds.of_same rfl (fun _ => id) rfl rfl (Store.size_modify _ _ _)
    | _ => cases closing
  · have ordinary : closesSomething task = false := by simpa using closing
    cases busy : constructs state task with
    | none => exact holds.unmoved (effect_unmoved packages index busy ordinary)
    | some construction =>
      obtain ⟨shape, built⟩ := builds construction busy
      obtain ⟨owner, connection, adds⟩ := effect_adds packages index busy built
      apply holds.adds adds
      apply open_
      rw [busy]
      exact nofun

theorem owned_initial (config : QueueConfig) : Owned (.initial config) := by
  constructor
  · exact fun owner bound => absurd bound (Nat.not_lt_zero owner)
  · exact fun ref bound => absurd bound (Nat.not_lt_zero ref)
  · exact fun _ _ => rfl

theorem owned_reached {packages : Packages} {config : QueueConfig} {pool : ConfigPool}
    (reached : Runs (configSystem packages).Step BuildsBeforeClose (emptyConfigPool config) pool) :
    Owned pool.shared := by
  apply books_invariant reached (owned_initial config)
  · exact fun before after same holds => holds.seen same
  · intro pool task holds launched permitted
    apply owned_effect packages _ _ holds permitted.1
    · exact permitted.2 task rfl
    · intro handler owner connection forked
      rw [forked] at launched
      exact launched

/-! ## Once everything has ended -/

/-- Nothing is tracked, and the closing of all that was ever created has reached it. -/
structure NothingLeft (state : ConfigState) : Prop where
  untracked : state.resources.entries = []
  owners : ∀ owner, owner < state.owners.size → .closes (.owner owner) ∈ state.trace
  connections : ∀ ref, ref < state.connections.size → .closes (.connection ref) ∈ state.trace

/-- Once a close handler has called `done` and all handlers have ended, nothing is left, if nothing
was created after the handler began. -/
theorem nothing_outlives {packages : Packages} {config : QueueConfig} {pool : ConfigPool}
    (reached : Runs (configSystem packages).Step BuildsBeforeClose (emptyConfigPool config) pool)
    {handler : Nat} {failure : Option JsError} (done : .done handler failure ∈ pool.shared.trace)
    (ended : ∀ entry ∈ pool.tasks, entry.2.result ≠ none) : NothingLeft pool.shared := by
  have owned := owned_reached reached
  have tracked := tracked_reached reached
  obtain ⟨begun, closings⟩ := closed_reached reached
  have untracked := owned.emptied handler (begun handler failure done)
  -- A created pair is not tracked any more, so that its closing has started, in a task that ended.
  have closed : ∀ owner connection, (owner, connection) ∈ createdPairs pool.shared.trace →
      ClosedPair owner connection pool.shared := by
    intro owner connection created
    have taken := tracked.tracked.mem_iff.mp created
    rw [untracked, List.nil_append] at taken
    have started := tracked.started.mem_iff.mp taken
    obtain ⟨effect, member, chosen⟩ := List.mem_filterMap.mp started
    cases effect with
    | closesPair index other ref =>
      cases chosen
      obtain ⟨bound, reaches⟩ := closings index owner connection member
      have found : pool.tasks[index]? = some pool.tasks[index] := List.getElem?_eq_getElem bound
      cases result : pool.tasks[index].2.result with
      | none => exact absurd result (ended _ (List.getElem_mem bound))
      | some outcome =>
        apply reaches pool.tasks[index].1 outcome
        rw [found, ← result_eq_some result]
    | _ => cases chosen
  constructor
  · exact untracked
  · intro owner bound
    obtain ⟨connection, created⟩ := owned.owners owner bound
    exact (closed owner connection created).1
  · intro ref bound
    obtain ⟨owner, created⟩ := owned.connections ref bound
    exact (closed owner (some ref) created).2 ref rfl

/-! One worker, which closes with the node. -/

def workerPool : ConfigPool :=
  (configSystem plainPackages).start (emptyConfigPool plainRedis)
    (.createWorker (.runtime 1) plainConstruction)

theorem resumes_permitted (pool : ConfigPool) (index : Nat) (call : ConfigCall)
    (reply : Except JsError (ConfigReply call)) :
    BuildsBeforeClose pool (.resume index call reply) :=
  ⟨trivial, fun _ same => (nomatch same)⟩

theorem plain_builds {pool : ConfigPool} {task : ConfigTask}
    (plain : ∀ construction, constructs pool.shared task = some construction →
      construction = plainConstruction) : Builds pool (.start task) := by
  intro construction busy
  rw [plain construction busy]
  exact ⟨plainOwner, rfl⟩

def closingWorker : ConfigPool := (configSystem plainPackages).start workerPool .close

def drainedPool : ConfigPool := drive (.ok ()) 2 6 closingWorker

def closedPool : ConfigPool :=
  (configSystem plainPackages).resumeWith drainedPool 1 (forced (.ok ()))

theorem drainedPool_reached :
    Runs (configSystem plainPackages).Step BuildsBeforeClose (emptyConfigPool plainRedis)
      drainedPool := by
  have built : BuildsBeforeClose (emptyConfigPool plainRedis)
      (.start (.createWorker (.runtime 1) plainConstruction)) := by
    refine ⟨plain_builds fun _ busy => (Option.some.inj busy).symm, ?_⟩
    intro task _ _ handler began
    cases began
  have created : Runs (configSystem plainPackages).Step BuildsBeforeClose
      (emptyConfigPool plainRedis) workerPool :=
    System.runs_start (Runs.refl _) _ trivial built
  have closing : BuildsBeforeClose workerPool (.start .close) := by
    refine ⟨plain_builds fun _ busy => (nomatch busy), ?_⟩
    intro task same busy
    cases same
    exact absurd rfl busy
  have closed : Runs (configSystem plainPackages).Step BuildsBeforeClose
      (emptyConfigPool plainRedis) closingWorker :=
    System.runs_start created .close trivial closing
  exact drive_reached (fun _ _ _ _ _ => resumes_permitted _ _ _ _) (.ok ()) 2
    (show ConfigTask.pair 1 0 (some 0) ≠ .close by simp) 6 closed rfl

theorem closedPool_reached :
    Runs (configSystem plainPackages).Step BuildsBeforeClose (emptyConfigPool plainRedis)
      closedPool := by
  have settled : promises drainedPool 1 = [.finished (.ok ())] := rfl
  apply reporting_reached drainedPool_reached rfl
  · intro paused member
    rw [settled] at member
    rw [List.mem_singleton.mp member]
    rfl
  · exact fun pairs => resumes_permitted _ _ _ _

/-- No handler waits any more. -/
def allEnded (pool : ConfigPool) : Bool := pool.tasks.all fun entry => entry.2.result.isSome

theorem ended_of_allEnded {pool : ConfigPool} (ended : allEnded pool = true) :
    ∀ entry ∈ pool.tasks, entry.2.result ≠ none := by
  intro entry member waits
  have finished := List.all_eq_true.mp ended entry member
  rw [waits] at finished
  cases finished

theorem nothing_outlives_worker : NothingLeft closedPool.shared := by
  have done : closedPool.shared.trace.getLast? = some (.done 1 none) := rfl
  exact nothing_outlives closedPool_reached (List.mem_of_getLast? done) (ended_of_allEnded rfl)

/-- BullMQ calls the processor of the worker that is still closing. -/
def processedPool : ConfigPool :=
  (configSystem plainPackages).start closingWorker (.processor 0 plainConstruction)

def lateDrained : ConfigPool := drive (.ok ()) 2 6 processedPool

def latePool : ConfigPool :=
  (configSystem plainPackages).resumeWith lateDrained 1 (forced (.ok ()))

/-- Nobody closes the queue that the processor got. -/
theorem late_queue_outlives :
    Runs (configSystem plainPackages).Step Builds (emptyConfigPool plainRedis) latePool ∧
      .done 1 none ∈ latePool.shared.trace ∧
      (∀ entry ∈ latePool.tasks, entry.2.result ≠ none) ∧
      latePool.shared.resources.entries = [(1, some 1)] ∧ ¬NothingLeft latePool.shared := by
  have done : latePool.shared.trace.getLast? = some (.done 1 none) := rfl
  have left : latePool.shared.resources.entries = [(1, some 1)] := rfl
  refine ⟨?_, List.mem_of_getLast? done, ended_of_allEnded rfl, left, ?_⟩
  · have unsettled : (closingWorker.shared.trace.any fun effect =>
        match effect with
        | .closeSettled _ => true
        | _ => false) = false := rfl
    have launched : launches closingWorker (.processor 0 plainConstruction) :=
      ⟨⟨_, rfl, rfl⟩, fun member => absurd rfl (List.any_eq_false.mp unsettled _ member)⟩
    have created : Runs (configSystem plainPackages).Step Builds (emptyConfigPool plainRedis)
        workerPool :=
      System.runs_start (Runs.refl _) _ trivial
        (plain_builds fun _ busy => (Option.some.inj busy).symm)
    have closing : Runs (configSystem plainPackages).Step Builds (emptyConfigPool plainRedis)
        closingWorker :=
      System.runs_start created .close trivial (plain_builds fun _ busy => (nomatch busy))
    have processed : Runs (configSystem plainPackages).Step Builds (emptyConfigPool plainRedis)
        processedPool :=
      System.runs_start closing _ launched
        (plain_builds fun _ busy => (Option.some.inj busy).symm)
    have drained : Runs (configSystem plainPackages).Step Builds (emptyConfigPool plainRedis)
        lateDrained :=
      drive_reached (fun _ _ _ _ _ => trivial) (.ok ()) 2
        (show ConfigTask.pair 1 0 (some 0) ≠ .close by simp) 6 processed rfl
    have settled : promises lateDrained 1 = [.finished (.ok ())] := rfl
    apply reporting_reached drained rfl
    · intro paused member
      rw [settled] at member
      rw [List.mem_singleton.mp member]
      rfl
    · exact fun _ => trivial
  · intro nothing
    rw [nothing.untracked] at left
    cases left

end NodeRedBull.NothingOutlives
