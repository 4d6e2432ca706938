import NodeRedBull.ConfigPairs

/-! What a BullMQ constructor that throws leaves behind. -/

namespace NodeRedBull.FailedConstruction
open Js Library Connections ConfigNode ConfigBooks ConfigStep ConfigAccounts ConfigPairs

/-- The node is as it was, and no connection opened in between is left to itself. -/
structure LeavesNothing (before after : ConfigState) : Prop where
  resources : after.resources = before.resources
  queue : after.queue = before.queue
  producerConnection : after.producerConnection = before.producerConnection
  connections : ∀ ref, before.connections.size ≤ ref → ref < after.connections.size →
    (∃ connection, after.connections.read ref = some connection ∧ connection.ended = true) ∨
      some ref ∈ after.resources.values

/-- The number of Redis connections that nothing has ended. -/
def openConnections (state : ConfigState) : Nat :=
  (state.connections.cells.filter fun connection => !connection.ended).length

/-- The start of the task runs a constructor of BullMQ, which throws. -/
def Refused (state : ConfigState) (task : ConfigTask) : Prop :=
  ∃ construction err, constructs state task = some construction ∧ construction.owner = .error err

theorem sync_segment {α : Type} (operation : Sync α) (state : ConfigState) :
    (sync operation).segment state =
      ((operation state).2, .finished ((operation state).1.map fun _ => ())) := by
  unfold sync
  rw [Async.segment_bind, Async.segment_modifyGet]
  generalize (operation state).1 = result
  cases result with
  | ok value => rfl
  | error err => rfl

/-- A task that can construct something does all it does in one segment. -/
theorem start_constructs (packages : Packages) {pool : ConfigPool} {task : ConfigTask}
    {construction : Construction} (busy : constructs pool.shared task = some construction) :
    ((configSystem packages).start pool task).shared =
      effect packages pool.tasks.length task pool.shared := by
  have whole : ∀ {α : Type} (operation : Sync α),
      runTask packages pool.tasks.length task = sync operation →
      ((configSystem packages).start pool task).shared = (operation pool.shared).2 := by
    intro α operation body
    have segment : ((configSystem packages).body pool.tasks.length task).segment pool.shared =
        ((operation pool.shared).2, .finished ((operation pool.shared).1.map fun _ => ())) := by
      rw [← sync_segment, ← body]
      rfl
    rw [System.start_eq_begin _ (by rw [segment]; rfl)]
    unfold System.begin
    rw [segment]
  cases task with
  | getQueue construction => exact whole _ rfl
  | processor worker construction => exact whole _ rfl
  | createWorker node construction => exact whole _ rfl
  | createQueueEvents node construction => exact whole _ rfl
  | createFlowProducer node construction => exact whole _ rfl
  | _ => cases busy

theorem leavesNothing_unmoved {before after : ConfigState} (kept : Unmoved before after) :
    LeavesNothing before after := by
  refine ⟨kept.resources, kept.queue, kept.producerConnection, ?_⟩
  intro ref old new
  rw [kept.connections] at new
  omega

/-- The connection that was opened is the one that is left. -/
theorem not_leavesNothing_opens {before after : ConfigState} (opens : Opens before after)
    (holds : Tracked before) : ¬LeavesNothing before after := by
  intro nothing
  obtain ⟨opened, alive, cells⟩ := opens.connections
  have bound : before.connections.size < after.connections.size := by
    rw [cells, Store.size_alloc]
    omega
  rcases nothing.connections before.connections.size (le_refl _) bound with ended | tracked
  · obtain ⟨connection, read, closed⟩ := ended
    rw [cells, Store.read_alloc, if_pos rfl] at read
    cases read
    rw [alive] at closed
    cases closed
  · rw [opens.resources] at tracked
    obtain ⟨pair, entry, same⟩ := List.mem_map.mp tracked
    have created := holds.tracked.mem_iff.mpr (List.mem_append_left _ entry)
    exact absurd (holds.connections pair created _ same) (Nat.lt_irrefl _)

theorem leavesNothing_iff {packages : Packages} {config : QueueConfig} {pool : ConfigPool}
    {task : ConfigTask}
    (reached : Runs (configSystem packages).Step anyMove (emptyConfigPool config) pool)
    (refused : Refused pool.shared task) :
    LeavesNothing pool.shared ((configSystem packages).start pool task).shared ↔
      config.backend = .postgres := by
  obtain ⟨construction, err, busy, failed⟩ := refused
  rw [start_constructs packages busy]
  have known := config_reached packages reached
  cases config with
  | postgres target =>
    have kept := effect_failed_postgres packages pool.tasks.length known busy failed
    exact iff_of_true (leavesNothing_unmoved kept) rfl
  | redis target =>
    have opens := effect_failed_redis packages pool.tasks.length known busy failed
    exact iff_of_false (not_leavesNothing_opens opens (tracked_reached reached)) nofun

/-! ## Attempts to get the queue -/

/-- The node after one more call of `getQueue`. -/
def attempt (packages : Packages) (pool : ConfigPool) (construction : Construction) : ConfigPool :=
  (configSystem packages).start pool (.getQueue construction)

theorem openConnections_opens {before after : ConfigState} (opens : Opens before after) :
    openConnections after = openConnections before + 1 := by
  obtain ⟨opened, alive, cells⟩ := opens.connections
  unfold openConnections
  rw [cells]
  simp [Store.alloc, alive]

theorem constructs_getQueue {state : ConfigState} (missing : state.queue = none)
    (construction : Construction) :
    constructs state (.getQueue construction) = some construction := by
  simp [constructs, missing]

/-- Failing attempts change nothing on PostgreSQL, and each leaves a connection on Redis. -/
theorem openConnections_attempts {packages : Packages} {config : QueueConfig}
    (attempts : List Construction)
    (refused : ∀ construction ∈ attempts, ∃ err, construction.owner = .error err)
    {pool : ConfigPool} (known : pool.shared.config = config)
    (missing : pool.shared.queue = none) :
    openConnections (attempts.foldl (attempt packages) pool).shared =
      openConnections pool.shared + if config.backend = .postgres then 0 else attempts.length := by
  induction attempts generalizing pool with
  | nil => simp
  | cons construction rest ih =>
    obtain ⟨err, failed⟩ := refused construction (by simp)
    have others : ∀ other ∈ rest, ∃ err, other.owner = .error err :=
      fun other member => refused other (List.mem_cons_of_mem _ member)
    have busy := constructs_getQueue missing construction
    have result : (attempt packages pool construction).shared =
        effect packages pool.tasks.length (.getQueue construction) pool.shared :=
      start_constructs packages busy
    rw [List.foldl_cons]
    cases config with
    | postgres target =>
      have kept := effect_failed_postgres packages pool.tasks.length known busy failed
      rw [← result] at kept
      rw [ih others (kept.config.trans known) (kept.queue.trans missing)]
      unfold openConnections
      rw [kept.connections]
      rfl
    | redis target =>
      have opens := effect_failed_redis packages pool.tasks.length known busy failed
      rw [← result] at opens
      rw [ih others (opens.config.trans known) (opens.queue.trans missing),
        openConnections_opens opens]
      simp only [QueueConfig.backend, List.length_cons, reduceCtorEq, if_false]
      omega

/-- A refused construction leaves nothing behind, and failing calls of `getQueue` do not add up,
on PostgreSQL and only there. -/
theorem failed_construction_iff {packages : Packages} {config : QueueConfig} {pool : ConfigPool}
    (reached : Runs (configSystem packages).Step anyMove (emptyConfigPool config) pool) :
    (∀ task, Refused pool.shared task →
      (LeavesNothing pool.shared ((configSystem packages).start pool task).shared ↔
        config.backend = .postgres)) ∧
    (∀ attempts : List Construction, attempts ≠ [] → pool.shared.queue = none →
      (∀ construction ∈ attempts, ∃ err, construction.owner = .error err) →
      (openConnections (attempts.foldl (attempt packages) pool).shared ≤
          openConnections pool.shared ↔ config.backend = .postgres)) := by
  refine ⟨fun task refused => leavesNothing_iff reached refused, ?_⟩
  intro attempts some missing refused
  rw [openConnections_attempts attempts refused (config_reached packages reached) missing]
  have length : 0 < attempts.length := List.length_pos_iff.mpr some
  by_cases backend : config.backend = .postgres
  · simp [backend]
  · rw [if_neg backend]
    apply iff_of_false _ backend
    omega

/-- A PostgreSQL node with a worker and a flow producer, but no queue yet. -/
def producingPool : ConfigPool :=
  let system := configSystem plainPackages
  system.start (system.start (emptyConfigPool plainPostgres)
    (.createWorker (.runtime 1) plainConstruction)) (.createFlowProducer (.runtime 2) plainConstruction)

theorem producingPool_reached : Runs (configSystem plainPackages).Step anyMove
    (emptyConfigPool plainPostgres) producingPool := by
  apply System.runs_start _ _ trivial trivial
  apply System.runs_start _ _ trivial trivial
  exact Runs.refl _

theorem failed_construction_iff_producing :
    LeavesNothing producingPool.shared ((configSystem plainPackages).start producingPool
      (.createQueueEvents (.runtime 3) failedConstruction)).shared ∧
    openConnections ([failedConstruction, failedConstruction].foldl (attempt plainPackages)
      producingPool).shared ≤ openConnections producingPool.shared := by
  have known := failed_construction_iff producingPool_reached
  refine ⟨(known.1 _ ⟨failedConstruction, _, rfl, rfl⟩).mpr rfl, ?_⟩
  refine (known.2 _ (List.cons_ne_nil _ _) rfl ?_).mpr rfl
  intro construction member
  simp only [List.mem_cons, List.not_mem_nil, or_false, or_self] at member
  exact ⟨_, congrArg Construction.owner member⟩

/-- BullMQ refuses a queue name with a colon. -/
def refusedQueue : Construction :=
  ⟨⟨some none, some none⟩, .error (newError "Queue name cannot contain :")⟩

theorem redis_construction_leaks :
    Refused (emptyConfigPool (redisNamed "a:b")).shared (.getQueue refusedQueue) ∧
    ¬LeavesNothing (emptyConfigPool (redisNamed "a:b")).shared
        ((configSystem plainPackages).start (emptyConfigPool (redisNamed "a:b"))
          (.getQueue refusedQueue)).shared ∧
    openConnections ([refusedQueue, refusedQueue].foldl (attempt plainPackages)
      (emptyConfigPool (redisNamed "a:b"))).shared = 2 := by
  refine ⟨⟨refusedQueue, _, rfl, rfl⟩, ?_, rfl⟩
  intro nothing
  rcases nothing.connections 0 (by decide) (by decide) with ended | tracked
  · obtain ⟨connection, read, closed⟩ := ended
    cases read
    cases closed
  · cases tracked

end NodeRedBull.FailedConstruction
