import NodeRedBull.ConfigAccounts

/-! Every tracked pair is taken once and closed once, whoever closes it. -/

namespace NodeRedBull.ConfigPairs
open Js Library Connections ConfigNode ConfigBooks ConfigStep ConfigAccounts
open scoped List

abbrev Pair := Nat × Option Nat

def createdPair : Effect → Option Pair
  | .created owner connection => some (owner, connection)
  | _ => none

def takenPair : Effect → Option Pair
  | .took _ owner connection => some (owner, connection)
  | _ => none

def closedPair : Effect → Option Pair
  | .closesPair _ owner connection => some (owner, connection)
  | _ => none

/-- The pairs created so far, with the connection recorded at the creation. -/
def createdPairs (trace : List Effect) : List Pair := trace.filterMap createdPair

/-- The pairs that a release or a close has taken from the map. -/
def takenPairs (trace : List Effect) : List Pair := trace.filterMap takenPair

/-- The pairs that `closeResourcePair` was entered for. -/
def closedPairs (trace : List Effect) : List Pair := trace.filterMap closedPair

/-- The map and the history of the node fit together. -/
structure Tracked (state : ConfigState) : Prop where
  tracked : (createdPairs state.trace).Perm (state.resources.entries ++ takenPairs state.trace)
  started : (takenPairs state.trace).Perm (closedPairs state.trace)
  distinct : ((createdPairs state.trace).map Prod.fst).Nodup
  owners : ∀ pair ∈ createdPairs state.trace, pair.1 < state.owners.size
  connections : ∀ pair ∈ createdPairs state.trace, ∀ ref, pair.2 = some ref →
    ref < state.connections.size

/-- Just these pairs are taken and their closings start. -/
structure Takes (before after : ConfigState) (pairs : List Pair) : Prop where
  created : createdPairs after.trace = createdPairs before.trace
  taken : takenPairs after.trace = takenPairs before.trace ++ pairs
  closed : closedPairs after.trace = closedPairs before.trace ++ pairs

theorem takes_sameBooks {before after : ConfigState} (same : SameBooks before after) :
    Takes before after [] := by
  constructor
  · exact filterMap_of_sameBooks (fun effect => by cases effect <;> simp [Effect.isShutdown,
      createdPair]) same
  · rw [List.append_nil]
    exact filterMap_of_sameBooks (fun effect => by cases effect <;> simp [Effect.isShutdown,
      takenPair]) same
  · rw [List.append_nil]
    exact filterMap_of_sameBooks (fun effect => by cases effect <;> simp [Effect.isShutdown,
      closedPair]) same

theorem Takes.seen {before middle after : ConfigState} {pairs : List Pair}
    (takes : Takes before middle pairs) (same : SameBooks middle after) :
    Takes before after pairs := by
  have unseen := takes_sameBooks same
  constructor
  · rw [unseen.created, takes.created]
  · rw [unseen.taken, takes.taken, List.append_nil]
  · rw [unseen.closed, takes.closed, List.append_nil]

theorem filterMap_ledger {select : Effect → Option Pair}
    (accounts : ∀ effect, Effect.isAccount effect = false → select effect = none)
    (state : ConfigState) : state.trace.filterMap select = (ledger state).filterMap select :=
  (select_filter accounts state.trace).symm

theorem createdPairs_ledger (state : ConfigState) :
    createdPairs state.trace = createdPairs (ledger state) :=
  filterMap_ledger (fun effect => by cases effect <;> simp [Effect.isAccount, createdPair]) state

theorem takenPairs_ledger (state : ConfigState) :
    takenPairs state.trace = takenPairs (ledger state) :=
  filterMap_ledger (fun effect => by cases effect <;> simp [Effect.isAccount, takenPair]) state

theorem closedPairs_ledger (state : ConfigState) :
    closedPairs state.trace = closedPairs (ledger state) :=
  filterMap_ledger (fun effect => by cases effect <;> simp [Effect.isAccount, closedPair]) state

/-- The invariant is about the pairs, the map and the numbers of objects. -/
theorem Tracked.of_pairs {before after : ConfigState} (holds : Tracked before)
    (created : createdPairs after.trace = createdPairs before.trace)
    (taken : takenPairs after.trace = takenPairs before.trace)
    (closed : closedPairs after.trace = closedPairs before.trace)
    (resources : after.resources = before.resources)
    (owners : before.owners.size ≤ after.owners.size)
    (connections : before.connections.size ≤ after.connections.size) : Tracked after := by
  constructor
  · rw [created, taken, resources]
    exact holds.tracked
  · rw [taken, closed]
    exact holds.started
  · rw [created]
    exact holds.distinct
  · intro pair member
    rw [created] at member
    exact Nat.lt_of_lt_of_le (holds.owners pair member) owners
  · intro pair member ref same
    rw [created] at member
    exact Nat.lt_of_lt_of_le (holds.connections pair member ref same) connections

theorem Tracked.of_same {before after : ConfigState} (holds : Tracked before)
    (ledgers : ledger after = ledger before) (resources : after.resources = before.resources)
    (owners : before.owners.size ≤ after.owners.size)
    (connections : before.connections.size ≤ after.connections.size) : Tracked after := by
  refine holds.of_pairs ?_ ?_ ?_ resources owners connections
  · rw [createdPairs_ledger, ledgers, ← createdPairs_ledger]
  · rw [takenPairs_ledger, ledgers, ← takenPairs_ledger]
  · rw [closedPairs_ledger, ledgers, ← closedPairs_ledger]

theorem Tracked.seen {before after : ConfigState} (same : SameBooks before after)
    (holds : Tracked before) : Tracked after := by
  have equal : books before = books after := same
  have resources : (books before).resources = (books after).resources :=
    congrArg ConfigState.resources equal
  have owners : (books before).owners.size = (books after).owners.size :=
    congrArg (fun state => state.owners.size) equal
  have connections : before.connections.size = after.connections.size := by
    have sizes := congrArg (fun state => state.connections.size) equal
    simpa [books, Store.size] using sizes
  have takes := takes_sameBooks same
  refine holds.of_pairs takes.created ?_ ?_ resources.symm owners.le connections.le
  · rw [takes.taken, List.append_nil]
  · rw [takes.closed, List.append_nil]

theorem Tracked.unmoved {before after : ConfigState} (kept : Unmoved before after)
    (holds : Tracked before) : Tracked after :=
  holds.of_same kept.ledger kept.resources (by rw [kept.owners]) (by rw [kept.connections])

theorem Tracked.opens {before after : ConfigState} (opens : Opens before after)
    (holds : Tracked before) : Tracked after := by
  obtain ⟨connection, _, cells⟩ := opens.connections
  exact holds.of_same opens.ledger opens.resources (by rw [opens.owners])
    (by rw [cells, Store.size_alloc]; omega)

theorem Tracked.owner_of_entry {state : ConfigState} (holds : Tracked state) {owner : Nat}
    (member : owner ∈ state.resources.keys) : owner < state.owners.size := by
  obtain ⟨pair, entry, rfl⟩ := List.mem_map.mp member
  exact holds.owners pair (holds.tracked.mem_iff.mpr (List.mem_append_left _ entry))

theorem Tracked.adds {before after : ConfigState} {owner : Nat} {connection : Option Nat}
    (adds : Adds before after owner connection) (holds : Tracked before) : Tracked after := by
  have fresh : owner ∉ before.resources.keys := by
    intro member
    have bound := holds.owner_of_entry member
    rw [adds.fresh] at bound
    exact absurd bound (Nat.lt_irrefl _)
  have created : createdPairs after.trace = createdPairs before.trace ++ [(owner, connection)] := by
    rw [createdPairs_ledger, adds.ledger, createdPairs_ledger before]
    simp [createdPairs, createdPair]
  have taken : takenPairs after.trace = takenPairs before.trace := by
    rw [takenPairs_ledger, adds.ledger, takenPairs_ledger before]
    simp [takenPairs, takenPair]
  have closed : closedPairs after.trace = closedPairs before.trace := by
    rw [closedPairs_ledger, adds.ledger, closedPairs_ledger before]
    simp [closedPairs, closedPair]
  constructor
  · rw [created, taken, adds.resources, OrderedMap.entries_set_of_not_mem _ _ _ fresh,
      List.append_assoc]
    have moved := holds.tracked.append_right [(owner, connection)]
    rw [List.append_assoc] at moved
    exact moved.trans (List.Perm.append_left _ List.perm_append_comm)
  · rw [taken, closed]
    exact holds.started
  · rw [created, List.map_append, List.nodup_append]
    refine ⟨holds.distinct, by simp, ?_⟩
    intro old member other fresh same
    obtain ⟨pair, known, rfl⟩ := List.mem_map.mp member
    simp only [List.map_cons, List.map_nil, List.mem_singleton] at fresh
    have bound := holds.owners pair known
    rw [adds.fresh] at fresh
    omega
  · intro pair member
    rw [created, List.mem_append, List.mem_singleton] at member
    rw [adds.owners]
    rcases member with old | rfl
    · have bound := holds.owners pair old
      omega
    · have position := adds.fresh
      show owner < _
      omega
  · intro pair member ref same
    rw [created, List.mem_append, List.mem_singleton] at member
    rw [adds.connections]
    rcases member with old | rfl
    · have bound := holds.connections pair old ref same
      omega
    · have position := adds.opened ref same
      have given : connection = some ref := same
      rw [given, position]
      simp

theorem takes_release (state : ConfigState) (index owner : Nat) (connection : Option Nat) :
    Takes state ((take index owner connection state).record (.closesPair index owner connection))
      [(owner, connection)] := by
  let after := (take index owner connection state).record (.closesPair index owner connection)
  have trace : after.trace =
      state.trace ++ [.took index owner connection, .closesPair index owner connection] := by
    simp [after, take, ConfigState.record]
  constructor
  · rw [trace, createdPairs, List.filterMap_append]
    exact List.append_nil _
  · rw [trace, takenPairs, List.filterMap_append]
    rfl
  · rw [trace, closedPairs, List.filterMap_append]
    rfl

/-- A pair leaves the map and its closing starts. -/
theorem Tracked.release {state : ConfigState} {index owner : Nat} {connection : Option Nat}
    (found : state.resources.get owner = some connection) (holds : Tracked state) :
    Tracked ((take index owner connection state).record (.closesPair index owner connection)) := by
  have takes := takes_release state index owner connection
  constructor
  · rw [takes.created, takes.taken]
    have entries := OrderedMap.perm_cons_delete state.resources owner connection found
    calc createdPairs state.trace
      _ ~ state.resources.entries ++ takenPairs state.trace := holds.tracked
      _ ~ ((owner, connection) :: (state.resources.delete owner).entries) ++
          takenPairs state.trace := entries.append_right _
      _ ~ ((state.resources.delete owner).entries ++ takenPairs state.trace) ++
          [(owner, connection)] := @List.perm_append_comm _ [(owner, connection)] _
      _ ~ (state.resources.delete owner).entries ++
          (takenPairs state.trace ++ [(owner, connection)]) := by rw [List.append_assoc]
  · rw [takes.taken, takes.closed]
    exact holds.started.append_right _
  · rw [takes.created]
    exact holds.distinct
  · rw [takes.created]
    exact holds.owners
  · rw [takes.created]
    exact holds.connections

theorem startAll_trace (position : Nat) (pairs : List Pair) (state : ConfigState) :
    ∃ starts, startAll position pairs state = { state with trace := state.trace ++ starts } ∧
      createdPairs starts = [] ∧ takenPairs starts = [] ∧ closedPairs starts = pairs := by
  induction pairs generalizing position state with
  | nil => exact ⟨[], by simp [startAll], rfl, rfl, rfl⟩
  | cons pair rest ih =>
    obtain ⟨starts, result, created, taken, closed⟩ :=
      ih (position + 1) (state.record (.closesPair position pair.1 pair.2))
    refine ⟨.closesPair position pair.1 pair.2 :: starts, ?_, created, taken, ?_⟩
    · rw [startAll, result]
      simp [ConfigState.record]
    · show pair :: closedPairs starts = pair :: rest
      rw [closed]

theorem takenPairs_took (handler : Nat) (pairs : List Pair) :
    takenPairs (pairs.map fun pair => .took handler pair.1 pair.2) = pairs := by
  induction pairs with
  | nil => rfl
  | cons pair rest ih =>
    show pair :: takenPairs (rest.map _) = pair :: rest
    rw [ih]

theorem createdPairs_took (handler : Nat) (pairs : List Pair) :
    createdPairs (pairs.map fun pair => .took handler pair.1 pair.2) = [] ∧
      closedPairs (pairs.map fun pair => .took handler pair.1 pair.2) = [] := by
  induction pairs with
  | nil => exact ⟨rfl, rfl⟩
  | cons pair rest ih => exact ih

/-- What the start of a close leaves, with the closings that it starts. -/
theorem effect_close (packages : Packages) (index : Nat) (state : ConfigState) :
    ∃ starts, effect packages index .close state = { state with
        backendFailures := []
        resources := .empty
        trace := state.trace ++ [.closeBegan index] ++
          (state.resources.entries.reverse.map fun pair => .took index pair.1 pair.2) ++ starts } ∧
      createdPairs starts = [] ∧ takenPairs starts = [] ∧
        closedPairs starts = state.resources.entries.reverse := by
  obtain ⟨starts, result, rest⟩ :=
    startAll_trace (index + 1) (takeAll index state).1 (takeAll index state).2
  exact ⟨starts, result, rest⟩

theorem takes_close (packages : Packages) (index : Nat) (state : ConfigState) :
    Takes state (effect packages index .close state) state.resources.entries.reverse := by
  obtain ⟨starts, result, noCreated, noTaken, closed⟩ := effect_close packages index state
  rw [result]
  constructor
  · have took := (createdPairs_took index state.resources.entries.reverse).1
    simp only [createdPairs, List.filterMap_append] at noCreated took ⊢
    rw [noCreated, took]
    simp [createdPair]
  · have took := takenPairs_took index state.resources.entries.reverse
    simp only [takenPairs, List.filterMap_append] at noTaken took ⊢
    rw [noTaken, took]
    simp [takenPair]
  · have took := (createdPairs_took index state.resources.entries.reverse).2
    simp only [closedPairs, List.filterMap_append] at closed took ⊢
    rw [closed, took]
    simp [closedPair]

/-- Everything leaves the map and every closing starts. -/
theorem Tracked.closeAll {state : ConfigState} (packages : Packages) (index : Nat)
    (holds : Tracked state) : Tracked (effect packages index .close state) := by
  have takes := takes_close packages index state
  obtain ⟨starts, result, _⟩ := effect_close packages index state
  have emptied : (effect packages index .close state).resources = .empty := by rw [result]
  have owners : (effect packages index .close state).owners = state.owners := by rw [result]
  have connections : (effect packages index .close state).connections = state.connections := by
    rw [result]
  constructor
  · rw [takes.created, takes.taken, emptied]
    calc createdPairs state.trace
      _ ~ state.resources.entries ++ takenPairs state.trace := holds.tracked
      _ ~ takenPairs state.trace ++ state.resources.entries := List.perm_append_comm
      _ ~ takenPairs state.trace ++ state.resources.entries.reverse :=
        List.Perm.append_left _ (List.reverse_perm _).symm
  · rw [takes.taken, takes.closed]
    exact holds.started.append_right _
  · rw [takes.created]
    exact holds.distinct
  · rw [takes.created, owners]
    exact holds.owners
  · rw [takes.created, connections]
    exact holds.connections

theorem tracked_initial (config : QueueConfig) : Tracked (.initial config) := by
  constructor
  · exact List.Perm.refl _
  · exact List.Perm.refl _
  · exact List.nodup_nil
  · intro pair member
    cases member
  · intro pair member
    cases member

theorem tracked_effect (packages : Packages) (index : Nat) {task : ConfigTask}
    {state : ConfigState} (notForked : ∀ handler owner connection,
      task ≠ .pair handler owner connection) (holds : Tracked state) :
    Tracked (effect packages index task state) := by
  by_cases closing : closesSomething task = true
  · cases task with
    | releaseResource owner =>
      unfold effect
      dsimp only
      cases found : state.resources.get owner with
      | none => exact holds
      | some connection => exact holds.release found
    | close => exact holds.closeAll packages index
    | pair handler owner connection => exact absurd rfl (notForked handler owner connection)
    | connectionStatus connection status =>
      exact holds.of_same rfl rfl (le_refl _) (Store.size_modify _ _ _).ge
    | _ => cases closing
  · have ordinary : closesSomething task = false := by simpa using closing
    rcases effect_cases packages index ordinary with unmoved | ⟨owner, connection, adds⟩ | opens
    · exact holds.unmoved unmoved
    · exact holds.adds adds
    · exact holds.opens opens

theorem tracked_reached {packages : Packages} {allowed : ConfigPool → ConfigMove → Prop}
    {config : QueueConfig} {pool : ConfigPool}
    (reached : Runs (configSystem packages).Step allowed (emptyConfigPool config) pool) :
    Tracked pool.shared := by
  apply books_invariant reached (tracked_initial config)
  · exact fun before after same holds => holds.seen same
  · intro pool task holds launched _
    apply tracked_effect packages _ _ holds
    intro handler owner connection forked
    rw [forked] at launched
    exact launched

/-! ## The map over a whole run -/

/-- Only the start of a handler takes pairs from the map: a release the one of its owner, if the
map has it, and a close all that the map has. -/
structure TakesAlone (packages : Packages) (pool : ConfigPool) : Prop where
  released : ∀ owner other, other ≠ owner →
    ((configSystem packages).start pool (.releaseResource owner)).shared.resources.get other =
      pool.shared.resources.get other
  untracked : ∀ owner, pool.shared.resources.get owner = none →
    ((configSystem packages).start pool (.releaseResource owner)).shared.resources =
        pool.shared.resources ∧
      Takes pool.shared ((configSystem packages).start pool (.releaseResource owner)).shared []
  own : ∀ owner connection, pool.shared.resources.get owner = some connection →
    ((configSystem packages).start pool (.releaseResource owner)).shared.resources =
        pool.shared.resources.delete owner ∧
      Takes pool.shared ((configSystem packages).start pool (.releaseResource owner)).shared
        [(owner, connection)]
  all : ((configSystem packages).start pool .close).shared.resources = .empty ∧
    Takes pool.shared ((configSystem packages).start pool .close).shared
      pool.shared.resources.entries.reverse
  answered : ∀ index call reply after,
    (configSystem packages).Step pool (.resume index call reply) after →
      after.shared.resources = pool.shared.resources ∧ Takes pool.shared after.shared []

theorem takesAlone_reached {packages : Packages} {allowed : ConfigPool → ConfigMove → Prop}
    {config : QueueConfig} {pool : ConfigPool}
    (reached : Runs (configSystem packages).Step allowed (emptyConfigPool config) pool) :
    TakesAlone packages pool where
  released := by
    intro owner other different
    rw [resources_of_sameBooks (start_books packages pool (.releaseResource owner))]
    unfold effect
    dsimp only
    cases pool.shared.resources.get owner with
    | none => rfl
    | some connection =>
      show (pool.shared.resources.delete owner).get other = _
      rw [OrderedMap.get_delete, if_neg different]
  untracked := by
    intro owner absent
    have books := start_books packages pool (.releaseResource owner)
    have nothing : effect packages pool.tasks.length (.releaseResource owner) pool.shared =
        pool.shared := by
      unfold effect
      dsimp only
      rw [absent]
    rw [nothing] at books
    exact ⟨resources_of_sameBooks books, takes_sameBooks books⟩
  own := by
    intro owner connection found
    have books := start_books packages pool (.releaseResource owner)
    have taken : effect packages pool.tasks.length (.releaseResource owner) pool.shared =
        (take pool.tasks.length owner connection pool.shared).record
          (.closesPair pool.tasks.length owner connection) := by
      unfold effect
      dsimp only
      rw [found]
    rw [taken] at books
    exact ⟨resources_of_sameBooks books, (takes_release _ _ owner connection).seen books⟩
  all := by
    have books := start_books packages pool .close
    obtain ⟨starts, result, _⟩ := effect_close packages pool.tasks.length pool.shared
    refine ⟨?_, (takes_close packages _ pool.shared).seen books⟩
    rw [resources_of_sameBooks books, result]
  answered := by
    intro index call reply after made
    cases made with
    | resume waiting answer =>
      have books := resume_books reached waiting reply
      exact ⟨resources_of_sameBooks books, takes_sameBooks books⟩

/-- The books of the node: the map holds the pairs created and not yet taken, the pairs taken are
the pairs whose closing started, each with its own connection, and none occurs twice. -/
structure ClosedOnce (state : ConfigState) : Prop where
  tracked : (createdPairs state.trace).Perm (state.resources.entries ++ takenPairs state.trace)
  started : (takenPairs state.trace).Perm (closedPairs state.trace)
  created : ((createdPairs state.trace).map Prod.fst).Nodup
  taken : ((takenPairs state.trace).map Prod.fst).Nodup
  closed : ((closedPairs state.trace).map Prod.fst).Nodup
  recorded : ∀ pair ∈ closedPairs state.trace, pair ∈ createdPairs state.trace

theorem Tracked.closedOnce {state : ConfigState} (holds : Tracked state) : ClosedOnce state := by
  have owners := (holds.tracked.map Prod.fst).nodup_iff.mp holds.distinct
  rw [List.map_append] at owners
  have taken : ((takenPairs state.trace).map Prod.fst).Nodup := (List.nodup_append.mp owners).2.1
  refine ⟨holds.tracked, holds.started, holds.distinct, taken, ?_, ?_⟩
  · exact (holds.started.map Prod.fst).nodup_iff.mp taken
  · intro pair member
    apply holds.tracked.mem_iff.mpr
    exact List.mem_append_right _ (holds.started.mem_iff.mpr member)

/-- Whatever creations, releases and closes of the node have come to, every pair taken from the
map is closed once, and no handler takes what another one holds or has taken. -/
theorem pairs_closed_once {packages : Packages} {config : QueueConfig} {pool : ConfigPool}
    (reached : Runs (configSystem packages).Step anyMove (emptyConfigPool config) pool) :
    ClosedOnce pool.shared ∧ TakesAlone packages pool :=
  ⟨(tracked_reached reached).closedOnce, takesAlone_reached reached⟩

/-! A queue on one Redis server and one on PostgreSQL, BullMQ owners that can be closed in every
way, and a construction that fails. -/

def redisNamed (queueName : String) : QueueConfig := .redis
  { queueName, deployment := .single, host := "localhost", port := defaultRedisPort
    db := none, username := .undefined, password := .undefined, tls := false
    certificates := ⟨true, .undefined, .undefined, .undefined, .undefined⟩
    prefixValue := .undefined, defaultJobOptions := none, clusterNodes := []
    sentinelMasterName := .undefined, sentinels := [], sentinelUsername := .undefined
    sentinelPassword := .undefined, sentinelTls := false
    telemetry := ⟨false, .undefined, false⟩ }

def plainRedis : QueueConfig := redisNamed "orders"

def plainPostgres : QueueConfig := .postgres
  { queueName := "orders"
    postgres :=
      { host := "localhost", port := defaultPostgresPort, database := .undefined
        user := .undefined, password := .undefined, schema := .undefined, max := JsNumber.ofNat 10
        connectionTimeoutMillis := 10000, migrate := false, ssl := none }
    defaultJobOptions := none, telemetry := ⟨false, .undefined, false⟩ }

def plainPackages : Packages := ⟨"14", "16", false⟩

def plainOwner : OwnerShape where
  close := none
  getBackend := some (.ok (some ⟨some (some none), some (some none)⟩))
  lockManager := true
  stalledCheckStopper := some none

def plainConstruction : Construction := ⟨⟨some none, some none⟩, .ok plainOwner⟩

def failedConstruction : Construction :=
  ⟨⟨none, none⟩, .error (newError "Cannot find module 'pg'")⟩

/-- A worker is released while the node closes its event listener. -/
def closingPool : ConfigPool :=
  let system := configSystem plainPackages
  let created := system.start (system.start (emptyConfigPool plainRedis)
    (.createWorker (.runtime 1) plainConstruction)) (.createQueueEvents (.runtime 2) plainConstruction)
  system.start (system.start created (.releaseResource 0)) .close

theorem closingPool_reached :
    Runs (configSystem plainPackages).Step anyMove (emptyConfigPool plainRedis) closingPool := by
  apply System.runs_start _ _ trivial trivial
  apply System.runs_start _ _ trivial trivial
  apply System.runs_start _ _ trivial trivial
  apply System.runs_start _ _ trivial trivial
  exact Runs.refl _

theorem pairs_closed_once_closing :
    ClosedOnce closingPool.shared ∧ TakesAlone plainPackages closingPool :=
  pairs_closed_once closingPool_reached

end NodeRedBull.ConfigPairs
