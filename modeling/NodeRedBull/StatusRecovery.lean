import NodeRedBull.BackendStatus

/-! The backend status after failed constructions: when the readiness promise of a queue that is
created later makes it right again. -/

namespace NodeRedBull.StatusRecovery
open Js Library Connections ConfigNode ConfigBooks ConfigStep ConfigAccounts ConfigCalls BackendHistory
open BackendStatus
open ConfigPairs (plainPackages plainOwner plainConstruction plainPostgres failedConstruction)

/-- The backend has reported an error or a closed connection. -/
def Adverse (trace : List Effect) : Prop :=
  .backend .error ∈ trace ∨ .backend .close ∈ trace

/-- Without such an event, a readiness promise that resolved has made the status `connected`, and
one that rejected has had its failure reported. -/
structure Recovered (state : ConfigState) : Prop where
  resolved : ¬ Adverse state.trace → .readiness none ∈ state.trace →
    state.backendStatus = .connected ∧ ∀ reader, Subscribed state.trace reader →
      latest (reading reader) state.trace = some .connected
  rejected : ¬ Adverse state.trace → ∀ err, .readiness (some err) ∈ state.trace →
    .reported err ∈ state.trace

/-- The readiness promise finds the status that it is to replace, and no construction fails once
it has resolved. -/
def Undisturbed (state : ConfigState) : ConfigTask → Prop
  | .readiness _ none => state.backendStatus = .disconnected → Adverse state.trace
  | .readiness _ (some _) => state.backendStatus ≠ .connecting → Adverse state.trace
  | task => ∀ construction err, constructs state task = some construction →
      construction.owner = .error err → state.config.backend = .postgres →
      .readiness none ∈ state.trace → Adverse state.trace

def Recovering (pool : ConfigPool) : ConfigMove → Prop
  | .start task => Undisturbed pool.shared task
  | .resume _ _ _ => True

/-! ## The invariant -/

/-- What is known of the status in a run; `owed` is still to be reported. -/
structure Recovers (owed : List JsError) (state : ConfigState) : Prop where
  known : ReadersKnow state
  fresh : state.backendStatus = .connecting → state.backendFailures = []
  listeners : ∀ listener ∈ state.listeners, listener.startupFailureOwner = false
  resolved : ¬ Adverse (history state) → .readiness none ∈ history state →
    state.backendStatus = .connected
  rejected : ¬ Adverse (history state) → ∀ err, .readiness (some err) ∈ history state →
    .reported err ∈ history state ∨ err ∈ owed

variable {owed : List JsError} {before after state : ConfigState} {packages : Packages}

/-- Nothing that the invariant speaks of has changed. -/
theorem Recovers.alike (holds : Recovers owed before) (known : ReadersKnow after)
    (status : after.backendStatus = before.backendStatus)
    (failures : before.backendFailures = [] → after.backendFailures = [])
    (same : history after = history before)
    (listeners : ∀ listener ∈ after.listeners, listener.startupFailureOwner = false) :
    Recovers owed after := by
  refine ⟨known, ?_, listeners, ?_, ?_⟩
  · intro connecting
    exact failures (holds.fresh (status ▸ connecting))
  · rw [same, status]
    exact holds.resolved
  · rw [same]
    exact holds.rejected

theorem Recovers.silent (holds : Recovers owed before) (silent : Silent before after) :
    Recovers owed after :=
  holds.alike (holds.known.silent silent) silent.status silent.failures silent.history
    (silent.listeners holds.listeners)

theorem mem_history_publish {effect : Effect} (status : BackendStatus)
    (other : ∀ reader status, effect ≠ .read reader status) (state : ConfigState) :
    effect ∈ history (publishBackendStatus status state) ↔ effect ∈ history state := by
  rw [history_publish, List.mem_append]
  constructor
  · intro member
    rcases member with old | read
    · exact old
    · obtain ⟨reader, _, same⟩ := List.mem_map.mp read
      exact absurd same.symm (other reader status)
  · exact Or.inl

theorem adverse_publish (status : BackendStatus) (state : ConfigState) :
    Adverse (history (publishBackendStatus status state)) ↔ Adverse (history state) := by
  unfold Adverse
  rw [mem_history_publish status (by simp), mem_history_publish status (by simp)]

/-- A status is published: what must be known of the state before. -/
theorem recovers_publish {status : BackendStatus} (some_status : status ≠ .connecting)
    (subscribed : ∀ reader, reader ∈ state.backendReaders ↔ Subscribed (history state) reader)
    (listeners : ∀ listener ∈ state.listeners, listener.startupFailureOwner = false)
    (resolved : ¬ Adverse (history state) → .readiness none ∈ history state → status = .connected)
    (rejected : ¬ Adverse (history state) → ∀ err, .readiness (some err) ∈ history state →
      .reported err ∈ history state ∨ err ∈ owed) :
    Recovers owed (publishBackendStatus status state) := by
  have fields := publish_spec status state
  have status_eq : (publishBackendStatus status state).backendStatus = status := by rw [fields]
  have listeners_eq : (publishBackendStatus status state).listeners = state.listeners := by
    rw [fields]
  refine ⟨readersKnow_publish subscribed, ?_, ?_, ?_, ?_⟩
  · intro connecting
    exact absurd (status_eq.symm.trans connecting) some_status
  · rw [listeners_eq]
    exact listeners
  · rw [adverse_publish, mem_history_publish status (by simp), status_eq]
    exact resolved
  · rw [adverse_publish]
    intro calm err
    rw [mem_history_publish status (by simp), mem_history_publish status (by simp)]
    exact rejected calm err

/-- An event is recorded that no reader has to do with. -/
theorem readersKnow_record {effect : Effect} (kept : Effect.isStatus effect = true)
    (unread : Unread effect) (known : ReadersKnow state) : ReadersKnow (state.record effect) := by
  have trace := history_record kept state
  refine ⟨?_, ?_⟩
  · intro reader member
    have silent : reading reader effect = none := by
      cases effect with
      | read other status => exact absurd rfl (unread.2 other status)
      | _ => rfl
    rw [trace, latest_append, latest_singleton, silent, Option.none_or]
    exact known.readers reader member
  · intro reader
    rw [trace, subscribed_unread unread]
    exact known.subscribed reader

theorem recovers_reported {err : JsError} (holds : Recovers owed state)
    (pays : ∀ other ∈ owed, other = err) : Recovers [] (state.record (.reported err)) := by
  have trace : history (state.record (.reported err)) = history state ++ [.reported err] :=
    history_record rfl state
  have calm : Adverse (history state ++ [.reported err]) ↔ Adverse (history state) := by
    simp [Adverse]
  refine ⟨readersKnow_record rfl ⟨fun _ => rfl, by simp⟩ holds.known, holds.fresh,
    holds.listeners, ?_, ?_⟩
  · rw [trace, calm]
    intro quiet member
    apply holds.resolved quiet
    simpa using member
  · rw [trace, calm]
    intro quiet other member
    have old : .readiness (some other) ∈ history state := by simpa using member
    rcases holds.rejected quiet other old with reported | due
    · exact .inl (List.mem_append_left _ reported)
    · rw [pays other due]
      exact .inl (by simp)

/-- Reporting leaves the status alone and pays what is owed. -/
theorem recovers_report {err : JsError} (holds : Recovers owed state)
    (seen : state.backendStatus ≠ .connecting)
    (pays : ∀ other ∈ owed, other = err ∧ state.backendFailures = []) :
    Recovers [] (reportBackendFailure packages err state) := by
  let latched : ConfigState := { state with
    backendFailures := state.backendFailures ++ [(describeBackendFailure packages err).1] }
  by_cases known : state.backendFailures.contains (describeBackendFailure packages err).1 = true
  · have result : reportBackendFailure packages err state = state := if_pos known
    have nothing : owed = [] := by
      apply List.eq_nil_iff_forall_not_mem.mpr
      intro other due
      rw [(pays other due).2] at known
      cases known
    rw [result]
    rw [nothing] at holds
    exact holds
  · have result : reportBackendFailure packages err state =
        (latched.record (.reported err)).record
          (.nodeError .config (describeBackendFailure packages err).2) := if_neg known
    have marked : Recovers owed latched :=
      ⟨⟨holds.known.readers, holds.known.subscribed⟩,
        fun connecting => absurd connecting seen, holds.listeners, holds.resolved, holds.rejected⟩
    have reported := recovers_reported marked fun other due => (pays other due).1
    rw [result]
    exact reported.silent ((Silent.refl _).record rfl)

/-! ## What changes the status -/

theorem recovers_backendEvent (event : BackendEvent) (holds : Recovers [] state) :
    Recovers [] (onBackendEvent event state) := by
  have trace : history (state.record (.backend event)) = history state ++ [.backend event] :=
    history_record rfl state
  have known : ReadersKnow (state.record (.backend event)) :=
    readersKnow_record rfl ⟨fun _ => rfl, by simp⟩ holds.known
  have rejected : ¬ Adverse (history (state.record (.backend event))) → ∀ err,
      .readiness (some err) ∈ history (state.record (.backend event)) →
        .reported err ∈ history (state.record (.backend event)) ∨ err ∈ [] := by
    rw [trace]
    intro calm err member
    have quiet : ¬ Adverse (history state) := fun adverse => calm (by
      rcases adverse with error | close
      · exact .inl (List.mem_append_left _ error)
      · exact .inr (List.mem_append_left _ close))
    have old : .readiness (some err) ∈ history state := by simpa using member
    exact (holds.rejected quiet err old).imp (List.mem_append_left _) id
  have adverse : event ≠ .ready → Adverse (history (state.record (.backend event))) := by
    rw [trace]
    intro bad
    cases event with
    | ready => exact absurd rfl bad
    | error => exact .inl (by simp)
    | close => exact .inr (by simp)
  cases event with
  | ready =>
    exact recovers_publish (by simp) known.subscribed holds.listeners (fun _ _ => rfl) rejected
  | error =>
    exact recovers_publish (by simp) known.subscribed holds.listeners
      (fun calm => absurd (adverse (by simp)) calm) rejected
  | close =>
    exact recovers_publish (by simp) known.subscribed holds.listeners
      (fun calm => absurd (adverse (by simp)) calm) rejected

theorem adverse_settleReadiness (queue : Nat) (failure : Option JsError) (state : ConfigState) :
    Adverse (history (settleReadiness queue failure state)) ↔ Adverse (history state) := by
  rw [history_settleReadiness]
  simp [Adverse]

theorem readersKnow_settleReadiness {queue : Nat} {failure : Option JsError}
    (known : ReadersKnow state) : ReadersKnow (settleReadiness queue failure state) := by
  let seeded : ConfigState := { state with
    seeding := state.seeding.filter fun other => decide (other ≠ queue) }
  have same : ReadersKnow seeded := ⟨known.readers, known.subscribed⟩
  exact readersKnow_record rfl ⟨fun _ => rfl, by simp⟩ same

/-- A rejection that has just been seen is owed. -/
theorem owed_settleReadiness {queue : Nat} {failure : Option JsError} (holds : Recovers [] state)
    (calm : ¬ Adverse (history (settleReadiness queue failure state))) (err : JsError)
    (member : .readiness (some err) ∈ history (settleReadiness queue failure state)) :
    .reported err ∈ history (settleReadiness queue failure state) ∨ err ∈ failure.toList := by
  rw [adverse_settleReadiness] at calm
  rw [history_settleReadiness] at member ⊢
  rcases List.mem_append.mp member with old | new
  · rcases holds.rejected calm err old with reported | due
    · exact .inl (List.mem_append_left _ reported)
    · cases due
  · have same : some err = failure := by simpa using List.mem_singleton.mp new
    rw [← same]
    exact .inr (by simp)

theorem recovers_resolved {queue : Nat} (holds : Recovers [] state)
    (undisturbed : state.backendStatus = .disconnected → Adverse (history state)) :
    Recovers [] (onReadiness packages queue none state) := by
  have known : ReadersKnow (settleReadiness queue none state) :=
    readersKnow_settleReadiness holds.known
  by_cases waiting : state.backendStatus = .connecting
  · have result : onReadiness packages queue none state =
        publishBackendStatus .connected (settleReadiness queue none state) := if_pos waiting
    rw [result]
    exact recovers_publish (by simp) known.subscribed holds.listeners (fun _ _ => rfl)
      (owed_settleReadiness holds)
  · have result : onReadiness packages queue none state = settleReadiness queue none state :=
      if_neg waiting
    rw [result]
    refine ⟨known, fun connecting => absurd connecting waiting, holds.listeners, ?_,
      owed_settleReadiness holds⟩
    rw [adverse_settleReadiness]
    intro calm _
    cases status : state.backendStatus with
    | connecting => exact absurd status waiting
    | connected => exact status
    | disconnected => exact absurd (undisturbed status) calm

theorem recovers_rejected {queue : Nat} {err : JsError} (holds : Recovers [] state)
    (undisturbed : state.backendStatus ≠ .connecting → Adverse (history state)) :
    Recovers [] (onReadiness packages queue (some err) state) := by
  have known : ReadersKnow (settleReadiness queue (some err) state) :=
    readersKnow_settleReadiness holds.known
  have unresolved : ¬ Adverse (history state) →
      .readiness none ∉ history (settleReadiness queue (some err) state) := by
    intro calm member
    rw [history_settleReadiness] at member
    have old : .readiness none ∈ history state := by simpa using member
    have connected := holds.resolved calm old
    apply calm
    apply undisturbed
    rw [connected]
    simp
  by_cases waiting : state.backendStatus = .connecting
  · have result : onReadiness packages queue (some err) state =
        reportBackendFailure packages err
          (publishBackendStatus .disconnected (settleReadiness queue (some err) state)) :=
      if_pos waiting
    have published : Recovers [err]
        (publishBackendStatus .disconnected (settleReadiness queue (some err) state)) := by
      apply recovers_publish (by simp) known.subscribed holds.listeners
      · intro calm resolved
        rw [adverse_settleReadiness] at calm
        exact absurd resolved (unresolved calm)
      · exact owed_settleReadiness holds
    rw [result]
    apply recovers_report published
    · rw [publish_spec]
      simp
    · intro other due
      rw [publish_spec]
      exact ⟨List.mem_singleton.mp due, holds.fresh waiting⟩
  · have result : onReadiness packages queue (some err) state =
        settleReadiness queue (some err) state := if_neg waiting
    have adverse := undisturbed waiting
    rw [← adverse_settleReadiness queue (some err)] at adverse
    rw [result]
    exact ⟨known, fun connecting => absurd connecting waiting, holds.listeners,
      fun calm => absurd adverse calm, fun calm => absurd adverse calm⟩

/-! ## Constructions -/

/-- A construction that fails on PostgreSQL publishes `disconnected` and reports its failure. -/
theorem recovers_createResource {kind : OwnerKind} {role : Role} {node : NodeName}
    {telemetry : Option Nat} {construction : Construction} (holds : Recovers [] state)
    (undisturbed : ∀ err, construction.owner = .error err → state.config.backend = .postgres →
      .readiness none ∈ history state → Adverse (history state)) :
    Recovers [] (createResource packages kind role node telemetry construction state).2 := by
  cases built : construction.owner with
  | ok shape =>
    exact holds.silent (silent_createResource packages kind role node telemetry
      fun _ => ⟨shape, built⟩)
  | error err =>
    cases backend : state.config with
    | redis target =>
      apply holds.silent (silent_createResource packages kind role node telemetry _)
      intro postgres
      rw [backend] at postgres
      cases postgres
    | postgres target =>
      have lost := undisturbed err built (by rw [backend]; rfl)
      have published : Recovers [] (publishBackendStatus .disconnected state) :=
        recovers_publish (by simp) holds.known.subscribed holds.listeners
          (fun calm resolved => absurd (lost resolved) calm) holds.rejected
      have result : (createResource packages kind role node telemetry construction state).2 =
          reportBackendFailure packages err (publishBackendStatus .disconnected state) := by
        simp only [createResource, backend, construct, built]
      rw [result]
      apply recovers_report published
      · rw [publish_spec]
        simp
      · intro other due
        cases due

theorem recovers_watchOwnBackend (queue : Nat) (holds : Recovers [] state) :
    Recovers [] (watchOwnBackend queue state).2 := by
  unfold watchOwnBackend
  split
  · exact holds
  · exact holds
  · exact holds
  · exact holds.alike ⟨holds.known.readers, holds.known.subscribed⟩ rfl id rfl holds.listeners

theorem recovers_getQueue {construction : Construction} (holds : Recovers [] state)
    (undisturbed : ∀ err, state.queue = none → construction.owner = .error err →
      state.config.backend = .postgres → .readiness none ∈ history state →
      Adverse (history state)) :
    Recovers [] (getQueue packages construction state).2 := by
  cases missing : state.queue with
  | some queue =>
    rw [getQueue_cached packages missing]
    exact holds
  | none =>
    have looked := silent_getTelemetry packages state
    have config := (unmoved_getTelemetry packages state).config
    have created : Recovers [] (createResource packages .queue .producer .config
        (getTelemetry packages state).1 construction (getTelemetry packages state).2).2 := by
      apply recovers_createResource (holds.silent looked)
      intro err built backend
      rw [config] at backend
      rw [looked.history]
      exact undisturbed err missing built backend
    unfold getQueue
    rw [missing]
    dsimp only
    split
    next _ err after same => rw [same] at created; exact created
    next _ after same => rw [same] at created; exact created
    next _ resource connection after same =>
      rw [same] at created
      have set : Recovers []
          { after with queue := some resource, producerConnection := connection } :=
        created.alike ⟨created.known.readers, created.known.subscribed⟩ rfl id rfl
          created.listeners
      have watched := recovers_watchOwnBackend resource set
      split
      next _ err later result => rw [result] at watched; exact watched
      next _ value later result =>
        rw [result] at watched
        exact watched.silent (silent_attach (.owner resource) .config later)

/-! ## Every step -/

theorem mem_history {effect : Effect} (kept : Effect.isStatus effect = true) (state : ConfigState) :
    effect ∈ history state ↔ effect ∈ state.trace := by
  unfold history
  rw [List.mem_filter]
  exact and_iff_left kept

theorem adverse_history (state : ConfigState) : Adverse (history state) ↔ Adverse state.trace := by
  unfold Adverse
  rw [mem_history rfl, mem_history rfl]

theorem recovers_stopReading (reader : Nat) (holds : Recovers [] state) :
    Recovers [] (stopReading reader state) := by
  have trace := history_stopReading reader state
  have calm : Adverse (history state ++ [.unsubscribed reader]) ↔ Adverse (history state) := by
    simp [Adverse]
  refine ⟨readersKnow_stopReading reader holds.known, holds.fresh, holds.listeners, ?_, ?_⟩
  · rw [trace, calm]
    intro quiet member
    exact holds.resolved quiet (by simpa using member)
  · rw [trace, calm]
    intro quiet err member
    exact (holds.rejected quiet err (by simpa using member)).imp (List.mem_append_left _) id

theorem recovers_readBackendStatus (reader : Nat) (holds : Recovers [] state) :
    Recovers [] (readBackendStatus reader state) := by
  have trace := history_readBackendStatus reader state
  have calm : Adverse (history state ++ [.subscribed reader] ++
      [.read reader state.backendStatus]) ↔ Adverse (history state) := by
    simp [Adverse]
  refine ⟨readersKnow_readBackendStatus reader holds.known, holds.fresh, holds.listeners, ?_, ?_⟩
  · rw [trace, calm]
    intro quiet member
    exact holds.resolved quiet (by simpa using member)
  · rw [trace, calm]
    intro quiet err member
    rcases holds.rejected quiet err (by simpa using member) with reported | due
    · exact .inl (List.mem_append_left _ (List.mem_append_left _ reported))
    · exact .inr due

theorem recovers_effect {index : Nat} {task : ConfigTask} (holds : Recovers [] state)
    (undisturbed : Undisturbed state task) : Recovers [] (effect packages index task state) := by
  have looked := silent_getTelemetry packages state
  have config := (unmoved_getTelemetry packages state).config
  have seen : Effect.readiness none ∈ history state ↔ Effect.readiness none ∈ state.trace :=
    mem_history rfl state
  -- the construction of a runtime node's resource, after the telemetry was looked up or not
  have ownBuilt : ∀ {kind role node telemetry construction} {now : ConfigState},
      Silent state now → now.config = state.config →
      (∀ err, construction.owner = .error err → state.config.backend = .postgres →
        .readiness none ∈ state.trace → Adverse state.trace) →
      Recovers [] (createResource packages kind role node telemetry construction now).2 := by
    intro kind role node telemetry construction now silent same fails
    apply recovers_createResource (holds.silent silent)
    intro err built backend
    rw [silent.history, seen, adverse_history]
    rw [same] at backend
    exact fails err built backend
  have queueBuilt : ∀ construction, (∀ other err, (if state.queue.isNone then some construction
      else none) = some other → other.owner = .error err → state.config.backend = .postgres →
      .readiness none ∈ state.trace → Adverse state.trace) →
      Recovers [] (getQueue packages construction state).2 := by
    intro construction fails
    apply recovers_getQueue holds
    intro err missing built backend
    rw [seen, adverse_history]
    exact fails construction err (by rw [missing]; rfl) built backend
  cases task with
  | getQueue construction => exact queueBuilt construction undisturbed
  | processor worker construction => exact queueBuilt construction undisturbed
  | createWorker node construction =>
    exact ownBuilt looked config fun err => undisturbed construction err rfl
  | createQueueEvents node construction =>
    exact ownBuilt (.refl state) rfl fun err => undisturbed construction err rfl
  | createFlowProducer node construction =>
    exact ownBuilt looked config fun err => undisturbed construction err rfl
  | releaseResource owner =>
    apply holds.silent
    unfold effect
    dsimp only
    split
    · exact .refl _
    · apply Silent.record _ rfl
      apply Silent.record _ rfl
      exact ⟨rfl, rfl, rfl, id, id, rfl, id⟩
  | close => exact holds.silent ((silent_takeAll _ _).trans (silent_startAll _ _ _))
  | pair handler owner connection => exact holds.silent ((Silent.refl _).record rfl)
  | emitError emitter err => exact holds.silent (silent_emitError packages emitter err holds.listeners)
  | backendEvent queue event =>
    unfold effect
    dsimp only
    split
    · exact recovers_backendEvent event holds
    · exact holds
  | readiness queue failure =>
    cases failure with
    | none =>
      have lost : state.backendStatus = .disconnected → Adverse (history state) := by
        rw [adverse_history]
        exact undisturbed
      have later : Recovers [] (onReadiness packages queue none state) := recovers_resolved holds lost
      exact later
    | some err =>
      refine recovers_rejected holds ?_
      rw [adverse_history]
      exact undisturbed
  | readBackendStatus reader => exact recovers_readBackendStatus reader holds
  | stopReading reader => exact recovers_stopReading reader holds
  | connectionStatus connection status => exact holds.silent ⟨rfl, rfl, rfl, id, id, rfl, id⟩

theorem recovers_initial (config : QueueConfig) : Recovers [] (.initial config) := by
  refine ⟨⟨?_, ?_⟩, fun _ => rfl, ?_, ?_, ?_⟩
  · intro reader member
    cases member
  · intro reader
    constructor
    · intro member
      cases member
    · intro subscribed
      cases subscribed
  · intro listener member
    cases member
  · intro _ member
    cases member
  · intro _ err member
    cases member

/-- In every run in which the readiness promise finds the status that it is to replace, whatever
failed before, the status recovers and the failure of the promise is reported. -/
theorem status_recovers {packages : Packages} {config : QueueConfig} {pool : ConfigPool}
    (reached : Runs (configSystem packages).Step Recovering (emptyConfigPool config) pool) :
    Recovered pool.shared := by
  have holds : Recovers [] pool.shared := by
    apply books_invariant reached (recovers_initial config)
    · exact fun before after same held => held.silent (silent_of_sameBooks same)
    · exact fun pool task held _ undisturbed => recovers_effect held undisturbed
  refine ⟨?_, ?_⟩
  · intro calm member
    have connected : pool.shared.backendStatus = .connected := by
      apply holds.resolved
      · rw [adverse_history]
        exact calm
      · exact (mem_history rfl _).mpr member
    refine ⟨connected, fun reader subscribed => ?_⟩
    rw [← connected]
    exact holds.known.latest reader subscribed
  · intro calm err member
    have reported : .reported err ∈ history pool.shared ∨ err ∈ [] := by
      apply holds.rejected
      · rw [adverse_history]
        exact calm
      · exact (mem_history rfl _).mpr member
    rcases reported with kept | due
    · exact (mem_history rfl _).mp kept
    · cases due

/-! A PostgreSQL node whose worker cannot be constructed, and then its queue can. -/

def laterQueue : ConfigPool :=
  let system := configSystem plainPackages
  let failed := system.start (emptyConfigPool plainPostgres)
    (.createWorker (.runtime 1) failedConstruction)
  system.start failed (.getQueue plainConstruction)

theorem laterQueue_reached :
    Runs (configSystem plainPackages).Step Recovering (emptyConfigPool plainPostgres) laterQueue := by
  have never : ∀ state : ConfigState, state.trace = [] → .readiness none ∉ state.trace := by
    intro state empty
    rw [empty]
    simp
  apply System.runs_start _ _ trivial
  · intro construction err busy failed
    cases busy
    cases failed
  apply System.runs_start _ _ trivial
  · intro construction err _ _ _ resolved
    exact absurd resolved (never _ rfl)
  exact Runs.refl _

/-- A live `ready` event makes up for the failed construction. -/
def revivedPool : ConfigPool :=
  let system := configSystem plainPackages
  system.start (system.start laterQueue (.backendEvent 0 .ready)) (.readiness 0 none)

theorem revivedPool_reached :
    Runs (configSystem plainPackages).Step Recovering (emptyConfigPool plainPostgres) revivedPool := by
  have live : Undisturbed laterQueue.shared (.backendEvent 0 .ready) := by
    intro construction err busy
    cases busy
  have ready : Runs (configSystem plainPackages).Step Recovering (emptyConfigPool plainPostgres)
      ((configSystem plainPackages).start laterQueue (.backendEvent 0 .ready)) :=
    System.runs_start laterQueue_reached _ trivial live
  apply System.runs_start ready
  · exact List.mem_singleton.mpr rfl
  · intro lost
    cases lost

/-- The readiness promise of the new queue settles. -/
def settledPool (failure : Option JsError) : ConfigPool :=
  (configSystem plainPackages).start laterQueue (.readiness 0 failure)

theorem settledPool_reached (failure : Option JsError) :
    Runs (configSystem plainPackages).Step anyMove (emptyConfigPool plainPostgres)
      (settledPool failure) := by
  apply System.runs_start _ _ _ trivial
  · exact laterQueue_reached.weaken fun _ _ _ => trivial
  · exact List.mem_singleton.mpr rfl

theorem calm_of_events {trace : List Effect}
    (calm : ∀ event ∈ trace.filterMap liveEvent, event = .ready) : ¬ Adverse trace := by
  intro adverse
  rcases adverse with error | close
  · cases calm .error (List.mem_filterMap.mpr ⟨_, error, rfl⟩)
  · cases calm .close (List.mem_filterMap.mpr ⟨_, close, rfl⟩)

/-- The queue comes first, and its readiness promise rejects. -/
def refusedPool : ConfigPool :=
  let system := configSystem plainPackages
  system.start (system.start (emptyConfigPool plainPostgres) (.getQueue plainConstruction))
    (.readiness 0 (some (newError "connect ECONNREFUSED")))

theorem refusedPool_reached :
    Runs (configSystem plainPackages).Step Recovering (emptyConfigPool plainPostgres) refusedPool := by
  have queued : Runs (configSystem plainPackages).Step Recovering (emptyConfigPool plainPostgres)
      ((configSystem plainPackages).start (emptyConfigPool plainPostgres)
        (.getQueue plainConstruction)) := by
    apply System.runs_start (Runs.refl _) _ trivial
    intro construction err busy failed
    cases busy
    cases failed
  apply System.runs_start queued
  · exact List.mem_singleton.mpr rfl
  · intro settled
    exact absurd rfl settled

theorem status_recovers_revived : revivedPool.shared.backendStatus = .connected ∧
    .reported (newError "connect ECONNREFUSED") ∈ refusedPool.shared.trace := by
  have events : revivedPool.shared.trace.filterMap liveEvent = [.ready] := rfl
  have resolved : revivedPool.shared.trace[4]? = some (.readiness none) := rfl
  have calm : ¬ Adverse revivedPool.shared.trace := by
    apply calm_of_events
    rw [events]
    exact fun event member => List.mem_singleton.mp member
  have silent : refusedPool.shared.trace.filterMap liveEvent = [] := rfl
  have rejected : refusedPool.shared.trace[1]? =
      some (.readiness (some (newError "connect ECONNREFUSED"))) := rfl
  have quiet : ¬ Adverse refusedPool.shared.trace := by
    apply calm_of_events
    rw [silent]
    exact nofun
  exact ⟨((status_recovers revivedPool_reached).resolved calm (List.mem_of_getElem? resolved)).1,
    (status_recovers refusedPool_reached).rejected quiet _ (List.mem_of_getElem? rejected)⟩

/-- The working queue stays shown as down, and the failure of its backend is not reported. -/
theorem failed_construction_hides_readiness :
    (∃ pool, Runs (configSystem plainPackages).Step anyMove (emptyConfigPool plainPostgres) pool ∧
      ¬ Adverse pool.shared.trace ∧ .readiness none ∈ pool.shared.trace ∧
      pool.shared.queue = some 0 ∧ pool.shared.backendStatus = .disconnected) ∧
    ∃ pool err, Runs (configSystem plainPackages).Step anyMove (emptyConfigPool plainPostgres) pool ∧
      ¬ Adverse pool.shared.trace ∧ .readiness (some err) ∈ pool.shared.trace ∧
      pool.shared.queue = some 0 ∧ .reported err ∉ pool.shared.trace := by
  have calm : ∀ failure, ¬ Adverse (settledPool failure).shared.trace := by
    intro failure
    have events : (settledPool failure).shared.trace.filterMap liveEvent = [] := by
      cases failure <;> rfl
    apply calm_of_events
    rw [events]
    intro event member
    cases member
  have settled : ∀ failure, .readiness failure ∈ (settledPool failure).shared.trace := by
    intro failure
    have logged : (settledPool failure).shared.trace[3]? = some (.readiness failure) := by
      cases failure <;> rfl
    exact List.mem_of_getElem? logged
  let refused := newError "connect ECONNREFUSED"
  have reports : (settledPool (some refused)).shared.trace.filterMap report =
      [newError "Cannot find module 'pg'"] := rfl
  refine ⟨⟨settledPool none, settledPool_reached none, calm none, settled none, rfl, rfl⟩,
    settledPool (some refused), refused, settledPool_reached _, calm _, settled _, rfl, ?_⟩
  intro reported
  have listed : refused ∈ (settledPool (some refused)).shared.trace.filterMap report :=
    List.mem_filterMap.mpr ⟨_, reported, rfl⟩
  rw [reports, List.mem_singleton] at listed
  exact absurd listed (by decide)

end NodeRedBull.StatusRecovery
