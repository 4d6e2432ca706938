import NodeRedBull.BackendHistory
import NodeRedBull.ConfigCalls

/-! The shared backend status follows the live events of the backend, and every reader knows it. -/

namespace NodeRedBull.BackendStatus
open Js Library Connections ConfigNode ConfigBooks ConfigStep ConfigAccounts ConfigCalls BackendHistory
open ConfigPairs (plainRedis plainPackages plainConstruction)

/-! ## Publishing -/

theorem reads_neutral (readers : List Nat) (status : BackendStatus) :
    ∀ event ∈ reads readers status, Neutral event := by
  intro event member
  obtain ⟨reader, _, rfl⟩ := List.mem_map.mp member
  exact ⟨rfl, rfl⟩

theorem history_publish (status : BackendStatus) (state : ConfigState) :
    history (publishBackendStatus status state) =
      history state ++ reads state.backendReaders status := by
  have kept : (reads state.backendReaders status).filter Effect.isStatus =
      reads state.backendReaders status := by
    apply List.filter_eq_self.mpr
    intro event member
    obtain ⟨reader, _, rfl⟩ := List.mem_map.mp member
    rfl
  rw [publish_spec]
  unfold history
  rw [List.filter_append, kept]

theorem latest_reads {reader : Nat} {readers : List Nat} (member : reader ∈ readers)
    (status : BackendStatus) : latest (reading reader) (reads readers status) = some status := by
  induction readers using List.reverseRecOn with
  | nil => cases member
  | append_singleton rest last ih =>
    unfold reads
    rw [List.map_append, latest_append]
    by_cases same : last = reader
    · show (latest (reading reader) [.read last status]).or _ = _
      rw [latest_singleton]
      simp [reading, same]
    · show (latest (reading reader) [.read last status]).or _ = _
      rw [latest_singleton]
      have earlier : reader ∈ rest := by
        rcases List.mem_append.mp member with old | new
        · exact old
        · exact absurd (List.mem_singleton.mp new).symm same
      simp only [reading, if_neg same, Option.none_or]
      exact ih earlier

theorem subscription_reads (reader : Nat) (readers : List Nat) (status : BackendStatus)
    (trace : List Effect) :
    latest (subscription reader) (trace ++ reads readers status) =
      latest (subscription reader) trace := by
  have none : latest (subscription reader) (reads readers status) = none := by
    apply latest_eq_none_iff.mpr
    intro event member
    obtain ⟨other, _, rfl⟩ := List.mem_map.mp member
    rfl
  rw [latest_append, none, Option.none_or]

theorem called_reads {readers : List Nat} (status : BackendStatus) {trace : List Effect}
    (called : Always CalledSubscribed trace) (subscribed : ∀ reader ∈ readers, Subscribed trace reader) :
    Always CalledSubscribed (trace ++ reads readers status) := by
  induction readers using List.reverseRecOn with
  | nil => simpa [reads] using called
  | append_singleton rest last ih =>
    unfold reads
    rw [List.map_append, ← List.append_assoc]
    have earlier := ih fun reader member => subscribed reader (List.mem_append_left _ member)
    apply earlier.snoc
    intro reader other same
    cases same
    show latest (subscription last) (trace ++ reads rest status) = some true
    rw [subscription_reads]
    exact subscribed last (by simp)

/-- The readers are those that have subscribed, and each was last called with the status. -/
structure ReadersKnow (state : ConfigState) : Prop where
  readers : ∀ reader ∈ state.backendReaders,
    latest (reading reader) (history state) = some state.backendStatus
  subscribed : ∀ reader, reader ∈ state.backendReaders ↔ Subscribed (history state) reader

theorem ReadersKnow.silent {before after : ConfigState} (known : ReadersKnow before)
    (silent : Silent before after) : ReadersKnow after := by
  obtain ⟨status, readers, _, _, _, history, _⟩ := silent
  refine ⟨?_, ?_⟩
  · rw [readers, history, status]
    exact known.readers
  · rw [readers, history]
    exact known.subscribed

/-- Whatever the readers knew before, a published status reaches all of them. -/
theorem readersKnow_publish {status : BackendStatus} {state : ConfigState}
    (subscribed : ∀ reader, reader ∈ state.backendReaders ↔ Subscribed (history state) reader) :
    ReadersKnow (publishBackendStatus status state) := by
  have fields := publish_spec status state
  have status_eq : (publishBackendStatus status state).backendStatus = status := by rw [fields]
  have readers_eq : (publishBackendStatus status state).backendReaders = state.backendReaders := by
    rw [fields]
  refine ⟨?_, ?_⟩
  · intro reader member
    rw [readers_eq] at member
    rw [history_publish, status_eq, latest_append, latest_reads member]
    rfl
  · intro reader
    rw [readers_eq, history_publish]
    unfold Subscribed
    rw [subscription_reads]
    exact subscribed reader

theorem select_reads {β : Type} {select : Effect → Option β}
    (others : ∀ reader status, select (.read reader status) = none) (readers : List Nat)
    (status : BackendStatus) : (reads readers status).filterMap select = [] := by
  apply List.filterMap_eq_nil_iff.mpr
  intro event member
  obtain ⟨reader, _, rfl⟩ := List.mem_map.mp member
  exact others reader status

/-- All but the status itself, which is about to be published. -/
structure Pending (owed : List JsError) (state : ConfigState) : Prop where
  awaited : ((history state).filterMap settlement).length + state.seeding.length ≤ 1
  unwatched : state.queue = none → (history state).filterMap settlement = [] ∧ state.seeding = []
  fresh : (history state).filterMap settlement = [] → state.backendFailures = []
  reports : (history state).filterMap report ++ owed = expectedReports (history state)
  subscribed : ∀ reader, reader ∈ state.backendReaders ↔ Subscribed (history state) reader
  called : Always CalledSubscribed (history state)
  listeners : ∀ listener ∈ state.listeners, listener.startupFailureOwner = false

theorem agrees_publish {owed : List JsError} {state : ConfigState} {status : BackendStatus}
    (pending : Pending owed state) (expected : expectedStatus (history state) = status) :
    Agrees owed (publishBackendStatus status state) := by
  have fields := publish_spec status state
  have status_eq : (publishBackendStatus status state).backendStatus = status := by rw [fields]
  have seeding_eq : (publishBackendStatus status state).seeding = state.seeding := by rw [fields]
  have queue_eq : (publishBackendStatus status state).queue = state.queue := by rw [fields]
  have failures_eq :
      (publishBackendStatus status state).backendFailures = state.backendFailures := by
    rw [fields]
  have listeners_eq : (publishBackendStatus status state).listeners = state.listeners := by
    rw [fields]
  have settlements : (history state ++ reads state.backendReaders status).filterMap settlement =
      (history state).filterMap settlement := by
    rw [List.filterMap_append, select_reads (fun _ _ => rfl), List.append_nil]
  constructor
  · rw [status_eq, history_publish, expectedStatus_neutral (reads_neutral _ _), expected]
  · rw [history_publish, seeding_eq, settlements]
    exact pending.awaited
  · rw [history_publish, seeding_eq, settlements, queue_eq]
    exact pending.unwatched
  · rw [history_publish, settlements, failures_eq]
    exact pending.fresh
  · rw [history_publish, List.filterMap_append, select_reads (fun _ _ => rfl), List.append_nil,
      expectedReports_neutral (reads_neutral _ _)]
    exact pending.reports
  · exact (readersKnow_publish pending.subscribed).readers
  · exact (readersKnow_publish pending.subscribed).subscribed
  · rw [history_publish]
    exact called_reads status pending.called fun reader member =>
      (pending.subscribed reader).mp member
  · rw [listeners_eq]
    exact pending.listeners

/-! ## Live events and the readiness promise -/

/-- An event that neither calls, adds nor removes a reader. -/
def Unread (event : Effect) : Prop :=
  (∀ reader, subscription reader event = none) ∧ ∀ reader status, event ≠ .read reader status

theorem subscribed_unread {event : Effect} (unread : Unread event) (trace : List Effect)
    (reader : Nat) : Subscribed (trace ++ [event]) reader ↔ Subscribed trace reader := by
  unfold Subscribed
  rw [latest_append, latest_singleton, unread.1, Option.none_or]

theorem called_unread {event : Effect} (unread : Unread event) {trace : List Effect}
    (called : Always CalledSubscribed trace) : Always CalledSubscribed (trace ++ [event]) :=
  called.snoc fun reader status same => absurd same (unread.2 reader status)

theorem pending_event {state : ConfigState} (holds : Agrees [] state)
    (event : BackendEvent) : Pending [] (state.record (.backend event)) := by
  have unread : Unread (.backend event) := ⟨fun _ => rfl, nofun⟩
  have trace : history (state.record (.backend event)) = history state ++ [.backend event] :=
    history_record rfl state
  have settlements : (history state ++ [Effect.backend event]).filterMap settlement =
      (history state).filterMap settlement :=
    select_snoc rfl _
  constructor
  · rw [trace, settlements]
    exact holds.awaited
  · rw [trace, settlements]
    exact holds.unwatched
  · rw [trace, settlements]
    exact holds.fresh
  · rw [trace, expectedReports_backend, List.filterMap_append]
    have reports := holds.reports
    rw [List.append_nil] at reports ⊢
    rw [← reports]
    exact List.append_nil _
  · intro reader
    rw [trace, subscribed_unread unread]
    exact holds.subscribed reader
  · rw [trace]
    exact called_unread unread holds.called
  · exact holds.listeners

theorem agrees_backendEvent {state : ConfigState} (event : BackendEvent)
    (holds : Agrees [] state) : Agrees [] (onBackendEvent event state) := by
  have expected : expectedStatus (history (state.record (.backend event))) = statusOf event := by
    rw [history_record rfl, expectedStatus_backend]
  have published := agrees_publish (pending_event holds event) expected
  cases event with
  | ready => exact published
  | error => exact published
  | close => exact published

/-- The state that `onReadiness` looks at. -/
def settleReadiness (owner : Nat) (failure : Option JsError) (state : ConfigState) : ConfigState :=
  { state with
    seeding := state.seeding.filter fun other => decide (other ≠ owner) }.record
      (.readiness failure)

/-- What has to be reported when the promise settles. -/
def owedReport (state : ConfigState) (failure : Option JsError) : List JsError :=
  if latest liveEvent (history state) = none then failure.toList else []

theorem unsettled_of_seeding {owed : List JsError} {state : ConfigState} {owner : Nat}
    (holds : Agrees owed state) (awaited : owner ∈ state.seeding) :
    (history state).filterMap settlement = [] ∧ state.seeding = [owner] := by
  have bound := holds.awaited
  cases seeds : state.seeding with
  | nil =>
    rw [seeds] at awaited
    cases awaited
  | cons first rest =>
    rw [seeds, List.length_cons] at bound
    have settlements : ((history state).filterMap settlement).length = 0 := by omega
    have alone : rest.length = 0 := by omega
    rw [List.length_eq_zero_iff] at settlements alone
    subst alone
    rw [seeds, List.mem_singleton] at awaited
    exact ⟨settlements, by rw [awaited]⟩

theorem history_settleReadiness (owner : Nat) (failure : Option JsError) (state : ConfigState) :
    history (settleReadiness owner failure state) = history state ++ [.readiness failure] := by
  unfold settleReadiness
  rw [history_record rfl]
  rfl

theorem pending_readiness {state : ConfigState} {owner : Nat} (failure : Option JsError)
    (holds : Agrees [] state) (awaited : owner ∈ state.seeding) :
    Pending (owedReport state failure) (settleReadiness owner failure state) := by
  have unread : Unread (.readiness failure) := ⟨fun _ => rfl, nofun⟩
  obtain ⟨settlements, seeding⟩ := unsettled_of_seeding holds awaited
  have trace := history_settleReadiness owner failure state
  have drained : (settleReadiness owner failure state).seeding = [] := by
    show state.seeding.filter _ = []
    rw [seeding]
    simp
  have reports := holds.reports
  rw [List.append_nil] at reports
  constructor
  · rw [trace, drained, List.filterMap_append, settlements]
    exact le_refl 1
  · intro missing
    obtain ⟨_, empty⟩ := holds.unwatched missing
    rw [empty] at awaited
    cases awaited
  · intro unsettled
    rw [trace, List.filterMap_append] at unsettled
    exact absurd (List.append_eq_nil_iff.mp unsettled).2 nofun
  · have silentReports : (history state ++ [Effect.readiness failure]).filterMap report =
        (history state).filterMap report := by
      rw [List.filterMap_append]
      exact List.append_nil _
    rw [trace, silentReports, reports]
    unfold owedReport
    cases failure with
    | none => simp [expectedReports_resolved]
    | some err =>
      rw [expectedReports_rejected]
      by_cases first : latest liveEvent (history state) = none
      · rw [if_pos first, if_pos first]
        rfl
      · rw [if_neg first, if_neg first, List.append_nil]
  · intro reader
    rw [trace, subscribed_unread unread]
    exact holds.subscribed reader
  · rw [trace]
    exact called_unread unread holds.called
  · exact holds.listeners

theorem agrees_report {packages : Packages} {err : JsError} {state : ConfigState}
    (holds : Agrees [err] state) (settled : (history state).filterMap settlement ≠ [])
    (unreported : state.backendFailures = []) :
    Agrees [] (reportBackendFailure packages err state) := by
  have unread : Unread (.reported err) := ⟨fun _ => rfl, nofun⟩
  have trace : history (state.record (.reported err)) = history state ++ [.reported err] :=
    history_record rfl state
  have neutral : ∀ event ∈ [Effect.reported err], Neutral event := by
    intro event member
    rw [List.mem_singleton.mp member]
    exact ⟨rfl, rfl⟩
  have settlements : (history state ++ [Effect.reported err]).filterMap settlement =
      (history state).filterMap settlement :=
    select_snoc rfl _
  let latched : ConfigState :=
    { state with backendFailures := [(describeBackendFailure packages err).1] }
  have reported : Agrees [] (latched.record (.reported err)) := by
    constructor
    · show state.backendStatus = expectedStatus (history (state.record (.reported err)))
      rw [trace, expectedStatus_neutral neutral]
      exact holds.status
    · show ((history (state.record (.reported err))).filterMap settlement).length + _ ≤ 1
      rw [trace, settlements]
      exact holds.awaited
    · show state.queue = none → (history (state.record (.reported err))).filterMap settlement = [] ∧ _
      rw [trace, settlements]
      exact holds.unwatched
    · show (history (state.record (.reported err))).filterMap settlement = [] → _
      rw [trace, settlements]
      exact fun unsettled => absurd unsettled settled
    · show (history (state.record (.reported err))).filterMap report ++ [] =
        expectedReports (history (state.record (.reported err)))
      rw [trace, expectedReports_neutral neutral, ← holds.reports, List.append_nil,
        List.filterMap_append]
      rfl
    · intro reader member
      show latest (reading reader) (history (state.record (.reported err))) = _
      rw [trace, latest_append, latest_singleton]
      exact holds.readers reader member
    · intro reader
      show reader ∈ state.backendReaders ↔
        Subscribed (history (state.record (.reported err))) reader
      rw [trace, subscribed_unread unread]
      exact holds.subscribed reader
    · show Always CalledSubscribed (history (state.record (.reported err)))
      rw [trace]
      exact called_unread unread holds.called
    · exact holds.listeners
  have result : reportBackendFailure packages err state = (latched.record (.reported err)).record
      (.nodeError .config (describeBackendFailure packages err).2) := by
    unfold reportBackendFailure
    dsimp only
    rw [unreported]
    rfl
  rw [result]
  exact reported.silent ((Silent.refl _).record rfl)

theorem agrees_of_pending {owed : List JsError} {state : ConfigState}
    (pending : Pending owed state)
    (status : state.backendStatus = expectedStatus (history state))
    (readers : ∀ reader ∈ state.backendReaders,
      latest (reading reader) (history state) = some state.backendStatus) : Agrees owed state :=
  ⟨status, pending.awaited, pending.unwatched, pending.fresh, pending.reports, readers,
    pending.subscribed, pending.called, pending.listeners⟩

theorem agrees_readiness {packages : Packages} {state : ConfigState} {owner : Nat}
    (failure : Option JsError) (holds : Agrees [] state) (awaited : owner ∈ state.seeding) :
    Agrees [] (onReadiness packages owner failure state) := by
  have pending := pending_readiness failure holds awaited
  have trace := history_settleReadiness owner failure state
  have expected := expectedStatus_readiness (history state) failure
  have connecting := connecting_iff (unsettled_of_seeding holds awaited).1
  rw [← holds.status] at connecting
  by_cases first : latest liveEvent (history state) = none
  · have waiting := connecting.mpr first
    rw [first] at expected
    rw [← trace] at expected
    have owed : owedReport state failure = failure.toList := if_pos first
    rw [owed] at pending
    cases failure with
    | none =>
      have result : onReadiness packages owner none state =
          publishBackendStatus .connected (settleReadiness owner none state) := if_pos waiting
      rw [result]
      exact agrees_publish pending expected
    | some err =>
      have result : onReadiness packages owner (some err) state =
          reportBackendFailure packages err
            (publishBackendStatus .disconnected (settleReadiness owner (some err) state)) :=
        if_pos waiting
      rw [result]
      have published := agrees_publish pending expected
      apply agrees_report published
      · rw [history_publish, trace, List.filterMap_append, List.filterMap_append]
        simp [settlement]
      · rw [publish_spec]
        exact holds.fresh (unsettled_of_seeding holds awaited).1
  · have live : ¬state.backendStatus = .connecting := fun waiting => first (connecting.mp waiting)
    have owed : owedReport state failure = [] := if_neg first
    rw [owed] at pending
    have result : onReadiness packages owner failure state =
        settleReadiness owner failure state := by
      cases failure with
      | none => exact if_neg live
      | some err => exact if_neg live
    rw [result]
    apply agrees_of_pending pending
    · rw [trace, expected]
      have before := holds.status
      unfold expectedStatus at before
      cases found : latest liveEvent (history state) with
      | none => exact absurd found first
      | some event =>
        rw [found] at before
        exact before
    · intro reader member
      rw [trace, latest_append, latest_singleton]
      exact holds.readers reader member

/-! ## Readers -/

theorem neutral_singleton {event : Effect} (neutral : Neutral event) :
    ∀ other ∈ [event], Neutral other := by
  intro other member
  rw [List.mem_singleton.mp member]
  exact neutral

/-- The state once `reader` is added, and before it is called. -/
def addReader (reader : Nat) (state : ConfigState) : ConfigState :=
  { state with
    backendReaders :=
      if state.backendReaders.contains reader then state.backendReaders
      else state.backendReaders ++ [reader] }.record (.subscribed reader)

theorem mem_addReader (reader other : Nat) (state : ConfigState) :
    other ∈ (addReader reader state).backendReaders ↔
      other ∈ state.backendReaders ∨ other = reader := by
  show other ∈ (if state.backendReaders.contains reader then state.backendReaders
    else state.backendReaders ++ [reader]) ↔ _
  by_cases known : state.backendReaders.contains reader
  · rw [if_pos known]
    constructor
    · exact Or.inl
    · rintro (old | rfl)
      · exact old
      · simpa using known
  · rw [if_neg known, List.mem_append, List.mem_singleton]

theorem history_readBackendStatus (reader : Nat) (state : ConfigState) :
    history (readBackendStatus reader state) =
      history state ++ [.subscribed reader] ++ [.read reader state.backendStatus] := by
  have added : history (addReader reader state) = history state ++ [.subscribed reader] :=
    history_record rfl _
  show history ((addReader reader state).record (.read reader state.backendStatus)) = _
  rw [history_record rfl, added]

theorem subscribed_snoc (trace : List Effect) (reader other : Nat) :
    Subscribed (trace ++ [.subscribed reader]) other ↔ Subscribed trace other ∨ other = reader := by
  unfold Subscribed
  rw [latest_append, latest_singleton]
  by_cases same : reader = other
  · simp [subscription, same]
  · have different : ¬other = reader := fun equal => same equal.symm
    simp [subscription, same, different]

theorem readersKnow_readBackendStatus {state : ConfigState} (reader : Nat)
    (known : ReadersKnow state) : ReadersKnow (readBackendStatus reader state) := by
  have trace := history_readBackendStatus reader state
  refine ⟨?_, ?_⟩
  · intro other member
    show latest (reading other) (history (readBackendStatus reader state)) =
      some state.backendStatus
    rw [trace, latest_append, latest_singleton]
    by_cases same : reader = other
    · simp [reading, same]
    · have old : other ∈ state.backendReaders := by
        rcases (mem_addReader reader other state).mp member with old | new
        · exact old
        · exact absurd new.symm same
      rw [latest_append, latest_singleton]
      simp only [reading, if_neg same, Option.none_or]
      exact known.readers other old
  · intro other
    have unread : Subscribed (history (readBackendStatus reader state)) other ↔
        Subscribed (history state ++ [.subscribed reader]) other := by
      rw [trace]
      unfold Subscribed
      rw [latest_append _ (history state ++ _), latest_singleton]
      rfl
    rw [unread, subscribed_snoc, ← known.subscribed]
    exact mem_addReader reader other state

theorem history_stopReading (reader : Nat) (state : ConfigState) :
    history (stopReading reader state) = history state ++ [.unsubscribed reader] :=
  history_record rfl _

theorem readersKnow_stopReading {state : ConfigState} (reader : Nat) (known : ReadersKnow state) :
    ReadersKnow (stopReading reader state) := by
  have trace := history_stopReading reader state
  have kept : ∀ other, other ∈ (stopReading reader state).backendReaders ↔
      other ∈ state.backendReaders ∧ other ≠ reader := by
    intro other
    show other ∈ state.backendReaders.filter _ ↔ _
    rw [List.mem_filter, decide_eq_true_eq]
  refine ⟨?_, ?_⟩
  · intro other member
    rw [trace, latest_append, latest_singleton]
    exact known.readers other ((kept other).mp member).1
  · intro other
    rw [kept, trace]
    unfold Subscribed
    rw [latest_append, latest_singleton]
    by_cases same : reader = other
    · simp [subscription, same]
    · have different : other ≠ reader := fun equal => same equal.symm
      have subscribed := known.subscribed other
      unfold Subscribed at subscribed
      simp [subscription, same, different, subscribed]

theorem readersKnow_of_agrees {owed : List JsError} {state : ConfigState} (holds : Agrees owed state) :
    ReadersKnow state :=
  ⟨holds.readers, holds.subscribed⟩

theorem agrees_readBackendStatus {state : ConfigState} (reader : Nat) (holds : Agrees [] state) :
    Agrees [] (readBackendStatus reader state) := by
  have trace := history_readBackendStatus reader state
  have settlements : (history state ++ [Effect.subscribed reader] ++
      [Effect.read reader state.backendStatus]).filterMap settlement =
      (history state).filterMap settlement := by
    rw [List.filterMap_append, List.filterMap_append]
    exact (List.append_nil _).trans (List.append_nil _)
  have known := readersKnow_readBackendStatus reader (readersKnow_of_agrees holds)
  constructor
  · rw [trace, expectedStatus_neutral (neutral_singleton ⟨rfl, rfl⟩),
      expectedStatus_neutral (neutral_singleton ⟨rfl, rfl⟩)]
    exact holds.status
  · rw [trace, settlements]
    exact holds.awaited
  · rw [trace, settlements]
    exact holds.unwatched
  · rw [trace, settlements]
    exact holds.fresh
  · have reports := holds.reports
    rw [trace, expectedReports_neutral (neutral_singleton ⟨rfl, rfl⟩),
      expectedReports_neutral (neutral_singleton ⟨rfl, rfl⟩), ← reports, List.filterMap_append,
      List.filterMap_append]
    simp [report]
  · exact known.readers
  · exact known.subscribed
  · rw [trace]
    apply Always.snoc
    · exact holds.called.snoc nofun
    · intro other status same
      cases same
      exact (subscribed_snoc (history state) reader reader).mpr (.inr rfl)
  · exact holds.listeners

theorem agrees_stopReading {state : ConfigState} (reader : Nat) (holds : Agrees [] state) :
    Agrees [] (stopReading reader state) := by
  have trace := history_stopReading reader state
  have settlements : (history state ++ [Effect.unsubscribed reader]).filterMap settlement =
      (history state).filterMap settlement :=
    select_snoc rfl _
  have known := readersKnow_stopReading reader (readersKnow_of_agrees holds)
  constructor
  · rw [trace, expectedStatus_neutral (neutral_singleton ⟨rfl, rfl⟩)]
    exact holds.status
  · rw [trace, settlements]
    exact holds.awaited
  · rw [trace, settlements]
    exact holds.unwatched
  · rw [trace, settlements]
    exact holds.fresh
  · have reports := holds.reports
    rw [trace, expectedReports_neutral (neutral_singleton ⟨rfl, rfl⟩), ← reports,
      List.filterMap_append]
    simp [report]
  · exact known.readers
  · exact known.subscribed
  · rw [trace]
    exact holds.called.snoc nofun
  · exact holds.listeners

/-! ## The queue -/

theorem agrees_watchBackend {state : ConfigState} (queue : Nat) (holds : Agrees [] state)
    (settlements : (history state).filterMap settlement = []) (seeding : state.seeding = [])
    (known : state.queue ≠ none) : Agrees [] (watchBackend queue state) := by
  refine ⟨holds.status, ?_, fun missing => absurd missing known, holds.fresh, holds.reports,
    holds.readers, holds.subscribed, holds.called, holds.listeners⟩
  show ((history state).filterMap settlement).length + (state.seeding ++ [queue]).length ≤ 1
  rw [settlements, seeding]
  exact le_refl 1

theorem agrees_getQueue {packages : Packages} {construction : Construction} {state : ConfigState}
    (holds : Agrees [] state)
    (steady : state.config.backend = .postgres → state.queue = none →
      ∃ shape, construction.owner = .ok shape) :
    Agrees [] (getQueue packages construction state).2 := by
  cases missing : state.queue with
  | some queue =>
    rw [getQueue_cached packages missing]
    exact holds
  | none =>
    have looked := silent_getTelemetry packages state
    have config := (unmoved_getTelemetry packages state).config
    have built : (getTelemetry packages state).2.config.backend = .postgres →
        ∃ shape, construction.owner = .ok shape := by
      rw [config]
      exact fun backend => steady backend missing
    have created := looked.trans (silent_createResource packages .queue .producer .config
      (getTelemetry packages state).1 built)
    unfold getQueue
    rw [missing]
    dsimp only
    split
    next _ err after same => rw [same] at created; exact holds.silent created
    next _ after same => rw [same] at created; exact holds.silent created
    next _ resource connection after same =>
      rw [same] at created
      have set : Silent state
          { after with queue := some resource, producerConnection := connection } :=
        ⟨created.status, created.readers, created.seeding, nofun, created.failures,
          created.history, created.listeners⟩
      have agrees := holds.silent set
      obtain ⟨settlements, seeding⟩ := holds.unwatched missing
      rw [← set.history] at settlements
      rw [← set.seeding] at seeding
      have watched : Agrees [] (watchOwnBackend resource
          { after with queue := some resource, producerConnection := connection }).2 := by
        unfold watchOwnBackend
        split
        · exact agrees
        · exact agrees
        · exact agrees
        · exact agrees_watchBackend resource agrees settlements seeding nofun
      split
      next _ err later result => rw [result] at watched; exact watched
      next _ value later result =>
        rw [result] at watched
        exact watched.silent (silent_attach (.owner resource) .config later)

/-! ## Every step -/

/-- No PostgreSQL construction fails; a failed one would publish `disconnected` itself. -/
def Constructed (pool : ConfigPool) : ConfigMove → Prop
  | .start task => ∀ construction, constructs pool.shared task = some construction →
      pool.shared.config.backend = .postgres → ∃ shape, construction.owner = .ok shape
  | .resume _ _ _ => True

theorem silent_startAll (position : Nat) (pairs : List (Nat × Option Nat)) (state : ConfigState) :
    Silent state (startAll position pairs state) := by
  induction pairs generalizing position state with
  | nil => exact .refl state
  | cons pair rest ih =>
    have first : Silent state (state.record (.closesPair position pair.1 pair.2)) :=
      (Silent.refl state).record rfl
    exact first.trans (ih (position + 1) _)

theorem silent_takeAll (handler : Nat) (state : ConfigState) :
    Silent state (takeAll handler state).2 := by
  refine ⟨rfl, rfl, rfl, id, fun _ => rfl, ?_, id⟩
  have none : (state.resources.entries.reverse.map fun pair =>
      Effect.took handler pair.1 pair.2).filter Effect.isStatus = [] := by
    apply List.filter_eq_nil_iff.mpr
    intro event member
    obtain ⟨pair, _, rfl⟩ := List.mem_map.mp member
    simp [Effect.isStatus]
  show (state.trace ++ [Effect.closeBegan handler] ++ _).filter Effect.isStatus = _
  rw [List.filter_append, List.filter_append, none]
  exact (List.append_nil _).trans (List.append_nil _)

theorem agrees_effect {packages : Packages} {pool : ConfigPool} {task : ConfigTask}
    (holds : Agrees [] pool.shared) (launched : launches pool task)
    (built : Constructed pool (.start task)) :
    Agrees [] (effect packages pool.tasks.length task pool.shared) := by
  have looked := silent_getTelemetry packages pool.shared
  have config := (unmoved_getTelemetry packages pool.shared).config
  have queueBuilt : ∀ construction, constructs pool.shared (.getQueue construction) =
      constructs pool.shared task →
      pool.shared.config.backend = .postgres → pool.shared.queue = none →
      ∃ shape, construction.owner = .ok shape := by
    intro construction same backend missing
    apply built construction _ backend
    rw [← same]
    simp [constructs, missing]
  have ownBuilt : ∀ construction, constructs pool.shared task = some construction →
      (getTelemetry packages pool.shared).2.config.backend = .postgres →
      ∃ shape, construction.owner = .ok shape := by
    intro construction busy backend
    rw [config] at backend
    exact built construction busy backend
  cases task with
  | getQueue construction => exact agrees_getQueue holds (queueBuilt construction rfl)
  | processor worker construction => exact agrees_getQueue holds (queueBuilt construction rfl)
  | createWorker node construction =>
    exact holds.silent (looked.trans (silent_createResource packages .worker .worker node _
      (ownBuilt construction rfl)))
  | createQueueEvents node construction =>
    exact holds.silent (silent_createResource packages .events .events node none
      (built construction rfl))
  | createFlowProducer node construction =>
    exact holds.silent (looked.trans (silent_createResource packages .flow .producer node _
      (ownBuilt construction rfl)))
  | releaseResource owner =>
    apply holds.silent
    unfold effect
    dsimp only
    split
    · exact .refl _
    · apply Silent.record _ rfl
      apply Silent.record _ rfl
      exact ⟨rfl, rfl, rfl, id, id, rfl, id⟩
  | close => exact holds.silent ((silent_takeAll _ _).trans (silent_startAll _ _ _))
  | pair handler owner connection => exact holds.silent ((Silent.refl _).record rfl)
  | emitError emitter err =>
    exact holds.silent (silent_emitError packages emitter err holds.listeners)
  | backendEvent queue event =>
    unfold effect
    dsimp only
    split
    · exact agrees_backendEvent event holds
    · exact holds
  | readiness queue failure => exact agrees_readiness failure holds launched
  | readBackendStatus reader => exact agrees_readBackendStatus reader holds
  | stopReading reader => exact agrees_stopReading reader holds
  | connectionStatus connection status => exact holds.silent ⟨rfl, rfl, rfl, id, id, rfl, id⟩

theorem agrees_initial (config : QueueConfig) : Agrees [] (.initial config) :=
  ⟨rfl, Nat.zero_le 1, fun _ => ⟨rfl, rfl⟩, fun _ => rfl, rfl, nofun, fun _ => ⟨nofun, nofun⟩,
    always_nil _, nofun⟩

theorem agrees_reached {packages : Packages} {config : QueueConfig} {pool : ConfigPool}
    (reached : Runs (configSystem packages).Step Constructed (emptyConfigPool config) pool) :
    Agrees [] pool.shared := by
  apply books_invariant reached (agrees_initial config)
  · exact fun before after same holds => holds.silent (silent_of_sameBooks same)
  · exact fun pool task holds launched built => agrees_effect holds launched built

/-! ## What the whole trace says -/

theorem history_select {β : Type} {select : Effect → Option β}
    (others : ∀ event, Effect.isStatus event = false → select event = none) (state : ConfigState) :
    (history state).filterMap select = state.trace.filterMap select :=
  select_filter others state.trace

theorem history_status (state : ConfigState) :
    expectedStatus (history state) = expectedStatus state.trace := by
  have events : latest liveEvent (history state) = latest liveEvent state.trace := by
    apply latest_filter
    intro event other
    cases event <;> first | rfl | cases other
  have settlements : latest settlement (history state) = latest settlement state.trace := by
    apply latest_filter
    intro event other
    cases event <;> first | rfl | cases other
  unfold expectedStatus
  rw [events, settlements]

theorem history_subscribed (trace : List Effect) (reader : Nat) :
    Subscribed (trace.filter Effect.isStatus) reader ↔ Subscribed trace reader := by
  unfold Subscribed
  rw [latest_filter]
  intro event other
  cases event <;> first | rfl | cases other

theorem expectedReports_history (state : ConfigState) :
    expectedReports (history state) = expectedReports state.trace := by
  have all : ∀ (trace : List Effect) (seen : Bool × List JsError),
      (trace.filter Effect.isStatus).foldl observe seen = trace.foldl observe seen := by
    intro trace
    induction trace with
    | nil => exact fun _ => rfl
    | cons event rest ih =>
      intro seen
      cases kind : Effect.isStatus event with
      | true =>
        rw [List.filter_cons_of_pos kind]
        exact ih _
      | false =>
        have neutral : Neutral event := by
          cases event <;> first | exact ⟨rfl, rfl⟩ | cases kind
        rw [List.filter_cons_of_neg (by rw [kind]; exact Bool.false_ne_true), List.foldl_cons,
          observe_neutral neutral]
        exact ih _
  unfold expectedReports history
  rw [all]

/-- Live events alone are never reported. -/
theorem expectedReports_unsettled {events : List Effect} (trace : List Effect)
    (unsettled : events.filterMap settlement = []) :
    expectedReports (trace ++ events) = expectedReports trace := by
  induction events using List.reverseRecOn with
  | nil => rw [List.append_nil]
  | append_singleton events last ih =>
    rw [List.filterMap_append] at unsettled
    obtain ⟨earlier, none⟩ := List.append_eq_nil_iff.mp unsettled
    rw [← List.append_assoc]
    refine Eq.trans ?_ (ih earlier)
    cases last with
    | backend event => exact expectedReports_backend _ event
    | readiness failure => cases none
    | _ => exact expectedReports_neutral (neutral_singleton ⟨rfl, rfl⟩) _

theorem expectedReports_settled {before after : List Effect} {failure : Option JsError}
    (only : ((before ++ .readiness failure :: after).filterMap settlement).length ≤ 1) :
    expectedReports (before ++ .readiness failure :: after) =
      if latest liveEvent before = none then failure.toList else [] := by
  have settlements : (Effect.readiness failure :: after).filterMap settlement =
      failure :: after.filterMap settlement := rfl
  rw [List.filterMap_append, List.length_append, settlements, List.length_cons] at only
  have first : (before.filterMap settlement).length = 0 := by omega
  have last : (after.filterMap settlement).length = 0 := by omega
  rw [List.length_eq_zero_iff] at first last
  have nothing : expectedReports before = [] := expectedReports_unsettled [] first
  calc expectedReports (before ++ .readiness failure :: after)
      = expectedReports ((before ++ [.readiness failure]) ++ after) := by
        rw [List.append_assoc]
        rfl
    _ = expectedReports (before ++ [.readiness failure]) := expectedReports_unsettled _ last
    _ = if latest liveEvent before = none then failure.toList else [] := by
        cases failure with
        | none =>
          rw [expectedReports_resolved, nothing]
          exact (ite_self _).symm
        | some err =>
          rw [expectedReports_rejected, nothing]
          rfl

/-- A reader that has subscribed and not left was last called with the status. -/
theorem ReadersKnow.latest {state : ConfigState} (known : ReadersKnow state) (reader : Nat)
    (subscribed : Subscribed state.trace reader) :
    Library.latest (reading reader) state.trace = some state.backendStatus := by
  have member : reader ∈ state.backendReaders :=
    (known.subscribed reader).mpr ((history_subscribed state.trace reader).mpr subscribed)
  rw [← known.readers reader member]
  symm
  apply latest_filter
  intro event other
  cases event <;> first | rfl | cases other

/-! ## Who reads the status -/

/-- Whether a task starts or stops to read the status for `reader`. -/
def asks (reader : Nat) : ConfigTask → Option Bool
  | .readBackendStatus other => if other = reader then some true else none
  | .stopReading other => if other = reader then some false else none
  | _ => none

/-- The status was read for `reader`, and that was not stopped since. -/
def Reads (pool : ConfigPool) (reader : Nat) : Prop :=
  latest (asks reader) (pool.tasks.map Prod.fst) = some true

theorem readers_effect (packages : Packages) (index : Nat) (task : ConfigTask)
    (state : ConfigState) (reader : Nat) :
    reader ∈ (effect packages index task state).backendReaders ↔
      (asks reader task).getD (decide (reader ∈ state.backendReaders)) = true := by
  have kept : ∀ {after : ConfigState}, after.backendReaders = state.backendReaders →
      (reader ∈ after.backendReaders ↔ decide (reader ∈ state.backendReaders) = true) := by
    intro after same
    rw [same, decide_eq_true_iff]
  have any : anyNode .config := trivial
  cases task with
  | getQueue construction => exact kept (calls_getQueue packages construction any state).readers
  | processor worker construction =>
    exact kept (calls_getQueue packages construction any state).readers
  | createWorker node construction =>
    exact kept (calls_createWorker packages node construction any state).readers
  | createQueueEvents node construction =>
    exact kept (calls_createQueueEvents packages node construction any state).readers
  | createFlowProducer node construction =>
    exact kept (calls_createFlowProducer packages node construction any state).readers
  | releaseResource owner =>
    apply kept
    unfold effect
    dsimp only
    split
    · rfl
    · rfl
  | close =>
    obtain ⟨starts, result, _⟩ := ConfigPairs.effect_close packages index state
    apply kept
    rw [result]
  | pair handler owner connection => exact kept rfl
  | emitError emitter err => exact kept (calls_emitError packages emitter err state).readers
  | backendEvent queue event =>
    apply kept
    unfold effect
    dsimp only
    split
    · exact (calls_backendEvent event state : Calls anyNode _ _).readers
    · rfl
  | readiness queue failure =>
    exact kept (calls_readiness packages queue failure state fun _ _ _ _ => trivial :
      Calls anyNode _ _).readers
  | connectionStatus connection status => exact kept rfl
  | readBackendStatus other =>
    change reader ∈ (addReader other state).backendReaders ↔ _
    rw [mem_addReader]
    by_cases same : other = reader
    · simp [asks, same]
    · simp [asks, same, Ne.symm same]
  | stopReading other =>
    change reader ∈ state.backendReaders.filter (fun found => decide (found ≠ other)) ↔ _
    rw [List.mem_filter]
    by_cases same : other = reader
    · simp [asks, same]
    · simp [asks, same, Ne.symm same]

/-- The closings that a close handler starts read nothing. -/
theorem asks_forked (packages : Packages) (reader index : Nat)
    (paused : Paused ConfigState ConfigCall ConfigReply JsError Unit) :
    latest (asks reader) ((configSystem packages).forked index paused) = none := by
  apply latest_eq_none_iff.mpr
  intro task member
  cases paused with
  | finished result => cases member
  | awaiting call next =>
    cases call with
    | all pairs =>
      obtain ⟨pair, _, rfl⟩ := List.mem_map.mp member
      rfl
    | _ => cases member

/-- The readers of the node are those that it reads the status for. -/
theorem readers_reached {packages : Packages} {allowed : ConfigPool → ConfigMove → Prop}
    {config : QueueConfig} {pool : ConfigPool}
    (reached : Runs (configSystem packages).Step allowed (emptyConfigPool config) pool)
    (reader : Nat) : reader ∈ pool.shared.backendReaders ↔ Reads pool reader := by
  have both : Runs (configSystem packages).Step allowed (emptyConfigPool config) pool ∧
      (reader ∈ pool.shared.backendReaders ↔ Reads pool reader) := by
    apply reached.invariant ⟨.refl _, nofun, nofun⟩
    intro before move after held permitted made
    obtain ⟨run, known⟩ := held
    refine ⟨run.extend permitted made, ?_⟩
    unfold Reads at known ⊢
    cases made with
    | @start task launched =>
      have books := silent_of_sameBooks (start_books packages before task)
      rw [books.readers, readers_effect, System.kinds_start, latest_append, ← List.singleton_append,
        latest_append, asks_forked, latest_singleton]
      cases asks reader task with
      | none => rw [Option.getD_none, decide_eq_true_iff, known]; rfl
      | some started => exact ⟨congrArg some, Option.some.inj⟩
    | @resume index task call next reply waiting answered =>
      have books := silent_of_sameBooks (resume_books run waiting reply)
      rw [books.readers, System.kinds_resume _ waiting, latest_append, asks_forked, known]
      rfl
  exact both.2

/-- What the status, the report and the readers have to do with all that has happened. -/
structure FollowsEvents (state : ConfigState) : Prop where
  status : state.backendStatus = expectedStatus state.trace
  settledOnce : (state.trace.filterMap settlement).length ≤ 1
  reported : ∀ before failure after, state.trace = before ++ .readiness failure :: after →
    state.trace.filterMap report = if latest liveEvent before = none then failure.toList else []
  unreported : state.trace.filterMap settlement = [] → state.trace.filterMap report = []
  readers : ∀ reader, Subscribed state.trace reader →
    latest (reading reader) state.trace = some state.backendStatus
  called : Always CalledSubscribed state.trace

theorem followsEvents_of_agrees {state : ConfigState} (holds : Agrees [] state) :
    FollowsEvents state := by
  have settlements : (history state).filterMap settlement = state.trace.filterMap settlement := by
    apply history_select
    intro event other
    cases event <;> first | rfl | cases other
  have reports : (history state).filterMap report = state.trace.filterMap report := by
    apply history_select
    intro event other
    cases event <;> first | rfl | cases other
  have bound := holds.awaited
  have reported := holds.reports
  rw [settlements] at bound
  rw [List.append_nil, reports, expectedReports_history] at reported
  constructor
  · rw [← history_status]
    exact holds.status
  · omega
  · intro before failure after split
    have only : (state.trace.filterMap settlement).length ≤ 1 := by omega
    rw [split] at only
    rw [reported, split]
    exact expectedReports_settled only
  · intro unsettled
    rw [reported]
    exact expectedReports_unsettled [] unsettled
  · exact fun reader => (readersKnow_of_agrees holds).latest reader
  · have kept : ∀ before event, Effect.isStatus event = true →
        CalledSubscribed (before.filter Effect.isStatus) event → CalledSubscribed before event :=
      fun before event _ justified reader status same =>
        (history_subscribed before reader).mp (justified reader status same)
    have dropped : ∀ before event, Effect.isStatus event = false →
        CalledSubscribed before event := by
      intro before event other reader status same
      rw [same] at other
      cases other
    exact holds.called.of_filter kept dropped

/-- The live events own the status, the readiness promise only starts it, and no reader is left
behind: in every run in which no PostgreSQL construction fails, whatever else the node does. The
readers, in the node and in its history, are those that it reads the status for. -/
theorem status_follows_events {packages : Packages} {config : QueueConfig} {pool : ConfigPool}
    (reached : Runs (configSystem packages).Step Constructed (emptyConfigPool config) pool) :
    FollowsEvents pool.shared ∧ ∀ reader,
      (reader ∈ pool.shared.backendReaders ↔ Reads pool reader) ∧
        (Subscribed pool.shared.trace reader ↔ Reads pool reader) := by
  have agrees := agrees_reached reached
  refine ⟨followsEvents_of_agrees agrees, ?_⟩
  intro reader
  have readers := readers_reached reached reader
  refine ⟨readers, ?_⟩
  rw [← readers, agrees.subscribed]
  exact (history_subscribed pool.shared.trace reader).symm

/-- Two readers, one of which leaves when the backend has failed. -/
def watchedPool : ConfigPool :=
  let system := configSystem plainPackages
  let created := system.start (emptyConfigPool plainRedis) (.getQueue plainConstruction)
  let subscribed := system.start (system.start created (.readBackendStatus 1)) (.readBackendStatus 2)
  system.start (system.start subscribed (.backendEvent 0 .error)) (.stopReading 1)

theorem watchedPool_reached :
    Runs (configSystem plainPackages).Step Constructed (emptyConfigPool plainRedis) watchedPool := by
  apply System.runs_start _ _ trivial fun _ busy => nomatch busy
  apply System.runs_start _ _ trivial fun _ busy => nomatch busy
  apply System.runs_start _ _ trivial fun _ busy => nomatch busy
  apply System.runs_start _ _ trivial fun _ busy => nomatch busy
  apply System.runs_start _ _ trivial fun _ _ backend => nomatch backend
  exact Runs.refl _

/-- Then the readiness promise rejects. -/
def outagePool : ConfigPool :=
  (configSystem plainPackages).start watchedPool (.readiness 0 (some (newError "refused")))

theorem outagePool_reached :
    Runs (configSystem plainPackages).Step Constructed (emptyConfigPool plainRedis) outagePool := by
  have seeded : watchedPool.shared.seeding = [0] := rfl
  have awaited : 0 ∈ watchedPool.shared.seeding := by
    rw [seeded]
    decide
  exact System.runs_start watchedPool_reached _ awaited fun _ busy => nomatch busy

theorem status_follows_events_outage :
    FollowsEvents outagePool.shared ∧ (2 ∈ outagePool.shared.backendReaders ↔ Reads outagePool 2) :=
  ⟨(status_follows_events outagePool_reached).1, ((status_follows_events outagePool_reached).2 2).1⟩

end NodeRedBull.BackendStatus
