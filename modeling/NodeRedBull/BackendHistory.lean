import NodeRedBull.ConfigPairs
import NodeRedBull.Library.Trace
import Mathlib.Data.List.Induction

/-! The history of the backend status: what it should be after the live events and the readiness
promise, and the functions of the node that leave it alone. -/

namespace NodeRedBull.BackendHistory
open Js Library Connections ConfigNode ConfigBooks ConfigStep ConfigAccounts

/-! ## What the status should be -/

def liveEvent : Effect → Option BackendEvent
  | .backend event => some event
  | _ => none

/-- The outcome of the readiness promise: nothing, or what it rejected with. -/
def settlement : Effect → Option (Option JsError)
  | .readiness failure => some failure
  | _ => none

def report : Effect → Option JsError
  | .reported err => some err
  | _ => none

/-- What `reader` was called with. -/
def reading (reader : Nat) : Effect → Option BackendStatus
  | .read other status => if other = reader then some status else none
  | _ => none

/-- Whether `reader` has just been added or removed. -/
def subscription (reader : Nat) : Effect → Option Bool
  | .subscribed other => if other = reader then some true else none
  | .unsubscribed other => if other = reader then some false else none
  | _ => none

def statusOf : BackendEvent → BackendStatus
  | .ready => .connected
  | .error | .close => .disconnected

/-- The last live event decides, and before the first one the readiness promise. -/
def expectedStatus (trace : List Effect) : BackendStatus :=
  match latest liveEvent trace, latest settlement trace with
  | some event, _ => statusOf event
  | none, some none => .connected
  | none, some (some _) => .disconnected
  | none, none => .connecting

/-- The rejections of the readiness promise that no live event preceded. -/
def observe : Bool × List JsError → Effect → Bool × List JsError
  | (_, reports), .backend _ => (true, reports)
  | (false, reports), .readiness (some err) => (false, reports ++ [err])
  | seen, _ => seen

def expectedReports (trace : List Effect) : List JsError := (trace.foldl observe (false, [])).2

/-- Added last, and not removed since. -/
def Subscribed (trace : List Effect) (reader : Nat) : Prop :=
  latest (subscription reader) trace = some true

/-- A call of a reader finds it subscribed. -/
def CalledSubscribed (before : List Effect) (event : Effect) : Prop :=
  ∀ reader status, event = .read reader status → Subscribed before reader

/-! ## The history of the status -/

def Effect.isStatus : Effect → Bool
  | .backend _ | .readiness _ | .reported _ | .read _ _ | .subscribed _ | .unsubscribed _ => true
  | _ => false

def history (state : ConfigState) : List Effect := state.trace.filter Effect.isStatus

/-- The status, its readers and the reports fit the history; `owed` is still to be reported. -/
structure Agrees (owed : List JsError) (state : ConfigState) : Prop where
  status : state.backendStatus = expectedStatus (history state)
  awaited : ((history state).filterMap settlement).length + state.seeding.length ≤ 1
  unwatched : state.queue = none → (history state).filterMap settlement = [] ∧ state.seeding = []
  fresh : (history state).filterMap settlement = [] → state.backendFailures = []
  reports : (history state).filterMap report ++ owed = expectedReports (history state)
  readers : ∀ reader ∈ state.backendReaders,
    latest (reading reader) (history state) = some state.backendStatus
  subscribed : ∀ reader, reader ∈ state.backendReaders ↔ Subscribed (history state) reader
  called : Always CalledSubscribed (history state)
  listeners : ∀ listener ∈ state.listeners, listener.startupFailureOwner = false

/-- The status and all that belongs to it is left alone. -/
structure Silent (before after : ConfigState) : Prop where
  status : after.backendStatus = before.backendStatus
  readers : after.backendReaders = before.backendReaders
  seeding : after.seeding = before.seeding
  queue : after.queue = none → before.queue = none
  failures : before.backendFailures = [] → after.backendFailures = []
  history : history after = history before
  listeners : (∀ listener ∈ before.listeners, listener.startupFailureOwner = false) →
    ∀ listener ∈ after.listeners, listener.startupFailureOwner = false

theorem Silent.refl (state : ConfigState) : Silent state state :=
  ⟨rfl, rfl, rfl, id, id, rfl, id⟩

theorem Silent.trans {first second third : ConfigState} (left : Silent first second)
    (right : Silent second third) : Silent first third :=
  ⟨right.status.trans left.status, right.readers.trans left.readers,
    right.seeding.trans left.seeding, fun missing => left.queue (right.queue missing),
    fun fresh => right.failures (left.failures fresh), right.history.trans left.history,
    fun known => right.listeners (left.listeners known)⟩

theorem Silent.record {before now : ConfigState} (silent : Silent before now) {effect : Effect}
    (other : Effect.isStatus effect = false) : Silent before (now.record effect) := by
  refine silent.trans ⟨rfl, rfl, rfl, id, id, ?_, id⟩
  simp [BackendHistory.history, ConfigState.record, other]

theorem Agrees.silent {owed : List JsError} {before after : ConfigState}
    (holds : Agrees owed before) (silent : Silent before after) : Agrees owed after := by
  obtain ⟨status, readers, seeding, queue, failures, history, listeners⟩ := silent
  constructor
  · rw [status, history]
    exact holds.status
  · rw [history, seeding]
    exact holds.awaited
  · intro missing
    rw [history, seeding]
    exact holds.unwatched (queue missing)
  · intro unsettled
    rw [history] at unsettled
    exact failures (holds.fresh unsettled)
  · rw [history]
    exact holds.reports
  · rw [readers, history, status]
    exact holds.readers
  · rw [readers, history]
    exact holds.subscribed
  · rw [history]
    exact holds.called
  · exact listeners holds.listeners

theorem history_books (state : ConfigState) : history (books state) = history state := by
  unfold history books
  dsimp only
  rw [List.filter_filter]
  apply List.filter_congr
  intro effect _
  cases effect <;> rfl

theorem silent_of_sameBooks {before after : ConfigState} (same : SameBooks before after) :
    Silent before after := by
  have equal : books before = books after := same
  have histories := congrArg history equal
  rw [history_books, history_books] at histories
  have status : (books before).backendStatus = (books after).backendStatus :=
    congrArg ConfigState.backendStatus equal
  have readers : (books before).backendReaders = (books after).backendReaders :=
    congrArg ConfigState.backendReaders equal
  have seeding : (books before).seeding = (books after).seeding :=
    congrArg ConfigState.seeding equal
  have queue : (books before).queue = (books after).queue := congrArg ConfigState.queue equal
  have listeners : (books before).listeners = (books after).listeners :=
    congrArg ConfigState.listeners equal
  have failures : (books before).backendFailures = (books after).backendFailures :=
    congrArg ConfigState.backendFailures equal
  refine ⟨status.symm, readers.symm, seeding.symm, fun missing => queue.trans missing,
    fun fresh => failures.symm.trans fresh, histories.symm, ?_⟩
  intro known listener member
  have moved : listener ∈ (books before).listeners := by
    rw [listeners]
    exact member
  exact known listener moved

/-! ## The functions that leave the status alone -/

theorem silent_getTelemetry (packages : Packages) (state : ConfigState) :
    Silent state (getTelemetry packages state).2 := by
  unfold getTelemetry
  split
  · exact .refl state
  · split
    · exact .refl state
    · split
      · apply Silent.record _ rfl
        exact ⟨rfl, rfl, rfl, id, id, rfl, id⟩
      · exact ⟨rfl, rfl, rfl, id, id, rfl, id⟩

theorem silent_attach (emitter : Emitter) (node : NodeName) (state : ConfigState) :
    Silent state (attachErrorListener emitter node false state) := by
  refine ⟨rfl, rfl, rfl, id, id, rfl, ?_⟩
  intro known listener member
  rcases List.mem_append.mp member with old | new
  · exact known listener old
  · rw [List.mem_singleton.mp new]

theorem silent_createConnection (config : RedisConfig) (role : Role) (node : NodeName)
    (shape : ConnectionShape) (state : ConfigState) :
    Silent state (createConnection config role node shape state).2 := by
  apply Silent.trans _ (silent_attach _ node _)
  exact ⟨rfl, rfl, rfl, id, id, rfl, id⟩

theorem silent_construct (kind : OwnerKind) (connection : Option Nat) (options : BullMQOptions)
    (outcome : Except JsError OwnerShape) (state : ConfigState) :
    Silent state (construct kind connection options outcome state).2 := by
  cases outcome with
  | error err => exact .refl state
  | ok shape =>
    apply Silent.record _ rfl
    exact ⟨rfl, rfl, rfl, id, id, rfl, id⟩

theorem silent_createResource (packages : Packages) (kind : OwnerKind) (role : Role)
    (node : NodeName) (telemetry : Option Nat) {construction : Construction} {state : ConfigState}
    (steady : state.config.backend = .postgres → ∃ shape, construction.owner = .ok shape) :
    Silent state (createResource packages kind role node telemetry construction state).2 := by
  cases backend : state.config with
  | postgres target =>
    obtain ⟨shape, built⟩ := steady (by rw [backend]; rfl)
    simp only [createResource, backend, construct, built]
    apply Silent.record _ rfl
    exact ⟨rfl, rfl, rfl, id, id, rfl, id⟩
  | redis target =>
    simp only [createResource, backend]
    have opened := silent_createConnection target role node construction.connection state
    have constructed := opened.trans (silent_construct kind
      (some (createConnection target role node construction.connection state).1)
      (buildBullMQOptions (createConnection target role node construction.connection state).2.config
        (.redis (createConnection target role node construction.connection state).1) telemetry role)
      construction.owner _)
    split
    next _ resource after same => rw [same] at constructed; exact constructed
    next _ err after same => rw [same] at constructed; exact constructed

theorem silent_emitError (packages : Packages) (emitter : Emitter) (err : JsError)
    {state : ConfigState}
    (known : ∀ listener ∈ state.listeners, listener.startupFailureOwner = false) :
    Silent state (emitError packages emitter err state) := by
  have all : ∀ (listeners : List ErrorListener) (start : ConfigState), Silent state start →
      (∀ listener ∈ listeners, listener.startupFailureOwner = false) →
      Silent state (listeners.foldl (onError packages err) start) := by
    intro listeners
    induction listeners with
    | nil => exact fun _ silent _ => silent
    | cons listener rest ih =>
      intro start silent plain
      apply ih _ _ fun other member => plain other (List.mem_cons_of_mem _ member)
      have ordinary := plain listener (by simp)
      have shown : Silent state (start.record (.status listener.node .disconnected)) :=
        silent.record rfl
      simp only [onError, ordinary, Bool.false_and, Bool.false_eq_true, if_false]
      exact shown.record rfl
  apply all _ _ (.refl state)
  intro listener member
  exact known listener (List.mem_filter.mp member).1

/-! ## What an event adds to the history -/

theorem history_record {effect : Effect} (kept : Effect.isStatus effect = true)
    (state : ConfigState) : history (state.record effect) = history state ++ [effect] := by
  simp [history, ConfigState.record, kept]

/-- Neither a live event nor a settlement. -/
def Neutral (event : Effect) : Prop := liveEvent event = none ∧ settlement event = none

theorem latest_neutral {events : List Effect} (neutral : ∀ event ∈ events, Neutral event)
    (trace : List Effect) :
    latest liveEvent (trace ++ events) = latest liveEvent trace ∧
      latest settlement (trace ++ events) = latest settlement trace := by
  rw [latest_append, latest_append, latest_eq_none_iff.mpr fun event member =>
    (neutral event member).1, latest_eq_none_iff.mpr fun event member => (neutral event member).2]
  exact ⟨rfl, rfl⟩

theorem expectedStatus_neutral {events : List Effect} (neutral : ∀ event ∈ events, Neutral event)
    (trace : List Effect) : expectedStatus (trace ++ events) = expectedStatus trace := by
  unfold expectedStatus
  rw [(latest_neutral neutral trace).1, (latest_neutral neutral trace).2]

theorem observe_neutral {event : Effect} (neutral : Neutral event) (seen : Bool × List JsError) :
    observe seen event = seen := by
  obtain ⟨live, reports⟩ := seen
  cases event with
  | backend event => cases neutral.1
  | readiness failure => cases neutral.2
  | _ => cases live <;> rfl

theorem expectedReports_neutral {events : List Effect} (neutral : ∀ event ∈ events, Neutral event)
    (trace : List Effect) : expectedReports (trace ++ events) = expectedReports trace := by
  have all : ∀ seen, events.foldl observe seen = seen := by
    intro seen
    induction events with
    | nil => rfl
    | cons event rest ih =>
      rw [List.foldl_cons, observe_neutral (neutral event (by simp))]
      exact ih fun other member => neutral other (List.mem_cons_of_mem _ member)
  unfold expectedReports
  rw [List.foldl_append, all]

theorem observed_live (trace : List Effect) :
    (trace.foldl observe (false, [])).1 = (latest liveEvent trace).isSome := by
  induction trace using List.reverseRecOn with
  | nil => rfl
  | append_singleton trace event ih =>
    rw [List.foldl_append, latest_append, latest_singleton]
    cases event with
    | backend event => rfl
    | readiness failure =>
      show (observe (trace.foldl observe (false, [])) (.readiness failure)).1 = _
      cases seen : trace.foldl observe (false, []) with
      | mk live reports =>
        rw [seen] at ih
        cases live <;> cases failure <;> exact ih
    | _ =>
      rw [List.foldl_cons, observe_neutral ⟨rfl, rfl⟩]
      exact ih

theorem expectedReports_backend (trace : List Effect) (event : BackendEvent) :
    expectedReports (trace ++ [.backend event]) = expectedReports trace := by
  unfold expectedReports
  rw [List.foldl_append]
  rfl

theorem expectedReports_resolved (trace : List Effect) :
    expectedReports (trace ++ [.readiness none]) = expectedReports trace := by
  unfold expectedReports
  rw [List.foldl_append]
  cases trace.foldl observe (false, []) with
  | mk live reports => cases live <;> rfl

theorem expectedReports_rejected (trace : List Effect) (err : JsError) :
    expectedReports (trace ++ [.readiness (some err)]) =
      if latest liveEvent trace = none then expectedReports trace ++ [err]
      else expectedReports trace := by
  have live := observed_live trace
  unfold expectedReports
  rw [List.foldl_append]
  cases seen : trace.foldl observe (false, []) with
  | mk known reports =>
    rw [seen] at live
    cases found : latest liveEvent trace with
    | none =>
      rw [found] at live
      simp only [Option.isSome_none] at live
      rw [live]
      rfl
    | some event =>
      rw [found] at live
      simp only [Option.isSome_some] at live
      rw [live]
      rfl

theorem expectedStatus_backend (trace : List Effect) (event : BackendEvent) :
    expectedStatus (trace ++ [.backend event]) = statusOf event := by
  unfold expectedStatus
  rw [latest_append, latest_singleton]
  rfl

/-- Until the first live event the status is what the readiness promise says. -/
theorem expectedStatus_readiness (trace : List Effect) (failure : Option JsError) :
    expectedStatus (trace ++ [.readiness failure]) =
      match latest liveEvent trace with
      | some event => statusOf event
      | none => if failure.isNone then .connected else .disconnected := by
  unfold expectedStatus
  rw [latest_append, latest_singleton, latest_append, latest_singleton]
  show (match (latest liveEvent trace), some failure with
    | some event, _ => statusOf event
    | none, some none => .connected
    | none, some (some _) => .disconnected
    | none, none => .connecting) = _
  cases latest liveEvent trace with
  | some event => rfl
  | none => cases failure <;> rfl

/-- The status is still connecting if nothing has happened yet. -/
theorem connecting_iff {trace : List Effect} (pending : trace.filterMap settlement = []) :
    expectedStatus trace = .connecting ↔ latest liveEvent trace = none := by
  have unsettled : latest settlement trace = none := by
    unfold latest
    rw [pending]
    rfl
  unfold expectedStatus
  rw [unsettled]
  cases latest liveEvent trace with
  | none => exact ⟨fun _ => rfl, fun _ => rfl⟩
  | some event => cases event <;> exact ⟨nofun, nofun⟩

end NodeRedBull.BackendHistory
