import NodeRedBull.ConfigNode

/-! What a callback of the queue configuration node records, and what it leaves alone. -/

namespace NodeRedBull.ConfigCalls
open Js Connections ConfigNode

/-- Every reader is called. -/
def reads (readers : List Nat) (status : BackendStatus) : List Effect :=
  readers.map fun reader => .read reader status

theorem publish_spec (status : BackendStatus) (state : ConfigState) :
    publishBackendStatus status state =
      { state with
        backendStatus := status
        trace := state.trace ++ reads state.backendReaders status } := by
  have all : ∀ (readers : List Nat) (start : ConfigState),
      readers.foldl (fun state reader => state.record (.read reader status)) start =
        { start with trace := start.trace ++ reads readers status } := by
    intro readers
    induction readers with
    | nil => intro start; simp [reads]
    | cons reader rest ih =>
      intro start
      rw [List.foldl_cons, ih]
      simp [ConfigState.record, reads]
  exact all _ _

/-- An effect of a callback that speaks about these nodes only and calls these readers only. -/
def Spoken (about : NodeName → Prop) (readers : List Nat) : Effect → Prop
  | .status node _ => about node
  | .nodeError node _ => about node
  | .read reader _ => reader ∈ readers
  | .done _ _ => False
  | _ => True

/-- The configuration node alone. -/
def Shared (node : NodeName) : Prop := node = .config

theorem shared_config : Shared .config := rfl

def anyNode (_ : NodeName) : Prop := True

/-- Every listener is still registered. -/
def Kept (before after : List ErrorListener) : Prop :=
  ∀ listener ∈ before, ∃ later ∈ after, later.emitter = listener.emitter ∧
    later.node = listener.node

theorem Kept.refl (listeners : List ErrorListener) : Kept listeners listeners :=
  fun listener member => ⟨listener, member, rfl, rfl⟩

theorem Kept.trans {first second third : List ErrorListener} (left : Kept first second)
    (right : Kept second third) : Kept first third := by
  intro listener member
  obtain ⟨middle, found, emitter, node⟩ := left listener member
  obtain ⟨later, last, emitter', node'⟩ := right middle found
  exact ⟨later, last, emitter'.trans emitter, node'.trans node⟩

theorem kept_append (listeners added : List ErrorListener) : Kept listeners (listeners ++ added) :=
  fun listener member => ⟨listener, List.mem_append_left _ member, rfl, rfl⟩

/-- What a callback leaves: the same configuration and readers, every listener and every watched
queue, and a trace with such effects at its end. -/
structure Calls (about : NodeName → Prop) (before after : ConfigState) : Prop where
  config : after.config = before.config
  watched : before.watched ⊆ after.watched
  listeners : Kept before.listeners after.listeners
  readers : after.backendReaders = before.backendReaders
  trace : ∃ effects, after.trace = before.trace ++ effects ∧
    ∀ effect ∈ effects, Spoken about before.backendReaders effect

section Calls

variable {about : NodeName → Prop}

theorem Calls.still {before after : ConfigState} (config : after.config = before.config)
    (watched : before.watched ⊆ after.watched) (listeners : Kept before.listeners after.listeners)
    (readers : after.backendReaders = before.backendReaders) (trace : after.trace = before.trace) :
    Calls about before after :=
  ⟨config, watched, listeners, readers, [], by rw [trace, List.append_nil], by simp⟩

theorem Calls.refl (state : ConfigState) : Calls about state state :=
  .still rfl (List.Subset.refl _) (.refl _) rfl rfl

theorem Calls.trans {first second third : ConfigState} (left : Calls about first second)
    (right : Calls about second third) : Calls about first third := by
  obtain ⟨early, grown, spoken⟩ := left.trace
  obtain ⟨late, grown', spoken'⟩ := right.trace
  refine ⟨right.config.trans left.config, List.Subset.trans left.watched right.watched,
    left.listeners.trans right.listeners, right.readers.trans left.readers, early ++ late, ?_, ?_⟩
  · rw [grown', grown, List.append_assoc]
  · intro effect member
    rcases List.mem_append.mp member with old | new
    · exact spoken effect old
    · rw [← left.readers]
      exact spoken' effect new

theorem Calls.record {before now : ConfigState} (calls : Calls about before now) {effect : Effect}
    (spoken : Spoken about before.backendReaders effect) : Calls about before (now.record effect) := by
  apply calls.trans
  refine ⟨rfl, List.Subset.refl _, .refl _, rfl, [effect], rfl, ?_⟩
  intro other member
  rw [List.mem_singleton.mp member, calls.readers]
  exact spoken

theorem Calls.mono {wider : NodeName → Prop} {before after : ConfigState}
    (calls : Calls about before after) (implies : ∀ node, about node → wider node) :
    Calls wider before after := by
  obtain ⟨effects, grown, spoken⟩ := calls.trace
  refine ⟨calls.config, calls.watched, calls.listeners, calls.readers, effects, grown, ?_⟩
  intro effect member
  have said := spoken effect member
  cases effect with
  | status node status => exact implies node said
  | nodeError node message => exact implies node said
  | _ => exact said

theorem calls_publish (status : BackendStatus) (state : ConfigState) :
    Calls about state (publishBackendStatus status state) := by
  rw [publish_spec]
  refine ⟨rfl, List.Subset.refl _, .refl _, rfl, reads state.backendReaders status, rfl, ?_⟩
  intro effect member
  obtain ⟨reader, subscribed, rfl⟩ := List.mem_map.mp member
  exact subscribed

theorem calls_report (packages : Packages) (err : JsError) (config : about .config)
    (state : ConfigState) : Calls about state (reportBackendFailure packages err state) := by
  unfold reportBackendFailure
  dsimp only
  split
  next => exact .refl state
  next fresh =>
    let latched := { state with
      backendFailures := state.backendFailures ++ [(describeBackendFailure packages err).1] }
    have first : Calls about state (latched.record (.reported err)) :=
      (Calls.still rfl (List.Subset.refl _) (.refl _) rfl rfl : Calls about state latched).record
        trivial
    exact first.record config

theorem calls_onError (packages : Packages) (err : JsError) (state : ConfigState)
    (listener : ErrorListener) :
    Calls (fun node => node = listener.node ∨ listener.startupFailureOwner ∧ node = .config) state
      (ConfigNode.onError packages err state listener) := by
  unfold ConfigNode.onError
  have shown : Calls (fun node => node = listener.node ∨
      listener.startupFailureOwner ∧ node = .config) state
        (state.record (.status listener.node .disconnected)) := (Calls.refl state).record (.inl rfl)
  dsimp only
  split
  next owned =>
    have reported : listener.startupFailureOwner = true := (Bool.and_eq_true_iff.mp owned).1
    exact shown.trans (calls_report packages err (.inr ⟨reported, rfl⟩) _)
  next => exact shown.record (.inl rfl)

theorem calls_emitError (packages : Packages) (emitter : Emitter) (err : JsError)
    (state : ConfigState) : Calls anyNode state (emitError packages emitter err state) := by
  have all : ∀ (listeners : List ErrorListener) (start : ConfigState), Calls anyNode state start →
      Calls anyNode state (listeners.foldl (onError packages err) start) := by
    intro listeners
    induction listeners with
    | nil => exact fun _ calls => calls
    | cons listener rest ih =>
      intro start calls
      have heard := (calls_onError packages err start listener).mono fun _ _ => trivial
      exact ih _ (calls.trans heard)
  exact all _ _ (.refl state)

theorem calls_backendEvent (event : BackendEvent) (state : ConfigState) :
    Calls about state (onBackendEvent event state) := by
  have seen : Calls about state (state.record (.backend event)) := (Calls.refl state).record trivial
  cases event with
  | ready => exact seen.trans (calls_publish .connected _)
  | error => exact seen.trans (calls_publish .disconnected _)
  | close => exact seen.trans (calls_publish .disconnected _)

/-- A settled readiness promise reports only what is new, and only while nothing else has told
the status. -/
theorem calls_readiness (packages : Packages) (queue : Nat) (failure : Option JsError)
    (state : ConfigState)
    (config : ∀ err, failure = some err → state.backendStatus = .connecting →
      state.backendFailures.contains (describeBackendFailure packages err).1 = false →
        about .config) :
    Calls about state (onReadiness packages queue failure state) := by
  let awaited := { state with
    seeding := state.seeding.filter fun other => decide (other ≠ queue) }
  let settled := awaited.record (.readiness failure)
  have first : Calls about state settled :=
    (Calls.still rfl (List.Subset.refl _) (.refl _) rfl rfl : Calls about state awaited).record
      trivial
  unfold onReadiness
  dsimp only
  cases failure with
  | none =>
    dsimp only
    split
    · exact first.trans (calls_publish .connected settled)
    · exact first
  | some err =>
    dsimp only
    split
    next connecting =>
      have published := first.trans (calls_publish .disconnected settled)
      apply published.trans
      by_cases reported : state.backendFailures.contains (describeBackendFailure packages err).1
      · unfold reportBackendFailure
        have same : (publishBackendStatus .disconnected settled).backendFailures =
            state.backendFailures := by
          rw [publish_spec]
          rfl
        dsimp only
        rw [if_pos (by rw [same]; exact reported)]
        exact .refl _
      · exact calls_report packages err (config err rfl connecting (by simpa using reported)) _
    next => exact first

/-! The functions that create something speak about the configuration node. -/

theorem calls_getTelemetry (packages : Packages) (config : about .config) (state : ConfigState) :
    Calls about state (getTelemetry packages state).2 := by
  unfold getTelemetry
  split
  · exact .refl state
  · split
    · exact .refl state
    · split
      · let unavailable := { state with telemetryUnavailable := true }
        have still : Calls about state unavailable :=
          .still rfl (List.Subset.refl _) (.refl _) rfl rfl
        exact still.record config
      · exact .still rfl (List.Subset.refl _) (.refl _) rfl rfl

theorem calls_construct (kind : OwnerKind) (connection : Option Nat) (options : BullMQOptions)
    (outcome : Except JsError OwnerShape) (state : ConfigState) :
    Calls about state (construct kind connection options outcome state).2 := by
  cases outcome with
  | error err => exact .refl state
  | ok shape =>
    exact ⟨rfl, List.Subset.refl _, .refl _, rfl, [.created state.owners.size connection], rfl,
      by simp [Spoken]⟩

theorem calls_createResource (packages : Packages) (kind : OwnerKind) (role : Role)
    (node : NodeName) (telemetry : Option Nat) (construction : Construction)
    (config : about .config) (state : ConfigState) :
    Calls about state (createResource packages kind role node telemetry construction state).2 := by
  cases backend : state.config with
  | postgres target =>
    simp only [createResource, backend]
    have built : Calls about state (construct kind none
        (buildBullMQOptions (.postgres target) (.postgres target.postgres) telemetry role)
        construction.owner state).2 := calls_construct _ _ _ _ _
    split
    next _ resource after same => rw [same] at built; exact built
    next _ err after same =>
      rw [same] at built
      exact built.trans ((calls_publish .disconnected after).trans
        (calls_report packages err config _))
  | redis target =>
    simp only [createResource, backend]
    let opened := createConnection target role node construction.connection state
    have built : Calls about state (construct kind (some opened.1)
        (buildBullMQOptions opened.2.config (.redis opened.1) telemetry role) construction.owner
          opened.2).2 :=
      (Calls.still rfl (List.Subset.refl _) (kept_append _ _) rfl rfl :
        Calls about state opened.2).trans (calls_construct _ _ _ _ _)
    split
    next _ resource after same => rw [same] at built; exact built
    next _ err after same => rw [same] at built; exact built

theorem calls_watchOwnBackend (queue : Nat) (state : ConfigState) :
    Calls about state (watchOwnBackend queue state).2 := by
  unfold watchOwnBackend
  split
  next => exact .refl state
  next => exact .refl state
  next => exact .refl state
  next => exact .still rfl (List.subset_append_left _ _) (.refl _) rfl rfl

theorem calls_getQueue (packages : Packages) (construction : Construction)
    (config : about .config) (state : ConfigState) :
    Calls about state (getQueue packages construction state).2 := by
  unfold getQueue
  split
  next => exact .refl state
  next =>
    let telemetry := getTelemetry packages state
    have created : Calls about state (createResource packages .queue .producer .config telemetry.1
        construction telemetry.2).2 :=
      (calls_getTelemetry packages config state).trans
        (calls_createResource packages _ _ _ _ _ config _)
    dsimp only
    split
    next _ err after same => rw [same] at created; exact created
    next _ after same => rw [same] at created; exact created
    next _ resource connection after same =>
      rw [same] at created
      let cached := { after with queue := some resource, producerConnection := connection }
      have watched : Calls about state (watchOwnBackend resource cached).2 :=
        created.trans ((Calls.still rfl (List.Subset.refl _) (.refl _) rfl rfl :
          Calls about after cached).trans (calls_watchOwnBackend resource cached))
      split
      next _ err last same' => rw [same'] at watched; exact watched
      next _ value last same' =>
        rw [same'] at watched
        exact watched.trans (.still rfl (List.Subset.refl _) (kept_append _ _) rfl rfl)

theorem calls_createWorker (packages : Packages) (node : NodeName) (construction : Construction)
    (config : about .config) (state : ConfigState) :
    Calls about state (createWorker packages node construction state).2 :=
  (calls_getTelemetry packages config state).trans
    (calls_createResource packages _ _ _ _ _ config _)

theorem calls_createQueueEvents (packages : Packages) (node : NodeName)
    (construction : Construction) (config : about .config) (state : ConfigState) :
    Calls about state (createQueueEvents packages node construction state).2 :=
  calls_createResource packages _ _ _ _ _ config _

theorem calls_createFlowProducer (packages : Packages) (node : NodeName)
    (construction : Construction) (config : about .config) (state : ConfigState) :
    Calls about state (createFlowProducer packages node construction state).2 :=
  (calls_getTelemetry packages config state).trans
    (calls_createResource packages _ _ _ _ _ config _)

end Calls

end NodeRedBull.ConfigCalls
