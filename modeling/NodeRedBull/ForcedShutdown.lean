import NodeRedBull.ConfigPairs
import NodeRedBull.Library.Interference
import NodeRedBull.Library.Trace

/-! Which cleanup steps are attempted when the graceful close of an owner times out, and when
these are all that apply to it. -/

namespace NodeRedBull.ForcedShutdown
open Js Library Connections ConfigNode ConfigPairs

/-- What has to be tried after a graceful close has timed out. -/
inductive CleanupStep where
  | mainClient
  | blockingClient
  | lockManager
  | stalledCheck
  | companion
  deriving DecidableEq

/-- The attempt that an effect shows, in the closing of an owner and its companion connection. -/
def stepOf (owner : Nat) (connection : Option Nat) : Effect → Option CleanupStep
  | .disconnected (.main other) => if other = owner then some .mainClient else none
  | .disconnected (.blocking other) => if other = owner then some .blockingClient else none
  | .lockManagerClosed other => if other = owner then some .lockManager else none
  | .stalledCheckStopped other => if other = owner then some .stalledCheck else none
  | .closes (.connection ref) => if connection = some ref then some .companion else none
  | _ => none

def attempts (owner : Nat) (connection : Option Nat) (state : ConfigState) : List CleanupStep :=
  state.trace.filterMap (stepOf owner connection)

def stepIf (applies : Bool) (step : CleanupStep) : List CleanupStep :=
  if applies then [step] else []

/-- Whether there is a raw client with a `disconnect` method. -/
def canDisconnect (client : Option Method) : Bool := client.join.isSome

/-- The raw clients that can be reached through `getBackend()`. -/
def rawClients (shape : OwnerShape) : Option BackendShape :=
  match shape.getBackend with
  | some (.ok backend) => backend
  | _ => none

def mainApplies (shape : OwnerShape) : Bool :=
  ((rawClients shape).map fun backend => canDisconnect backend.mainClient).getD false

def blockingApplies (shape : OwnerShape) : Bool :=
  ((rawClients shape).map fun backend => canDisconnect backend.blockingClient).getD false

/-- The steps that apply to an owner, in the order of the shutdown. -/
def applicable (shape : OwnerShape) (connection : Option Nat) : List CleanupStep :=
  stepIf (mainApplies shape) .mainClient ++ stepIf (blockingApplies shape) .blockingClient ++
    stepIf shape.lockManager .lockManager ++
    stepIf shape.stalledCheckStopper.isSome .stalledCheck ++
    stepIf connection.isSome .companion

/-- What `disconnectBackend` tries: nothing without a main client. -/
def clientSteps : Option BackendShape → List CleanupStep
  | some ⟨some main, blocking⟩ =>
    stepIf main.isSome .mainClient ++ stepIf (canDisconnect blocking) .blockingClient
  | _ => []

/-- What `forceDisconnect` tries, where `lock` is how `lockManager.close()` settles. -/
def forcedSteps (shape : OwnerShape) (lock : Except JsError Unit) : List CleanupStep :=
  match shape.getBackend with
  | some (.ok backend) => clientSteps backend ++ stepIf shape.lockManager .lockManager ++
      stepIf ((!shape.lockManager || lock.isOk) && shape.stalledCheckStopper.isSome) .stalledCheck
  | _ => []

/-- The graceful close of the owner times out; everything else may be answered anything. -/
def timesOut (owner : Nat) (lock : Except JsError Unit) :
    (call : ConfigCall) → Except JsError (ConfigReply call) → Prop
  | .close other _, reply => other = owner → reply = .ok .timeout
  | .lockManager other, reply => other = owner → reply = lock
  | _, _ => True

/-- Meanwhile anything may happen to the node but attempts for the same owner. -/
def amongClosings (owner : Nat) (connection : Option Nat) (lock : Except JsError Unit) :
    Interference ConfigState ConfigCall ConfigReply JsError where
  others before after := attempts owner connection after = attempts owner connection before
  waiting _ _ := True
  answers _ := timesOut owner lock

section OneOwner

variable {owner : Nat} {connection : Option Nat} {lock : Except JsError Unit} {now : ConfigState}
variable {α : Type} {post : Except JsError α → ConfigState → Prop}

theorem attempts_record_none {effect : Effect} (passed : stepOf owner connection effect = none)
    (state : ConfigState) :
    attempts owner connection (state.record effect) = attempts owner connection state :=
  select_snoc passed state.trace

theorem attempts_record_some {effect : Effect} {step : CleanupStep}
    (shown : stepOf owner connection effect = some step) (state : ConfigState) :
    attempts owner connection (state.record effect) = attempts owner connection state ++ [step] := by
  unfold attempts ConfigState.record
  rw [List.filterMap_append, List.filterMap_cons_some shown, List.filterMap_nil]

theorem attempts_others {before after : ConfigState}
    (changed : Relation.ReflTransGen (amongClosings owner connection lock).others before after) :
    attempts owner connection after = attempts owner connection before := by
  induction changed with
  | refl => rfl
  | tail _ last ih => exact Eq.trans last ih

/-- `disconnectClient` never throws. -/
theorem disconnectClient_ensures {client : Client} {step : CleanupStep} {disconnect : Method}
    {post : Except JsError Unit → ConfigState → Prop}
    (shown : stepOf owner connection (.disconnected client) = some step)
    (ends : ∀ later, attempts owner connection later =
      attempts owner connection now ++ stepIf disconnect.isSome step → post (.ok ()) later) :
    (amongClosings owner connection lock).Ensures (disconnectClient client disconnect) post now := by
  cases disconnect with
  | none =>
    apply ends
    rw [show stepIf (none : Method).isSome step = [] from rfl, List.append_nil]
  | some throws =>
    have recorded := attempts_record_some shown now
    have ended : post (.ok ()) (now.record (.disconnected client)) := ends _ recorded
    unfold disconnectClient callDisconnect record
    rw [Interference.ensures_tryCatch, Interference.ensures_bind, Interference.ensures_modify]
    cases client with
    | connection ref => cases shown
    | main other => cases throws <;> exact ended
    | blocking other => cases throws <;> exact ended

theorem disconnectBackend_ensures {backend : Option BackendShape}
    {post : Except JsError Unit → ConfigState → Prop}
    (ends : ∀ later, attempts owner connection later =
      attempts owner connection now ++ clientSteps backend → post (.ok ()) later) :
    (amongClosings owner connection lock).Ensures (disconnectBackend owner backend) post now := by
  have nothing : clientSteps backend = [] → post (.ok ()) now := by
    intro none_left
    apply ends
    rw [none_left, List.append_nil]
  cases backend with
  | none => exact nothing rfl
  | some clients =>
    obtain ⟨main, blocking⟩ := clients
    cases main with
    | none => exact nothing rfl
    | some main =>
      have shown_main : stepOf owner connection (.disconnected (.main owner)) = some .mainClient :=
        if_pos rfl
      have shown_blocking : stepOf owner connection (.disconnected (.blocking owner)) =
          some .blockingClient := if_pos rfl
      unfold disconnectBackend
      rw [Interference.ensures_bind]
      apply disconnectClient_ensures shown_main
      intro first disconnected
      apply disconnectClient_ensures shown_blocking
      intro second both
      apply ends
      rw [both, disconnected, List.append_assoc]
      cases blocking <;> rfl

/-- The stalled checker is the last step; whatever it throws, it was attempted. -/
theorem stopStalledCheck_ensures (stopper : Method) :
    (amongClosings owner connection lock).Ensures (stopStalledCheck owner stopper)
      (fun _ later => attempts owner connection later =
        attempts owner connection now ++ stepIf stopper.isSome .stalledCheck) now := by
  cases stopper with
  | none =>
    change attempts owner connection now = attempts owner connection now ++ []
    rw [List.append_nil]
  | some throws =>
    have shown : stepOf owner connection (.stalledCheckStopped owner) = some .stalledCheck :=
      if_pos rfl
    have recorded := attempts_record_some shown now
    unfold stopStalledCheck record
    rw [Interference.ensures_bind, Interference.ensures_modify]
    cases throws <;> exact recorded

theorem forceDisconnectOwner_ensures (shape : OwnerShape) :
    (amongClosings owner connection lock).Ensures (forceDisconnectOwner owner shape)
      (fun _ later => attempts owner connection later =
        attempts owner connection now ++ forcedSteps shape lock) now := by
  unfold forceDisconnectOwner forcedSteps
  cases shape.getBackend with
  | none => exact (List.append_nil _).symm
  | some found =>
    cases found with
    | error err => exact (List.append_nil _).symm
    | ok backend =>
      dsimp only
      rw [Interference.ensures_bind]
      apply disconnectBackend_ensures
      intro later disconnected
      rw [Interference.continues_ok]
      cases managed : shape.lockManager with
      | false =>
        apply Interference.ensures_mono _ (stopStalledCheck_ensures shape.stalledCheckStopper)
        intro result last stopped
        rw [stopped, disconnected]
        simp [stepIf]
      | true =>
        have shown : stepOf owner connection (.lockManagerClosed owner) = some .lockManager :=
          if_pos rfl
        have recorded := attempts_record_some shown later
        unfold record await
        rw [if_pos rfl, Interference.ensures_bind, Interference.ensures_modify,
          Interference.continues_ok, Interference.ensures_bind, Interference.ensures_call]
        refine ⟨trivial, ?_⟩
        intro last changed reply answer
        have closed : reply = lock := answer rfl
        have tried : attempts owner connection last = attempts owner connection now ++
            (clientSteps backend ++ [.lockManager]) := by
          rw [attempts_others changed, recorded, disconnected, List.append_assoc]
        subst closed
        cases reply with
        | error err =>
          change attempts owner connection last = _
          rw [tried]
          simp [stepIf, Except.isOk, Except.toBool]
        | ok value =>
          apply Interference.ensures_mono _ (stopStalledCheck_ensures shape.stalledCheckStopper)
          intro result end_ stopped
          rw [stopped, tried]
          simp [stepIf, Except.isOk, Except.toBool]

/-- These steps have been attempted so far. -/
def Attempted (owner : Nat) (connection : Option Nat) (steps : List CleanupStep)
    (state : ConfigState) : Prop :=
  attempts owner connection state = steps

theorem attempted_stable (steps : List CleanupStep) :
    (amongClosings owner connection lock).Stable (Attempted owner connection steps) :=
  fun _ _ changed held => Eq.trans changed held

theorem await_keeps (steps : List CleanupStep) (call : ConfigCall) :
    (amongClosings owner connection lock).Keeps (Attempted owner connection steps) (await call) :=
  Interference.keeps_call (attempted_stable steps) fun _ _ => trivial

theorem record_keeps (steps : List CleanupStep) {effect : Effect}
    (passed : stepOf owner connection effect = none) :
    (amongClosings owner connection lock).Keeps (Attempted owner connection steps)
      (record effect) := by
  apply Interference.keeps_modify
  intro state held
  exact (attempts_record_none passed state).trans held

theorem endConnection_keeps (steps : List CleanupStep) (ref : Nat) :
    (amongClosings owner connection lock).Keeps (Attempted owner connection steps)
      (modify (endConnection ref) : ConfigBody PUnit) :=
  Interference.keeps_modify fun _ held => held

theorem throwIfAny_keeps (steps : List CleanupStep) (err : Option JsError) :
    (amongClosings owner connection lock).Keeps (Attempted owner connection steps)
      (throwIfAny err) := by
  cases err with
  | none => exact Interference.keeps_pure _
  | some err => exact Interference.keeps_throw err

/-- What `awaitEnd` awaits ends before, and it attempts nothing itself. -/
theorem awaitEnd_ensures {body : ConfigBody Unit} {steps : List CleanupStep}
    (ensured : (amongClosings owner connection lock).Ensures body
      (fun _ later => Attempted owner connection steps later) now) :
    (amongClosings owner connection lock).Ensures (awaitEnd body)
      (fun _ later => Attempted owner connection steps later) now := by
  unfold awaitEnd
  apply Interference.ensures_bind_keeps
  · apply Interference.ensures_tryCatch_keeps
    · rw [Interference.ensures_map]
      exact ensured
    · exact fun _ => Interference.keeps_pure _
  · intro result
    apply Interference.keeps_bind (await_keeps steps .ended)
    intro _
    cases result with
    | ok _ => exact Interference.keeps_pure _
    | error err => exact Interference.keeps_throw err

theorem disconnectConnection_keeps (steps : List CleanupStep) (ref : Nat) (shape : ConnectionShape) :
    (amongClosings owner connection lock).Keeps (Attempted owner connection steps)
      (awaitEnd (forceDisconnectConnection ref shape)) := by
  intro now held
  apply awaitEnd_ensures
  unfold forceDisconnectConnection
  cases shape.disconnect with
  | none => exact held
  | some throws =>
    apply Interference.ensures_tryCatch_keeps
    · unfold callDisconnect
      apply Interference.ensures_bind_keeps (record_keeps steps rfl now held)
      intro _
      exact Interference.keeps_bind (endConnection_keeps steps ref) fun _ =>
        throwIfAny_keeps steps throws
    · exact fun _ => Interference.keeps_pure _

/-- The companion connection is closed by one attempt, however that goes on. -/
theorem closeCompanion_ensures :
    (amongClosings owner connection lock).Ensures (closeCompanion connection)
      (fun _ later => Attempted owner connection
        (attempts owner connection now ++ stepIf connection.isSome .companion) later) now := by
  cases connection with
  | none => exact (List.append_nil _).symm
  | some ref =>
    let steps := attempts owner (some ref) now ++ [.companion]
    have shown : stepOf owner (some ref) (.closes (.connection ref)) = some .companion := if_pos rfl
    have recorded : (amongClosings owner (some ref) lock).Ensures
        (record (.closes (.connection ref)))
        (fun _ later => Attempted owner (some ref) steps later) now :=
      attempts_record_some shown now
    have forced : ∀ shape, (amongClosings owner (some ref) lock).Keeps
        (Attempted owner (some ref) steps) (awaitEnd (forceDisconnectConnection ref shape)) :=
      disconnectConnection_keeps steps ref
    change (amongClosings owner (some ref) lock).Ensures (closeConnection ref)
      (fun _ later => Attempted owner (some ref) steps later) now
    unfold closeConnection
    apply Interference.ensures_bind_keeps recorded
    intro _
    apply Interference.keeps_bind Interference.keeps_get
    intro state
    cases state.connections.read ref with
    | none => exact Interference.keeps_pure _
    | some found =>
      dsimp only
      cases found.shape.quit with
      | none => exact forced _
      | some throws =>
        dsimp only
        split
        · apply Interference.keeps_bind (record_keeps steps rfl)
          intro _
          apply Interference.keeps_bind (endConnection_keeps steps ref)
          intro _
          apply Interference.keeps_bind (throwIfAny_keeps steps throws)
          intro _
          apply Interference.keeps_bind (await_keeps steps (.quit ref closeGraceMs))
          intro settlement
          split
          · exact forced _
          · exact Interference.keeps_pure _
        · exact forced _

/-- An owner whose graceful close times out. -/
theorem closeOwner_ensures {found : Owner} (stored : now.owners.read owner = some found)
    (started : found.shape.close = none) :
    (amongClosings owner connection lock).Ensures (closeOwner owner connection)
      (fun _ later => Attempted owner connection
        (attempts owner connection now ++ forcedSteps found.shape lock) later) now := by
  have called : attempts owner connection ((now.record (.closes (.owner owner))).record
      (.closeCalled owner)) = attempts owner connection now := by
    rw [attempts_record_none rfl, attempts_record_none rfl]
  have kept : (now.record (.closes (.owner owner))).owners.read owner = some found := stored
  unfold closeOwner record await
  rw [Interference.ensures_bind, Interference.ensures_modify, Interference.continues_ok,
    Interference.ensures_bind, Interference.ensures_get, Interference.continues_ok]
  simp only [kept, started]
  rw [Interference.ensures_bind, Interference.ensures_modify, Interference.continues_ok,
    Interference.ensures_bind, throwIfAny, Interference.ensures_pure, Interference.continues_ok,
    Interference.ensures_bind, Interference.ensures_get, Interference.continues_ok]
  refine (Interference.ensures_bind _ _).mpr ((Interference.ensures_call _ _).mpr ⟨trivial, ?_⟩)
  intro later changed reply answer
  have timeout : reply = .ok .timeout := answer rfl
  subst timeout
  apply awaitEnd_ensures
  have same : attempts owner connection later = attempts owner connection now :=
    (attempts_others changed).trans called
  rw [← same]
  exact forceDisconnectOwner_ensures found.shape

/-- `try { await closeResource(...); } catch (err) { ... }` goes on in either case. -/
theorem caught_ensures {body : ConfigBody Unit} {steps : List CleanupStep}
    {post : Except JsError (Except JsError Unit) → ConfigState → Prop}
    (ensured : (amongClosings owner connection lock).Ensures body
      (fun _ later => Attempted owner connection steps later) now)
    (goesOn : ∀ result later, Attempted owner connection steps later → post (.ok result) later) :
    (amongClosings owner connection lock).Ensures
      (tryCatch (Except.ok <$> body) fun err => pure (.error err)) post now := by
  rw [Interference.ensures_tryCatch, Interference.ensures_map]
  apply Interference.ensures_mono _ ensured
  intro result later held
  cases result with
  | ok value => exact goesOn (.ok value) later held
  | error err => exact goesOn (.error err) later held

/-- What is attempted when an owner whose graceful close times out is closed with its companion. -/
theorem closeResourcePair_ensures {found : Owner} (handler : Nat)
    (stored : now.owners.read owner = some found) (started : found.shape.close = none) :
    (amongClosings owner connection lock).Ensures (closeResourcePair handler owner connection)
      (fun _ later => Attempted owner connection (attempts owner connection now ++
        forcedSteps found.shape lock ++ stepIf connection.isSome .companion) later) now := by
  let begun := now.record (.closesPair handler owner connection)
  have kept : begun.owners.read owner = some found := stored
  have same : attempts owner connection begun = attempts owner connection now :=
    attempts_record_none rfl now
  unfold closeResourcePair record
  rw [Interference.ensures_bind, Interference.ensures_modify, Interference.continues_ok,
    Interference.ensures_bind]
  apply caught_ensures (awaitEnd_ensures (closeOwner_ensures kept started))
  intro first middle forced
  rw [Interference.continues_ok, Interference.ensures_bind]
  apply caught_ensures (awaitEnd_ensures closeCompanion_ensures)
  intro second last both
  rw [Interference.continues_ok]
  have ended : Attempted owner connection (attempts owner connection now ++
      forcedSteps found.shape lock ++ stepIf connection.isSome .companion) last := by
    change attempts owner connection last = _
    rw [← same, ← forced]
    exact both
  cases first with
  | error err => exact ended
  | ok _ =>
    cases second with
    | error err => exact ended
    | ok _ => exact ended

end OneOwner

/-! ## How often a closing waits -/

theorem throwIfAny_waits (err : Option JsError) : (throwIfAny err).WaitsAtMost 0 := by
  cases err <;> trivial

theorem disconnectClient_waits (client : Client) (disconnect : Method) :
    (disconnectClient client disconnect).WaitsAtMost 0 := by
  have called : ∀ throws, (callDisconnect client throws).WaitsAtMost 0 := by
    intro throws _
    cases client with
    | connection ref => exact fun _ => throwIfAny_waits throws
    | main other => exact throwIfAny_waits throws
    | blocking other => exact throwIfAny_waits throws
  cases disconnect with
  | none => trivial
  | some throws =>
    have ignored : ∀ err : JsError, ((fun _ => pure ()) err : ConfigBody Unit).WaitsAtMost 0 :=
      fun _ => trivial
    exact Async.waitsAtMost_tryCatch (called throws) ignored

theorem disconnectBackend_waits (owner : Nat) (backend : Option BackendShape) :
    (disconnectBackend owner backend).WaitsAtMost 0 := by
  have clients : ∀ main blocking, ((do
      disconnectClient (.main owner) main
      disconnectClient (.blocking owner) blocking) : ConfigBody Unit).WaitsAtMost (0 + 0) :=
    fun _ _ => Async.waitsAtMost_bind (disconnectClient_waits _ _) fun _ =>
      disconnectClient_waits _ _
  cases backend with
  | none => trivial
  | some backend =>
    obtain ⟨main, blocking⟩ := backend
    cases main with
    | none => trivial
    | some main => exact clients main (blocking.getD none)

theorem forceDisconnectOwner_waits (owner : Nat) (shape : OwnerShape) :
    (forceDisconnectOwner owner shape).WaitsAtMost 1 := by
  have stopped : (stopStalledCheck owner shape.stalledCheckStopper).WaitsAtMost 0 := by
    cases shape.stalledCheckStopper with
    | none => trivial
    | some throws => exact fun _ => throwIfAny_waits throws
  have locked : (do
      let _ ← await (.lockManager owner)
      stopStalledCheck owner shape.stalledCheckStopper : ConfigBody Unit).WaitsAtMost (1 + 0) :=
    Async.waitsAtMost_bind (Async.waitsAtMost_call _) fun _ => stopped
  unfold forceDisconnectOwner
  cases shape.getBackend with
  | none => trivial
  | some found =>
    cases found with
    | error err => trivial
    | ok backend =>
      have managed : ((do
          if shape.lockManager then
            record (.lockManagerClosed owner)
            let _ ← await (.lockManager owner)
          stopStalledCheck owner shape.stalledCheckStopper) : ConfigBody Unit).WaitsAtMost 1 := by
        cases shape.lockManager with
        | false => exact Async.waitsAtMost_mono stopped (by omega)
        | true => exact fun _ => locked
      exact Async.waitsAtMost_bind (disconnectBackend_waits owner backend) fun _ => managed

theorem awaitEnd_waits {body : ConfigBody Unit} {count : Nat} (waits : body.WaitsAtMost count) :
    (awaitEnd body).WaitsAtMost (count + 1) := by
  have mapped : (Except.ok <$> body : ConfigBody (Except JsError Unit)).WaitsAtMost (count + 0) :=
    Async.waitsAtMost_bind waits fun _ => trivial
  have caught : ∀ err : JsError, ((fun err => pure (.error err)) err :
      ConfigBody (Except JsError Unit)).WaitsAtMost 0 := fun _ => trivial
  unfold awaitEnd
  change Async.WaitsAtMost _ (count + 0 + 0 + (1 + 0))
  apply Async.waitsAtMost_bind (Async.waitsAtMost_tryCatch mapped caught)
  intro result
  apply Async.waitsAtMost_bind (Async.waitsAtMost_call _)
  intro _
  cases result <;> trivial

theorem disconnectConnection_waits (ref : Nat) (shape : ConnectionShape) :
    (awaitEnd (forceDisconnectConnection ref shape)).WaitsAtMost 1 :=
  awaitEnd_waits (disconnectClient_waits _ _)

theorem closeConnection_waits (ref : Nat) : (closeConnection ref).WaitsAtMost 2 := by
  have forced : ∀ shape, (awaitEnd (forceDisconnectConnection ref shape)).WaitsAtMost 2 :=
    fun shape => Async.waitsAtMost_mono (disconnectConnection_waits ref shape) (by omega)
  unfold closeConnection record
  apply Async.waitsAtMost_modify
  apply Async.waitsAtMost_get
  intro state
  cases state.connections.read ref with
  | none => trivial
  | some found =>
    have awaited : ((do
        let settlement : Settlement ← await (.quit ref closeGraceMs)
        if settlement = .timeout then
          awaitEnd (forceDisconnectConnection ref found.shape)) :
        ConfigBody Unit).WaitsAtMost (1 + 1) := by
      apply Async.waitsAtMost_bind (Async.waitsAtMost_call _)
      intro settlement
      cases settlement with
      | settled => trivial
      | timeout => exact disconnectConnection_waits ref found.shape
    dsimp only
    cases found.shape.quit with
    | none => exact forced _
    | some throws =>
      dsimp only
      split
      · apply Async.waitsAtMost_modify
        apply Async.waitsAtMost_modify
        exact Async.waitsAtMost_bind (throwIfAny_waits throws) fun _ => awaited
      · exact forced _

theorem closeCompanion_waits (connection : Option Nat) :
    (closeCompanion connection).WaitsAtMost 2 := by
  cases connection with
  | none => trivial
  | some ref => exact closeConnection_waits ref

theorem closeOwner_waits (owner : Nat) (connection : Option Nat) :
    (closeOwner owner connection).WaitsAtMost 3 := by
  unfold closeOwner record
  apply Async.waitsAtMost_modify
  apply Async.waitsAtMost_get
  intro state
  cases state.owners.read owner with
  | none => trivial
  | some found =>
    apply Async.waitsAtMost_modify
    change Async.WaitsAtMost _ (0 + 3)
    apply Async.waitsAtMost_bind (throwIfAny_waits found.shape.close)
    intro _
    apply Async.waitsAtMost_get
    intro later
    change Async.WaitsAtMost _ (1 + 2)
    apply Async.waitsAtMost_bind (Async.waitsAtMost_call _)
    intro settlement
    cases settlement with
    | settled => exact fun _ => trivial
    | timeout => exact awaitEnd_waits (forceDisconnectOwner_waits owner found.shape)

/-- A closing of a pair ends after at most seven replies. -/
theorem closeResourcePair_waits (handler owner : Nat) (connection : Option Nat) :
    (closeResourcePair handler owner connection).WaitsAtMost 7 := by
  have caught : ∀ {body : ConfigBody Unit} {count : Nat}, body.WaitsAtMost count →
      (tryCatch (Except.ok <$> body) fun err => pure (.error err) :
        ConfigBody (Except JsError Unit)).WaitsAtMost (count + 0 + 0) := by
    intro body count waits
    exact Async.waitsAtMost_tryCatch (Async.waitsAtMost_bind waits fun _ => trivial) fun _ => trivial
  unfold closeResourcePair record
  apply Async.waitsAtMost_modify
  change Async.WaitsAtMost _ (3 + 1 + 0 + 0 + (2 + 1 + 0 + 0 + 0))
  apply Async.waitsAtMost_bind (caught (awaitEnd_waits (closeOwner_waits owner connection)))
  intro first
  apply Async.waitsAtMost_bind (caught (awaitEnd_waits (closeCompanion_waits connection)))
  intro second
  cases first <;> cases second <;> trivial

/-! ## When every applicable step is attempted -/

/-- Every applicable step was attempted exactly once. -/
def BestEffort (owner : Nat) (connection : Option Nat) (shape : OwnerShape)
    (before after : ConfigState) : Prop :=
  ∀ step ∈ applicable shape connection,
    (attempts owner connection after).count step = (attempts owner connection before).count step + 1

/-- Whether the backend has a main client, with or without a `disconnect` method. -/
def hasMain (shape : OwnerShape) : Bool :=
  ((rawClients shape).map fun backend => backend.mainClient.isSome).getD false

/-- Whether `getBackend()` is there and returns. -/
def reachable (shape : OwnerShape) : Bool :=
  match shape.getBackend with
  | some (.ok _) => true
  | _ => false

/-- Nothing keeps `forceDisconnect` from a step: `getBackend()` is there and returns, or there is
no timer to stop; there is a main client where a blocking one has to be disconnected; and
`lockManager.close()` does not reject where a stalled checker has to be stopped. -/
structure Unimpeded (shape : OwnerShape) (lock : Except JsError Unit) : Prop where
  manager : shape.lockManager = true → reachable shape = true
  checker : shape.stalledCheckStopper.isSome = true → reachable shape = true
  blocking : blockingApplies shape = true → hasMain shape = true
  settles : shape.lockManager = true → shape.stalledCheckStopper.isSome = true → lock.isOk = true

/-- Which of the five steps are in a list of this form. -/
def chosen (main blocking manager stalled companion : Bool) : CleanupStep → Bool
  | .mainClient => main
  | .blockingClient => blocking
  | .lockManager => manager
  | .stalledCheck => stalled
  | .companion => companion

theorem count_chosen (main blocking manager stalled companion : Bool) (step : CleanupStep) :
    (stepIf main .mainClient ++ stepIf blocking .blockingClient ++ stepIf manager .lockManager ++
      stepIf stalled .stalledCheck ++ stepIf companion .companion).count step =
      (chosen main blocking manager stalled companion step).toNat := by
  cases step <;> revert main blocking manager stalled companion <;> decide

theorem mem_chosen (main blocking manager stalled companion : Bool) (step : CleanupStep) :
    step ∈ stepIf main .mainClient ++ stepIf blocking .blockingClient ++
      stepIf manager .lockManager ++ stepIf stalled .stalledCheck ++ stepIf companion .companion ↔
      chosen main blocking manager stalled companion step = true := by
  rw [← List.count_pos_iff, count_chosen]
  cases chosen main blocking manager stalled companion step <;> decide

theorem clientSteps_eq (shape : OwnerShape) (backend : Option BackendShape)
    (found : shape.getBackend = some (.ok backend)) :
    clientSteps backend = stepIf (mainApplies shape) .mainClient ++
      stepIf (hasMain shape && blockingApplies shape) .blockingClient := by
  have clients : rawClients shape = backend := by
    unfold rawClients
    rw [found]
  unfold mainApplies hasMain blockingApplies
  rw [clients]
  cases backend with
  | none => rfl
  | some backend =>
    obtain ⟨main, blocking⟩ := backend
    cases main with
    | none => rfl
    | some main => cases main <;> rfl

theorem forcedSteps_eq (shape : OwnerShape) (lock : Except JsError Unit) :
    forcedSteps shape lock = stepIf (mainApplies shape) .mainClient ++
      stepIf (hasMain shape && blockingApplies shape) .blockingClient ++
      stepIf (reachable shape && shape.lockManager) .lockManager ++
      stepIf (reachable shape && ((!shape.lockManager || lock.isOk) &&
        shape.stalledCheckStopper.isSome)) .stalledCheck := by
  unfold forcedSteps reachable
  cases found : shape.getBackend with
  | none => simp [mainApplies, hasMain, rawClients, found, stepIf]
  | some result =>
    cases result with
    | error err => simp [mainApplies, hasMain, rawClients, found, stepIf]
    | ok backend =>
      rw [← clientSteps_eq shape backend found]
      simp

theorem forcedSteps_complete_iff (shape : OwnerShape) (connection : Option Nat)
    (lock : Except JsError Unit) :
    (∀ step ∈ applicable shape connection,
      (forcedSteps shape lock ++ stepIf connection.isSome .companion).count step = 1) ↔
      Unimpeded shape lock := by
  have counted : (∀ step ∈ applicable shape connection,
      (forcedSteps shape lock ++ stepIf connection.isSome .companion).count step = 1) ↔
      ∀ step, chosen (mainApplies shape) (blockingApplies shape) shape.lockManager
        shape.stalledCheckStopper.isSome connection.isSome step = true →
        chosen (mainApplies shape) (hasMain shape && blockingApplies shape)
          (reachable shape && shape.lockManager) (reachable shape && ((!shape.lockManager ||
            lock.isOk) && shape.stalledCheckStopper.isSome)) connection.isSome step = true := by
    rw [forcedSteps_eq]
    apply forall_congr'
    intro step
    rw [count_chosen]
    unfold applicable
    rw [mem_chosen, Bool.toNat_eq_one]
  rw [counted]
  constructor
  · intro all
    have manager := all .lockManager
    have checker := all .stalledCheck
    have blocking := all .blockingClient
    simp only [chosen, Bool.and_eq_true, Bool.or_eq_true, Bool.not_eq_true'] at manager checker blocking
    exact
      { manager := fun present => (manager present).1
        checker := fun present => (checker present).1
        blocking := fun present => (blocking present).1
        settles := by
          intro managed present
          rcases (checker present).2.1 with absent | settled
          · rw [managed] at absent
            cases absent
          · exact settled }
  · intro unimpeded step applies
    cases step with
    | mainClient => exact applies
    | blockingClient =>
      simp only [chosen, Bool.and_eq_true]
      exact ⟨unimpeded.blocking applies, applies⟩
    | lockManager =>
      simp only [chosen, Bool.and_eq_true]
      exact ⟨unimpeded.manager applies, applies⟩
    | stalledCheck =>
      simp only [chosen, Bool.and_eq_true, Bool.or_eq_true, Bool.not_eq_true']
      refine ⟨unimpeded.checker applies, ?_, applies⟩
      cases managed : shape.lockManager with
      | false => exact .inl rfl
      | true => exact .inr (unimpeded.settles managed applies)
    | companion => exact applies

theorem attempted_at_end {owner handler : Nat} {connection : Option Nat}
    {lock : Except JsError Unit} {start last : ConfigState} {found : Owner}
    {result : Except JsError Unit} (stored : start.owners.read owner = some found)
    (started : found.shape.close = none)
    (ended : (amongClosings owner connection lock).Reaches
      (closeResourcePair handler owner connection) start (.finished result) last) :
    attempts owner connection last = attempts owner connection start ++
      forcedSteps found.shape lock ++ stepIf connection.isSome .companion :=
  ended.ensured (closeResourcePair_ensures handler stored started)
    (fun _ _ _ held changed => attempted_stable _ _ _ changed held) fun _ _ _ _ _ => trivial

/-- The closing of a pair whose owner does not close in time ends, and it has attempted every
applicable step exactly once if and only if nothing impedes it. -/
theorem best_effort_iff_unimpeded {owner handler : Nat} {connection : Option Nat}
    {lock : Except JsError Unit} {start : ConfigState} {found : Owner}
    (stored : start.owners.read owner = some found) (started : found.shape.close = none) :
    (closeResourcePair handler owner connection).WaitsAtMost 7 ∧
      ∀ result last, (amongClosings owner connection lock).Reaches
        (closeResourcePair handler owner connection) start (.finished result) last →
        (BestEffort owner connection found.shape start last ↔ Unimpeded found.shape lock) := by
  refine ⟨closeResourcePair_waits handler owner connection, ?_⟩
  intro result last ended
  rw [← forcedSteps_complete_iff found.shape connection lock]
  unfold BestEffort
  rw [attempted_at_end stored started ended, List.append_assoc]
  apply forall_congr'
  intro step
  rw [List.count_append]
  exact imp_congr_right fun _ => Nat.add_left_cancel_iff

/-! A worker whose `close()` hangs and whose lock manager may fail to close. -/

def workingState : ConfigState :=
  (createWorker plainPackages (.runtime 1) plainConstruction (.initial plainRedis)).2

def hangingReplies (lock : Except JsError Unit) :
    (call : ConfigCall) → Except JsError (ConfigReply call)
  | .close _ _ => .ok Settlement.timeout
  | .quit _ _ => .ok Settlement.timeout
  | .lockManager _ => lock
  | .all _ => .ok ()
  | .ended => .ok ()

/-- The closing of the worker comes to its end. -/
theorem workingState_closed (lock : Except JsError Unit) :
    ∃ result last, (amongClosings 0 (some 0) lock).Reaches (closeResourcePair 1 0 (some 0))
      workingState (.finished result) last := by
  let closing := closeResourcePair 1 0 (some 0)
  have answers : ∀ now call, (amongClosings 0 (some 0) lock).answers now call
      (hangingReplies lock call) := by
    intro now call
    cases call with
    | close owner budget => exact fun _ => rfl
    | lockManager owner => exact fun _ => rfl
    | quit ref budget => trivial
    | all pairs => trivial
    | ended => trivial
  have begun : (amongClosings 0 (some 0) lock).Reaches closing workingState
      (closing.segment workingState).2 (closing.segment workingState).1 := .first
  have driven := begun.drive (hangingReplies lock) answers 7
  obtain ⟨result, finished⟩ := Paused.drive_ends (hangingReplies lock)
    (closing.segment workingState).1
    (Async.segment_waitsAtMost (closeResourcePair_waits 1 0 (some 0)) workingState)
  rw [finished] at driven
  exact ⟨result, _, driven⟩

def workingOwner : Owner :=
  ⟨.worker, some 0, buildBullMQOptions plainRedis (.redis 0) none .worker, plainOwner⟩

/-- With a lock manager that closes, the worker's shutdown attempts every step. -/
theorem best_effort_of_settled_lock :
    ∃ result last, (amongClosings 0 (some 0) (.ok ())).Reaches (closeResourcePair 1 0 (some 0))
      workingState (.finished result) last ∧
      BestEffort 0 (some 0) plainOwner workingState last := by
  obtain ⟨result, last, ended⟩ := workingState_closed (.ok ())
  have stored : workingState.owners.read 0 = some workingOwner := rfl
  exact ⟨result, last, ended, ((best_effort_iff_unimpeded stored rfl).2 result last ended).mpr
    { manager := fun _ => rfl
      checker := fun _ => rfl
      blocking := fun _ => rfl
      settles := fun _ _ => rfl }⟩

/-- A lock manager that fails to close keeps the stalled checker running. -/
theorem lock_failure_skips_stalledCheck :
    ∃ (owner handler : Nat) (connection : Option Nat) (lock : Except JsError Unit)
      (start last : ConfigState) (found : Owner) (result : Except JsError Unit),
      start.owners.read owner = some found ∧ found.shape.close = none ∧
      (amongClosings owner connection lock).Reaches (closeResourcePair handler owner connection)
        start (.finished result) last ∧
      ¬ BestEffort owner connection found.shape start last := by
  let failure : Except JsError Unit := .error (newError "lock manager is gone")
  obtain ⟨result, last, ended⟩ := workingState_closed failure
  have stored : workingState.owners.read 0 = some workingOwner := rfl
  refine ⟨0, 1, some 0, failure, workingState, last, workingOwner, result, stored, rfl, ended, ?_⟩
  intro attempted
  have stalled := attempted .stalledCheck (by decide)
  rw [attempted_at_end stored rfl ended] at stalled
  exact absurd stalled (by decide)

end NodeRedBull.ForcedShutdown
