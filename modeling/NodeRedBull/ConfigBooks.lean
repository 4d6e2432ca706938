import NodeRedBull.ConfigNode
import NodeRedBull.Library.Trace

/-! What one step does to the books of the queue configuration node. The rest of a closing, once
its pair is taken and started, changes nothing in them. -/

namespace NodeRedBull.ConfigBooks
open Js Library Connections ConfigNode

/-- The traces of a closing under way. -/
def Effect.isShutdown : Effect → Bool
  | .closes _ | .closeCalled _ | .closeSettled _ | .quitCalled _ | .disconnected _
  | .lockManagerClosed _ | .stalledCheckStopped _ | .done _ _ | .status _ .cleared => true
  | _ => false

def unended (connection : Connection) : Connection := { connection with ended := false }

/-- The state without the traces of closings under way. -/
def books (state : ConfigState) : ConfigState :=
  { state with
    connections := ⟨state.connections.cells.map unended⟩
    trace := state.trace.filter fun effect => !Effect.isShutdown effect }

def SameBooks (before after : ConfigState) : Prop := books before = books after

theorem SameBooks.refl (state : ConfigState) : SameBooks state state := rfl

theorem SameBooks.trans (first second third : ConfigState) (left : SameBooks first second)
    (right : SameBooks second third) : SameBooks first third :=
  Eq.trans left right

@[simp] theorem sameBooks_record {effect : Effect} (shutdown : Effect.isShutdown effect = true)
    (state : ConfigState) : SameBooks state (state.record effect) := by
  simp [SameBooks, books, ConfigState.record, shutdown]

theorem books_record {effect : Effect} (kept : Effect.isShutdown effect = false)
    (state : ConfigState) : books (state.record effect) = (books state).record effect := by
  simp [books, ConfigState.record, kept]

theorem sameBooks_endConnection (ref : Nat) (state : ConfigState) :
    SameBooks state (endConnection ref state) := by
  have same : ((state.connections.modify ref fun connection =>
      { connection with ended := true }).cells.map unended) =
      state.connections.cells.map unended := by
    apply List.ext_getElem?
    intro position
    simp only [Store.modify, List.getElem?_map, List.getElem?_modify]
    cases state.connections.cells[position]? with
    | none => rfl
    | some connection => by_cases here : ref = position <;> simp [here, unended]
  unfold SameBooks books endConnection
  rw [same]

/-- What the books keep of the trace can be read from them. -/
theorem filterMap_books {β : Type} {select : Effect → Option β}
    (passed : ∀ effect, Effect.isShutdown effect = true → select effect = none)
    (state : ConfigState) : (books state).trace.filterMap select = state.trace.filterMap select := by
  apply select_filter
  intro effect dropped
  apply passed
  simpa using dropped

theorem filterMap_of_sameBooks {β : Type} {select : Effect → Option β}
    (passed : ∀ effect, Effect.isShutdown effect = true → select effect = none)
    {before after : ConfigState} (same : SameBooks before after) :
    after.trace.filterMap select = before.trace.filterMap select := by
  have equal : books before = books after := same
  rw [← filterMap_books passed after, ← equal, filterMap_books passed]

theorem resources_of_sameBooks {before after : ConfigState} (same : SameBooks before after) :
    after.resources = before.resources := by
  have equal : books before = books after := same
  have resources : (books before).resources = (books after).resources :=
    congrArg ConfigState.resources equal
  exact resources.symm

/-! ## The bodies that close something -/

/-- What a closing under way does, apart from its end. -/
def Effect.isClosing : Effect → Bool
  | .closes _ | .closeCalled _ | .closeSettled _ | .quitCalled _ | .disconnected _
  | .lockManagerClosed _ | .stalledCheckStopped _ => true
  | _ => false

/-- A preorder that every single action of a closing respects. -/
structure ClosingFrame (related : ConfigState → ConfigState → Prop) : Prop where
  refl : ∀ state, related state state
  trans : ∀ first second third, related first second → related second third → related first third
  record : ∀ effect state, Effect.isClosing effect = true → related state (state.record effect)
  ended : ∀ ref state, related state (endConnection ref state)

theorem sameBooks_frame : ClosingFrame SameBooks where
  refl := SameBooks.refl
  trans := SameBooks.trans
  record := by
    intro effect state closing
    apply sameBooks_record
    cases effect <;> first | rfl | cases closing
  ended := sameBooks_endConnection

def single : ConfigCall → Prop
  | .all _ => False
  | _ => True

abbrev Framed (program : ConfigBody Unit) (start now : ConfigState) : Prop :=
  Async.Framed SameBooks single program start now

section ClosingFrames
variable {related : ConfigState → ConfigState → Prop} (frame : ClosingFrame related)
include frame

theorem record_respects {effect : Effect} (closing : Effect.isClosing effect = true) :
    (record effect).Respects related single :=
  Async.respects_modify frame.trans fun state => frame.record effect state closing

theorem endConnection_respects (ref : Nat) :
    (modify (endConnection ref) : ConfigBody PUnit).Respects related single :=
  Async.respects_modify frame.trans (frame.ended ref)

theorem await_respects (call : ConfigCall) (alone : single call) :
    (await call).Respects related single :=
  Async.respects_call frame.refl alone

theorem awaitEnd_framed {body : ConfigBody Unit} {start now : ConfigState}
    (framed : body.Framed related single start now) :
    (awaitEnd body).Framed related single start now := by
  have caught : Async.Framed related single (tryCatch (Except.ok <$> body) fun err =>
      pure (.error err) : ConfigBody (Except JsError Unit)) start now :=
    Async.framed_tryCatch (Async.framed_map _ framed) fun _ => Async.respects_pure _
  apply Async.framed_bind caught
  intro result
  apply Async.respects_bind (await_respects frame .ended trivial)
  intro _
  cases result with
  | ok _ => exact Async.respects_pure _
  | error err => exact Async.respects_throw err

theorem awaitEnd_respects {body : ConfigBody Unit} (respects : body.Respects related single) :
    (awaitEnd body).Respects related single :=
  fun start now near => awaitEnd_framed frame (respects start now near)

omit frame in
theorem caught_respects {body : ConfigBody Unit} (respects : body.Respects related single) :
    (tryCatch (Except.ok <$> body) fun err => pure (.error err) :
      ConfigBody (Except JsError Unit)).Respects related single :=
  Async.respects_tryCatch (Async.respects_map _ respects) fun _ => Async.respects_pure _

omit frame in
theorem throwIfAny_respects (err : Option JsError) :
    (throwIfAny err).Respects related single := by
  cases err with
  | none => exact Async.respects_pure _
  | some err => exact Async.respects_throw err

theorem callDisconnect_respects (client : Client) (throws : Option JsError) :
    (callDisconnect client throws).Respects related single := by
  have last : (throwIfAny throws).Respects related single := throwIfAny_respects throws
  unfold callDisconnect
  apply Async.respects_bind (record_respects frame rfl)
  intro _
  cases client with
  | connection ref => exact Async.respects_bind (endConnection_respects frame ref) fun _ => last
  | _ => exact Async.respects_bind (Async.respects_pure ()) fun _ => last

theorem disconnectClient_respects (client : Client) (disconnect : Method) :
    (disconnectClient client disconnect).Respects related single := by
  cases disconnect with
  | none => exact Async.respects_pure _
  | some throws =>
    exact Async.respects_tryCatch (callDisconnect_respects frame client throws) fun _ =>
      Async.respects_pure _

theorem disconnectBackend_respects (owner : Nat) (backend : Option BackendShape) :
    (disconnectBackend owner backend).Respects related single := by
  unfold disconnectBackend
  split
  · exact Async.respects_bind (disconnectClient_respects frame _ _) fun _ =>
      disconnectClient_respects frame _ _
  · exact Async.respects_pure _

theorem stopStalledCheck_respects (owner : Nat) (stopper : Method) :
    (stopStalledCheck owner stopper).Respects related single := by
  cases stopper with
  | none => exact Async.respects_pure _
  | some throws =>
    exact Async.respects_bind (record_respects frame rfl) fun _ => throwIfAny_respects throws

theorem forceDisconnectOwner_respects (owner : Nat) (shape : OwnerShape) :
    (forceDisconnectOwner owner shape).Respects related single := by
  have stopper := stopStalledCheck_respects frame owner shape.stalledCheckStopper
  unfold forceDisconnectOwner
  split
  · exact Async.respects_pure _
  · exact Async.respects_throw _
  · apply Async.respects_bind (disconnectBackend_respects frame owner _)
    intro _
    cases shape.lockManager with
    | false => exact stopper
    | true =>
      apply Async.respects_bind (record_respects frame rfl)
      intro _
      exact Async.respects_bind (await_respects frame (.lockManager owner) trivial) fun _ => stopper

/-- `closeConnection` once it has recorded that it closes the connection. -/
theorem closeConnection_rest (ref : Nat) : ∃ rest : ConfigBody Unit,
    closeConnection ref = (record (.closes (.connection ref)) >>= fun _ => rest) ∧
      rest.Respects related single := by
  refine ⟨_, rfl, ?_⟩
  apply Async.respects_bind Async.respects_get
  intro state
  cases state.connections.read ref with
  | none => exact Async.respects_pure _
  | some connection =>
    have forced :
        (awaitEnd (forceDisconnectConnection ref connection.shape)).Respects related single :=
      awaitEnd_respects frame (disconnectClient_respects frame _ _)
    dsimp only
    cases connection.shape.quit with
    | none => exact forced
    | some throws =>
      dsimp only
      split
      · apply Async.respects_bind (record_respects frame rfl)
        intro _
        apply Async.respects_bind (endConnection_respects frame ref)
        intro _
        apply Async.respects_bind (throwIfAny_respects throws)
        intro _
        apply Async.respects_bind (await_respects frame (.quit ref closeGraceMs) trivial)
        intro settlement
        split
        · exact forced
        · exact Async.respects_pure _
      · exact forced

theorem closeConnection_respects (ref : Nat) : (closeConnection ref).Respects related single := by
  obtain ⟨rest, same, respects⟩ := closeConnection_rest frame ref
  rw [same]
  exact Async.respects_bind (record_respects frame rfl) fun _ => respects

/-- `closeOwner` once it has recorded that it closes the owner. -/
theorem closeOwner_rest (owner : Nat) (connection : Option Nat) : ∃ rest : ConfigBody Unit,
    closeOwner owner connection = (record (.closes (.owner owner)) >>= fun _ => rest) ∧
      rest.Respects related single := by
  refine ⟨_, rfl, ?_⟩
  apply Async.respects_bind Async.respects_get
  intro state
  cases state.owners.read owner with
  | none => exact Async.respects_pure _
  | some found =>
    apply Async.respects_bind (record_respects frame rfl)
    intro _
    apply Async.respects_bind (throwIfAny_respects found.shape.close)
    intro _
    apply Async.respects_bind Async.respects_get
    intro later
    apply Async.respects_bind
      (await_respects frame (.close owner (closeBudgetFor connection later)) trivial)
    intro settlement
    cases settlement with
    | settled => exact record_respects frame rfl
    | timeout => exact awaitEnd_respects frame (forceDisconnectOwner_respects frame owner found.shape)

theorem closeOwner_respects (owner : Nat) (connection : Option Nat) :
    (closeOwner owner connection).Respects related single := by
  obtain ⟨rest, same, respects⟩ := closeOwner_rest frame owner connection
  rw [same]
  exact Async.respects_bind (record_respects frame rfl) fun _ => respects

theorem closeCompanion_respects (connection : Option Nat) :
    (closeCompanion connection).Respects related single := by
  cases connection with
  | none => exact Async.respects_pure _
  | some ref => exact closeConnection_respects frame ref

omit frame in
theorem throwFirst_respects (first second : Except JsError Unit) :
    (throwFirst first second).Respects related single := by
  cases first with
  | error err => exact Async.respects_throw err
  | ok _ =>
    cases second with
    | error err => exact Async.respects_throw err
    | ok _ => exact Async.respects_pure _

/-- All of `closeResourcePair` but its own entry in the trace. -/
theorem closeResourcePair_framed (handler owner : Nat) (connection : Option Nat)
    (state : ConfigState) :
    (closeResourcePair handler owner connection).Framed related single
      (state.record (.closesPair handler owner connection)) state := by
  unfold closeResourcePair Async.Framed
  rw [Async.wp_bind]
  have rest : (do
      let first : Except JsError Unit ←
        try Except.ok <$> awaitEnd (closeOwner owner connection) catch err => pure (.error err)
      let second : Except JsError Unit ←
        try Except.ok <$> awaitEnd (closeCompanion connection) catch err => pure (.error err)
      throwFirst first second : ConfigBody Unit).Respects related single := by
    apply Async.respects_bind (caught_respects (awaitEnd_respects frame
      (closeOwner_respects frame owner connection)))
    intro first
    apply Async.respects_bind (caught_respects (awaitEnd_respects frame
      (closeCompanion_respects frame connection)))
    intro second
    exact throwFirst_respects first second
  exact rest _ _ (frame.refl _)

end ClosingFrames

end NodeRedBull.ConfigBooks
