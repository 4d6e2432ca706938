import NodeRedBull.JobRuntime

/-! The shared state without the lock tokens of the entries and without the fields of the jobs
that no message shows. Every step of the registry does the same to the erased state. -/

namespace NodeRedBull.Erasure
open Js Library Acknowledgements Serialization JobRuntime

/-! ## Jobs -/

/-- Two jobs that differ at most in fields that `serializeJob` does not know. -/
def SameKnown (left right : JsValue) : Prop :=
  left = right ∨ (left.truthy = true ∧ right.truthy = true ∧
    ∀ field ∈ knownFields, left.get field = right.get field)

theorem serializeJob_eq_of_sameKnown {left right : JsValue} (same : SameKnown left right) :
    serializeJob left = serializeJob right := by
  obtain equal | ⟨left_truthy, right_truthy, known⟩ := same
  · rw [equal]
  · have fields : (knownFields.map fun field => (field, left.get field)) =
        knownFields.map fun field => (field, right.get field) :=
      List.map_congr_left fun field member => by rw [known field member]
    unfold serializeJob copyKnownFields
    rw [if_pos left_truthy, if_pos right_truthy, if_pos left_truthy, if_pos right_truthy, fields]

/-- A field that is left out reads as undefined, which is what it was. -/
theorem field_filter_map (fields : List String) (read : String → JsValue) (name : String)
    (member : name ∈ fields) :
    JsValue.field ((fields.map fun field => (field, read field)).filter
      fun entry => !entry.2.isUndefined) name = read name := by
  unfold JsValue.field
  cases found : ((fields.map fun field => (field, read field)).filter
      fun entry => !entry.2.isUndefined).find? fun entry => decide (entry.1 = name) with
  | some entry =>
    have named : entry.1 = name := by simpa using List.find?_some found
    have listed := (List.mem_filter.mp (List.mem_of_find?_eq_some found)).1
    obtain ⟨field, _, equal⟩ := List.mem_map.mp listed
    subst equal
    exact congrArg read named
  | none =>
    have absent := List.find?_eq_none.mp found (name, read name)
    have dropped : (read name).isUndefined = true := by
      by_contra kept
      exact absent (List.mem_filter.mpr ⟨List.mem_map.mpr ⟨name, member, rfl⟩, by simpa using kept⟩)
        (by simp)
    cases value : read name with
    | undefined => rfl
    | _ =>
      rw [value] at dropped
      cases dropped

/-- The serialized job has the known fields of the job. -/
theorem get_serializeJob (job : JsValue) (name : String) (member : name ∈ knownFields) :
    (serializeJob job).get name = job.get name := by
  unfold serializeJob copyKnownFields
  by_cases truthy : job.truthy = true
  · rw [if_pos truthy, if_pos truthy]
    exact field_filter_map knownFields job.get name member
  · rw [if_neg truthy]

/-- Jobs that serialize to the same have the same known fields. -/
theorem get_eq_of_serializeJob_eq {left right : JsValue}
    (same : serializeJob left = serializeJob right) (name : String) (member : name ∈ knownFields) :
    left.get name = right.get name := by
  rw [← get_serializeJob left name member, same, get_serializeJob right name member]

/-! ## The registry -/

def eraseContext (context : Context) : Context := { context with token := .undefined }

def eraseEntry (entry : AcknowledgementEntry) : AcknowledgementEntry :=
  { entry with context := eraseContext entry.context }

/-- What messages can depend on. -/
def eraseAcks (state : AckState) : AckState :=
  { state with objects := state.objects.map eraseEntry, jobs := state.jobs.map serializeJob }

@[simp] theorem read_eraseAcks (state : AckState) (ref : Nat) :
    (eraseAcks state).objects.read ref = (state.objects.read ref).map eraseEntry :=
  Store.read_map eraseEntry state.objects ref

@[simp] theorem jobAt_eraseAcks (state : AckState) (job : Nat) :
    (eraseAcks state).jobAt job = serializeJob (state.jobAt job) := by
  change ((state.jobs.map serializeJob).read job).getD .undefined = serializeJob (state.jobAt job)
  rw [Store.read_map]
  unfold AckState.jobAt
  cases state.jobs.read job with
  | none => rfl
  | some value => rfl

theorem get_jobAt_eraseAcks (state : AckState) (job : Nat) (name : String)
    (member : name ∈ knownFields) :
    ((eraseAcks state).jobAt job).get name = (state.jobAt job).get name := by
  rw [jobAt_eraseAcks, get_serializeJob _ name member]

/-! ### Its steps -/

theorem erase_write (ref : Nat) (entry : AcknowledgementEntry) (state : AckState) :
    eraseAcks { state with objects := state.objects.write ref entry } =
      { eraseAcks state with
        objects := (eraseAcks state).objects.write ref (eraseEntry entry) } := by
  unfold eraseAcks
  rw [Store.map_write]

theorem erase_clearTimeout (ref : Nat) (state : AckState) :
    eraseAcks (clearTimeout ref state) = clearTimeout ref (eraseAcks state) := rfl

theorem erase_removeEventListener (ref : Nat) (signal : Option Nat) (state : AckState) :
    eraseAcks (removeEventListener ref signal state) =
      removeEventListener ref signal (eraseAcks state) := by
  cases signal with
  | none => rfl
  | some signal => rfl

theorem erase_callListener (ackId : String) (settlement : Settlement) (state : AckState)
    (listener : SettledListener) :
    eraseAcks (callListener ackId settlement state listener) =
      callListener ackId settlement (eraseAcks state) listener := by
  cases listener with
  | deleteEntry => rfl
  | wake promise => rfl

theorem erase_foldl {β : Type} (step : AckState → β → AckState)
    (commutes : ∀ state item, eraseAcks (step state item) = step (eraseAcks state) item)
    (items : List β) (state : AckState) :
    eraseAcks (items.foldl step state) = items.foldl step (eraseAcks state) :=
  (List.foldl_hom eraseAcks fun state item => (commutes state item).symm).symm

theorem erase_emitSettled (ref : Nat) (settlement : Settlement) (state : AckState) :
    eraseAcks (emitSettled ref settlement state) = emitSettled ref settlement (eraseAcks state) := by
  unfold emitSettled
  rw [read_eraseAcks]
  cases state.objects.read ref with
  | none => rfl
  | some entry =>
    change eraseAcks (entry.events.foldl (callListener entry.ackId settlement) _) =
      entry.events.foldl (callListener entry.ackId settlement) _
    rw [erase_foldl _ (erase_callListener entry.ackId settlement), erase_write]
    rfl

theorem erase_settle (ref : Nat) (settlement : Settlement) (state : AckState) :
    eraseAcks (settle ref settlement state) = settle ref settlement (eraseAcks state) := by
  unfold settle
  rw [read_eraseAcks]
  cases state.objects.read ref with
  | none => rfl
  | some entry =>
    change eraseAcks (if entry.settlement.isSome then state else _) =
      if entry.settlement.isSome then eraseAcks state else _
    by_cases settled : entry.settlement.isSome = true
    · rw [if_pos settled, if_pos settled]
    · rw [if_neg settled, if_neg settled]
      dsimp only
      rw [erase_emitSettled, erase_removeEventListener, erase_clearTimeout, erase_write]
      rfl

theorem erase_fail (ref : Nat) (error : JsError) (state : AckState) :
    eraseAcks (fail ref error state) = fail ref error (eraseAcks state) :=
  erase_settle ref (.reject error) state

theorem erase_abort (signal : Nat) (reason : JsValue) (state : AckState) :
    eraseAcks (abort signal reason state) = abort signal reason (eraseAcks state) := by
  have same : (eraseAcks state).signals = state.signals := rfl
  unfold abort
  rw [same]
  cases state.signals.read signal with
  | none => rfl
  | some found =>
    dsimp only
    by_cases aborted : found.reason.isSome = true
    · rw [if_pos aborted, if_pos aborted]
    · rw [if_neg aborted, if_neg aborted,
        erase_foldl _ (fun state ref => erase_fail ref (abortError reason) state)]
      rfl

theorem erase_timerFires (ref : Nat) (state : AckState) :
    eraseAcks (timerFires ref state) = timerFires ref (eraseAcks state) := by
  unfold timerFires
  rw [read_eraseAcks]
  cases state.objects.read ref with
  | none => rfl
  | some entry =>
    dsimp only [Option.map_some]
    rw [erase_fail, erase_clearTimeout]
    rfl

theorem erase_rejectByRunNode (runNodeId : String) (error : JsError) (state : AckState) :
    eraseAcks (rejectByRunNode runNodeId error state) =
      rejectByRunNode runNodeId error (eraseAcks state) := by
  unfold rejectByRunNode
  apply erase_foldl
  intro state ref
  rw [read_eraseAcks]
  cases state.objects.read ref with
  | none => rfl
  | some entry =>
    change eraseAcks (if entry.context.runNodeId = runNodeId then fail ref error state else state) =
      if entry.context.runNodeId = runNodeId then fail ref error (eraseAcks state) else eraseAcks state
    by_cases own : entry.context.runNodeId = runNodeId
    · rw [if_pos own, if_pos own, erase_fail]
    · rw [if_neg own, if_neg own]

theorem erase_newSignal (state : AckState) :
    newSignal (eraseAcks state) = ((newSignal state).1, eraseAcks (newSignal state).2) := rfl

theorem erase_newJob (job : JsValue) (state : AckState) :
    newJob (serializeJob job) (eraseAcks state) =
      ((newJob job state).1, eraseAcks (newJob job state).2) := by
  unfold newJob eraseAcks
  dsimp only
  rw [Store.alloc_map]

theorem erase_changeJob (ref : Nat) (job : JsValue) (state : AckState) :
    eraseAcks (changeJob ref job state) = changeJob ref (serializeJob job) (eraseAcks state) := by
  unfold changeJob eraseAcks
  rw [Store.map_write]

def listen (listener : SettledListener) (entry : AcknowledgementEntry) : AcknowledgementEntry :=
  { entry with events := entry.events ++ [listener] }

theorem map_listen (listener : SettledListener) (ref : Nat) (objects : Store AcknowledgementEntry) :
    (objects.modify ref (listen listener)).map eraseEntry =
      (objects.map eraseEntry).modify ref (listen listener) := by
  have commutes : ∀ entry, eraseEntry (listen listener entry) = listen listener (eraseEntry entry) :=
    fun _ => rfl
  exact Store.map_modify commutes objects ref

theorem erase_onceSettled (ref : Nat) (state : AckState) :
    onceSettled ref (eraseAcks state) =
      ((onceSettled ref state).1, eraseAcks (onceSettled ref state).2) := by
  have listening := map_listen (.wake state.promises.size) ref state.objects
  unfold onceSettled eraseAcks
  exact congrArg (Prod.mk _) (congrArg
    (fun objects : Store AcknowledgementEntry =>
      (⟨objects, state.entries, state.timers, state.signals,
        (state.promises.alloc ⟨ref, none⟩).2, state.jobs.map serializeJob⟩ : AckState))
    listening.symm)

theorem settlementOf_eraseAcks (ref : Nat) (state : AckState) :
    settlementOf ref (eraseAcks state) = settlementOf ref state := by
  unfold settlementOf
  rw [read_eraseAcks]
  cases state.objects.read ref with
  | none => rfl
  | some entry => rfl

theorem ackIdOf_eraseAcks (runNodeId : String) (job : Nat) (now : JsNumber) (random : String)
    (state : AckState) :
    ackIdOf runNodeId job now random (eraseAcks state) = ackIdOf runNodeId job now random state := by
  unfold ackIdOf
  rw [get_jobAt_eraseAcks state job "id" (by decide)]

theorem erase_newEntry (context : Context) (timeoutMs : JsNumber) (ackId : String)
    (state : AckState) :
    newEntry (eraseContext context) timeoutMs ackId (eraseAcks state) =
      ((newEntry context timeoutMs ackId state).1,
        eraseAcks (newEntry context timeoutMs ackId state).2) := by
  have allocated : (state.objects.map eraseEntry).alloc
      ⟨[], none, eraseContext context, timeoutMs, ackId⟩ = _ :=
    Store.alloc_map eraseEntry state.objects ⟨[], none, context, timeoutMs, ackId⟩
  unfold newEntry eraseAcks
  dsimp only
  rw [allocated]
  rfl

/-- An entry is created in the same way without its token. -/
theorem erase_create (context : Context) (timeoutMs now : JsNumber) (random : String)
    (state : AckState) :
    create (eraseContext context) timeoutMs now random (eraseAcks state) =
      ((create context timeoutMs now random state).1,
        eraseAcks (create context timeoutMs now random state).2) := by
  have sameId : ackIdOf (eraseContext context).runNodeId (eraseContext context).job now random
      (eraseAcks state) = ackIdOf context.runNodeId context.job now random state :=
    ackIdOf_eraseAcks context.runNodeId context.job now random state
  unfold create
  dsimp only
  rw [sameId, erase_newEntry]
  have listening := map_listen .deleteEntry
    (newEntry context timeoutMs (ackIdOf context.runNodeId context.job now random state) state).1
    (newEntry context timeoutMs (ackIdOf context.runNodeId context.job now random state) state).2.objects
  unfold listen at listening
  rw [eraseAcks, eraseAcks, listening]

/-! ## The shared state -/

def eraseRuntime (runtime : Runtime) : Runtime := { runtime with acks := eraseAcks runtime.acks }

/-- Nothing tells the two states apart but tokens and unknown fields of jobs. -/
def Alike (left right : Runtime) : Prop := eraseRuntime left = eraseRuntime right

theorem alike_iff (left right : Runtime) : Alike left right ↔
    eraseAcks left.acks = eraseAcks right.acks ∧ left.active = right.active ∧
      left.log = right.log := by
  unfold Alike eraseRuntime
  exact Runtime.mk.injEq _ _ _ _ _ _ ▸ Iff.rfl

theorem Alike.serializeJob_eq {left right : Runtime} (alike : Alike left right) (job : Nat) :
    serializeJob (left.acks.jobAt job) = serializeJob (right.acks.jobAt job) := by
  rw [← jobAt_eraseAcks, ← jobAt_eraseAcks, ((alike_iff left right).mp alike).1]

/-- What a step of the registry does to the erased state. -/
def ErasesTo {α : Type} (operation erased : AckState → α × AckState) : Prop :=
  ∀ state, erased (eraseAcks state) = ((operation state).1, eraseAcks (operation state).2)

/-- Two steps that erase to one step come to the same from states that are alike. -/
theorem Alike.onAcks {α : Type} {left right : Runtime} (alike : Alike left right)
    {operation other erased : AckState → α × AckState} (erases : ErasesTo operation erased)
    (other_erases : ErasesTo other erased) :
    Alike { left with acks := (operation left.acks).2 } { right with acks := (other right.acks).2 } ∧
      (operation left.acks).1 = (other right.acks).1 := by
  rw [alike_iff] at alike
  obtain ⟨acks, active, log⟩ := alike
  have same : ((operation left.acks).1, eraseAcks (operation left.acks).2) =
      ((other right.acks).1, eraseAcks (other right.acks).2) := by
    rw [← erases, ← other_erases, acks]
  obtain ⟨value, state⟩ := Prod.mk.inj same
  exact ⟨(alike_iff _ _).mpr ⟨state, active, log⟩, value⟩

theorem Alike.change {left right : Runtime} (alike : Alike left right)
    {operation other erased : AckState → AckState}
    (erases : ∀ state, eraseAcks (operation state) = erased (eraseAcks state))
    (other_erases : ∀ state, eraseAcks (other state) = erased (eraseAcks state)) :
    Alike (left.change operation) (right.change other) := by
  rw [alike_iff] at alike ⊢
  obtain ⟨acks, active, log⟩ := alike
  refine ⟨?_, active, log⟩
  change eraseAcks (operation left.acks) = eraseAcks (other right.acks)
  rw [erases, other_erases, acks]

theorem Alike.record {left right : Runtime} (alike : Alike left right) (event : Event) :
    Alike (left.record event) (right.record event) := by
  rw [alike_iff] at alike ⊢
  obtain ⟨acks, active, log⟩ := alike
  exact ⟨acks, active, congrArg (· ++ [event]) log⟩

theorem Alike.track {left right : Runtime} (alike : Alike left right) (task worker job : Nat) :
    Alike (track task worker job left).2 (track task worker job right).2 ∧
      (track task worker job left).1 = (track task worker job right).1 := by
  have made := alike.onAcks erase_newSignal erase_newSignal
  rw [alike_iff] at made ⊢
  obtain ⟨⟨acks, active, log⟩, signal⟩ := made
  refine ⟨⟨acks, ?_, log⟩, signal⟩
  change left.active ++ [⟨task, worker, job, (newSignal left.acks).1⟩] =
    right.active ++ [⟨task, worker, job, (newSignal right.acks).1⟩]
  rw [active, signal]

theorem Alike.untrack {left right : Runtime} (alike : Alike left right) (task : Nat) :
    Alike (untrack task left) (untrack task right) := by
  rw [alike_iff] at alike ⊢
  obtain ⟨acks, active, log⟩ := alike
  exact ⟨acks, congrArg (List.filter _) active, log⟩

theorem Alike.jobId_eq {left right : Runtime} (alike : Alike left right) (job : Nat) :
    (left.acks.jobAt job).get "id" = (right.acks.jobAt job).get "id" :=
  get_eq_of_serializeJob_eq (alike.serializeJob_eq job) "id" (by decide)

theorem Alike.cancelJob {left right : Runtime} (alike : Alike left right) (worker : Nat)
    (jobId reason : JsValue) :
    Alike (cancelJob worker jobId reason left).2 (cancelJob worker jobId reason right).2 ∧
      (cancelJob worker jobId reason left).1 = (cancelJob worker jobId reason right).1 := by
  have active := ((alike_iff left right).mp alike).2.1
  have tracked : (left.active.find? fun job => decide (job.worker = worker) &&
        ((left.acks.jobAt job.job).get "id").sameString jobId) =
      right.active.find? fun job => decide (job.worker = worker) &&
        ((right.acks.jobAt job.job).get "id").sameString jobId := by
    simp only [active, alike.jobId_eq]
  unfold JobRuntime.cancelJob
  rw [tracked]
  cases right.active.find? fun job => decide (job.worker = worker) &&
      ((right.acks.jobAt job.job).get "id").sameString jobId with
  | none => exact ⟨alike, rfl⟩
  | some job =>
    exact ⟨alike.change (erase_abort job.signal reason) (erase_abort job.signal reason), rfl⟩

theorem Alike.cancelAllJobs {left right : Runtime} (alike : Alike left right) (worker : Nat)
    (reason : JsValue) :
    Alike (cancelAllJobs worker reason left) (cancelAllJobs worker reason right) := by
  have aborted : ∀ (jobs : List ActiveJob) (left right : Runtime), Alike left right →
      Alike (jobs.foldl (fun runtime job => runtime.change (abort job.signal reason)) left)
        (jobs.foldl (fun runtime job => runtime.change (abort job.signal reason)) right) := by
    intro jobs
    induction jobs with
    | nil => exact fun _ _ same => same
    | cons job rest ih =>
      intro left right same
      exact ih _ _ (same.change (erase_abort job.signal reason) (erase_abort job.signal reason))
  unfold JobRuntime.cancelAllJobs
  rw [((alike_iff left right).mp alike).2.1]
  exact aborted _ left right alike

end NodeRedBull.Erasure
