import NodeRedBull.JobInvariant

/-! What every handler of the registry leaves alone: a relation that each operation of a handler
respects is respected by all of its segments. -/

namespace NodeRedBull.JobFrames
open Js Library Acknowledgements AcknowledgementEffect JobRuntime JobInvariant

/-- No entry is new, and none has another owner. -/
def NoNewEntries (before after : AckState) : Prop :=
  ∀ ref later, after.objects.read ref = some later →
    ∃ entry, before.objects.read ref = some entry ∧ later.context = entry.context ∧
      later.ackId = entry.ackId

/-- What a relation must allow for: what handler `handler` logs and every change of the registry,
but for the creation of an entry. -/
structure JobFrame (related : Runtime → Runtime → Prop) (handler : Nat) : Prop where
  refl : ∀ runtime, related runtime runtime
  trans : ∀ first second third, related first second → related second third →
    related first third
  record : ∀ event runtime, Event.handler event = handler →
    (∀ ref, event ≠ .created handler ref) → related runtime (runtime.record event)
  acks : ∀ runtime acks, NoNewEntries runtime.acks acks → related runtime { runtime with acks }
  active : ∀ runtime active, related runtime { runtime with active }

/-- The same for the creation of an entry of this run node. -/
structure Creates (related : Runtime → Runtime → Prop) (handler : Nat) (runNodeId : String) :
    Prop where
  acks : ∀ context timeoutMs now random runtime, context.runNodeId = runNodeId →
    related runtime { runtime with acks := (create context timeoutMs now random runtime.acks).2 }
  created : ∀ ref runtime, related runtime (runtime.record (.created handler ref))

def anyCall (_ : JobCall) : Prop := True

section Frame

variable {related : Runtime → Runtime → Prop} {handler : Nat} (frame : JobFrame related handler)
variable {bullmq : Bullmq}
include frame

theorem record_respects (event : Event) (own : Event.handler event = handler)
    (other : ∀ ref, event ≠ .created handler ref) :
    (record event).Respects related anyCall :=
  Async.respects_modify frame.trans fun runtime => frame.record event runtime own other

theorem change_respects (operation : AckState → AckState)
    (entries : ∀ acks, NoNewEntries acks (operation acks)) :
    (modify (Runtime.change operation) : JobBody PUnit).Respects related anyCall :=
  Async.respects_modify frame.trans fun runtime => frame.acks runtime _ (entries runtime.acks)

theorem modifyGet_respects {α : Type} (change : Runtime → α × Runtime)
    (kept : ∀ runtime, related runtime (change runtime).2) :
    (modifyGet change : JobBody α).Respects related anyCall :=
  fun start now near => frame.trans start now _ near (kept now)

theorem onAcks_respects {α : Type} (operation : AckState → α × AckState)
    (entries : ∀ acks, NoNewEntries acks (operation acks).2) :
    (onAcks operation).Respects related anyCall :=
  modifyGet_respects frame _ fun runtime => frame.acks runtime _ (entries runtime.acks)

theorem await_respects (call : JobCall) : (await call).Respects related anyCall :=
  Async.respects_call frame.refl trivial

theorem related_abort (signal : Nat) (reason : JsValue) (runtime : Runtime) :
    related runtime (runtime.change (abort signal reason)) :=
  frame.acks runtime _ (abort_entries signal reason runtime.acks)

theorem related_cancelAllJobs (worker : Nat) (reason : JsValue) (runtime : Runtime) :
    related runtime (cancelAllJobs worker reason runtime) := by
  unfold cancelAllJobs
  generalize runtime.active.filter (fun job => decide (job.worker = worker)) = jobs
  induction jobs generalizing runtime with
  | nil => exact frame.refl runtime
  | cons job rest ih =>
    exact frame.trans _ _ _ (related_abort frame job.signal reason runtime) (ih _)

theorem related_cancelJob (worker : Nat) (jobId reason : JsValue) (runtime : Runtime) :
    related runtime (cancelJob worker jobId reason runtime).2 := by
  unfold cancelJob
  dsimp only
  cases runtime.active.find? fun job =>
    decide (job.worker = worker) && ((runtime.acks.jobAt job.job).get "id").sameString jobId with
  | none => exact frame.refl runtime
  | some job => exact related_abort frame job.signal reason runtime

theorem related_track (task worker job : Nat) (runtime : Runtime) :
    related runtime (track task worker job runtime).2 := by
  have signalled : related runtime { runtime with acks := (newSignal runtime.acks).2 } :=
    frame.acks runtime _ fun _ later stored => ⟨later, stored, rfl, rfl⟩
  exact frame.trans _ _ _ signalled (frame.active _ _)

theorem nodeSend_respects (sendThrows : Option JsError) (msg : JsValue) :
    (nodeSend handler sendThrows msg).Respects related anyCall := by
  unfold nodeSend
  cases sendThrows with
  | none => exact record_respects frame _ rfl (by simp)
  | some error => exact Async.respects_throw error

theorem nodeDone_respects (input : JobInput) (error : Option JsError) :
    (nodeDone handler input error).Respects related anyCall := by
  unfold nodeDone
  by_cases called : input.hasDone
  · rw [if_pos called]
    exact record_respects frame _ rfl (by simp)
  · rw [if_neg called]
    cases error with
    | none => exact Async.respects_pure _
    | some error => exact record_respects frame _ rfl (by simp)

theorem sendDone_respects (input : JobInput) (msg : JsValue) :
    (do nodeSend handler input.sendThrows msg; nodeDone handler input none :
      JobBody Unit).Respects related anyCall :=
  Async.respects_bind (nodeSend_respects frame _ _) fun _ => nodeDone_respects frame input none

theorem settleContext_respects (ref : Nat) (settlement : Settlement) :
    (settleContext handler ref settlement).Respects related anyCall :=
  Async.respects_bind (record_respects frame _ rfl (by simp)) fun _ =>
    change_respects frame _ fun acks => (steady_settle ref settlement acks).entries

omit frame in
theorem currentJob_respects (job : Nat) : (currentJob job).Respects related anyCall :=
  Async.respects_bind Async.respects_get fun _ => Async.respects_pure _

omit frame in
theorem getContext_respects (ackId : JsValue) : (getContext ackId).Respects related anyCall := by
  apply Async.respects_bind Async.respects_get
  intro now
  cases looked : Acknowledgements.get ackId now.acks with
  | error error =>
    simp only [looked]
    exact Async.respects_throw _
  | ok ref =>
    cases stored : now.acks.objects.read ref with
    | none =>
      simp only [looked, stored]
      exact Async.respects_throw _
    | some entry =>
      simp only [looked, stored]
      exact Async.respects_pure _

theorem cancelled_respects (worker : Nat) (reason : JsValue) :
    (modify (cancelAllJobs worker reason) : JobBody PUnit).Respects related anyCall :=
  Async.respects_modify frame.trans (related_cancelAllJobs frame worker reason)

theorem act_respects (input : JobInput) :
    (act bullmq handler input).Respects related anyCall := by
  unfold act
  apply Async.respects_bind (getContext_respects input.ackId)
  intro found
  obtain ⟨ref, context⟩ := found
  have answers : ∀ msg, (do nodeSend handler input.sendThrows msg; nodeDone handler input none :
      JobBody Unit).Respects related anyCall := sendDone_respects frame input
  have finishes := nodeDone_respects frame input none
  cases input.action with
  | none => exact Async.respects_throw _
  | some action =>
    cases action with
    | progress =>
      exact Async.respects_bind (await_respects frame _) fun _ =>
        Async.respects_bind (currentJob_respects _) fun _ => answers _
    | updateData =>
      exact Async.respects_bind (await_respects frame _) fun _ =>
        Async.respects_bind (currentJob_respects _) fun _ => answers _
    | removeDeduplicationKey => exact Async.respects_bind (await_respects frame _) fun _ => answers _
    | getChildrenValues => exact Async.respects_bind (await_respects frame _) fun _ => answers _
    | getFailedChildrenValues => exact Async.respects_bind (await_respects frame _) fun _ => answers _
    | removeUnprocessedChildren => exact Async.respects_bind (await_respects frame _) fun _ => answers _
    | complete => exact Async.respects_bind (settleContext_respects frame _ _) fun _ => answers _
    | fail => exact Async.respects_bind (settleContext_respects frame _ _) fun _ => finishes
    | failUnrecoverable =>
      exact Async.respects_bind (settleContext_respects frame _ _) fun _ => finishes
    | rateLimit =>
      cases asked : context.queue with
      | none =>
        simp only [asked]
        exact Async.respects_throw _
      | some queue =>
        simp only [asked]
        exact Async.respects_bind (await_respects frame _) fun _ =>
          Async.respects_bind (settleContext_respects frame _ _) fun _ => finishes
    | moveToWait =>
      exact Async.respects_bind (await_respects frame _) fun _ =>
        Async.respects_bind (settleContext_respects frame _ _) fun _ => answers _
    | moveToDelayed =>
      by_cases invalid : (!(input.msg.get "delay").toNumber.isFinite ||
          (input.msg.get "delay").toNumber.lt (JsNumber.ofNat 0)) = true
      · simp only [invalid, ↓reduceIte]
        exact Async.respects_throw _
      · simp only [invalid, Bool.false_eq_true, ↓reduceIte]
        exact Async.respects_bind (await_respects frame _) fun _ =>
          Async.respects_bind (settleContext_respects frame _ _) fun _ => answers _
    | cancelJob =>
      apply Async.respects_bind (currentJob_respects _)
      intro job
      apply Async.respects_bind (modifyGet_respects frame _ (related_cancelJob frame _ _ _))
      intro cancelled
      cases cancelled with
      | true => exact answers _
      | false => exact Async.respects_throw _
    | cancelAllJobs =>
      exact Async.respects_bind (cancelled_respects frame _ _) fun _ => answers _

theorem wait_respects (ref : Nat) :
    (wait onAcks awaitSettled ref : JobBody JsValue).Respects related anyCall := by
  unfold wait
  apply Async.respects_bind (onAcks_respects frame _ fun _ ref entry found => ⟨entry, found, rfl, rfl⟩)
  intro settled
  cases settled with
  | some settlement =>
    cases settlement with
    | resolve value => exact Async.respects_pure _
    | reject error => exact Async.respects_throw _
  | none =>
    apply Async.respects_bind (onAcks_respects frame _ fun acks => (steady_onceSettled ref acks).entries)
    intro promise
    apply Async.respects_bind (await_respects frame (.settled promise))
    intro settlement
    cases settlement with
    | resolve value => exact Async.respects_pure _
    | reject error => exact Async.respects_throw _

theorem processor_respects (node : RunNode) (job : Nat) (token : JsValue) (signal : Nat)
    (invocation : Invocation)
    (creates : node.completionMode = "manual" → (∃ queue, invocation.queue = .ok queue) →
      Creates related handler node.id) :
    (processor handler node job token signal invocation).Respects related anyCall := by
  unfold processor
  by_cases manual : node.completionMode = "manual"
  · simp only [manual, ↓reduceIte]
    cases got : invocation.queue with
    | error error => exact Async.respects_throw error
    | ok queue =>
      have own := creates manual ⟨queue, got⟩
      apply Async.respects_bind (modifyGet_respects frame _ fun runtime =>
        own.acks _ _ _ _ runtime rfl)
      intro created
      obtain ⟨ackId, ref⟩ := created
      apply Async.respects_bind (Async.respects_modify frame.trans (own.created ref))
      intro _
      apply Async.respects_bind (currentJob_respects job)
      intro held
      exact Async.respects_bind (nodeSend_respects frame _ _) fun _ => wait_respects frame ref
  · simp only [manual, ↓reduceIte]
    apply Async.respects_bind (currentJob_respects job)
    intro held
    exact Async.respects_bind (nodeSend_respects frame _ _) fun _ => Async.respects_pure _

/-- What is left of a job once the processor has settled. -/
theorem recorded_respects (result : Except JsError JsValue) :
    (do
      let _ ← await .recorded
      modify (untrack handler)
      match result with
      | .ok value => return value
      | .error error => throw error : JobBody JsValue).Respects related anyCall := by
  apply Async.respects_bind (await_respects frame .recorded)
  intro _
  apply Async.respects_bind (Async.respects_modify frame.trans fun runtime => frame.active runtime _)
  intro _
  cases result with
  | ok value => exact Async.respects_pure _
  | error error => exact Async.respects_throw _

/-- Every task but the jobs of a worker. -/
theorem otherTask_respects (task : JobTask)
    (other : ∀ node job token, task ≠ .processJob node job token) :
    (runTask bullmq handler task).Respects related anyCall := by
  have same : ∀ acks : AckState, NoNewEntries acks acks :=
    fun _ _ entry found => ⟨entry, found, rfl, rfl⟩
  cases task with
  | processJob node job token => exact absurd rfl (other node job token)
  | jobInput input =>
    apply Async.respects_bind _ fun _ => Async.respects_pure _
    exact Async.respects_tryCatch (act_respects frame input) fun error =>
      nodeDone_respects frame input (some error)
  | closeRun node =>
    apply Async.respects_bind _ fun _ => Async.respects_pure _
    unfold onCloseRun
    apply Async.respects_bind (change_respects frame _ fun acks =>
      (steady_rejectByRunNode node.id closedBeforeAcknowledgement acks).entries)
    intro _
    apply Async.respects_tryCatch
    · exact Async.respects_bind (await_respects frame _) fun _ => record_respects frame _ rfl (by simp)
    · exact fun _ => record_respects frame _ rfl (by simp)
  | timerFires ref =>
    exact Async.respects_bind (change_respects frame _ fun acks =>
      (steady_timerFires ref acks).entries) fun _ => Async.respects_pure _
  | abort signal reason =>
    exact Async.respects_bind (change_respects frame _ fun acks =>
      abort_entries signal reason acks) fun _ => Async.respects_pure _
  | newJob job =>
    exact Async.respects_bind (onAcks_respects frame _ same) fun _ => Async.respects_pure _
  | changeJob ref job =>
    exact Async.respects_bind (change_respects frame _ same) fun _ => Async.respects_pure _

theorem processJob_respects (node : RunNode) (job : Nat) (token : JsValue)
    (creates : Creates related handler node.id) :
    (runTask bullmq handler (.processJob node job token)).Respects related anyCall := by
  apply Async.respects_bind (modifyGet_respects frame _ (related_track frame handler node.worker job))
  intro signal
  apply Async.respects_bind (await_respects frame .invoke)
  intro invocation
  apply Async.respects_bind
  · apply Async.respects_tryCatch
      (Async.respects_map _ (processor_respects frame _ _ _ _ _ fun _ _ => creates))
    exact fun _ => Async.respects_pure _
  exact recorded_respects frame

theorem runTask_respects (task : JobTask) (creates : ∀ runNodeId, Creates related handler runNodeId) :
    (runTask bullmq handler task).Respects related anyCall := by
  cases task with
  | processJob node job token => exact processJob_respects frame node job token (creates node.id)
  | _ => exact otherTask_respects frame _ (by simp)

end Frame

end NodeRedBull.JobFrames
