import NodeRedBull.Erasure
import NodeRedBull.Library.Twins

/-! Processors and `bullmq job` inputs side by side with others that have other lock tokens and
jobs with other unknown fields: they do the same. -/

namespace NodeRedBull.JobTwins
open Js Library Acknowledgements Serialization JobRuntime Erasure

/-- The same call; only the methods that need the lock of the job see its token. -/
inductive SameCall : JobCall → JobCall → Prop where
  | same (call : JobCall) : SameCall call call
  | moveToWait (job : Nat) (token other : JsValue) :
      SameCall (.job job (.moveToWait token)) (.job job (.moveToWait other))
  | moveToDelayed (job : Nat) (timestamp : JsNumber) (token other : JsValue) :
      SameCall (.job job (.moveToDelayed timestamp token)) (.job job (.moveToDelayed timestamp other))

def jobLike : Likeness Runtime JobCall JobReply := .sameReplies Alike SameCall

/-- The bodies do the same and come to the same. -/
abbrev Same {α : Type} (left right : JobBody α) : Prop := left.Twins jobLike Eq right

variable (handler : Nat)

theorem await_same (call : JobCall) : Same (await call) (await call) :=
  Async.twins_sameCall (.same call)

theorem awaitJob_same (job : Nat) (method : JobMethod) :
    Same (awaitJob job method) (awaitJob job method) :=
  await_same (.job job method)

/-- Methods that differ only in a token differ only in what BullMQ gets. -/
theorem awaitJob_twins {job : Nat} {method other : JobMethod}
    (same : SameCall (.job job method) (.job job other)) :
    Same (awaitJob job method) (awaitJob job other) := by
  apply Async.Twins.await same
  intro reply answer alike
  cases alike with
  | @succeeds left right replied => exact .pure (eq_of_heq replied)
  | fails thrown => exact .throw thrown

theorem record_same (event : Event) : Same (record event) (record event) :=
  Async.twins_modify (fun _ _ alike => alike.record event) rfl

theorem change_same {operation other erased : AckState → AckState}
    (erases : ∀ state, eraseAcks (operation state) = erased (eraseAcks state))
    (other_erases : ∀ state, eraseAcks (other state) = erased (eraseAcks state)) :
    Same (modify (Runtime.change operation)) (modify (Runtime.change other)) :=
  Async.twins_modify (fun _ _ alike => alike.change erases other_erases) rfl

theorem onAcks_same {α : Type} {operation other erased : AckState → α × AckState}
    (erases : ErasesTo operation erased) (other_erases : ErasesTo other erased) :
    Same (onAcks operation) (onAcks other) :=
  Async.twins_modifyGet fun _ _ alike => alike.onAcks erases other_erases

theorem track_same (worker job : Nat) :
    Same (modifyGet (track handler worker job)) (modifyGet (track handler worker job)) :=
  Async.twins_modifyGet fun left right (alike : Alike left right) => alike.track handler worker job

theorem untrack_same : Same (modify (untrack handler)) (modify (untrack handler)) :=
  Async.twins_modify (fun left right (alike : Alike left right) => alike.untrack handler) rfl

theorem cancelJob_same (worker : Nat) (jobId reason : JsValue) :
    Same (modifyGet (cancelJob worker jobId reason)) (modifyGet (cancelJob worker jobId reason)) :=
  Async.twins_modifyGet fun left right (alike : Alike left right) =>
    alike.cancelJob worker jobId reason

theorem cancelAllJobs_same (worker : Nat) (reason : JsValue) :
    Same (modify (cancelAllJobs worker reason)) (modify (cancelAllJobs worker reason)) :=
  Async.twins_modify
    (fun left right (alike : Alike left right) => alike.cancelAllJobs worker reason) rfl

theorem nodeSend_same (sendThrows : Option JsError) (msg : JsValue) :
    Same (nodeSend handler sendThrows msg) (nodeSend handler sendThrows msg) := by
  cases sendThrows with
  | some error => exact Async.twins_throw error
  | none => exact record_same (.sent handler msg)

theorem nodeDone_same (input : JobInput) (error : Option JsError) :
    Same (nodeDone handler input error) (nodeDone handler input error) := by
  unfold nodeDone
  by_cases called : input.hasDone = true
  · rw [if_pos called]
    exact record_same _
  · rw [if_neg called]
    cases error with
    | some thrown => exact record_same _
    | none => exact Async.twins_pure rfl

theorem sendDone_same (input : JobInput) (msg : JsValue) :
    Same (do nodeSend handler input.sendThrows msg; nodeDone handler input none)
      (do nodeSend handler input.sendThrows msg; nodeDone handler input none) :=
  Async.twins_seq (nodeSend_same handler _ msg) fun _ => nodeDone_same handler input none

theorem settleContext_same (ref : Nat) (settlement : Settlement) :
    Same (settleContext handler ref settlement) (settleContext handler ref settlement) :=
  Async.twins_seq (record_same _) fun _ =>
    change_same (erase_settle ref settlement) (erase_settle ref settlement)

/-- What is read of a job serializes to the same. -/
theorem currentJob_twins (job : Nat) :
    (currentJob job).Twins jobLike (fun left right => serializeJob left = serializeJob right)
      (currentJob job) :=
  Async.twins_bind (Async.twins_get fun _ _ alike => alike) fun _ _ alike =>
    Async.twins_pure (alike.serializeJob_eq job)

/-! ## The job node -/

/-- The entry that is found and its context, up to the token. -/
def SameContext (left right : Nat × Context) : Prop :=
  left.1 = right.1 ∧ eraseContext left.2 = eraseContext right.2

theorem getContext_twins (ackId : JsValue) :
    (getContext ackId).Twins jobLike SameContext (getContext ackId) := by
  unfold getContext
  apply Async.twins_bind (Async.twins_get fun _ _ alike => alike)
  intro left right alike
  have acks := ((alike_iff left right).mp alike).1
  have sameEntries : Acknowledgements.get ackId left.acks = Acknowledgements.get ackId right.acks := by
    change Acknowledgements.get ackId (eraseAcks left.acks) =
      Acknowledgements.get ackId (eraseAcks right.acks)
    rw [acks]
  dsimp only
  rw [sameEntries]
  cases Acknowledgements.get ackId right.acks with
  | error error => exact Async.twins_throw error
  | ok ref =>
    have sameEntry : (left.acks.objects.read ref).map eraseEntry =
        (right.acks.objects.read ref).map eraseEntry := by
      rw [← read_eraseAcks, ← read_eraseAcks, acks]
    dsimp only
    cases found : left.acks.objects.read ref with
    | none =>
      cases other_found : right.acks.objects.read ref with
      | none => exact Async.twins_throw _
      | some entry =>
        rw [found, other_found] at sameEntry
        cases sameEntry
    | some entry =>
      cases other_found : right.acks.objects.read ref with
      | none =>
        rw [found, other_found] at sameEntry
        cases sameEntry
      | some other =>
        rw [found, other_found] at sameEntry
        have contexts := congrArg AcknowledgementEntry.context (Option.some.inj sameEntry)
        exact Async.twins_pure ⟨rfl, contexts⟩

/-- Contexts that are the same up to their tokens. -/
theorem eq_of_eraseContext_eq {left right : Context}
    (same : eraseContext left = eraseContext right) :
    right = { left with token := right.token } := by
  cases left
  cases right
  simp only [eraseContext, Context.mk.injEq, and_true] at same
  obtain ⟨rfl, rfl, rfl, rfl, rfl, rfl⟩ := same
  rfl

theorem act_same (bullmq : Bullmq) (input : JobInput) :
    Same (act bullmq handler input) (act bullmq handler input) := by
  unfold act
  apply Async.twins_bind (getContext_twins _)
  intro left right same
  obtain ⟨ref, context⟩ := left
  obtain ⟨other_ref, other⟩ := right
  obtain ⟨sameRef, contexts⟩ := same
  simp only at sameRef contexts
  rw [← sameRef, eq_of_eraseContext_eq contexts]
  have answers : ∀ msg, Same (do nodeSend handler input.sendThrows msg; nodeDone handler input none)
      (do nodeSend handler input.sendThrows msg; nodeDone handler input none) :=
    sendDone_same handler input
  have finishes := nodeDone_same handler input none
  have shows : ∀ job, Same
      (do nodeSend handler input.sendThrows
            (input.msg.set "payload" (serializeJob (← currentJob job)))
          nodeDone handler input none)
      (do nodeSend handler input.sendThrows
            (input.msg.set "payload" (serializeJob (← currentJob job)))
          nodeDone handler input none) := by
    intro job
    apply Async.twins_bind (currentJob_twins job)
    intro one other serialized
    rw [serialized]
    exact answers _
  cases input.action with
  | none => exact Async.twins_throw _
  | some action =>
    cases action with
    | progress => exact Async.twins_seq (awaitJob_same context.job _) fun _ => shows context.job
    | updateData => exact Async.twins_seq (awaitJob_same context.job _) fun _ => shows context.job
    | removeDeduplicationKey => exact Async.twins_seq (awaitJob_same context.job _) fun _ => answers _
    | getChildrenValues => exact Async.twins_seq (awaitJob_same context.job _) fun _ => answers _
    | getFailedChildrenValues => exact Async.twins_seq (awaitJob_same context.job _) fun _ => answers _
    | removeUnprocessedChildren => exact Async.twins_seq (awaitJob_same context.job _) fun _ => answers _
    | complete => exact Async.twins_seq (settleContext_same handler _ _) fun _ => answers _
    | fail => exact Async.twins_seq (settleContext_same handler _ _) fun _ => finishes
    | failUnrecoverable => exact Async.twins_seq (settleContext_same handler _ _) fun _ => finishes
    | rateLimit =>
      cases asked : context.queue with
      | none =>
        simp only [asked]
        exact Async.twins_throw _
      | some queue =>
        simp only [asked]
        exact Async.twins_seq (await_same _) fun _ =>
          Async.twins_seq (settleContext_same handler _ _) fun _ => finishes
    | moveToWait =>
      exact Async.twins_seq (awaitJob_twins (.moveToWait context.job _ _)) fun _ =>
        Async.twins_seq (settleContext_same handler _ _) fun _ => answers _
    | moveToDelayed =>
      by_cases invalid : (!(input.msg.get "delay").toNumber.isFinite ||
          (input.msg.get "delay").toNumber.lt (JsNumber.ofNat 0)) = true
      · simp only [invalid, ↓reduceIte]
        exact Async.twins_throw _
      · simp only [invalid, Bool.false_eq_true, ↓reduceIte]
        exact Async.twins_seq (awaitJob_twins (.moveToDelayed context.job _ _ _)) fun _ =>
          Async.twins_seq (settleContext_same handler _ _) fun _ => answers _
    | cancelJob =>
      apply Async.twins_bind (currentJob_twins _)
      intro one other_job serialized
      rw [get_eq_of_serializeJob_eq serialized "id" (by decide)]
      apply Async.twins_seq (cancelJob_same context.worker _ _)
      intro cancelled
      cases cancelled with
      | true => exact answers _
      | false => exact Async.twins_throw _
    | cancelAllJobs =>
      exact Async.twins_seq (cancelAllJobs_same context.worker _) fun _ => answers _

/-! ## The run node -/

theorem wait_same (ref : Nat) :
    Same (wait onAcks awaitSettled ref : JobBody JsValue) (wait onAcks awaitSettled ref) := by
  have reads : ErasesTo (fun state => (settlementOf ref state, state))
      (fun state => (settlementOf ref state, state)) := by
    intro state
    change (settlementOf ref (eraseAcks state), eraseAcks state) =
      (settlementOf ref state, eraseAcks state)
    rw [settlementOf_eraseAcks]
  unfold wait
  apply Async.twins_seq (onAcks_same reads reads)
  intro settled
  cases settled with
  | some settlement =>
    cases settlement with
    | resolve value => exact Async.twins_pure rfl
    | reject error => exact Async.twins_throw error
  | none =>
    apply Async.twins_seq (onAcks_same (erase_onceSettled ref) (erase_onceSettled ref))
    intro promise
    apply Async.twins_seq (await_same (.settled promise))
    intro settlement
    cases settlement with
    | resolve value => exact Async.twins_pure rfl
    | reject error => exact Async.twins_throw error

theorem create_same (context : Context) (other : JsValue) (timeoutMs now : JsNumber)
    (random : String) :
    Same (onAcks (create context timeoutMs now random))
      (onAcks (create { context with token := other } timeoutMs now random)) :=
  onAcks_same (erase_create context timeoutMs now random)
    (erase_create { context with token := other } timeoutMs now random)

theorem createJobMessage_eq {left right : JsValue} (same : serializeJob left = serializeJob right)
    (queueName : String) (extraBull : List (String × JsValue)) :
    createJobMessage left queueName extraBull = createJobMessage right queueName extraBull := by
  unfold createJobMessage
  rw [same, get_eq_of_serializeJob_eq same "data" (by decide),
    get_eq_of_serializeJob_eq same "id" (by decide)]

theorem processor_same (node : RunNode) (job : Nat) (token other : JsValue) (signal : Nat)
    (invocation : Invocation) :
    Same (processor handler node job token signal invocation)
      (processor handler node job other signal invocation) := by
  unfold processor
  by_cases manual : node.completionMode = "manual"
  · simp only [manual, ↓reduceIte]
    cases invocation.queue with
    | error error => exact Async.twins_throw error
    | ok queue =>
      apply Async.twins_seq (Async.twins_pure rfl)
      intro queue
      apply Async.twins_seq (create_same
        { job, queue, queueName := node.queueName, runNodeId := node.id, worker := node.worker,
          signal := some signal, token } other _ _ _)
      intro created
      obtain ⟨ackId, ref⟩ := created
      apply Async.twins_seq (record_same _)
      intro _
      apply Async.twins_bind (currentJob_twins job)
      intro one other_job serialized
      rw [createJobMessage_eq serialized]
      exact Async.twins_seq (nodeSend_same handler _ _) fun _ => wait_same ref
  · simp only [manual, ↓reduceIte]
    apply Async.twins_bind (currentJob_twins job)
    intro one other_job serialized
    rw [createJobMessage_eq serialized]
    exact Async.twins_seq (nodeSend_same handler _ _) fun _ => Async.twins_pure rfl

theorem processJob_same (node : RunNode) (job : Nat) (token other : JsValue) :
    Same (processJob handler node job token) (processJob handler node job other) := by
  unfold processJob
  apply Async.twins_seq (track_same handler node.worker job)
  intro signal
  apply Async.twins_seq (await_same .invoke)
  intro invocation
  apply Async.twins_seq
  · apply Async.twins_tryCatch
    · exact Async.twins_map (processor_same handler node job token other signal invocation)
        fun _ _ same => congrArg Except.ok same
    · exact fun _ => Async.twins_pure rfl
  intro result
  apply Async.twins_seq (await_same .recorded)
  intro _
  apply Async.twins_seq (untrack_same handler)
  intro _
  cases result with
  | ok value => exact Async.twins_pure rfl
  | error error => exact Async.twins_throw error

theorem onCloseRun_same (node : RunNode) :
    Same (onCloseRun handler node) (onCloseRun handler node) := by
  unfold onCloseRun
  apply Async.twins_seq (change_same (erase_rejectByRunNode node.id closedBeforeAcknowledgement)
    (erase_rejectByRunNode node.id closedBeforeAcknowledgement))
  intro _
  apply Async.twins_tryCatch
  · exact Async.twins_seq (await_same _) fun _ => record_same _
  · exact fun _ => record_same _

/-! ## Tasks -/

/-- The same task: only a token, or unknown fields of a job object, may differ. -/
inductive SameTask : JobTask → JobTask → Prop where
  | same (task : JobTask) : SameTask task task
  | processJob (node : RunNode) (job : Nat) (token other : JsValue) :
      SameTask (.processJob node job token) (.processJob node job other)
  | newJob {job other : JsValue} (same : SameKnown job other) : SameTask (.newJob job) (.newJob other)
  | changeJob (ref : Nat) {job other : JsValue} (same : SameKnown job other) :
      SameTask (.changeJob ref job) (.changeJob ref other)

theorem newJob_same {job other : JsValue} (same : SameKnown job other) :
    Same (onAcks (newJob job)) (onAcks (newJob other)) := by
  have erased := erase_newJob other
  rw [← serializeJob_eq_of_sameKnown same] at erased
  exact onAcks_same (erase_newJob job) erased

theorem changeJob_same (ref : Nat) {job other : JsValue} (same : SameKnown job other) :
    Same (modify (Runtime.change (changeJob ref job)))
      (modify (Runtime.change (changeJob ref other))) := by
  have erased := erase_changeJob ref other
  rw [← serializeJob_eq_of_sameKnown same] at erased
  exact change_same (erase_changeJob ref job) erased

theorem sameKnown_refl (job : JsValue) : SameKnown job job := .inl rfl

theorem runTask_same (bullmq : Bullmq) {task other : JobTask} (same : SameTask task other) :
    Same (runTask bullmq handler task) (runTask bullmq handler other) := by
  cases same with
  | processJob node job token other => exact processJob_same handler node job token other
  | newJob same => exact Async.twins_seq (newJob_same same) fun _ => Async.twins_pure rfl
  | changeJob ref same => exact Async.twins_seq (changeJob_same ref same) fun _ => Async.twins_pure rfl
  | same task =>
    cases task with
    | processJob node job token => exact processJob_same handler node job token token
    | newJob job =>
      exact Async.twins_seq (newJob_same (sameKnown_refl job)) fun _ => Async.twins_pure rfl
    | changeJob ref job =>
      exact Async.twins_seq (changeJob_same ref (sameKnown_refl job)) fun _ => Async.twins_pure rfl
    | jobInput input =>
      apply Async.twins_seq _ fun _ => Async.twins_pure rfl
      exact Async.twins_tryCatch (act_same handler bullmq input) fun error =>
        nodeDone_same handler input (some error)
    | closeRun node =>
      exact Async.twins_seq (onCloseRun_same handler node) fun _ => Async.twins_pure rfl
    | timerFires ref =>
      exact Async.twins_seq (change_same (erase_timerFires ref) (erase_timerFires ref)) fun _ =>
        Async.twins_pure rfl
    | abort signal reason =>
      exact Async.twins_seq (change_same (erase_abort signal reason) (erase_abort signal reason))
        fun _ => Async.twins_pure rfl

end NodeRedBull.JobTwins
