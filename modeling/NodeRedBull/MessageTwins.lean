import NodeRedBull.JobTwins
import NodeRedBull.MessageNodes
import NodeRedBull.TerminalActions

/-! Two runs of all message nodes that differ in lock tokens and in unknown fields of job objects
send the same messages. -/

namespace NodeRedBull.MessageTwins
open Js Library Acknowledgements Serialization FlowSerialization FlowDefaults JobRuntime Commands
  MessageNodes Erasure JobTwins

theorem serializeRef_eq {left right : Runtime} (alike : Alike left right) (job : Option Nat) :
    serializeRef left.acks.jobAt job = serializeRef right.acks.jobAt job := by
  cases job with
  | none => rfl
  | some job => exact alike.serializeJob_eq job

/-! ## Commands -/

def commandLike : Likeness Runtime CommandCall CommandReply := .sameReplies Alike Eq

/-- A command comes to the same from states that are alike. -/
abbrev Blind {α : Type} (body : CommandBody α) : Prop := body.Twins commandLike Eq body

variable (queue : Nat) (msg : JsValue)

theorem call_blind (call : CommandCall) : Blind (Async.call call) := Async.twins_sameCall rfl

theorem onQueue_blind (method : QueueMethod) (args : List JsValue) :
    Blind (onQueue queue method args) :=
  call_blind (.queue queue method args)

theorem onJob_blind (job : Nat) (method : CommandJobMethod) (args : List JsValue) :
    Blind (onJob job method args) :=
  call_blind (.job job method args)

theorem orThrow_blind {α : Type} (result : Except JsError α) : Blind (orThrow result) := by
  cases result with
  | ok value => exact Async.twins_pure rfl
  | error error => exact Async.twins_throw error

theorem serializeCurrent_blind (job : Option Nat) : Blind (serializeCurrent job) :=
  Async.twins_bind (Async.twins_get fun _ _ alike => alike) fun _ _ alike =>
    Async.twins_pure (serializeRef_eq alike job)

theorem serializeJobs_blind (jobs : List (Option Nat)) : Blind (serializeJobs jobs) := by
  apply Async.twins_bind (Async.twins_get fun _ _ alike => alike)
  intro left right alike
  have serialized : jobs.map (serializeRef left.acks.jobAt) =
      jobs.map (serializeRef right.acks.jobAt) :=
    List.map_congr_left fun job _ => serializeRef_eq alike job
  rw [serialized]
  exact Async.twins_pure rfl

theorem getRequiredJob_blind : Blind (getRequiredJob queue msg) := by
  unfold getRequiredJob
  by_cases missing : trimText ((msg.get "jobId").orElse (.string "")).toText = ""
  · simp only [missing, ↓reduceIte]
    exact Async.twins_throw _
  · simp only [missing, ↓reduceIte]
    apply Async.twins_seq (onQueue_blind queue .getJob _)
    intro job
    cases job with
    | some job => exact Async.twins_pure rfl
    | none => exact Async.twins_throw _

theorem dispatchAdd_blind : Blind (dispatchAdd queue msg) := by
  unfold dispatchAdd
  by_cases repetition : hasRepeat ((msg.get "jobopts").orElse (.object [])) = true
  · simp only [repetition, ↓reduceIte]
    exact Async.twins_throw _
  · simp only [repetition, Bool.false_eq_true, ↓reduceIte]
    exact Async.twins_seq (onQueue_blind queue .add _) fun job => serializeCurrent_blind job

theorem dispatchAddBulk_blind : Blind (dispatchAddBulk queue msg) := by
  have added : ∀ jobs, Blind (do serializeJobs (← onQueue queue .addBulk [jobs])) :=
    fun jobs => Async.twins_seq (onQueue_blind queue .addBulk _) fun added =>
      serializeJobs_blind added
  unfold dispatchAddBulk
  cases (msg.get "payload").orElse (.array []) with
  | array items =>
    by_cases repetition : items.any repeats = true
    · simp only [repetition, ↓reduceIte]
      exact Async.twins_throw _
    · simp only [repetition, Bool.false_eq_true, ↓reduceIte]
      exact added _
  | _ => exact added _

theorem dispatchUpsertJobScheduler_blind : Blind (dispatchUpsertJobScheduler queue msg) := by
  unfold dispatchUpsertJobScheduler
  by_cases malformed : (!(msg.get "repeat").isObject || (msg.get "repeat").isArray) = true
  · simp only [malformed, ↓reduceIte]
    exact Async.twins_throw _
  · by_cases old : ((msg.get "repeat").hasOwn "cron" || (msg.get "repeat").hasOwn "utc") = true
    · simp only [malformed, old, Bool.false_eq_true, ↓reduceIte]
      exact Async.twins_throw _
    · simp only [malformed, old, Bool.false_eq_true, ↓reduceIte]
      apply Async.twins_seq (orThrow_blind _)
      intro schedulerId
      exact Async.twins_seq (onQueue_blind queue .upsertJobScheduler _) fun job =>
        serializeCurrent_blind job

theorem removeSchedulers_blind (schedulers : List JsValue) :
    Blind (removeSchedulers queue schedulers) := by
  induction schedulers with
  | nil => exact Async.twins_pure rfl
  | cons scheduler rest ih =>
    unfold removeSchedulers
    apply Async.twins_seq (orThrow_blind _)
    intro id
    by_cases named : id.truthy = true
    · simp only [named, ↓reduceIte]
      apply Async.twins_seq (onQueue_blind queue .removeJobScheduler _)
      intro _
      exact Async.twins_seq ih fun _ => Async.twins_pure rfl
    · simp only [named, Bool.false_eq_true, ↓reduceIte]
      exact ih

theorem cleanAll_blind (states : List String) : Blind (cleanAll queue states) := by
  induction states with
  | nil => exact Async.twins_pure rfl
  | cons state rest ih =>
    apply Async.twins_seq (onQueue_blind queue .clean _)
    intro _
    exact Async.twins_seq ih fun _ => Async.twins_pure rfl

theorem dispatchStopAndRemoveAllJobs_blind : Blind (dispatchStopAndRemoveAllJobs queue) := by
  apply Async.twins_seq (onQueue_blind queue .getJobSchedulers _)
  intro schedulers
  apply Async.twins_seq (removeSchedulers_blind queue schedulers)
  intro removed
  apply Async.twins_seq (onQueue_blind queue .drain _)
  intro _
  exact Async.twins_seq (cleanAll_blind queue cleanStates) fun _ => Async.twins_pure rfl

theorem dispatchSetGlobalRateLimit_blind : Blind (dispatchSetGlobalRateLimit queue msg) := by
  unfold dispatchSetGlobalRateLimit
  by_cases missing : (isNullish (fieldOrPayload msg "max") ||
      isNullish (fieldOrPayload msg "duration")) = true
  · simp only [missing, ↓reduceIte]
    exact Async.twins_throw _
  · simp only [missing, Bool.false_eq_true, ↓reduceIte]
    exact Async.twins_seq (onQueue_blind queue .setGlobalRateLimit _) fun _ => Async.twins_pure rfl

theorem changeRequiredJob_blind (method : CommandJobMethod) (args : List JsValue) :
    Blind (changeRequiredJob queue msg method args) := by
  apply Async.twins_seq (getRequiredJob_blind queue msg)
  intro job
  exact Async.twins_seq (onJob_blind job method args) fun _ => serializeCurrent_blind (some job)

theorem thenTrue_blind (method : QueueMethod) (args : List JsValue) :
    Blind (thenTrue queue method args) :=
  Async.twins_seq (onQueue_blind queue method args) fun _ => Async.twins_pure rfl

theorem runCommand_blind (command : Command) : Blind (runCommand queue msg command) := by
  cases command with
  | add => exact dispatchAdd_blind queue msg
  | addBulk => exact dispatchAddBulk_blind queue msg
  | getJob =>
    exact Async.twins_seq (onQueue_blind queue .getJob _) fun job => serializeCurrent_blind job
  | getJobs =>
    exact Async.twins_seq (onQueue_blind queue .getJobs _) fun jobs => serializeJobs_blind jobs
  | getDelayed =>
    exact Async.twins_seq (onQueue_blind queue .getDelayed _) fun jobs => serializeJobs_blind jobs
  | getPrioritized =>
    exact Async.twins_seq (onQueue_blind queue .getPrioritized _) fun jobs =>
      serializeJobs_blind jobs
  | getJobState =>
    exact Async.twins_seq (getRequiredJob_blind queue msg) fun job => onJob_blind job _ _
  | removeJob =>
    apply Async.twins_seq (getRequiredJob_blind queue msg)
    intro job
    exact Async.twins_seq (onJob_blind job .remove []) fun _ => Async.twins_pure rfl
  | retryJob | changeDelay | promoteJob | changePriority =>
    exact changeRequiredJob_blind queue msg _ _
  | upsertJobScheduler => exact dispatchUpsertJobScheduler_blind queue msg
  | getJobScheduler =>
    apply Async.twins_seq (orThrow_blind _)
    intro schedulerId
    exact Async.twins_seq (onQueue_blind queue .getJobScheduler _) fun _ => Async.twins_pure rfl
  | getJobSchedulers =>
    exact Async.twins_seq (onQueue_blind queue .getJobSchedulers _) fun _ => Async.twins_pure rfl
  | removeJobScheduler =>
    exact Async.twins_seq (orThrow_blind _) fun _ => onQueue_blind queue .removeJobScheduler _
  | getJobCounts =>
    exact Async.twins_seq (orThrow_blind _) fun _ => onQueue_blind queue .getJobCounts _
  | pause | resume | drain | setGlobalConcurrency | rateLimit => exact thenTrue_blind queue _ _
  | stopAndRemoveAllJobs => exact dispatchStopAndRemoveAllJobs_blind queue
  | setGlobalRateLimit => exact dispatchSetGlobalRateLimit_blind queue msg
  | _ => exact onQueue_blind queue _ _

theorem dispatchCommand_blind : Blind (dispatchCommand queue msg) := by
  have runs : Blind (do runCommand queue msg (← orThrow (commandOf msg))) :=
    Async.twins_seq (orThrow_blind _) fun command => runCommand_blind queue msg command
  unfold dispatchCommand
  by_cases command : (!(msg.get "cmd").isPresent && (msg.get "command").isPresent) = true
  · simp only [command, ↓reduceIte]
    exact Async.twins_throw _
  · by_cases jobid : (!(msg.get "jobId").isPresent && (msg.get "jobid").isPresent) = true
    · simp only [command, jobid, Bool.false_eq_true, ↓reduceIte]
      exact Async.twins_throw _
    · simp only [command, jobid, Bool.false_eq_true, ↓reduceIte]
      exact runs

/-! ## Nodes -/

/-- The same call, up to the token of a job method. -/
inductive SameNodeCall : NodeCall → NodeCall → Prop where
  | same (call : NodeCall) : SameNodeCall call call
  | job {call other : JobCall} (same : SameCall call other) : SameNodeCall (.job call) (.job other)

def nodeStates : Likeness Runtime NodeCall NodeReply := .sameReplies Alike SameNodeCall

abbrev SameBody {α : Type} (left right : NodeBody α) : Prop := left.Twins nodeStates Eq right

theorem asJob_same {α : Type} {left right : JobBody α} (same : Same left right) :
    SameBody (asJob left) (asJob right) := by
  have states : ∀ one other, nodeStates.states one other ↔ jobLike.states one other :=
    fun _ _ => Iff.rfl
  have replies : ∀ (one other : JobCall) (left : JobReply one) (right : JobReply other),
      nodeStates.replies (.job one) (.job other) left right →
        jobLike.replies one other left right := fun _ _ _ _ replied => replied
  exact Async.twins_embed states (fun _ _ => SameNodeCall.job) replies same

theorem asCommand_same {α : Type} {body : CommandBody α} (blind : Blind body) :
    SameBody (asCommand body) (asCommand body) := by
  have states : ∀ one other, nodeStates.states one other ↔ commandLike.states one other :=
    fun _ _ => Iff.rfl
  have calls : ∀ one other : CommandCall, one = other →
      SameNodeCall (.command one) (.command other) := by
    intro one other same
    rw [same]
    exact .same (.command other)
  have replies : ∀ (one other : CommandCall) (left : CommandReply one) (right : CommandReply other),
      nodeStates.replies (.command one) (.command other) left right →
        commandLike.replies one other left right := fun _ _ _ _ replied => replied
  exact Async.twins_embed states calls replies blind

variable (handler : Nat)

theorem sendPayload_same (input : NodeInput) (payload : JsValue) :
    SameBody (sendPayload handler input payload) (sendPayload handler input payload) :=
  Async.twins_seq (asJob_same (nodeSend_same handler _ _)) fun _ =>
    asJob_same (nodeDone_same handler _ none)

theorem failInput_same (input : NodeInput) (error : JsError) :
    SameBody (failInput handler input error) (failInput handler input error) :=
  asJob_same (nodeDone_same handler _ (some error))

theorem onInputCmd_same (input : CmdInput) :
    SameBody (onInputCmd handler input) (onInputCmd handler input) := by
  apply Async.twins_tryCatch _ fun error => failInput_same handler input.toNodeInput error
  apply Async.twins_seq (asCommand_same (orThrow_blind _))
  intro queue
  exact Async.twins_seq (asCommand_same (dispatchCommand_blind queue input.msg)) fun result =>
    sendPayload_same handler input.toNodeInput result

theorem flowPayload_same (request : FlowRequest) (heap : Heap) :
    SameBody (flowPayload request heap) (flowPayload request heap) := by
  cases request with
  | add flow options =>
    have asked : SameBody (Async.call (NodeCall.flow (.add flow options) heap))
        (Async.call (NodeCall.flow (.add flow options) heap)) := Async.twins_sameCall (.same _)
    apply Async.twins_seq asked
    intro tree
    apply Async.twins_bind (Async.twins_get fun _ _ alike => alike)
    intro left right alike
    rw [serializeFlowJob_congr (serializeRef_eq alike) tree]
    exact Async.twins_pure rfl
  | addBulk flows =>
    have asked : SameBody (Async.call (NodeCall.flow (.addBulk flows) heap))
        (Async.call (NodeCall.flow (.addBulk flows) heap)) := Async.twins_sameCall (.same _)
    apply Async.twins_seq asked
    intro trees
    apply Async.twins_bind (Async.twins_get fun _ _ alike => alike)
    intro left right alike
    rw [serializeFlowJobs_congr (serializeRef_eq alike) trees]
    exact Async.twins_pure rfl

theorem onInputFlow_same (input : FlowInput) :
    SameBody (onInputFlow handler input) (onInputFlow handler input) := by
  apply Async.twins_tryCatch _ fun error => failInput_same handler input.toNodeInput error
  apply Async.twins_seq (asCommand_same (orThrow_blind _))
  intro request
  exact Async.twins_seq (flowPayload_same request input.request.2) fun payload =>
    sendPayload_same handler input.toNodeInput payload

/-! ## Runs -/

inductive SameNodeTask : NodeTask → NodeTask → Prop where
  | job {task other : JobTask} (same : SameTask task other) : SameNodeTask (.job task) (.job other)
  | cmdInput (input : CmdInput) : SameNodeTask (.cmdInput input) (.cmdInput input)
  | flowInput (input : FlowInput) : SameNodeTask (.flowInput input) (.flowInput input)

/-- What BullMQ and the environment answer is the same. What a handler gets for an event of its
own acknowledgement is nobody's choice, and nothing is assumed of it. -/
def SameReply (one other : NodeCall) (reply : Except JsError (NodeReply one))
    (answer : Except JsError (NodeReply other)) : Prop :=
  (∀ promise, one ≠ .job (.settled promise)) → HEq reply answer

/-- Runs that are equal but for lock tokens and unknown fields of job objects. -/
def nodeLike : PoolLikeness Runtime NodeCall NodeReply JsError JsValue NodeTask where
  toLikeness := nodeStates
  tasks := SameNodeTask
  results := Eq
  assumed := SameReply

theorem nodeTask_same (bullmq : Bullmq) {task other : NodeTask} (same : SameNodeTask task other) :
    SameBody (nodeTask bullmq handler task) (nodeTask bullmq handler other) := by
  cases same with
  | job same => exact asJob_same (runTask_same handler bullmq same)
  | cmdInput input =>
    exact Async.twins_seq (onInputCmd_same handler input) fun _ => Async.twins_pure rfl
  | flowInput input =>
    exact Async.twins_seq (onInputFlow_same handler input) fun _ => Async.twins_pure rfl

theorem answers_refl (call : NodeCall) (reply : Except JsError (NodeReply call)) :
    nodeStates.Answers call call reply reply := by
  cases reply with
  | ok value => exact .succeeds HEq.rfl
  | error error => exact .fails error

theorem methodAnswers_refl (job : Nat) (method other : JobMethod) (reply : Except JsError JsValue) :
    nodeStates.Answers (.job (.job job method)) (.job (.job job other)) reply reply := by
  cases reply with
  | ok value => exact .succeeds (HEq.refl value)
  | error error => exact .fails error

/-- States that are alike settle an event promise alike. -/
theorem settled_same {left right : NodePool} (alike : Alike left.shared right.shared)
    {index promise : Nat} {reply answer : Except JsError Settlement}
    (answered : NodeAnswer left index (.job (.settled promise)) reply)
    (other_answered : NodeAnswer right index (.job (.settled promise)) answer) : reply = answer := by
  obtain ⟨_, _, _, found, settlement, stored, settled, replied⟩ := answered
  obtain ⟨_, _, _, other, other_settlement, other_stored, other_settled, other_replied⟩ :=
    other_answered
  have acks := ((alike_iff _ _).mp alike).1
  have promises : (eraseAcks left.shared.acks).promises = (eraseAcks right.shared.acks).promises := by
    rw [acks]
  change left.shared.acks.promises = right.shared.acks.promises at promises
  rw [promises, other_stored] at stored
  rw [Option.some.inj stored, settled] at other_settled
  rw [replied, other_replied, Option.some.inj other_settled]

theorem nodeAnswers_same {left right : NodePool} (alike : nodeLike.Alike left right)
    {index : Nat} {one other : NodeCall} {reply : Except JsError (NodeReply one)}
    {answer : Except JsError (NodeReply other)} (same : SameNodeCall one other)
    (assumed : SameReply one other reply answer) (answered : NodeAnswer left index one reply)
    (other_answered : NodeAnswer right index other answer) :
    nodeStates.Answers one other reply answer := by
  by_cases own : ∃ promise, one = .job (.settled promise)
  · obtain ⟨promise, settled⟩ := own
    subst settled
    have equal : other = .job (.settled promise) := by
      cases same with
      | same call => rfl
      | job same =>
        cases same
        rfl
    subst equal
    rw [settled_same alike.1 answered other_answered]
    exact answers_refl _ answer
  · have replied := assumed fun promise equal => own ⟨promise, equal⟩
    cases same with
    | same =>
      rw [eq_of_heq replied]
      exact answers_refl one answer
    | job same =>
      cases same with
      | same =>
        rw [eq_of_heq replied]
        exact answers_refl _ answer
      | moveToWait job token other =>
        rw [eq_of_heq replied]
        exact methodAnswers_refl job (.moveToWait token) (.moveToWait other) answer
      | moveToDelayed job timestamp token other =>
        rw [eq_of_heq replied]
        exact methodAnswers_refl job (.moveToDelayed timestamp token) (.moveToDelayed timestamp other)
          answer

theorem nodeLike_respected (bullmq : Bullmq) : nodeLike.Respected (nodeSystem bullmq) where
  bodies := fun index _ _ same => nodeTask_same index bullmq same
  forks := fun _ _ _ _ => .nil
  answers := fun _ _ _ _ _ _ _ alike same assumed answered other_answered =>
    nodeAnswers_same alike same assumed answered other_answered

abbrev NodeMove := PoolMove NodeCall NodeReply JsError NodeTask

/-- Neither lock tokens nor what else a live job object holds has an influence on messages, and a
flow tree is sent as BullMQ returned it, with its jobs serialized. -/
theorem messages_blind (bullmq : Bullmq) :
    (∀ (left right : NodePool) (moves others : List NodeMove),
      Path (nodeSystem bullmq).Step emptyNodePool moves left →
      Path (nodeSystem bullmq).Step emptyNodePool others right →
      List.Forall₂ nodeLike.SameMove moves others →
        sentMessages left.shared = sentMessages right.shared) ∧
    ∀ (jobAt : Nat → JsValue) (flow : FlowJob),
      treeOf (serializeFlowJob jobAt flow) = flow.map (serializeRef jobAt) ∧
        (treeOf (serializeFlowJob jobAt flow)).shape = flow.shape ∧
        (treeOf (serializeFlowJob jobAt flow)).count = flow.count := by
  constructor
  · intro left right moves others run other_run same
    have alike : nodeLike.Alike left right :=
      PoolLikeness.Alike.run (nodeLike_respected bullmq) run other_run same ⟨rfl, .nil⟩
    have log := ((alike_iff _ _).mp alike.1).2.2
    unfold sentMessages
    rw [log]
  · intro jobAt flow
    have serialized := treeOf_serializeFlowJob jobAt flow
    exact ⟨serialized, by rw [serialized, FlowTree.shape_map], by
      rw [serialized, FlowTree.count_map]⟩

/-! ## Two runs of a manual run node -/

/-- A job with a field that no message shows. -/
def guardedJob (secret : String) : JsValue :=
  .object [("id", .string "1"), ("client", .string secret)]

def quietInvocation : Invocation := ⟨JsNumber.ofNat 0, "r", .ok (some 0), none⟩

/-- BullMQ invokes the processor. -/
def invokeWith : (call : NodeCall) → Except JsError (NodeReply call)
  | .job .invoke => .ok quietInvocation
  | _ => .error (newError "unavailable")

def guardedMoves (token secret : String) : List NodeMove :=
  [.start (.job (.newJob (guardedJob secret))),
    .start (.job (.processJob TerminalActions.manualNode 0 (.string token))),
    .resume 1 (.job .invoke) (invokeWith (.job .invoke))]

def guardedStart (token secret : String) : NodePool :=
  (nodeSystem TerminalActions.exampleBullmq).start
    ((nodeSystem TerminalActions.exampleBullmq).start emptyNodePool
      (.job (.newJob (guardedJob secret))))
    (.job (.processJob TerminalActions.manualNode 0 (.string token)))

def guardedRun (token secret : String) : NodePool :=
  (nodeSystem TerminalActions.exampleBullmq).resumeWith (guardedStart token secret) 1 invokeWith

theorem guardedRun_path (token secret : String) :
    Path (nodeSystem TerminalActions.exampleBullmq).Step emptyNodePool (guardedMoves token secret)
      (guardedRun token secret) := by
  have fresh : Fresh (.processJob TerminalActions.manualNode 0 (.string token)) quietInvocation
      (guardedStart token secret).shared.acks := by
    intro ref entry found
    cases found
  have waiting : (guardedStart token secret).tasks[1]? =
      some (.job (.processJob TerminalActions.manualNode 0 (.string token)),
        .awaiting (.job .invoke) _) := rfl
  have answered : NodeAnswer (guardedStart token secret) 1 (.job .invoke)
      (invokeWith (.job .invoke)) := ⟨_, _, waiting, quietInvocation, rfl, fresh⟩
  have invoked : (nodeSystem TerminalActions.exampleBullmq).Step (guardedStart token secret)
      (.resume 1 (.job .invoke) (invokeWith (.job .invoke)))
      ((nodeSystem TerminalActions.exampleBullmq).resumeWith (guardedStart token secret) 1
        invokeWith) :=
    System.step_resumeWith waiting answered
  exact .cons (.start trivial) (.cons (.start trivial) (.cons invoked (.nil _)))

theorem guardedJob_sameKnown (secret other : String) :
    SameKnown (guardedJob secret) (guardedJob other) := by
  refine .inr ⟨rfl, rfl, ?_⟩
  intro field member
  have visible : ∀ name ∈ knownFields, name ≠ "client" := by decide
  have hidden : ¬"client" = field := fun same => visible field member same.symm
  change JsValue.field _ field = JsValue.field _ field
  simp [JsValue.field, List.find?_cons, hidden]

theorem messages_blind_guarded :
    sentMessages (guardedRun "t1" "a").shared = sentMessages (guardedRun "t2" "b").shared ∧
      (sentMessages (guardedRun "t1" "a").shared).length = 1 := by
  refine ⟨(messages_blind TerminalActions.exampleBullmq).1 _ _ _ _ (guardedRun_path "t1" "a")
    (guardedRun_path "t2" "b") ?_, rfl⟩
  exact .cons (.start (.job (.newJob (guardedJob_sameKnown "a" "b"))))
    (.cons (.start (.job (.processJob _ 0 _ _))) (.cons (.resume fun _ => HEq.rfl) .nil))

end NodeRedBull.MessageTwins
