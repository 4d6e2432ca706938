import NodeRedBull.JobFrames
import NodeRedBull.TerminalActions

/-! How long acknowledgements stay in the registry: no longer than the processor call that created
them, and no longer than their run node. -/

namespace NodeRedBull.AcknowledgementLifetime
open Js Library Acknowledgements AcknowledgementInvariant AcknowledgementCreation
open AcknowledgementEffect JobRuntime JobInvariant JobOutline JobFrames TerminalActions

/-- The processor has returned or thrown: BullMQ is about to record its result, or has done so. -/
def ProcessorSettled : Paused Runtime JobCall JobReply JsError JsValue → Prop
  | .awaiting .recorded _ => True
  | .finished _ => True
  | _ => False

/-- Whenever a processor of a manual-mode job is called and gets its queue, the message can be
sent, and no close handler of its run node is waiting for the worker to close. -/
def Orderly (pool : JobPool) : PoolMove JobCall JobReply JsError JobTask → Prop
  | .resume index .invoke (.ok invocation) => ∀ node job token paused,
      pool.tasks[index]? = some (.processJob node job token, paused) →
      node.completionMode = "manual" → (∃ queue, invocation.queue = .ok queue) →
      invocation.sendThrows = none ∧ ∀ (other : Nat) closing call next,
        pool.tasks[other]? = some (.closeRun closing, .awaiting call next) → closing.id ≠ node.id
  | _ => True

theorem allowed_of_orderly (pool : JobPool) (move : PoolMove JobCall JobReply JsError JobTask)
    (_ : Orderly pool move) : Allowed False False pool move := by
  cases move with
  | start task => trivial
  | resume index call reply => exact fun _ _ _ => ⟨False.elim, False.elim⟩

/-! ## What a segment adds to the registry -/

/-- Nothing is created. -/
structure Quiet (before after : Runtime) : Prop where
  entries : NoNewEntries before.acks after.acks
  created : ∀ handler ref, .created handler ref ∈ after.log → .created handler ref ∈ before.log

theorem quiet_refl (runtime : Runtime) : Quiet runtime runtime :=
  ⟨fun _ entry found => ⟨entry, found, rfl, rfl⟩, fun _ _ logged => logged⟩

theorem noNewEntries_trans {first second third : AckState} (left : NoNewEntries first second)
    (right : NoNewEntries second third) : NoNewEntries first third := by
  intro ref later stored
  obtain ⟨middle, read, context, ackId⟩ := right ref later stored
  obtain ⟨entry, found, context', ackId'⟩ := left ref middle read
  exact ⟨entry, found, context.trans context', ackId.trans ackId'⟩

theorem quiet_frame (handler : Nat) : JobFrame Quiet handler where
  refl := quiet_refl
  trans := fun _ _ _ left right => ⟨noNewEntries_trans left.entries right.entries,
    fun handler ref logged => left.created handler ref (right.created handler ref logged)⟩
  record := by
    intro event runtime own other
    refine ⟨(quiet_refl runtime).entries, ?_⟩
    intro acting ref logged
    rcases List.mem_append.mp logged with old | new
    · exact old
    · have same := List.mem_singleton.mp new
      subst same
      cases own
      exact absurd rfl (other ref)
  acks := fun _ _ entries => ⟨entries, fun _ _ logged => logged⟩
  active := fun runtime _ => ⟨(quiet_refl runtime).entries, fun _ _ logged => logged⟩

/-- New entries have this owner. -/
def AddsFor (runNodeId : String) (before after : Runtime) : Prop :=
  ∀ ref later, after.acks.objects.read ref = some later →
    (∃ entry, before.acks.objects.read ref = some entry ∧ later.context = entry.context) ∨
      later.context.runNodeId = runNodeId

theorem addsFor_of_entries {runNodeId : String} {before after : Runtime}
    (entries : NoNewEntries before.acks after.acks) : AddsFor runNodeId before after := by
  intro ref later stored
  obtain ⟨entry, found, context, _⟩ := entries ref later stored
  exact .inl ⟨entry, found, context⟩

theorem addsFor_frame (runNodeId : String) (handler : Nat) :
    JobFrame (AddsFor runNodeId) handler where
  refl := fun runtime => addsFor_of_entries (quiet_refl runtime).entries
  trans := by
    intro first second third left right ref later stored
    rcases right ref later stored with ⟨middle, read, context⟩ | new
    · rcases left ref middle read with ⟨entry, found, context'⟩ | new
      · exact .inl ⟨entry, found, context.trans context'⟩
      · exact .inr (context ▸ new)
    · exact .inr new
  record := fun _ runtime _ _ => addsFor_of_entries (quiet_refl runtime).entries
  acks := fun _ _ entries => addsFor_of_entries entries
  active := fun runtime _ => addsFor_of_entries (quiet_refl runtime).entries

theorem addsFor_creates (runNodeId : String) (handler : Nat) :
    Creates (AddsFor runNodeId) handler runNodeId where
  acks := by
    intro context timeoutMs now random runtime own ref later stored
    have constructed : (create context timeoutMs now random runtime.acks).2.objects.read ref =
        some later := stored
    rw [create_objects] at constructed
    split at constructed
    · cases constructed
      exact .inr own
    · exact .inl ⟨later, constructed, rfl⟩
  created := fun _ runtime => addsFor_of_entries (quiet_refl runtime).entries

/-! ## What a task has come to -/

/-- A job from where its processor has settled. -/
def afterProcessor (index : Nat) (result : Except JsError JsValue) : JobBody JsValue := do
  let _ ← await .recorded
  modify (untrack index)
  match result with
  | .ok value => return value
  | .error error => throw error

/-- A job from where BullMQ calls the processor. -/
def afterInvoke (index : Nat) (node : RunNode) (job : Nat) (token : JsValue) (signal : Nat) :
    Except JsError Invocation → JobBody JsValue
  | .error error => throw error
  | .ok invocation => do
    let result ← try Except.ok <$> processor index node job token signal invocation
      catch error => pure (.error error)
    afterProcessor index result

/-- A job from where the processor waits for its acknowledgement. -/
def afterSend (index ref : Nat) : JobBody JsValue := do
  let result ← try Except.ok <$> wait onAcks awaitSettled ref catch error => pure (.error error)
  afterProcessor index result

theorem afterProcessor_respects (index : Nat) (result : Except JsError JsValue) :
    (afterProcessor index result).Respects Quiet anyCall :=
  recorded_respects (quiet_frame index) result

theorem afterSend_respects (index ref : Nat) : (afterSend index ref).Respects Quiet anyCall := by
  unfold afterSend
  apply Async.respects_bind
  · apply Async.respects_tryCatch (Async.respects_map _ (wait_respects (quiet_frame index) ref))
    exact fun _ => Async.respects_pure _
  exact afterProcessor_respects index

section Invocation

variable {index job signal : Nat} {node : RunNode} {token : JsValue} {invocation : Invocation}

theorem afterInvoke_respects {related : Runtime → Runtime → Prop} (frame : JobFrame related index)
    (creates : node.completionMode = "manual" → (∃ queue, invocation.queue = .ok queue) →
      Creates related index node.id) :
    (afterInvoke index node job token signal (.ok invocation)).Respects related anyCall := by
  unfold afterInvoke
  apply Async.respects_bind
  · apply Async.respects_tryCatch
      (Async.respects_map _ (processor_respects frame _ _ _ _ _ creates))
    exact fun _ => Async.respects_pure _
  exact recorded_respects frame

/-- A processor that creates no acknowledgement changes nothing in the registry. -/
theorem afterInvoke_quiet (never : node.completionMode = "manual" →
    ¬ ∃ queue, invocation.queue = .ok queue) :
    (afterInvoke index node job token signal (.ok invocation)).Respects Quiet anyCall :=
  afterInvoke_respects (quiet_frame index) fun manual got => absurd got (never manual)

/-- The context that the processor hands to the registry. -/
def processorContext (node : RunNode) (job signal : Nat) (token : JsValue) (queue : Option Nat) :
    Context :=
  { job, queue, queueName := node.queueName, runNodeId := node.id, worker := node.worker
    signal := some signal, token }

/-- In manual mode a processor whose message cannot be sent has settled. -/
theorem afterInvoke_unsent (manual : node.completionMode = "manual") {queue : Option Nat}
    (got : invocation.queue = .ok queue) {error : JsError}
    (sends : invocation.sendThrows = some error) (runtime : Runtime) :
    ∃ later, (afterInvoke index node job token signal (.ok invocation)).segment runtime =
      (afterProcessor index (.error error)).segment later := by
  refine ⟨createdRuntime index (processorContext node job signal token queue)
    (parseAckTimeoutMs node.ackTimeout) invocation.now invocation.random runtime, ?_⟩
  unfold afterInvoke processor nodeSend
  simp only [manual, ↓reduceIte, got, sends]
  rfl

/-- In manual mode a processor whose message is sent waits for its new acknowledgement. -/
theorem afterInvoke_sent (manual : node.completionMode = "manual") {queue : Option Nat}
    (got : invocation.queue = .ok queue) (sends : invocation.sendThrows = none)
    (runtime : Runtime) :
    ∃ ref later, (afterInvoke index node job token signal (.ok invocation)).segment runtime =
      (afterSend index ref).segment later ∧ settlementOf ref later.acks = none := by
  let context := processorContext node job signal token queue
  let created := createdRuntime index context (parseAckTimeoutMs node.ackTimeout) invocation.now
    invocation.random runtime
  let msg := createJobMessage (created.acks.jobAt job) node.queueName
    [("ackId", .string (ackIdOf node.id job invocation.now invocation.random runtime.acks)),
      ("runNodeId", .string node.id)]
  refine ⟨runtime.acks.objects.size, created.record (.sent index msg), ?_, ?_⟩
  · unfold afterInvoke processor nodeSend
    simp only [manual, ↓reduceIte, got, sends]
    rfl
  · have stored : (create context (parseAckTimeoutMs node.ackTimeout) invocation.now
        invocation.random runtime.acks).2.objects.read runtime.acks.objects.size =
          some (createdEntry context (parseAckTimeoutMs node.ackTimeout)
            (ackIdOf node.id job invocation.now invocation.random runtime.acks)) := by
      rw [create_objects, if_pos rfl]
      rfl
    exact congrArg (fun found => found.bind AcknowledgementEntry.settlement) stored

/-- Where it waits, the processor has not settled. -/
theorem afterSend_waits {ref : Nat} {runtime : Runtime}
    (pending : settlementOf ref runtime.acks = none) :
    ∃ later promise next, (afterSend index ref).segment runtime =
      (later, .awaiting (.settled promise) next) := by
  have waits : ∃ later promise next, (wait onAcks awaitSettled ref : JobBody JsValue).segment
      runtime = (later, .awaiting (.settled promise) next) := by
    unfold wait onAcks
    simp only [Async.segment_bind, Async.segment_modifyGet, Paused.andThen, pending]
    exact ⟨_, _, _, rfl⟩
  obtain ⟨later, promise, next, stopped⟩ := waits
  unfold afterSend
  rw [Async.segment_bind, Async.segment_tryCatch, Async.segment_map, stopped]
  exact ⟨_, _, _, rfl⟩

/-- Once BullMQ has called the processor, nothing is created any more. -/
theorem afterInvoke_segment (reply : Except JsError Invocation) (runtime : Runtime) :
    ((afterInvoke index node job token signal reply).segment runtime).2.Respects Quiet anyCall := by
  have ends : ∀ {program : JobBody JsValue} (later : Runtime), program.Respects Quiet anyCall →
      (program.segment later).2.Respects Quiet anyCall :=
    fun later respects => (Async.segment_of_frame (respects later later (quiet_refl later))).2.2
  cases reply with
  | error error => trivial
  | ok invocation =>
    by_cases creates : node.completionMode = "manual" ∧ ∃ queue, invocation.queue = .ok queue
    · obtain ⟨manual, queue, got⟩ := creates
      cases sends : invocation.sendThrows with
      | some error =>
        obtain ⟨later, same⟩ : ∃ later, (afterInvoke index node job token signal
            (.ok invocation)).segment runtime = (afterProcessor index (.error error)).segment later :=
          afterInvoke_unsent manual got sends runtime
        rw [same]
        exact ends later (afterProcessor_respects index _)
      | none =>
        obtain ⟨ref, later, same, _⟩ : ∃ ref later, (afterInvoke index node job token signal
            (.ok invocation)).segment runtime = (afterSend index ref).segment later ∧
              settlementOf ref later.acks = none :=
          afterInvoke_sent manual got sends runtime
        rw [same]
        exact ends later (afterSend_respects index ref)
    · exact ends runtime (afterInvoke_quiet fun manual got => creates ⟨manual, got⟩)

end Invocation

/-- A job waits for its processor call, or its further segments create nothing; a close handler
that has been answered calls `done`. -/
def Stage (index : Nat) (task : JobTask) (paused : Paused Runtime JobCall JobReply JsError JsValue) :
    Prop :=
  match task with
  | .processJob node job token => paused.Respects Quiet anyCall ∨
      ∃ signal next, paused = .awaiting .invoke next ∧
        ∀ reply, next reply = afterInvoke index node job token signal reply
  | .closeRun _ => paused.Respects Quiet anyCall ∧ ∀ call next, paused = .awaiting call next →
      ∀ reply runtime, ∃ error, (next reply).segment runtime =
        (runtime.record (.closed index error), .finished (.ok .undefined))
  | _ => paused.Respects Quiet anyCall

theorem otherTask_stage {bullmq : Bullmq} {index : Nat} {task : JobTask} (runtime : Runtime)
    (other : ∀ node job token, task ≠ .processJob node job token) :
    ((runTask bullmq index task).segment runtime).2.Respects Quiet anyCall :=
  (Async.segment_of_frame (otherTask_respects (quiet_frame index) task other runtime runtime
    (quiet_refl runtime))).2.2

theorem stage_shape (bullmq : Bullmq) : Shape (jobSystem bullmq) Stage where
  begun := by
    intro index task runtime
    have quiet : (∀ node job token, task ≠ .processJob node job token) →
        ((runTask bullmq index task).segment runtime).2.Respects Quiet anyCall :=
      otherTask_stage runtime
    cases task with
    | processJob node job token =>
      refine .inr ⟨(track index node.worker job runtime).1, _, rfl, ?_⟩
      intro reply
      cases reply <;> rfl
    | closeRun node =>
      refine ⟨quiet (by simp), ?_⟩
      intro call next stopped reply later
      cases stopped
      cases reply with
      | ok value => exact ⟨none, rfl⟩
      | error error => exact ⟨some error, rfl⟩
    | jobInput input => exact quiet (by simp)
    | timerFires ref => exact quiet (by simp)
    | abort signal reason => exact quiet (by simp)
    | newJob job => exact quiet (by simp)
    | changeJob ref job => exact quiet (by simp)
  resumed := by
    intro index task call next reply runtime stage
    have further : (Paused.awaiting call next).Respects Quiet anyCall →
        ((next reply).segment runtime).2.Respects Quiet anyCall :=
      fun respects => (Async.segment_of_frame (respects reply runtime)).2.2
    cases task with
    | processJob node job token =>
      rcases stage with respects | ⟨signal, rest, stopped, same⟩
      · exact .inl (further respects)
      · cases stopped
        rw [same reply]
        exact .inl (afterInvoke_segment reply runtime)
    | closeRun node =>
      obtain ⟨error, ended⟩ := stage.2 call next rfl reply runtime
      rw [ended]
      refine ⟨trivial, ?_⟩
      intro other rest stopped
      cases stopped
    | jobInput input => exact further stage
    | timerFires ref => exact further stage
    | abort signal reason => exact further stage
    | newJob job => exact further stage
    | changeJob ref job => exact further stage

/-! ## What holds of a pool -/

/-- The job is past the wait for its acknowledgement. -/
def PastWaiting : Paused Runtime JobCall JobReply JsError JsValue → Prop
  | .awaiting .invoke _ => False
  | .awaiting (.settled _) _ => False
  | _ => True

/-- Nothing of this run node is pending. -/
def NonePending (runNodeId : String) (acks : AckState) : Prop :=
  ∀ ref entry, Unsettled acks ref entry → entry.context.runNodeId ≠ runNodeId

/-- Every acknowledgement that the job created is settled. -/
def CreatedSettled (index : Nat) (runtime : Runtime) : Prop :=
  ∀ ref, .created index ref ∈ runtime.log → ∃ settlement, settlementOf ref runtime.acks = some settlement

structure Tidy (pool : JobPool) : Prop where
  processed : ∀ index node job token paused,
    pool.tasks[index]? = some (.processJob node job token, paused) → PastWaiting paused →
      CreatedSettled index pool.shared
  closing : ∀ (index : Nat) node call next,
    pool.tasks[index]? = some (.closeRun node, .awaiting call next) →
      NonePending node.id pool.shared.acks

section Segments

variable {index : Nat} {before after : Runtime}

theorem createdSettled_others {other : Nat} (advance : Advance (· = index) before after)
    (different : other ≠ index) (held : CreatedSettled other before) :
    CreatedSettled other after := by
  intro ref logged
  rcases advance.fresh _ logged with old | own
  · obtain ⟨settlement, recorded⟩ := held ref old
    exact ⟨settlement, advance.acks.settled ref settlement recorded⟩
  · exact absurd own different

theorem createdSettled_quiet (advance : Advance (· = index) before after)
    (quiet : Quiet before after) (held : CreatedSettled index before) :
    CreatedSettled index after := by
  intro ref logged
  obtain ⟨settlement, recorded⟩ := held ref (quiet.created index ref logged)
  exact ⟨settlement, advance.acks.settled ref settlement recorded⟩

theorem nonePending_quiet {runNodeId : String} (grows : Grows before.acks after.acks)
    (entries : NoNewEntries before.acks after.acks) (held : NonePending runNodeId before.acks) :
    NonePending runNodeId after.acks := by
  intro ref later unsettled
  obtain ⟨entry, pending, context⟩ := unsettled_before grows entries unsettled
  rw [context]
  exact held ref entry pending

theorem nonePending_addsFor {runNodeId owner : String} (grows : Grows before.acks after.acks)
    (adds : AddsFor owner before after) (different : runNodeId ≠ owner)
    (held : NonePending runNodeId before.acks) : NonePending runNodeId after.acks := by
  intro ref later unsettled
  rcases adds ref later unsettled.1 with ⟨entry, stored, context⟩ | new
  · rw [context]
    exact held ref entry (pending_before grows stored unsettled)
  · rw [new]
    exact Ne.symm different

theorem nonePending_rejected {acks : AckState} (consistent : Consistent acks) (runNodeId : String)
    (error : JsError) : NonePending runNodeId (rejectByRunNode runNodeId error acks) := by
  intro ref later unsettled own
  have stored := unsettled.1
  rw [read_rejectByRunNode consistent] at stored
  obtain ⟨entry, found, same⟩ := Option.map_eq_some_iff.mp stored
  have pending := unsettled.2
  subst same
  by_cases mine : entry.context.runNodeId = runNodeId
  · rw [if_pos mine] at pending
    unfold settledBy at pending
    split at pending
    next settled => simp [pending] at settled
    next => cases pending
  · rw [if_neg mine] at own
    exact mine own

end Segments

/-! ## Every step -/

variable {bullmq : Bullmq}

/-- A segment of one task leaves the pool tidy. -/
theorem tidy_segment {pool : JobPool} (tidy : Tidy pool) {index : Nat} {task : JobTask}
    {paused : Paused Runtime JobCall JobReply JsError JsValue} {after : Runtime}
    {tasks : List (JobTask × Paused Runtime JobCall JobReply JsError JsValue)}
    (advance : Advance (· = index) pool.shared after)
    (present : tasks[index]? = some (task, paused))
    (others : ∀ other, other ≠ index → tasks[other]? = pool.tasks[other]?)
    (closings : ∀ (other : Nat) closing call next, other ≠ index →
      pool.tasks[other]? = some (.closeRun closing, .awaiting call next) →
        NonePending closing.id after.acks)
    (processed : ∀ node job token, task = .processJob node job token → PastWaiting paused →
      CreatedSettled index after)
    (closed : ∀ node call next, task = .closeRun node → paused = .awaiting call next →
      NonePending node.id after.acks) : Tidy ⟨after, tasks⟩ where
  processed := by
    intro other node job token stopped found past
    by_cases own : other = index
    · subst own
      cases present.symm.trans found
      exact processed node job token rfl past
    · have before : pool.tasks[other]? = some (.processJob node job token, stopped) :=
        (others other own).symm.trans found
      exact createdSettled_others advance own (tidy.processed other node job token stopped before past)
  closing := by
    intro other node call next found
    by_cases own : other = index
    · subst own
      cases present.symm.trans found
      exact closed node call next rfl rfl
    · exact closings other node call next own ((others other own).symm.trans found)

theorem getElem?_concat_of_ne {α : Type} {list : List α} {position : Nat} (last : α)
    (different : position ≠ list.length) : (list ++ [last])[position]? = list[position]? := by
  by_cases before : position < list.length
  · exact List.getElem?_append_left before
  · have beyond : (list ++ [last]).length ≤ position := by
      rw [List.length_append, List.length_singleton]
      omega
    rw [List.getElem?_eq_none beyond, List.getElem?_eq_none (by omega)]

/-- The first segment of a task creates nothing. -/
theorem quiet_begin (index : Nat) (task : JobTask) (runtime : Runtime) :
    Quiet runtime ((runTask bullmq index task).segment runtime).1 := by
  by_cases process : ∃ node job token, task = .processJob node job token
  · obtain ⟨node, job, token, rfl⟩ := process
    exact related_track (quiet_frame index) index node.worker job runtime
  · have other : ∀ node job token, task ≠ .processJob node job token :=
      fun node job token same => process ⟨node, job, token, same⟩
    exact (Async.segment_of_frame (otherTask_respects (quiet_frame index) task other runtime runtime
      (quiet_refl runtime))).1

theorem tidy_start {pool : JobPool} (covers : (jobOutline bullmq False False).Covers pool)
    (tidy : Tidy pool) (task : JobTask) (launched : (jobSystem bullmq).launch pool task) :
    Tidy ((jobSystem bullmq).start pool task) := by
  let index := pool.tasks.length
  have settles := (Outline.kept jobOutline_sound).launched pool task covers launched trivial
  have advance : Advance (· = index) pool.shared ((runTask bullmq index task).segment pool.shared).1 :=
    settles.2.1
  have quiet : Quiet pool.shared ((runTask bullmq index task).segment pool.shared).1 :=
    quiet_begin index task pool.shared
  have alone : (jobSystem bullmq).forked index
      ((runTask bullmq index task).segment pool.shared).2 = [] := by
    cases ((runTask bullmq index task).segment pool.shared).2 with
    | finished result => rfl
    | awaiting call next => rfl
  rw [System.start_eq_begin (jobSystem bullmq) alone]
  apply tidy_segment tidy advance (List.getElem?_concat_length ..)
  · exact fun other different => getElem?_concat_of_ne _ different
  · intro other closing call next _ found
    exact nonePending_quiet advance.acks quiet.entries (tidy.closing other closing call next found)
  · intro node job token process past
    subst process
    exact past.elim
  · intro node call next close _
    subst close
    exact nonePending_rejected covers.1.sane.consistent node.id closedBeforeAcknowledgement

/-- What a settled promise has been answered with is what its acknowledgement was settled with. -/
theorem settled_answered {index : Nat} {task : JobTask} {runtime : Runtime} {promise : Nat}
    {reply : Except JsError Settlement} (sane : Sane runtime)
    (waiting : Waiting False index task runtime (.settled promise))
    (answered : Answer task runtime (.settled promise) reply) : CreatedSettled index runtime := by
  obtain ⟨found, stored, created, only⟩ := waiting
  obtain ⟨promised, settlement, read, settled, _⟩ := answered
  cases stored.symm.trans read
  obtain ⟨entry, kept, agrees, _⟩ := sane.consistent.promised promise found stored
  intro ref logged
  rw [only ref logged]
  exact ⟨settlement, by simp [settlementOf, kept, ← agrees, settled]⟩

/-- A resumed task creates nothing, or it is a processor that now waits for its acknowledgement
and whose run node no close handler waits for. -/
theorem resume_creates {pool : JobPool} {index : Nat} {task : JobTask} {call : JobCall}
    {next : Except JsError (JobReply call) → JobBody JsValue} {reply : Except JsError (JobReply call)}
    (stage : Stage index task (.awaiting call next))
    (waiting : pool.tasks[index]? = some (task, .awaiting call next))
    (answered : Answer task pool.shared call reply)
    (orderly : Orderly pool (.resume index call reply)) :
    Quiet pool.shared ((next reply).segment pool.shared).1 ∨
      ∃ node job token, task = .processJob node job token ∧
        ¬PastWaiting ((next reply).segment pool.shared).2 ∧
        AddsFor node.id pool.shared ((next reply).segment pool.shared).1 ∧
        ∀ (other : Nat) closing call next,
          pool.tasks[other]? = some (.closeRun closing, .awaiting call next) →
            node.id ≠ closing.id := by
  have further : (Paused.awaiting call next).Respects Quiet anyCall →
      Quiet pool.shared ((next reply).segment pool.shared).1 :=
    fun respects => (Async.segment_of_frame (respects reply pool.shared)).1
  cases task with
  | processJob node job token =>
    rcases stage with respects | ⟨signal, rest, stopped, same⟩
    · exact .inl (further respects)
    · cases stopped
      obtain ⟨invocation, given, _⟩ := answered
      subst given
      rw [same]
      by_cases creates : node.completionMode = "manual" ∧ ∃ queue, invocation.queue = .ok queue
      · obtain ⟨manual, queue, got⟩ := creates
        obtain ⟨sends, alone⟩ := orderly node job token _ waiting manual ⟨queue, got⟩
        obtain ⟨ref, later, sent, pending⟩ : ∃ ref later, (afterInvoke index node job token signal
            (.ok invocation)).segment pool.shared = (afterSend index ref).segment later ∧
              settlementOf ref later.acks = none :=
          afterInvoke_sent manual got sends pool.shared
        obtain ⟨last, promise, rest, stopped⟩ : ∃ last promise rest,
            (afterSend index ref).segment later = (last, .awaiting (.settled promise) rest) :=
          afterSend_waits pending
        have adds := (Async.segment_of_frame (afterInvoke_respects (addsFor_frame node.id index)
          (fun _ _ => addsFor_creates node.id index) pool.shared pool.shared
            ((addsFor_frame node.id index).refl pool.shared) :
          (afterInvoke index node job token signal (.ok invocation)).Framed _ _ _ _)).1
        have waits : ¬PastWaiting ((afterInvoke index node job token signal
            (.ok invocation)).segment pool.shared).2 := by
          rw [sent, stopped]
          exact fun past => past
        refine .inr ⟨node, job, token, rfl, waits, adds, ?_⟩
        intro other closing call next found same
        exact alone other closing call next found same.symm
      · have never : node.completionMode = "manual" → ¬ ∃ queue, invocation.queue = .ok queue :=
          fun manual got => creates ⟨manual, got⟩
        exact .inl (Async.segment_of_frame (afterInvoke_quiet never pool.shared pool.shared
          (quiet_refl pool.shared))).1
  | closeRun node => exact .inl (further stage.1)
  | jobInput input => exact .inl (further stage)
  | timerFires ref => exact .inl (further stage)
  | abort signal reason => exact .inl (further stage)
  | newJob job => exact .inl (further stage)
  | changeJob ref job => exact .inl (further stage)

/-- Where a job may be resumed without creating anything, everything it created is settled. -/
theorem settled_before_resume {pool : JobPool} (tidy : Tidy pool)
    (covers : (jobOutline bullmq False False).Covers pool) {index : Nat} {node : RunNode} {job : Nat}
    {token : JsValue} {call : JobCall} {next : Except JsError (JobReply call) → JobBody JsValue}
    {reply : Except JsError (JobReply call)}
    (waiting : pool.tasks[index]? = some (.processJob node job token, .awaiting call next))
    (answered : Answer (.processJob node job token) pool.shared call reply) :
    CreatedSettled index pool.shared := by
  have held : Waiting False index (.processJob node job token) pool.shared call :=
    (covers.2.2 index _ _ waiting).1
  cases call with
  | invoke =>
    intro ref logged
    exact absurd logged (held.1 ref)
  | settled promise => exact settled_answered covers.1.sane held answered
  | recorded => exact tidy.processed index node job token _ waiting trivial
  | job other method => exact tidy.processed index node job token _ waiting trivial
  | rateLimit queue duration => exact tidy.processed index node job token _ waiting trivial
  | release worker => exact tidy.processed index node job token _ waiting trivial

theorem tidy_resume {pool : JobPool} (covers : (jobOutline bullmq False False).Covers pool)
    (tidy : Tidy pool) {index : Nat} {task : JobTask} {call : JobCall}
    {next : Except JsError (JobReply call) → JobBody JsValue} {reply : Except JsError (JobReply call)}
    (stage : Stage index task (.awaiting call next))
    (waiting : pool.tasks[index]? = some (task, .awaiting call next))
    (answered : (jobSystem bullmq).answers pool index call reply)
    (orderly : Orderly pool (.resume index call reply)) :
    Tidy ((jobSystem bullmq).resume pool index task (next reply)) := by
  have permitted := allowed_of_orderly pool _ orderly
  have settles := (Outline.kept jobOutline_sound).resumed pool index task call next reply covers
    waiting answered permitted
  have advance : Advance (· = index) pool.shared ((next reply).segment pool.shared).1 := settles.2.1
  have answer : Answer task pool.shared call reply := by
    obtain ⟨found, paused, member, answer⟩ := answered
    cases waiting.symm.trans member
    exact answer
  have alone : (jobSystem bullmq).forked index ((next reply).segment pool.shared).2 = [] := by
    cases ((next reply).segment pool.shared).2 with
    | finished result => rfl
    | awaiting call next => rfl
  rw [System.resume_eq_set (jobSystem bullmq) alone]
  have bound := (List.getElem?_eq_some_iff.mp waiting).1
  have creates := resume_creates stage waiting answer orderly
  apply tidy_segment tidy advance (List.getElem?_set_self bound)
  · exact fun other different => List.getElem?_set_ne (Ne.symm different)
  · intro other closing call next _ found
    have held := tidy.closing other closing call next found
    rcases creates with quiet | ⟨node, job, token, _, _, adds, alone⟩
    · exact nonePending_quiet advance.acks quiet.entries held
    · exact nonePending_addsFor advance.acks adds (Ne.symm (alone other closing call next found)) held
  · intro node job token process past
    subst process
    rcases creates with quiet | ⟨_, _, _, _, waits, _⟩
    · exact createdSettled_quiet advance quiet (settled_before_resume tidy covers waiting answer)
    · exact absurd past waits
  · intro node other rest close stopped
    subst close
    obtain ⟨error, ended⟩ := stage.2 call next rfl reply pool.shared
    rw [ended] at stopped
    cases stopped

/-! ## Every run -/

theorem tidy_run {pool : JobPool}
    (reached : Runs (jobSystem bullmq).Step Orderly emptyJobPool pool) : Tidy pool := by
  induction reached with
  | refl => exact ⟨by simp [emptyJobPool], by simp [emptyJobPool]⟩
  | tail before last ih =>
    obtain ⟨move, permitted, made⟩ := last
    have covers := covers_reached (Runs.weaken before allowed_of_orderly)
    cases made with
    | start launched => exact tidy_start covers ih _ launched
    | resume waiting answered =>
      exact tidy_resume covers ih ((stage_shape bullmq).run before waiting) waiting answered permitted

/-- An acknowledgement has left the registry when its processor has settled, and when the close
handler of its run node calls `done`. -/
def Contained (bullmq : Bullmq) (pool : JobPool) : Prop :=
  (∀ index node job token paused ref, pool.tasks[index]? = some (.processJob node job token, paused) →
    ProcessorSettled paused → .created index ref ∈ pool.shared.log →
      ∀ ackId, pool.shared.acks.entries.get ackId ≠ some ref) ∧
  ∀ index node call next reply later,
    pool.tasks[index]? = some (.closeRun node, .awaiting call next) →
    (jobSystem bullmq).Step pool (.resume index call reply) later →
      (∃ error, later.shared.log = pool.shared.log ++ [.closed index error]) ∧
        ∀ ackId ref entry, later.shared.acks.entries.get ackId = some ref →
          later.shared.acks.objects.read ref = some entry → entry.context.runNodeId ≠ node.id

/-- A close handler that gets its answer only logs that. -/
theorem resume_closeRun {pool later : JobPool} {index : Nat} {node : RunNode} {call : JobCall}
    {next : Except JsError (JobReply call) → JobBody JsValue} {reply : Except JsError (JobReply call)}
    (stage : Stage index (.closeRun node) (.awaiting call next))
    (waiting : pool.tasks[index]? = some (.closeRun node, .awaiting call next))
    (made : (jobSystem bullmq).Step pool (.resume index call reply) later) :
    ∃ error, later.shared = pool.shared.record (.closed index error) := by
  cases made with
  | resume found answered =>
    cases waiting.symm.trans found
    obtain ⟨error, ended⟩ := stage.2 call next rfl reply pool.shared
    have alone : (jobSystem bullmq).forked index ((next reply).segment pool.shared).2 = [] := by
      rw [ended]
      rfl
    rw [System.resume_eq_set (jobSystem bullmq) alone, ended]
    exact ⟨error, rfl⟩

theorem contained_run {pool : JobPool}
    (reached : Runs (jobSystem bullmq).Step Orderly emptyJobPool pool) : Contained bullmq pool := by
  have tidy := tidy_run reached
  have covers := covers_reached (reached.weaken allowed_of_orderly)
  have consistent := covers.1.sane.consistent
  refine ⟨?_, ?_⟩
  · intro index node job token paused ref found settled created ackId mapped
    have past : PastWaiting paused := by
      cases paused with
      | finished result => trivial
      | awaiting call next =>
        cases call with
        | recorded => trivial
        | _ => exact settled.elim
    obtain ⟨settlement, recorded⟩ := tidy.processed index node job token paused found past ref created
    obtain ⟨entry, unsettled, _⟩ := (consistent.mapped ackId ref).mp mapped
    simp only [settlementOf, unsettled.1, Option.bind_some, unsettled.2] at recorded
    cases recorded
  · intro index node call next reply later found made
    obtain ⟨error, shared⟩ := resume_closeRun ((stage_shape bullmq).run reached found) found made
    rw [shared]
    refine ⟨⟨error, rfl⟩, ?_⟩
    intro ackId ref entry mapped stored
    obtain ⟨pending, unsettled, _⟩ := (consistent.mapped ackId ref).mp mapped
    have same : some pending = some entry := unsettled.1.symm.trans stored
    cases same
    exact tidy.closing index node call next found ref entry unsettled

/-! ## One job and the close of its run node -/

def sendFailed : JsError := newError "send failed"

/-- BullMQ calls the processor and `node.send` throws, if it is asked to; a promise that is
answered has been rejected by the close handler. -/
def closing (sendThrows : Option JsError) : (call : JobCall) → Except JsError (JobReply call)
  | .invoke => .ok (⟨JsNumber.ofNat 0, "r", .ok none, sendThrows⟩ : Invocation)
  | .settled _ => .ok (.reject closedBeforeAcknowledgement)
  | call => resolving call

/-- The processor is called, and the close handler then rejects what it has created. -/
def rejectedPool : JobPool :=
  (jobSystem exampleBullmq).resumeWith ((jobSystem exampleBullmq).start
    ((jobSystem exampleBullmq).resumeWith takenPool 1 (closing none)) (.closeRun manualNode)) 1
      (closing none)

/-- The processor is called while the close handler waits for the worker. -/
def overtakenPool : JobPool :=
  (jobSystem exampleBullmq).resumeWith ((jobSystem exampleBullmq).start takenPool
    (.closeRun manualNode)) 1 (closing none)

/-- The processor cannot send its message. -/
def unsentPool : JobPool :=
  (jobSystem exampleBullmq).resumeWith takenPool 1 (closing (some sendFailed))

theorem rejected_reached : Runs (jobSystem exampleBullmq).Step Orderly emptyJobPool rejectedPool := by
  apply System.runs_resumeWith
  · apply System.runs_start _ _ trivial trivial
    apply System.runs_resumeWith (taken_reached fun _ _ => trivial)
    intro task call next waiting
    obtain ⟨rest, known⟩ := taken_waits
    cases known.symm.trans waiting
    refine ⟨⟨_, _, known, _, rfl, ?_⟩, ?_⟩
    · intro ref entry stored
      cases stored
    · intro node job token paused found manual got
      refine ⟨rfl, ?_⟩
      intro other closing call next stored
      rcases other with _ | _ | other
      · cases stored
      · cases known.symm.trans stored
      · cases stored
  · intro task call next waiting
    have known : ((jobSystem exampleBullmq).start ((jobSystem exampleBullmq).resumeWith takenPool 1
        (closing none)) (.closeRun manualNode)).tasks[1]? =
          some (.processJob manualNode 0 .null, .awaiting (.settled 0) _) := rfl
    cases known.symm.trans waiting
    exact ⟨⟨_, _, known, _, _, rfl, rfl, rfl⟩, trivial⟩

theorem contained_rejected : (∃ job token next, rejectedPool.tasks[1]? =
    some (.processJob manualNode job token, .awaiting .recorded next)) ∧
      .created 1 0 ∈ rejectedPool.shared.log ∧ Contained exampleBullmq rejectedPool :=
  ⟨⟨_, _, _, rfl⟩, logged_at 0 rfl, contained_run rejected_reached⟩

theorem unsent_reached : Runs (jobSystem exampleBullmq).Step anyMove emptyJobPool unsentPool := by
  apply System.runs_resumeWith (taken_reached fun _ _ => trivial)
  intro task call next waiting
  obtain ⟨rest, known⟩ := taken_waits
  cases known.symm.trans waiting
  refine ⟨⟨_, _, known, _, rfl, ?_⟩, trivial⟩
  intro ref entry stored
  cases stored

theorem overtaken_reached :
    Runs (jobSystem exampleBullmq).Step anyMove emptyJobPool overtakenPool := by
  apply System.runs_resumeWith
  · exact System.runs_start (taken_reached fun _ _ => trivial) _ trivial trivial
  · intro task call next waiting
    have known : ((jobSystem exampleBullmq).start takenPool (.closeRun manualNode)).tasks[1]? =
        some (.processJob manualNode 0 .null, .awaiting .invoke _) := rfl
    cases known.symm.trans waiting
    refine ⟨⟨_, _, known, _, rfl, ?_⟩, trivial⟩
    intro ref entry stored
    cases stored

/-- A message that cannot be sent leaves its acknowledgement behind, and so does a processor call
after the close handler has rejected what there was. -/
theorem not_contained :
    (Runs (jobSystem exampleBullmq).Step anyMove emptyJobPool unsentPool ∧
      ¬Contained exampleBullmq unsentPool) ∧
    Runs (jobSystem exampleBullmq).Step anyMove emptyJobPool overtakenPool ∧
      ¬Contained exampleBullmq overtakenPool := by
  refine ⟨⟨unsent_reached, ?_⟩, overtaken_reached, ?_⟩
  · intro contained
    have mapped : unsentPool.shared.acks.entries.get "run:1:0:r" = some 0 := by decide +kernel
    exact contained.1 1 _ _ _ _ 0 rfl trivial (logged_at 0 rfl) _ mapped
  · intro contained
    have known : overtakenPool.tasks[2]? = some (.closeRun manualNode, .awaiting (.release 0) _) :=
      rfl
    have answered : (jobSystem exampleBullmq).answers overtakenPool 2 (.release 0) (.ok ()) :=
      ⟨_, _, known, trivial⟩
    have mapped : overtakenPool.shared.acks.entries.get "run:1:0:r" = some 0 := by decide +kernel
    exact (contained.2 2 _ _ _ _ _ known (.resume known answered)).2 _ 0 _ mapped rfl rfl

end NodeRedBull.AcknowledgementLifetime
