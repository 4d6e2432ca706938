import NodeRedBull.JobInvariant

/-! A proof outline for every handler of the registry, and so for every run of them. -/

namespace NodeRedBull.JobOutline
open Js Library Acknowledgements AcknowledgementInvariant AcknowledgementCreation
open AcknowledgementEffect JobRuntime JobInvariant

/-- The actions that settle only after BullMQ has answered. -/
def SettlesAfterCall (input : JobInput) : Prop :=
  input.action = some .rateLimit ∨ input.action = some .moveToWait ∨
    input.action = some .moveToDelayed

/-- BullMQ does not resolve the call of such an action after its acknowledgement is settled:
`acknowledgements.get` would still find it. -/
def Timely (task : JobTask) (runtime : Runtime) (call : JobCall)
    (reply : Except JsError (JobReply call)) : Prop :=
  match task with
  | .jobInput input => SettlesAfterCall input → (∃ value, reply = .ok value) →
      ∃ ref, Acknowledgements.get input.ackId runtime.acks = .ok ref
  | _ => True

/-- A processor in manual mode starts with a signal that is not aborted, and its message can
be sent. -/
def Undisturbed (index : Nat) (task : JobTask) (runtime : Runtime) :
    (call : JobCall) → Except JsError (JobReply call) → Prop
  | .invoke, .ok invocation =>
    match task with
    | .processJob node _ _ => node.completionMode = "manual" → invocation.sendThrows = none ∧
        ∀ job ∈ runtime.active, job.task = index → ∀ found,
          runtime.acks.signals.read job.signal = some found → found.reason = none
    | _ => True
  | _, _ => True

/-- What a handler knows where it waits. -/
def Waiting (undisturbed : Prop) (index : Nat) (task : JobTask) (runtime : Runtime) :
    JobCall → Prop
  | .invoke => match task with
    | .processJob _ _ _ => (∀ ref, .created index ref ∉ runtime.log) ∧
        ∀ msg, .sent index msg ∉ runtime.log
    | _ => True
  | .settled promise => ∃ found, runtime.acks.promises.read promise = some found ∧
      .created index found.entry ∈ runtime.log ∧
        ∀ ref, .created index ref ∈ runtime.log → ref = found.entry
  | .recorded => undisturbed → ∀ ref, .created index ref ∈ runtime.log →
      ∃ settlement, settlementOf ref runtime.acks = some settlement
  | _ => True

/-- A processor call that got as far as its message ends with what settled its
acknowledgement. -/
def Ended (index : Nat) (task : JobTask) (result : Except JsError JsValue) (runtime : Runtime) :
    Prop :=
  match task with
  | .processJob _ _ _ => ∀ ref msg, .created index ref ∈ runtime.log →
      .sent index msg ∈ runtime.log → ∃ settlement,
        settlementOf ref runtime.acks = some settlement ∧ result = settlement.deliver
  | _ => True

/-- Only the first tasks have logged anything or hold a job. -/
def Scope (count : Nat) (runtime : Runtime) : Prop :=
  (∀ event ∈ runtime.log, Event.handler event < count) ∧ ∀ job ∈ runtime.active, job.task < count

variable (bullmq : Bullmq) (timely undisturbed : Prop)

def jobOutline : Outline Runtime JobCall JobReply JsError JsValue JobTask where
  invariant := Invariant bullmq timely undisturbed
  scope := Scope
  rely := fun index => Advance (· ≠ index)
  guarantee := fun index => Advance (· = index)
  waiting := Waiting undisturbed
  answers := fun index task runtime call reply => Answer task runtime call reply ∧
    (timely → Timely task runtime call reply) ∧
      (undisturbed → Undisturbed index task runtime call reply)
  post := Ended

/-- The moves that the conditions on a run leave. -/
def Allowed (pool : JobPool) : PoolMove JobCall JobReply JsError JobTask → Prop
  | .start _ => True
  | .resume index call reply => ∀ task paused, pool.tasks[index]? = some (task, paused) →
      (timely → Timely task pool.shared call reply) ∧
        (undisturbed → Undisturbed index task pool.shared call reply)

variable {bullmq timely undisturbed}

/-! ## The job node -/

section JobNode

variable {index : Nat} {input : JobInput} {start now : Runtime}

/-- Where a segment of an input may stop or go wrong. -/
abbrev inputPost (bullmq : Bullmq) (timely undisturbed : Prop) (index : Nat) {α : Type} :
    Runtime → Except JsError α → Runtime → Prop :=
  fun start _ now => Reached bullmq timely undisturbed index start now

theorem nodeDone_meets (error : Option JsError)
    (reached : Reached bullmq timely undisturbed index start now)
    (earned : error = none → timely → Earned bullmq input now) :
    (nodeDone index input error).wp ((jobOutline bullmq timely undisturbed).contract index
      (.jobInput input)) (inputPost bullmq timely undisturbed index) start now := by
  unfold nodeDone
  by_cases called : input.hasDone
  · simp only [called, ↓reduceIte, record, Async.wp_modify]
    cases error with
    | none => exact reached.done (earned rfl)
    | some error => exact reached.record _ rfl (by simp) (by simp)
  · simp only [called, Bool.false_eq_true, ↓reduceIte]
    cases error with
    | none => exact reached
    | some error => exact reached.record _ rfl (by simp) (by simp)

/-- `nodeSend` and `nodeDone`, the end of every action that answers with a message. -/
theorem sendDone_meets (msg : JsValue)
    (reached : Reached bullmq timely undisturbed index start now)
    (earned : timely → Earned bullmq input now) :
    (do nodeSend index input.sendThrows msg; nodeDone index input none : JobBody Unit).wp
      ((jobOutline bullmq timely undisturbed).contract index (.jobInput input))
      (inputPost bullmq timely undisturbed index) start now := by
  rw [Async.wp_bind]
  unfold nodeSend
  cases input.sendThrows with
  | some error => exact reached
  | none =>
    exact nodeDone_meets none (reached.record _ rfl (by simp) (by simp))
      (fun _ asked => (earned asked).sent index msg)

/-- An await inside an input: a rejection ends the action, an answer goes on from a state
that the other handlers have reached meanwhile. -/
theorem await_meets {α : Type} (call : JobCall) {rest : JobReply call → JobBody α}
    (reached : Reached bullmq timely undisturbed index start now)
    (quiet : ∀ runtime, Waiting undisturbed index (.jobInput input) runtime call)
    (goesOn : ∀ later value, Advance (· ≠ index) now later →
      Invariant bullmq timely undisturbed later →
      (timely → Timely (.jobInput input) later call (.ok value)) →
      (rest value).wp ((jobOutline bullmq timely undisturbed).contract index (.jobInput input))
        (inputPost bullmq timely undisturbed index) later later) :
    (await call >>= rest).wp
      ((jobOutline bullmq timely undisturbed).contract index (.jobInput input))
      (inputPost bullmq timely undisturbed index) start now := by
  rw [Async.wp_bind]
  unfold await
  rw [Async.wp_call]
  refine ⟨reached.1, reached.2, quiet now, ?_⟩
  intro later holds advance reply answered
  cases reply with
  | error error => exact .refl holds
  | ok value => exact goesOn later value advance holds answered.2.1

theorem settleContext_meets {ref : Nat} {settlement : Settlement} {rest : JobBody Unit}
    (reached : Reached bullmq timely undisturbed index start now)
    (pending : timely → ∃ entry, Unsettled now.acks ref entry ∧
      input.ackId = .string entry.ackId)
    (meant : outcome bullmq input = some settlement)
    (goesOn : ∀ later, Reached bullmq timely undisturbed index start later →
      (timely → Earned bullmq input later) →
      rest.wp ((jobOutline bullmq timely undisturbed).contract index (.jobInput input))
        (inputPost bullmq timely undisturbed index) start later) :
    (do settleContext index ref settlement; rest : JobBody Unit).wp
      ((jobOutline bullmq timely undisturbed).contract index (.jobInput input))
      (inputPost bullmq timely undisturbed index) start now := by
  simp only [settleContext, record, Async.wp_bind, Async.wp_modify]
  apply goesOn
  · exact (reached.record (.settles index ref settlement) rfl (by simp) (by simp)).settle ref
      settlement
  · intro asked
    obtain ⟨entry, unsettled, own⟩ := pending asked
    exact earned_settle reached.1.sane (reached.1.truthful asked) unsettled own meant

/-- After its call has resolved in time, the acknowledgement is still the one looked up. -/
theorem pending_later {ref : Nat} {entry : AcknowledgementEntry} {later : Runtime}
    {call : JobCall} {value : JobReply call} (unsettled : Unsettled now.acks ref entry)
    (own : input.ackId = .string entry.ackId) (late : SettlesAfterCall input)
    (advance : Advance (· ≠ index) now later)
    (holds : Invariant bullmq timely undisturbed later)
    (inTime : timely → Timely (.jobInput input) later call (.ok value)) :
    timely → ∃ entry, Unsettled later.acks ref entry ∧ input.ackId = .string entry.ackId := by
  intro asked
  obtain ⟨same, found⟩ := inTime asked late ⟨value, rfl⟩
  obtain ⟨kept, stored, _, _, key⟩ := advance.acks.entries ref entry unsettled.1
  have own' : input.ackId = .string kept.ackId := key ▸ own
  exact ⟨kept, ⟨stored, (read_of_ackId holds.sane stored own' found).2⟩, own'⟩

theorem cancelJob_meets (worker : Nat) (jobId : JsValue)
    (reached : Reached bullmq timely undisturbed index start now)
    (other : ∀ later, timely → Earned bullmq input later) :
    (do
      let cancelled ← modifyGet (cancelJob worker jobId (cancelReason input.msg))
      if !cancelled then
        throw (newError ("BullMQ found no cancellable processor for job " ++ jobId.toText))
      nodeSend index input.sendThrows (input.msg.set "payload" (.bool cancelled))
      nodeDone index input none : JobBody Unit).wp
      ((jobOutline bullmq timely undisturbed).contract index (.jobInput input))
      (inputPost bullmq timely undisturbed index) start now := by
  have cancelled := reached.cancelJob worker jobId (cancelReason input.msg)
  rw [Async.wp_bind, Async.wp_modifyGet]
  cases answer : (cancelJob worker jobId (cancelReason input.msg) now).1 with
  | true => exact sendDone_meets _ cancelled (other _)
  | false => exact cancelled

theorem unsettled_of_get {runtime : Runtime} (sane : Sane runtime) {ackId : JsValue} {ref : Nat}
    (found : Acknowledgements.get ackId runtime.acks = .ok ref) {entry : AcknowledgementEntry}
    (stored : runtime.acks.objects.read ref = some entry) :
    Unsettled runtime.acks ref entry ∧ ackId = .string entry.ackId := by
  unfold Acknowledgements.get at found
  split at found
  next key =>
    split at found
    next mapped present =>
      cases found
      obtain ⟨same, unsettled, owner⟩ := (sane.consistent.mapped key ref).mp present
      rw [unsettled.1] at stored
      cases stored
      exact ⟨unsettled, by rw [owner]⟩
    next => cases found
  next => cases found

theorem act_meets (holds : Invariant bullmq timely undisturbed now) :
    (act bullmq index input).wp
      ((jobOutline bullmq timely undisturbed).contract index (.jobInput input))
      (inputPost bullmq timely undisturbed index) now now := by
  have reached : Reached bullmq timely undisturbed index now now := .refl holds
  simp only [act, getContext, Async.wp_bind, Async.wp_get]
  cases found : Acknowledgements.get input.ackId now.acks with
  | error error => exact reached
  | ok ref =>
    cases stored : now.acks.objects.read ref with
    | none =>
      simp only [stored, Async.wp_throw]
      exact reached
    | some entry =>
      simp only [stored, Async.wp_pure]
      obtain ⟨unsettled, own⟩ := unsettled_of_get holds.sane found stored
      have other : outcome bullmq input = none → ∀ later, timely → Earned bullmq input later :=
        fun none _ _ => earned_of_other none
      cases chosen : input.action with
      | none => exact reached
      | some action =>
        cases action with
        | progress =>
          refine await_meets (.job entry.context.job (.updateProgress _)) reached (fun _ => trivial) ?_
          intro later value advance kept _
          exact sendDone_meets _ (.refl kept) (other (by simp [outcome, chosen]) later)
        | removeDeduplicationKey =>
          refine await_meets (.job entry.context.job .removeDeduplicationKey) reached
            (fun _ => trivial) ?_
          intro later value advance kept _
          exact sendDone_meets _ (.refl kept) (other (by simp [outcome, chosen]) later)
        | getChildrenValues =>
          refine await_meets (.job entry.context.job .getChildrenValues) reached
            (fun _ => trivial) ?_
          intro later value advance kept _
          exact sendDone_meets _ (.refl kept) (other (by simp [outcome, chosen]) later)
        | getFailedChildrenValues =>
          refine await_meets (.job entry.context.job .getFailedChildrenValues) reached
            (fun _ => trivial) ?_
          intro later value advance kept _
          exact sendDone_meets _ (.refl kept) (other (by simp [outcome, chosen]) later)
        | removeUnprocessedChildren =>
          refine await_meets (.job entry.context.job .removeUnprocessedChildren) reached
            (fun _ => trivial) ?_
          intro later value advance kept _
          exact sendDone_meets _ (.refl kept) (other (by simp [outcome, chosen]) later)
        | updateData =>
          refine await_meets (.job entry.context.job (.updateData _)) reached (fun _ => trivial) ?_
          intro later value advance kept _
          exact sendDone_meets _ (.refl kept) (other (by simp [outcome, chosen]) later)
        | complete =>
          refine settleContext_meets reached (fun _ => ⟨entry, unsettled, own⟩)
            (by simp [outcome, chosen]) ?_
          intro later settled earned
          exact sendDone_meets _ settled earned
        | fail =>
          refine settleContext_meets reached (fun _ => ⟨entry, unsettled, own⟩)
            (by simp [outcome, chosen]) ?_
          intro later settled earned
          exact nodeDone_meets none settled (fun _ => earned)
        | failUnrecoverable =>
          refine settleContext_meets reached (fun _ => ⟨entry, unsettled, own⟩)
            (by simp [outcome, chosen]) ?_
          intro later settled earned
          exact nodeDone_meets none settled (fun _ => earned)
        | rateLimit =>
          have late : SettlesAfterCall input := Or.inl chosen
          cases entry.context.queue with
          | none => exact reached
          | some queue =>
            refine await_meets (.rateLimit queue _) reached (fun _ => trivial) ?_
            intro later value advance kept inTime
            refine settleContext_meets (.refl kept)
              (pending_later unsettled own late advance kept inTime) (by simp [outcome, chosen]) ?_
            intro last settled earned
            exact nodeDone_meets none settled (fun _ => earned)
        | moveToWait =>
          have late : SettlesAfterCall input := Or.inr (Or.inl chosen)
          refine await_meets (.job entry.context.job (.moveToWait _)) reached (fun _ => trivial) ?_
          intro later value advance kept inTime
          refine settleContext_meets (.refl kept)
            (pending_later unsettled own late advance kept inTime) (by simp [outcome, chosen]) ?_
          intro last settled earned
          exact sendDone_meets _ settled earned
        | moveToDelayed =>
          have late : SettlesAfterCall input := Or.inr (Or.inr chosen)
          by_cases invalid : (!(input.msg.get "delay").toNumber.isFinite ||
              (input.msg.get "delay").toNumber.lt (JsNumber.ofNat 0)) = true
          · simp only [invalid, ↓reduceIte]
            exact reached
          · simp only [invalid, Bool.false_eq_true, ↓reduceIte]
            refine await_meets (.job entry.context.job (.moveToDelayed _ _)) reached
              (fun _ => trivial) ?_
            intro later value advance kept inTime
            refine settleContext_meets (.refl kept)
              (pending_later unsettled own late advance kept inTime) (by simp [outcome, chosen]) ?_
            intro last settled earned
            exact sendDone_meets _ settled earned
        | cancelJob =>
          exact cancelJob_meets entry.context.worker _ reached (other (by simp [outcome, chosen]))
        | cancelAllJobs =>
          exact sendDone_meets _ (reached.cancelAllJobs entry.context.worker _)
            (other (by simp [outcome, chosen]) _)

end JobNode

theorem jobInput_meets {index : Nat} {input : JobInput} {now : Runtime}
    (holds : Invariant bullmq timely undisturbed now) :
    (runTask bullmq index (.jobInput input)).wp
      ((jobOutline bullmq timely undisturbed).contract index (.jobInput input))
      ((jobOutline bullmq timely undisturbed).settles index (.jobInput input)) now now := by
  simp only [runTask, onInput, Async.wp_bind, Async.wp_tryCatch]
  refine Async.wp_mono _ ?_ (act_meets holds)
  intro start result later reached
  cases result with
  | ok value => exact ⟨reached.1, reached.2, trivial⟩
  | error error =>
    refine Async.wp_mono _ ?_ (show (nodeDone index input (some error)).wp _ _ _ _ from
      nodeDone_meets (some error) reached (by simp))
    intro first ended last finished
    cases ended with
    | ok value => exact ⟨finished.1, finished.2, trivial⟩
    | error error => exact ⟨finished.1, finished.2, trivial⟩

/-! ## The run node -/

theorem closeRun_meets {index : Nat} {node : RunNode} {now : Runtime}
    (holds : Invariant bullmq timely undisturbed now) :
    (runTask bullmq index (.closeRun node)).wp
      ((jobOutline bullmq timely undisturbed).contract index (.closeRun node))
      ((jobOutline bullmq timely undisturbed).settles index (.closeRun node)) now now := by
  have unmoved : Reached bullmq timely undisturbed index now now := Reached.refl holds
  have rejected := unmoved.steady
    (keeps_rejectByRunNode node.id closedBeforeAcknowledgement now.acks holds.sane.consistent)
    (steady_rejectByRunNode node.id closedBeforeAcknowledgement now.acks)
  simp only [runTask, onCloseRun, record, await, Async.wp_bind, Async.wp_modify, Async.wp_tryCatch,
    Async.wp_call]
  refine ⟨rejected.1, rejected.2, trivial, ?_⟩
  intro later kept _ reply _
  have closed : ∀ error, Reached bullmq timely undisturbed index later
      (later.record (.closed index error)) :=
    fun error => (Reached.refl kept).record _ rfl (by simp) (by simp)
  cases reply with
  | ok value => exact ⟨(closed none).1, (closed none).2, trivial⟩
  | error error => exact ⟨(closed (some error)).1, (closed (some error)).2, trivial⟩

section RunNode

variable {index : Nat} {node : RunNode} {job : Nat} {token : JsValue} {start now : Runtime}

/-- What is settled by the time the processor has settled. -/
def Processed (bullmq : Bullmq) (timely undisturbed : Prop) (index : Nat) (start : Runtime)
    (result : Except JsError JsValue) (now : Runtime) : Prop :=
  Reached bullmq timely undisturbed index start now ∧
    (∀ ref msg, .created index ref ∈ now.log → .sent index msg ∈ now.log → ∃ settlement,
      settlementOf ref now.acks = some settlement ∧ result = settlement.deliver) ∧
    (undisturbed → ∀ ref, .created index ref ∈ now.log → ∃ settlement,
      settlementOf ref now.acks = some settlement)

theorem wait_meets {ref : Nat} {entry : AcknowledgementEntry}
    (reached : Reached bullmq timely undisturbed index start now)
    (unsettled : Unsettled now.acks ref entry)
    (created : .created index ref ∈ now.log)
    (only : ∀ other, .created index other ∈ now.log → other = ref) :
    (wait onAcks awaitSettled ref).wp
      ((jobOutline bullmq timely undisturbed).contract index (.processJob node job token))
      (Processed bullmq timely undisturbed index) start now := by
  have pending : settlementOf ref now.acks = none := by
    simp [settlementOf, unsettled.1, unsettled.2]
  have registered := reached.steady
    ⟨consistent_onceSettled reached.1.sane.consistent unsettled, grows_onceSettled ref now.acks⟩
    (steady_onceSettled ref now.acks)
  simp only [wait, onAcks, awaitSettled, await, Async.wp_bind, Async.wp_modifyGet, pending]
  refine ⟨registered.1, registered.2, ?_, ?_⟩
  · refine ⟨⟨ref, none⟩, ?_, created, only⟩
    simp [onceSettled, Store.read_alloc]
  · intro later kept advance reply answered
    obtain ⟨found, settlement, promised, settled, equal⟩ := answered.1
    obtain ⟨same, held, owner⟩ := advance.acks.promises now.acks.promises.size ⟨ref, none⟩
      (by simp [onceSettled, Store.read_alloc])
    have read : later.acks.promises.read (onceSettled ref now.acks).1 = some same := held
    rw [read] at promised
    cases promised
    obtain ⟨owned, stored, agrees, _⟩ := kept.sane.consistent.promised _ found read
    have first : settlementOf ref later.acks = some settlement := by
      have owner' : found.entry = ref := owner
      rw [owner'] at stored
      simp only [settlementOf, stored, Option.bind_some]
      rw [← agrees]
      exact settled
    have mine : ∀ other, .created index other ∈ later.log → other = ref := by
      intro other logged
      rcases advance.fresh _ logged with old | foreign
      · exact only other old
      · exact absurd rfl foreign
    subst equal
    have ended : Processed bullmq timely undisturbed index later settlement.deliver later := by
      refine ⟨.refl kept, ?_, ?_⟩
      · intro other msg logged _
        rw [mine other logged]
        exact ⟨settlement, first, rfl⟩
      · intro _ other logged
        rw [mine other logged]
        exact ⟨settlement, first⟩
    cases settlement with
    | resolve value => exact ended
    | reject error => exact ended

/-- Once its acknowledgement is on record, the processor sends its message and waits. -/
theorem sendWait_meets {ref : Nat} {sendThrows : Option JsError} (msg : JsValue)
    (reached : Reached bullmq timely undisturbed index start now) (entry : AcknowledgementEntry)
    (unsettled : Unsettled now.acks ref entry)
    (created : ∀ other, .created index other ∈ now.log ↔ other = ref)
    (sent : ∀ msg, .sent index msg ∉ now.log) (sends : undisturbed → sendThrows = none) :
    (do
      nodeSend index sendThrows msg
      let value ← wait onAcks awaitSettled ref
      return value : JobBody JsValue).wp
      ((jobOutline bullmq timely undisturbed).contract index (.processJob node job token))
      (Processed bullmq timely undisturbed index) start now := by
  unfold nodeSend
  rw [Async.wp_bind]
  cases sendThrows with
  | some error =>
    refine ⟨reached, fun _ msg _ logged => absurd logged (sent msg), ?_⟩
    intro asked
    cases sends asked
  | none =>
    have recorded := reached.record (.sent index msg) rfl (by simp) (by simp)
    have waits : (wait onAcks awaitSettled ref).wp
        ((jobOutline bullmq timely undisturbed).contract index (.processJob node job token))
        (Processed bullmq timely undisturbed index) start (now.record (.sent index msg)) := by
      apply wait_meets recorded unsettled
      · exact List.mem_append_left _ ((created ref).mpr rfl)
      · intro other logged
        rcases List.mem_append.mp logged with old | new
        · exact (created other).mp old
        · cases List.mem_singleton.mp new
    exact waits

/-- The processor runs with its job still held and nothing of its own on record. -/
structure Invoked (undisturbed : Prop) (index : Nat) (node : RunNode) (job signal : Nat)
    (invocation : Invocation) (now : Runtime) : Prop where
  held : ⟨index, node.worker, job, signal⟩ ∈ now.active
  created : ∀ ref, .created index ref ∉ now.log
  sent : ∀ msg, .sent index msg ∉ now.log
  fresh : ∀ ref entry, now.acks.objects.read ref = some entry →
    entry.ackId ≠ ackIdOf node.id job invocation.now invocation.random now.acks
  quiet : undisturbed → node.completionMode = "manual" → invocation.sendThrows = none ∧
    ∀ found, now.acks.signals.read signal = some found → found.reason = none

theorem processed_without {result : Except JsError JsValue}
    (reached : Reached bullmq timely undisturbed index start now)
    (created : ∀ ref, .created index ref ∉ now.log) :
    Processed bullmq timely undisturbed index start result now :=
  ⟨reached, fun ref _ logged _ => absurd logged (created ref),
    fun _ ref logged => absurd logged (created ref)⟩

theorem processor_meets {signal : Nat} {invocation : Invocation}
    (holds : Invariant bullmq timely undisturbed now)
    (invoked : Invoked undisturbed index node job signal invocation now) :
    (processor index node job token signal invocation).wp
      ((jobOutline bullmq timely undisturbed).contract index (.processJob node job token))
      (Processed bullmq timely undisturbed index) now now := by
  have reached : Reached bullmq timely undisturbed index now now := .refl holds
  unfold processor
  by_cases manual : node.completionMode = "manual"
  · simp only [manual, ↓reduceIte, processor.liftExcept]
    cases invocation.queue with
    | error error => exact processed_without reached invoked.created
    | ok queue =>
      let context : Context :=
        { job, queue, queueName := node.queueName, runNodeId := node.id, worker := node.worker,
          signal := some signal, token }
      have creates : Creates undisturbed index context invocation.now invocation.random now := by
        refine ⟨invoked.fresh, ⟨_, invoked.held, rfl, rfl, rfl⟩, ?_⟩
        intro asked other found equal stored
        cases equal
        exact (invoked.quiet asked manual).2 found stored
      have created : Reached bullmq timely undisturbed index now (createdRuntime index context
          (parseAckTimeoutMs node.ackTimeout) invocation.now invocation.random now) :=
        reached_create reached creates
      have unsettled : Unsettled (createdRuntime index context (parseAckTimeoutMs node.ackTimeout)
          invocation.now invocation.random now).acks now.acks.objects.size
          (createdEntry context (parseAckTimeoutMs node.ackTimeout)
            (ackIdOf node.id job invocation.now invocation.random now.acks)) := by
        refine ⟨?_, rfl⟩
        simp only [createdRuntime, Runtime.record, create_objects, ↓reduceIte]
        rfl
      refine sendWait_meets _ created _ unsettled ?_ ?_ (fun asked => (invoked.quiet asked manual).1)
      · intro other
        simp [Runtime.record, invoked.created]
      · intro msg
        simp [Runtime.record, invoked.sent]
  · simp only [manual, ↓reduceIte]
    unfold nodeSend
    cases invocation.sendThrows with
    | some error => exact processed_without reached invoked.created
    | none =>
      apply processed_without (reached.record _ rfl (by simp) (by simp))
      intro ref logged
      rcases List.mem_append.mp logged with old | new
      · exact invoked.created ref old
      · cases List.mem_singleton.mp new

/-- BullMQ records the result and lets the job go. -/
theorem recorded_meets (result : Except JsError JsValue)
    (processed : Processed bullmq timely undisturbed index start result now) :
    (do
      let _ ← await .recorded
      modify (untrack index)
      match result with
      | .ok value => return value
      | .error error => throw error : JobBody JsValue).wp
      ((jobOutline bullmq timely undisturbed).contract index (.processJob node job token))
      ((jobOutline bullmq timely undisturbed).settles index (.processJob node job token))
      start now := by
  obtain ⟨reached, delivered, settled⟩ := processed
  simp only [await, Async.wp_bind, Async.wp_modify]
  refine ⟨reached.1, reached.2, settled, ?_⟩
  intro later kept advance reply answered
  have earlier : ∀ event, Event.handler event = index → event ∈ later.log → event ∈ now.log := by
    intro event own logged
    rcases advance.fresh event logged with old | foreign
    · exact old
    · exact absurd own foreign
  have released : Reached bullmq timely undisturbed index later (untrack index later) := by
    apply reached_untrack (.refl kept)
    intro asked ref logged
    obtain ⟨settlement, recorded⟩ := settled asked ref (earlier _ rfl logged)
    exact ⟨settlement, advance.acks.settled ref settlement recorded⟩
  have ended : Ended index (.processJob node job token) result (untrack index later) := by
    intro ref msg created sent
    obtain ⟨settlement, recorded, equal⟩ :=
      delivered ref msg (earlier _ rfl created) (earlier _ rfl sent)
    exact ⟨settlement, advance.acks.settled ref settlement recorded, equal⟩
  have done : reply = .ok () := answered.1
  subst done
  cases result with
  | ok value => exact ⟨released.1, released.2, ended⟩
  | error error => exact ⟨released.1, released.2, ended⟩

/-- What is left of the job's life once BullMQ has called the processor. -/
theorem invocation_meets {signal : Nat} {invocation : Invocation}
    (holds : Invariant bullmq timely undisturbed now)
    (invoked : Invoked undisturbed index node job signal invocation now) :
    (do
      let result ← try Except.ok <$> processor index node job token signal invocation
        catch error => pure (.error error)
      let _ ← await .recorded
      modify (untrack index)
      match result with
      | .ok value => return value
      | .error error => throw error : JobBody JsValue).wp
      ((jobOutline bullmq timely undisturbed).contract index (.processJob node job token))
      ((jobOutline bullmq timely undisturbed).settles index (.processJob node job token))
      now now := by
  rw [Async.wp_bind, Async.wp_tryCatch, Async.wp_map]
  refine Async.wp_mono _ ?_ (processor_meets holds invoked)
  intro start result last processed
  cases result with
  | ok value => exact recorded_meets (.ok value) processed
  | error error => exact recorded_meets (.error error) processed

theorem processJob_meets (holds : Invariant bullmq timely undisturbed now) (scope : Scope index now) :
    (runTask bullmq index (.processJob node job token)).wp
      ((jobOutline bullmq timely undisturbed).contract index (.processJob node job token))
      ((jobOutline bullmq timely undisturbed).settles index (.processJob node job token))
      now now := by
  have tracked : Reached bullmq timely undisturbed index now (track index node.worker job now).2 :=
    reached_track holds
  have nothing : ∀ event, Event.handler event = index → event ∉ now.log := by
    intro event own logged
    have bound := scope.1 event logged
    omega
  simp only [runTask, processJob, await, Async.wp_bind, Async.wp_modifyGet]
  refine ⟨tracked.1, tracked.2, ⟨fun _ => nothing _ rfl, fun _ => nothing _ rfl⟩, ?_⟩
  intro later kept advance reply answered
  have absent : ∀ event, Event.handler event = index → event ∉ later.log := by
    intro event own logged
    rcases advance.fresh event logged with old | foreign
    · exact nothing event own old
    · exact absurd own foreign
  obtain ⟨⟨invocation, equal, fresh⟩, -, undisturbed'⟩ := answered
  subst equal
  have held : (⟨index, node.worker, job, (track index node.worker job now).1⟩ : ActiveJob) ∈
      later.active := by
    rw [← advance.active _ (fun foreign => foreign rfl)]
    simp [track, newSignal]
  have invoked : Invoked undisturbed index node job (track index node.worker job now).1 invocation
      later := by
    refine ⟨held, fun _ => absent _ rfl, fun _ => absent _ rfl, fresh, ?_⟩
    intro asked manual
    obtain ⟨sends, quiet⟩ := undisturbed' asked manual
    exact ⟨sends, quiet _ held rfl⟩
  exact invocation_meets kept invoked

end RunNode

/-! ## Every run -/

theorem own_event {index : Nat} {before after : Runtime} (advance : Advance (· ≠ index) before after)
    {event : Event} (own : Event.handler event = index) (logged : event ∈ after.log) :
    event ∈ before.log := by
  rcases advance.fresh event logged with old | foreign
  · exact old
  · exact absurd own foreign

theorem waiting_stable {index : Nat} {task : JobTask} {call : JobCall} {before after : Runtime}
    (advance : Advance (· ≠ index) before after)
    (waiting : Waiting undisturbed index task before call) :
    Waiting undisturbed index task after call := by
  cases call with
  | invoke =>
    cases task with
    | processJob node job token =>
      exact ⟨fun ref logged => waiting.1 ref (own_event advance rfl logged),
        fun msg logged => waiting.2 msg (own_event advance rfl logged)⟩
    | _ => trivial
  | settled promise =>
    obtain ⟨found, stored, created, only⟩ := waiting
    obtain ⟨later, kept, owner⟩ := advance.acks.promises promise found stored
    refine ⟨later, kept, ?_, ?_⟩
    · rw [owner]
      exact advance.logged _ created
    · intro ref logged
      rw [owner]
      exact only ref (own_event advance rfl logged)
  | recorded =>
    intro asked ref logged
    obtain ⟨settlement, recorded⟩ := waiting asked ref (own_event advance rfl logged)
    exact ⟨settlement, advance.acks.settled ref settlement recorded⟩
  | job job method => trivial
  | rateLimit queue duration => trivial
  | release worker => trivial

theorem ended_stable {index : Nat} {task : JobTask} {result : Except JsError JsValue}
    {before after : Runtime} (advance : Advance (· ≠ index) before after)
    (ended : Ended index task result before) : Ended index task result after := by
  cases task with
  | processJob node job token =>
    intro ref msg created sent
    obtain ⟨settlement, recorded, equal⟩ :=
      ended ref msg (own_event advance rfl created) (own_event advance rfl sent)
    exact ⟨settlement, advance.acks.settled ref settlement recorded, equal⟩
  | _ => trivial

theorem scope_advance {index count : Nat} {before after : Runtime} (bound : index < count)
    (advance : Advance (· = index) before after) (scope : Scope count before) :
    Scope count after := by
  refine ⟨?_, ?_⟩
  · intro event logged
    rcases advance.fresh event logged with old | own
    · exact scope.1 event old
    · omega
  · intro job member
    by_cases own : job.task = index
    · omega
    · exact scope.2 job ((advance.active job own).mpr member)

/-- A task that is one synchronous step of the runtime or of BullMQ. -/
theorem operation_meets {index : Nat} {task : JobTask} {now later : Runtime}
    (reached : Reached bullmq timely undisturbed index now later)
    (silent : ∀ node job token, task ≠ .processJob node job token) :
    (jobOutline bullmq timely undisturbed).settles index task now (.ok .undefined) later := by
  refine ⟨reached.1, reached.2, ?_⟩
  cases task with
  | processJob node job token => exact absurd rfl (silent node job token)
  | _ => trivial

theorem task_meets {index : Nat} (task : JobTask) {now : Runtime}
    (holds : Invariant bullmq timely undisturbed now) (scope : Scope index now) :
    (runTask bullmq index task).wp ((jobOutline bullmq timely undisturbed).contract index task)
      ((jobOutline bullmq timely undisturbed).settles index task) now now := by
  have reached : Reached bullmq timely undisturbed index now now := .refl holds
  have consistent := holds.sane.consistent
  cases task with
  | processJob node job token => exact processJob_meets holds scope
  | jobInput input => exact jobInput_meets holds
  | closeRun node => exact closeRun_meets holds
  | timerFires ref =>
    exact operation_meets (reached.steady (keeps_timerFires ref now.acks consistent)
      (steady_timerFires ref now.acks)) (by simp)
  | abort signal reason => exact operation_meets (reached.abort signal reason) (by simp)
  | newJob job =>
    exact operation_meets (reached.steady
      ⟨consistent_jobs consistent _, grows_jobs now.acks _⟩ (steady_jobs now.acks _)) (by simp)
  | changeJob ref job =>
    exact operation_meets (reached.steady
      ⟨consistent_jobs consistent _, grows_jobs now.acks _⟩ (steady_jobs now.acks _)) (by simp)

theorem jobOutline_sound :
    (jobOutline bullmq timely undisturbed).Sound (jobSystem bullmq) (Allowed timely undisturbed) where
  rely_refl := fun _ runtime => .refl _ runtime
  rely_trans := fun _ _ _ _ => .trans
  widened := fun count runtime scope => ⟨fun event logged => Nat.lt_succ_of_lt (scope.1 event logged),
    fun job member => Nat.lt_succ_of_lt (scope.2 job member)⟩
  inScope := fun _ _ _ _ => scope_advance
  interferes := by
    intro index other before after different advance
    exact advance.mono fun handler own same => different (same.symm.trans own)
  waiting_stable := fun _ _ _ _ _ => waiting_stable
  post_stable := fun _ _ _ _ _ => ended_stable
  answered := by
    intro pool index task call next reply covers waiting answered permitted
    obtain ⟨found, paused, member, answer⟩ := answered
    have same := waiting.symm.trans member
    cases same
    exact ⟨answer, permitted task _ waiting⟩
  launched := fun pool task covers _ _ => task_meets task covers.1 covers.2.1
  forked := by
    intro pool index call task member
    cases member

theorem invariant_initial : Invariant bullmq timely undisturbed .initial where
  sane := by
    refine ⟨consistent_initial, ?_, ?_, ?_, ?_⟩
    · intro ref other entry found stored
      cases stored
    · intro handler ref logged
      cases logged
    · intro job member
      cases member
    · intro job member
      cases member
  truthful := by
    intro _
    refine ⟨?_, ?_⟩
    · intro handler input settlement logged
      cases logged
    · intro handler input other found logged
      cases logged
  live := by
    intro _
    refine ⟨?_, ?_⟩
    · intro ref entry signal found unsettled
      cases unsettled.1
    · intro ref entry unsettled
      cases unsettled.1

theorem covers_reached {pool : JobPool}
    (reached : Runs (jobSystem bullmq).Step (Allowed timely undisturbed) emptyJobPool pool) :
    (jobOutline bullmq timely undisturbed).Covers pool := by
  refine Outline.covers_run jobOutline_sound reached (Outline.covers_initial invariant_initial ?_)
  refine ⟨?_, ?_⟩
  · intro event logged
    cases logged
  · intro job member
    cases member

end NodeRedBull.JobOutline
