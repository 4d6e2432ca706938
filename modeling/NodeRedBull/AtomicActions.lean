import NodeRedBull.Library.Interference
import NodeRedBull.Library.Trace
import NodeRedBull.JobFrames
import NodeRedBull.TerminalActions

/-! The `bullmq job` input handler is atomic on error: it ends with an error before it has sent
or settled anything, or it settles and sends what its action says. -/

namespace NodeRedBull.AtomicActions
open Js Library Acknowledgements JobRuntime JobInvariant JobFrames
open TerminalActions (exampleBullmq)

/-- What one handler did. -/
def ownEvents (handler : Nat) (runtime : Runtime) : List Event :=
  runtime.log.filter fun event => decide (Event.handler event = handler)

def doneOf : Event → Option (Option JsError)
  | .done _ _ error => some error
  | _ => none

def sentOf : Event → Option JsValue
  | .sent _ msg => some msg
  | _ => none

def settlesOf : Event → Option (Nat × Settlement)
  | .settles _ ref settlement => some (ref, settlement)
  | _ => none

/-- The actions that complete or fail their acknowledgement. -/
def settlingActions : List JobAction :=
  [.complete, .fail, .failUnrecoverable, .rateLimit, .moveToWait, .moveToDelayed]

def Settling (input : JobInput) : Prop := ∃ action ∈ settlingActions, input.action = some action

/-- Which acknowledgements an action may have called `complete` or `fail` on, where `found` is
what the registry has under its ackId. -/
def SettlesOwn (input : JobInput) (found : Except JsError Nat) (events : List Event) : Prop :=
  (Settling input → ∃ ref settlement, found = .ok ref ∧
    events.filterMap settlesOf = [(ref, settlement)]) ∧
  (¬Settling input → events.filterMap settlesOf = [])

/-- `done` was called once; with an error only where nothing was sent or settled. -/
def Atomic (input : JobInput) (found : Except JsError Nat) (events : List Event) : Prop :=
  (∃ error, events.filterMap doneOf = [some error] ∧ events.filterMap sentOf = [] ∧
    events.filterMap settlesOf = []) ∨
  (events.filterMap doneOf = [none] ∧ SettlesOwn input found events)

/-- What one handler leaves alone: what the others did. -/
def OwnSegment (handler : Nat) (before after : Runtime) : Prop :=
  ∀ other, other ≠ handler → ownEvents other after = ownEvents other before

/-- The methods of BullMQ that an action calls. -/
def AsksBullmq : JobCall → Prop
  | .job _ _ | .rateLimit _ _ => True
  | _ => False

/-- While an input waits it has done nothing yet. Everything but its own events may change, and
BullMQ may answer what it likes. -/
def amongHandlers (handler : Nat) : Interference Runtime JobCall JobReply JsError where
  others before after := ownEvents handler after = ownEvents handler before
  waiting runtime call := ownEvents handler runtime = [] ∧ AsksBullmq call
  answers _ _ _ := True

theorem ownEvents_record {handler : Nat} (event : Event) (own : Event.handler event = handler)
    (runtime : Runtime) :
    ownEvents handler (runtime.record event) = ownEvents handler runtime ++ [event] := by
  unfold ownEvents Runtime.record
  rw [List.filter_append, List.filter_cons, if_pos (decide_eq_true own), List.filter_nil]

theorem ownEvents_record_other {handler : Nat} {event : Event} (other : Event.handler event ≠ handler)
    (runtime : Runtime) :
    ownEvents handler (runtime.record event) = ownEvents handler runtime := by
  unfold ownEvents Runtime.record
  rw [List.filter_append, List.filter_cons, if_neg (by simp [other]), List.filter_nil,
    List.append_nil]

@[simp] theorem ownEvents_change (handler : Nat) (operation : AckState → AckState)
    (runtime : Runtime) : ownEvents handler (runtime.change operation) = ownEvents handler runtime :=
  rfl

theorem ownEvents_others {handler : Nat} {before after : Runtime}
    (changed : Relation.ReflTransGen (amongHandlers handler).others before after) :
    ownEvents handler after = ownEvents handler before := by
  induction changed with
  | refl => rfl
  | tail _ last ih => exact Eq.trans last ih

theorem ownEvents_of_log (handler : Nat) {before after : Runtime} (same : after.log = before.log) :
    ownEvents handler after = ownEvents handler before := by
  unfold ownEvents
  rw [same]

theorem log_cancelAllJobs (worker : Nat) (reason : JsValue) (runtime : Runtime) :
    (cancelAllJobs worker reason runtime).log = runtime.log := by
  unfold cancelAllJobs
  generalize runtime.active.filter (fun job => decide (job.worker = worker)) = jobs
  induction jobs generalizing runtime with
  | nil => rfl
  | cons job rest ih => exact ih (runtime.change (abort job.signal reason))

theorem log_cancelJob (worker : Nat) (jobId reason : JsValue) (runtime : Runtime) :
    (cancelJob worker jobId reason runtime).2.log = runtime.log := by
  unfold cancelJob
  dsimp only
  cases runtime.active.find? fun job =>
    decide (job.worker = worker) && ((runtime.acks.jobAt job.job).get "id").sameString jobId with
  | none => rfl
  | some job => rfl

/-! ## One input -/

section OneInput

variable {bullmq : Bullmq} {handler : Nat} {input : JobInput} {found : Except JsError Nat}
variable {now : Runtime}

/-- What the body of the `try` has to come to. -/
def Succeeds (handler : Nat) (input : JobInput) (found : Except JsError Nat) :
    Except JsError Unit → Runtime → Prop
  | .error _, now => ownEvents handler now = []
  | .ok _, now => (ownEvents handler now).filterMap doneOf = [none] ∧
      SettlesOwn input found (ownEvents handler now)

theorem SettlesOwn.snoc {events : List Event} {event : Event} (own : SettlesOwn input found events)
    (passed : settlesOf event = none) : SettlesOwn input found (events ++ [event]) := by
  unfold SettlesOwn
  rw [select_snoc passed]
  exact own

theorem nodeDone_ensures (called : input.hasDone = true)
    (quiet : (ownEvents handler now).filterMap doneOf = [])
    (own : SettlesOwn input found (ownEvents handler now)) :
    (amongHandlers handler).Ensures (nodeDone handler input none) (Succeeds handler input found)
      now := by
  unfold nodeDone record
  rw [if_pos called, Interference.ensures_modify]
  have recorded : ownEvents handler (now.record (.done handler input none)) =
      ownEvents handler now ++ [.done handler input none] :=
    ownEvents_record (.done handler input none) rfl now
  constructor
  · rw [recorded, List.filterMap_append, quiet]
    rfl
  · rw [recorded]
    exact own.snoc rfl

/-- `nodeSend` and `nodeDone`, the end of every action that answers with a message. -/
theorem sendDone_ensures (called : input.hasDone = true) (sends : input.sendThrows = none)
    (msg : JsValue) (quiet : (ownEvents handler now).filterMap doneOf = [])
    (own : SettlesOwn input found (ownEvents handler now)) :
    (amongHandlers handler).Ensures
      (do nodeSend handler input.sendThrows msg; nodeDone handler input none)
      (Succeeds handler input found) now := by
  unfold nodeSend
  rw [sends, Interference.ensures_bind]
  have recorded : ownEvents handler (now.record (.sent handler msg)) =
      ownEvents handler now ++ [.sent handler msg] :=
    ownEvents_record (.sent handler msg) rfl now
  apply nodeDone_ensures called
  · rw [recorded, select_snoc rfl]
    exact quiet
  · rw [recorded]
    exact own.snoc rfl

/-- An await inside an input that has done nothing yet. -/
theorem await_ensures (call : JobCall) {rest : JobReply call → JobBody Unit}
    (silent : ownEvents handler now = []) (asks : AsksBullmq call)
    (goesOn : ∀ later value, ownEvents handler later = [] →
      (amongHandlers handler).Ensures (rest value) (Succeeds handler input found) later) :
    (amongHandlers handler).Ensures (await call >>= rest) (Succeeds handler input found) now := by
  unfold await
  rw [Interference.ensures_bind, Interference.ensures_call]
  refine ⟨⟨silent, asks⟩, ?_⟩
  intro later changed reply _
  have still : ownEvents handler later = [] := by
    rw [ownEvents_others changed]
    exact silent
  cases reply with
  | ok value => exact goesOn later value still
  | error error => exact still

/-- `complete` or `fail` on the acknowledgement that was looked up. -/
theorem settleContext_ensures {ref : Nat} {settlement : Settlement} {rest : JobBody Unit}
    (settling : Settling input) (looked : found = .ok ref) (silent : ownEvents handler now = [])
    (goesOn : ∀ later, (ownEvents handler later).filterMap doneOf = [] →
      SettlesOwn input found (ownEvents handler later) →
      (amongHandlers handler).Ensures rest (Succeeds handler input found) later) :
    (amongHandlers handler).Ensures (do settleContext handler ref settlement; rest)
      (Succeeds handler input found) now := by
  unfold settleContext record
  rw [Interference.ensures_bind, Interference.ensures_bind, Interference.ensures_modify]
  have recorded : ownEvents handler ((now.record (.settles handler ref settlement)).change
      (settle ref settlement)) = [.settles handler ref settlement] := by
    have own : Event.handler (.settles handler ref settlement) = handler := rfl
    rw [ownEvents_change, ownEvents_record _ own, silent]
    rfl
  apply goesOn
  · rw [recorded]
    rfl
  · rw [recorded]
    exact ⟨fun _ => ⟨ref, settlement, looked, rfl⟩, fun other => absurd settling other⟩

/-- What has to be shown of an action that settles nothing, before it sends. -/
theorem settlesOwn_of_silent {later : Runtime} (other : ¬Settling input)
    (silent : ownEvents handler later = []) :
    (ownEvents handler later).filterMap doneOf = [] ∧
      SettlesOwn input found (ownEvents handler later) := by
  rw [silent]
  exact ⟨rfl, fun settling => absurd settling other, fun _ => rfl⟩

theorem cancelJob_ensures (called : input.hasDone = true) (sends : input.sendThrows = none)
    (other : ¬Settling input) (silent : ownEvents handler now = []) (worker : Nat)
    (jobId : JsValue) :
    (amongHandlers handler).Ensures (do
      let cancelled ← modifyGet (cancelJob worker jobId (cancelReason input.msg))
      if !cancelled then
        throw (newError ("BullMQ found no cancellable processor for job " ++ jobId.toText))
      nodeSend handler input.sendThrows (input.msg.set "payload" (.bool cancelled))
      nodeDone handler input none)
      (Succeeds handler input found) now := by
  have still := ownEvents_of_log handler (log_cancelJob worker jobId (cancelReason input.msg) now)
  rw [silent] at still
  have settled : _ ∧ SettlesOwn input found (ownEvents handler _) :=
    settlesOwn_of_silent other still
  obtain ⟨quiet, own⟩ := settled
  rw [Interference.ensures_bind, Interference.ensures_modifyGet]
  unfold Interference.Continues
  cases answer : (cancelJob worker jobId (cancelReason input.msg) now).1 with
  | true => exact sendDone_ensures called sends _ quiet own
  | false => exact still

/-- `onInput` finds no acknowledgement, or one with these fields. -/
theorem getContext_ensures {rest : Nat × Context → JobBody Unit}
    (silent : ownEvents handler now = [])
    (goesOn : ∀ ref entry, Acknowledgements.get input.ackId now.acks = .ok ref →
      now.acks.objects.read ref = some entry →
      (amongHandlers handler).Ensures (rest (ref, entry.context)) (Succeeds handler input found)
        now) :
    (amongHandlers handler).Ensures (getContext input.ackId >>= rest)
      (Succeeds handler input found) now := by
  unfold getContext
  rw [Interference.ensures_bind, Interference.ensures_bind, Interference.ensures_get]
  cases looked : Acknowledgements.get input.ackId now.acks with
  | error error =>
    unfold Interference.Continues
    simp only [looked]
    exact silent
  | ok ref =>
    cases stored : now.acks.objects.read ref with
    | none =>
      unfold Interference.Continues
      simp only [looked, stored]
      exact silent
    | some entry =>
      unfold Interference.Continues
      simp only [looked, stored]
      exact goesOn ref entry looked stored

theorem act_ensures (called : input.hasDone = true) (sends : input.sendThrows = none)
    (silent : ownEvents handler now = []) :
    (amongHandlers handler).Ensures (act bullmq handler input)
      (Succeeds handler input (Acknowledgements.get input.ackId now.acks)) now := by
  unfold act
  apply getContext_ensures silent
  intro ref entry looked stored
  have answers : ¬Settling input → ∀ msg later, ownEvents handler later = [] →
      (amongHandlers handler).Ensures
        (do nodeSend handler input.sendThrows msg; nodeDone handler input none)
        (Succeeds handler input (Acknowledgements.get input.ackId now.acks)) later := by
    intro other msg later still
    obtain ⟨quiet, own⟩ := settlesOwn_of_silent other still
    exact sendDone_ensures called sends msg quiet own
  have finishes : ∀ later, (ownEvents handler later).filterMap doneOf = [] →
      SettlesOwn input (Acknowledgements.get input.ackId now.acks) (ownEvents handler later) →
      (amongHandlers handler).Ensures (nodeDone handler input none)
        (Succeeds handler input (Acknowledgements.get input.ackId now.acks)) later :=
    fun later quiet own => nodeDone_ensures called quiet own
  cases chosen : input.action with
  | none => exact silent
  | some action =>
    have settles : action ∈ settlingActions → Settling input :=
      fun member => ⟨action, member, chosen⟩
    have leaves : action ∉ settlingActions → ¬Settling input := by
      intro absent settling
      obtain ⟨other, member, same⟩ := settling
      rw [chosen] at same
      cases same
      exact absent member
    cases action with
    | progress =>
      apply await_ensures (.job entry.context.job (.updateProgress _)) silent trivial
      intro later value still
      exact answers (leaves (by decide)) _ later still
    | removeDeduplicationKey =>
      apply await_ensures (.job entry.context.job .removeDeduplicationKey) silent trivial
      intro later value still
      exact answers (leaves (by decide)) _ later still
    | getChildrenValues =>
      apply await_ensures (.job entry.context.job .getChildrenValues) silent trivial
      intro later value still
      exact answers (leaves (by decide)) _ later still
    | getFailedChildrenValues =>
      apply await_ensures (.job entry.context.job .getFailedChildrenValues) silent trivial
      intro later value still
      exact answers (leaves (by decide)) _ later still
    | removeUnprocessedChildren =>
      apply await_ensures (.job entry.context.job .removeUnprocessedChildren) silent trivial
      intro later value still
      exact answers (leaves (by decide)) _ later still
    | updateData =>
      apply await_ensures (.job entry.context.job (.updateData _)) silent trivial
      intro later value still
      exact answers (leaves (by decide)) _ later still
    | complete =>
      apply settleContext_ensures (settles (by decide)) looked silent
      intro later quiet own
      exact sendDone_ensures called sends _ quiet own
    | fail =>
      exact settleContext_ensures (settles (by decide)) looked silent finishes
    | failUnrecoverable =>
      exact settleContext_ensures (settles (by decide)) looked silent finishes
    | rateLimit =>
      cases asked : entry.context.queue with
      | none =>
        simp only [asked]
        exact silent
      | some queue =>
        simp only [asked]
        apply await_ensures (.rateLimit queue _) silent trivial
        intro later value still
        exact settleContext_ensures (settles (by decide)) looked still finishes
    | moveToWait =>
      apply await_ensures (.job entry.context.job (.moveToWait _)) silent trivial
      intro later value still
      apply settleContext_ensures (settles (by decide)) looked still
      intro last quiet own
      exact sendDone_ensures called sends _ quiet own
    | moveToDelayed =>
      by_cases invalid : (!(input.msg.get "delay").toNumber.isFinite ||
          (input.msg.get "delay").toNumber.lt (JsNumber.ofNat 0)) = true
      · simp only [invalid, ↓reduceIte]
        exact silent
      · simp only [invalid, Bool.false_eq_true, ↓reduceIte]
        apply await_ensures (.job entry.context.job (.moveToDelayed _ _)) silent trivial
        intro later value still
        apply settleContext_ensures (settles (by decide)) looked still
        intro last quiet own
        exact sendDone_ensures called sends _ quiet own
    | cancelJob =>
      exact cancelJob_ensures called sends (leaves (by decide)) silent entry.context.worker _
    | cancelAllJobs =>
      have swept := ownEvents_of_log handler
        (log_cancelAllJobs entry.context.worker (cancelReason input.msg) now)
      rw [silent] at swept
      have answered := answers (leaves (by decide)) (input.msg.set "payload" (.bool true)) _ swept
      exact (Interference.ensures_bind _ _).mpr answered

theorem onInput_ensures (called : input.hasDone = true) (sends : input.sendThrows = none)
    (silent : ownEvents handler now = []) :
    (amongHandlers handler).Ensures (onInput bullmq handler input)
      (fun _ later => Atomic input (Acknowledgements.get input.ackId now.acks)
        (ownEvents handler later)) now := by
  unfold onInput
  rw [Interference.ensures_tryCatch]
  apply Interference.ensures_mono _ (act_ensures called sends silent)
  intro result later succeeded
  cases result with
  | ok value => exact .inr succeeded
  | error error =>
    change (amongHandlers handler).Ensures (nodeDone handler input (some error)) _ later
    unfold nodeDone record
    rw [if_pos called, Interference.ensures_modify]
    have own : Event.handler (.done handler input (some error)) = handler := rfl
    have silent_later : ownEvents handler later = [] := succeeded
    rw [ownEvents_record _ own, silent_later]
    exact .inl ⟨error, rfl, rfl, rfl⟩

end OneInput

/-! ## How often an input waits -/

section Waits

variable {bullmq : Bullmq} {handler : Nat} {input : JobInput}

theorem nodeDone_waits (error : Option JsError) : (nodeDone handler input error).WaitsAtMost 0 := by
  unfold nodeDone
  by_cases called : input.hasDone
  · rw [if_pos called]
    exact fun _ => trivial
  · rw [if_neg called]
    cases error with
    | none => trivial
    | some error => exact fun _ => trivial

theorem sendDone_waits (msg : JsValue) :
    (do nodeSend handler input.sendThrows msg; nodeDone handler input none :
      JobBody Unit).WaitsAtMost 0 := by
  unfold nodeSend
  cases input.sendThrows with
  | none => exact fun _ => nodeDone_waits none
  | some error => trivial

theorem settle_waits {ref : Nat} {settlement : Settlement} {rest : JobBody Unit}
    (remaining : rest.WaitsAtMost 0) :
    (do settleContext handler ref settlement; rest : JobBody Unit).WaitsAtMost 0 :=
  fun _ _ => remaining

theorem await_waits {call : JobCall} {rest : JobReply call → JobBody Unit}
    (remaining : ∀ value, (rest value).WaitsAtMost 0) : (await call >>= rest).WaitsAtMost 1 :=
  Async.waitsAtMost_bind (Async.waitsAtMost_call call) remaining

theorem getContext_waits (ackId : JsValue) : (getContext ackId).WaitsAtMost 0 := by
  unfold getContext
  intro now
  change Async.WaitsAtMost (Async.bind _ _) 0
  cases looked : Acknowledgements.get ackId now.acks with
  | error error =>
    simp only [Async.bind, looked]
    trivial
  | ok ref =>
    cases stored : now.acks.objects.read ref with
    | none =>
      simp only [Async.bind, looked, stored]
      trivial
    | some entry =>
      simp only [Async.bind, looked, stored]
      trivial

/-- Every action waits for one call of BullMQ at most. -/
theorem act_waits : (act bullmq handler input).WaitsAtMost 1 := by
  have once : ∀ {program : JobBody Unit}, program.WaitsAtMost 0 → program.WaitsAtMost 1 :=
    fun ends => Async.waitsAtMost_mono ends (by omega)
  have first : (act bullmq handler input).WaitsAtMost (0 + 1) := by
    unfold act
    apply Async.waitsAtMost_bind (getContext_waits input.ackId)
    intro found
    obtain ⟨ref, context⟩ := found
    cases input.action with
    | none => trivial
    | some action =>
      cases action with
      | progress => exact await_waits fun _ _ => sendDone_waits _
      | removeDeduplicationKey => exact await_waits fun _ => sendDone_waits _
      | getChildrenValues => exact await_waits fun _ => sendDone_waits _
      | getFailedChildrenValues => exact await_waits fun _ => sendDone_waits _
      | removeUnprocessedChildren => exact await_waits fun _ => sendDone_waits _
      | updateData => exact await_waits fun _ _ => sendDone_waits _
      | complete => exact once (settle_waits (sendDone_waits _))
      | fail => exact once (settle_waits (nodeDone_waits none))
      | failUnrecoverable => exact once (settle_waits (nodeDone_waits none))
      | rateLimit =>
        cases asked : context.queue with
        | none =>
          simp only [asked]
          trivial
        | some queue =>
          simp only [asked]
          exact await_waits fun _ => settle_waits (nodeDone_waits none)
      | moveToWait => exact await_waits fun _ => settle_waits (sendDone_waits _)
      | moveToDelayed =>
        by_cases invalid : (!(input.msg.get "delay").toNumber.isFinite ||
            (input.msg.get "delay").toNumber.lt (JsNumber.ofNat 0)) = true
        · simp only [invalid, ↓reduceIte]
          trivial
        · simp only [invalid, Bool.false_eq_true, ↓reduceIte]
          exact await_waits fun _ => settle_waits (sendDone_waits _)
      | cancelJob =>
        apply once
        intro now later
        have answered : ∀ cancelled : Bool, (do
            if !cancelled then
              throw (newError ("BullMQ found no cancellable processor for job " ++
                ((now.acks.jobAt context.job).get "id").toText))
            nodeSend handler input.sendThrows (input.msg.set "payload" (.bool cancelled))
            nodeDone handler input none : JobBody Unit).WaitsAtMost 0 := by
          intro cancelled
          cases cancelled with
          | true => exact sendDone_waits _
          | false => trivial
        exact answered _
      | cancelAllJobs => exact once fun _ => sendDone_waits _
  exact first

theorem onInput_waits : (onInput bullmq handler input).WaitsAtMost 1 :=
  Async.waitsAtMost_tryCatch act_waits fun error => nodeDone_waits (some error)

end Waits

/-! ## Every handler leaves the events of the others alone -/

theorem ownSegment_refl {handler : Nat} (runtime : Runtime) : OwnSegment handler runtime runtime :=
  fun _ _ => rfl

theorem ownSegment_frame (handler : Nat) : JobFrame (OwnSegment handler) handler where
  refl := ownSegment_refl
  trans := fun _ _ _ left right other different =>
    (right other different).trans (left other different)
  record := by
    intro event runtime own _ other different
    apply ownEvents_record_other
    omega
  acks := fun _ _ _ _ _ => rfl
  active := fun _ _ _ _ => rfl

theorem runTask_ownSegment {bullmq : Bullmq} {handler : Nat} (task : JobTask) :
    (runTask bullmq handler task).Respects (OwnSegment handler) anyCall :=
  runTask_respects (ownSegment_frame handler) task fun _ =>
    { acks := fun _ _ _ _ _ _ _ _ => rfl
      created := by
        intro ref runtime other different
        apply ownEvents_record_other
        exact Ne.symm different }

/-! ## Any run -/

/-- An input has ended atomically, or it has done nothing yet and ends with the next answer. -/
def Stands (handler : Nat) (input : JobInput) (found : Except JsError Nat) (runtime : Runtime) :
    Paused Runtime JobCall JobReply JsError JsValue → Prop
  | .finished _ => Atomic input found (ownEvents handler runtime)
  | .awaiting call next => ownEvents handler runtime = [] ∧ AsksBullmq call ∧
      ∀ reply later, ∃ result, ((next reply).segment later).2 = .finished result

/-- An input waits once at most. -/
def WaitsOnce (_ : Nat) : JobTask → Paused Runtime JobCall JobReply JsError JsValue → Prop
  | .jobInput _, paused => paused.WaitsAtMost 1
  | _, _ => True

theorem waitsOnce_shape (bullmq : Bullmq) : Shape (jobSystem bullmq) WaitsOnce where
  begun := by
    intro index task state
    cases task with
    | jobInput input =>
      have waits : (runTask bullmq index (.jobInput input)).WaitsAtMost (1 + 0) :=
        Async.waitsAtMost_bind onInput_waits fun _ => trivial
      exact Async.segment_waitsAtMost waits state
    | _ => trivial
  resumed := by
    intro index task call next reply state waits
    cases task with
    | jobInput input =>
      apply Async.segment_waitsAtMost
      exact Async.waitsAtMost_mono (waits.2 reply) (by omega)
    | _ => trivial

/-- No task from `count` on has done anything. -/
def SilentFrom (count : Nat) (runtime : Runtime) : Prop :=
  ∀ handler, count ≤ handler → ownEvents handler runtime = []

theorem silent_reached {bullmq : Bullmq} {acks : AckState} {active : List ActiveJob}
    {pool : JobPool} (reached : Runs (jobSystem bullmq).Step anyMove ⟨⟨acks, active, []⟩, []⟩ pool) :
    ownEvents pool.tasks.length pool.shared = [] := by
  have silent : SilentFrom pool.tasks.length pool.shared := by
    apply System.scope_of_run (fun index task => runTask_ownSegment task) (fun _ => ownSegment_refl)
      _ _ _ reached
    · intro count runtime silent handler later
      exact silent handler (by omega)
    · intro index count before after bound near silent handler later
      rw [near handler (by omega)]
      exact silent handler later
    · intro handler _
      rfl
  exact silent _ le_rfl

theorem interferes (bullmq : Bullmq) (handler : Nat) :
    System.Interferes (jobSystem bullmq) OwnSegment anyCall handler (amongHandlers handler) where
  respects := fun _ task => runTask_ownSegment task
  refl := fun _ => ownSegment_refl
  others := fun _ _ _ different near => near handler (Ne.symm different)
  answers := fun _ _ _ _ _ => trivial

/-- Whatever the registry holds and the other handlers do, an input that ends with an error has
sent nothing and settled nothing; one that ends without has settled its own acknowledgement once
if its action is to settle it, and none otherwise. -/
theorem job_actions_atomic {bullmq : Bullmq} {acks : AckState} {active : List ActiveJob}
    {pool last : JobPool} {input : JobInput} {paused : Paused Runtime JobCall JobReply JsError JsValue}
    (reached : Runs (jobSystem bullmq).Step anyMove ⟨⟨acks, active, []⟩, []⟩ pool)
    (called : input.hasDone = true) (sends : input.sendThrows = none)
    (run : Runs (jobSystem bullmq).Step anyMove ((jobSystem bullmq).start pool (.jobInput input))
      last)
    (stopped : last.tasks[pool.tasks.length]? = some (.jobInput input, paused)) :
    Stands pool.tasks.length input (Acknowledgements.get input.ackId pool.shared.acks) last.shared
      paused := by
  let found := Acknowledgements.get input.ackId pool.shared.acks
  let post : Except JsError JsValue → Runtime → Prop :=
    fun _ later => Atomic input found (ownEvents pool.tasks.length later)
  have ensures : (amongHandlers pool.tasks.length).Ensures
      (runTask bullmq pool.tasks.length (.jobInput input)) post pool.shared := by
    apply (Interference.ensures_bind _ _).mpr
    apply Interference.ensures_mono _ (onInput_ensures called sends (silent_reached reached))
    intro result later atomic
    cases result with
    | ok value => exact atomic
    | error error => exact atomic
  have reaches := System.reaches_of_run (interferes bullmq pool.tasks.length) reached rfl run stopped
  have ensured := reaches.ensured ensures
    (fun _ now later atomic changed => by
      change Atomic input found (ownEvents pool.tasks.length later)
      rw [show ownEvents pool.tasks.length later = ownEvents pool.tasks.length now from changed]
      exact atomic)
    (fun now later call waiting changed => ⟨Eq.trans changed waiting.1, waiting.2⟩)
  cases paused with
  | finished result => exact ensured
  | awaiting call next =>
    have whole := (System.runs_start reached (.jobInput input) trivial trivial).trans run
    have waits : (Paused.awaiting call next).WaitsAtMost 1 :=
      (waitsOnce_shape bullmq).run whole stopped
    exact ⟨ensured.1.1, ensured.1.2, fun reply later => Async.segment_ends (waits.2 reply) later⟩

/-- A registry with one pending acknowledgement. -/
def onePending : AckState :=
  (create ⟨0, none, "q", "run", 0, none, .null⟩ (JsNumber.ofNat 0) (JsNumber.ofNat 0) "r"
    (newJob (.object [("id", .string "1")]) .initial).2).2

def completes : JobInput :=
  ⟨.object [("bull", .object [("ackId", .string "run:1:0:r")])], .undefined, JsNumber.ofNat 0, true,
    none⟩

def onePendingPool : JobPool := ⟨⟨onePending, [], []⟩, []⟩

theorem job_actions_atomic_completes :
    Settling completes ∧ Acknowledgements.get completes.ackId onePending = .ok 0 ∧
      Stands 0 completes (Acknowledgements.get completes.ackId onePending)
        ((jobSystem exampleBullmq).start onePendingPool (.jobInput completes)).shared
        (.finished (.ok .undefined)) :=
  ⟨⟨.complete, by decide, rfl⟩, rfl, job_actions_atomic (Runs.refl onePendingPool) rfl rfl
    (Runs.refl ((jobSystem exampleBullmq).start onePendingPool (.jobInput completes))) rfl⟩

end NodeRedBull.AtomicActions
