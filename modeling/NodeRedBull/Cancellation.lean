import NodeRedBull.TerminalActions

/-! A cancelled job does not stay pending, as long as its signal was not aborted before the
processor made the acknowledgement and the processor got its message sent. -/

namespace NodeRedBull.Cancellation
open Js Library Acknowledgements AcknowledgementInvariant AcknowledgementEffect JobRuntime
open JobInvariant JobOutline
open TerminalActions (exampleBullmq manualNode resolving takenPool taken_reached taken_waits pendingPool)

/-- The processors called in this move find their signal not aborted and can send. -/
def StartsClean (pool : JobPool) : PoolMove JobCall JobReply JsError JobTask → Prop
  | .start _ => True
  | .resume index call reply => ∀ task paused, pool.tasks[index]? = some (task, paused) →
      Undisturbed index task pool.shared call reply

theorem allowed_of_startsClean (pool : JobPool) (move : PoolMove JobCall JobReply JsError JobTask)
    (clean : StartsClean pool move) : Allowed False True pool move := by
  cases move with
  | start task => trivial
  | resume index call reply => exact fun task paused found => ⟨False.elim, fun _ => clean task paused found⟩

/-- In a state with nothing pending on an aborted signal, an abort settles exactly the entries
with its signal, whether or not it is the first one. -/
theorem read_abort_live {runtime : Runtime} (sane : Sane runtime) (live : Live runtime)
    (signal : Nat) (reason : JsValue) (ref : Nat) :
    (abort signal reason runtime.acks).objects.read ref =
      (runtime.acks.objects.read ref).map fun entry =>
        if entry.context.signal = some signal then settledBy (.reject (abortError reason)) entry
        else entry := by
  cases found : runtime.acks.signals.read signal with
  | none =>
    have same : abort signal reason runtime.acks = runtime.acks := by simp [abort, found]
    rw [same]
    cases stored : runtime.acks.objects.read ref with
    | none => rfl
    | some entry =>
      have deaf : entry.context.signal ≠ some signal := by
        intro listens
        have bound := sane.consistent.signalled ref entry signal stored listens
        rw [Store.read_eq_none_iff] at found
        omega
      simp [deaf]
  | some signalState =>
    cases aborted : signalState.reason with
    | none => exact read_abort sane.consistent found aborted reason ref
    | some first =>
      have same : abort signal reason runtime.acks = runtime.acks := by
        simp [abort, found, aborted]
      rw [same]
      cases stored : runtime.acks.objects.read ref with
      | none => rfl
      | some entry =>
        by_cases listens : entry.context.signal = some signal
        · cases pending : entry.settlement with
          | none =>
            have quiet := live.quiet ref entry signal signalState ⟨stored, pending⟩ listens found
            rw [aborted] at quiet
            cases quiet
          | some settlement => simp [settledBy, pending]
        · simp [listens]

theorem read_aborts {bullmq : Bullmq} (reason : JsValue) (jobs : List ActiveJob)
    {runtime : Runtime} (holds : Invariant bullmq False True runtime) (ref : Nat) :
    (jobs.foldl (fun runtime job => runtime.change (abort job.signal reason))
        runtime).acks.objects.read ref =
      (runtime.acks.objects.read ref).map fun entry =>
        if ∃ job ∈ jobs, entry.context.signal = some job.signal then
          settledBy (.reject (abortError reason)) entry
        else entry := by
  classical
  induction jobs generalizing runtime with
  | nil => simp
  | cons job rest ih =>
    rw [List.foldl_cons, ih (invariant_abort holds job.signal reason)]
    have first := read_abort_live holds.sane (holds.live trivial) job.signal reason ref
    simp only [Runtime.change, first, Option.map_map]
    congr 1
    funext entry
    by_cases here : entry.context.signal = some job.signal
    · simp only [Function.comp_apply, here, ↓reduceIte, context_settledBy]
      by_cases later : ∃ other ∈ rest, job.signal = other.signal
      · simp [later, settledBy_twice]
      · simp [later]
    · simp [here]

/-- `cancelAllJobs` rejects what is pending on the worker's jobs, and nothing else changes. -/
theorem cancelAllJobs_effect {bullmq : Bullmq} {runtime : Runtime}
    (holds : Invariant bullmq False True runtime) (worker : Nat) (reason : JsValue) {ref : Nat}
    {entry : AcknowledgementEntry} (stored : runtime.acks.objects.read ref = some entry) :
    (cancelAllJobs worker reason runtime).acks.objects.read ref =
      some (if entry.settlement = none ∧ entry.context.worker = worker then
        { entry with settlement := some (.reject (abortError reason)), events := [] }
        else entry) := by
  classical
  unfold cancelAllJobs
  rw [read_aborts reason _ holds, stored, Option.map_some]
  congr 1
  cases pending : entry.settlement with
  | some settlement =>
    have kept : settledBy (.reject (abortError reason)) entry = entry := by
      simp [settledBy, pending]
    simp [kept]
  | none =>
    obtain ⟨job, member, owner, listens, _⟩ := (holds.live trivial).held ref entry ⟨stored, pending⟩
    by_cases own : entry.context.worker = worker
    · have held : ∃ job ∈ runtime.active.filter (fun job => decide (job.worker = worker)),
          entry.context.signal = some job.signal := by
        refine ⟨job, ?_, listens⟩
        rw [List.mem_filter]
        exact ⟨member, decide_eq_true (owner.trans own)⟩
      rw [if_pos held]
      simp [settledBy, pending, own]
    · have free : ¬∃ job ∈ runtime.active.filter (fun job => decide (job.worker = worker)),
          entry.context.signal = some job.signal := by
        intro given
        obtain ⟨other, found, hears⟩ := given
        obtain ⟨kept, same⟩ := List.mem_filter.mp found
        rw [listens] at hears
        have one := holds.sane.separate job member other kept (Option.some.inj hears)
        subst one
        exact own (owner.symm.trans (of_decide_eq_true same))
      rw [if_neg free]
      simp [own]

theorem start_cancelAllJobs {bullmq : Bullmq} {pool : JobPool} {input : JobInput} {ref : Nat}
    {entry : AcknowledgementEntry} (chosen : input.action = some .cancelAllJobs)
    (found : Acknowledgements.get input.ackId pool.shared.acks = .ok ref)
    (stored : pool.shared.acks.objects.read ref = some entry) :
    ((jobSystem bullmq).start pool (.jobInput input)).shared.acks =
      (cancelAllJobs entry.context.worker (cancelReason input.msg) pool.shared).acks := by
  simp only [System.start, jobSystem, runTask, onInput, act, getContext, found, stored, chosen,
    Async.segment_bind, Async.segment_tryCatch, Async.segment_get, Async.segment_pure,
    Async.segment_modify, Paused.andThen, nodeSend]
  cases input.sendThrows with
  | none =>
    simp only [record, nodeDone, Async.segment_modify]
    by_cases called : input.hasDone
    · simp only [called, ↓reduceIte]
      rfl
    · simp only [called, Bool.false_eq_true, ↓reduceIte]
      rfl
  | some error =>
    simp only [nodeDone, Async.segment_throw, Paused.orHandle]
    by_cases called : input.hasDone
    · simp only [called, ↓reduceIte]
      rfl
    · simp only [called, Bool.false_eq_true, ↓reduceIte]
      rfl

def NothingCancelledPending (pool : JobPool) : Prop :=
  ∀ ref entry signal found, Unsettled pool.shared.acks ref entry →
    entry.context.signal = some signal → pool.shared.acks.signals.read signal = some found →
      found.reason = none

/-- A `cancelAllJobs` input rejects every pending acknowledgement of the worker that its ackId
leads to, leaves none of that worker in the registry, and changes no other acknowledgement. -/
def CancelsWorker (bullmq : Bullmq) (pool : JobPool) : Prop :=
  ∀ input ref entry, input.action = some .cancelAllJobs →
    Acknowledgements.get input.ackId pool.shared.acks = .ok ref →
      pool.shared.acks.objects.read ref = some entry →
        ∀ other found, pool.shared.acks.objects.read other = some found →
          (found.context.worker = entry.context.worker →
            (∀ key, ((jobSystem bullmq).start pool (.jobInput input)).shared.acks.entries.get key ≠
              some other) ∧
            settlementOf other ((jobSystem bullmq).start pool (.jobInput input)).shared.acks =
              some (found.settlement.getD (.reject (abortError (cancelReason input.msg))))) ∧
          (found.context.worker ≠ entry.context.worker →
            ((jobSystem bullmq).start pool (.jobInput input)).shared.acks.objects.read other =
              some found)

theorem covers_clean {bullmq : Bullmq} {pool : JobPool}
    (reached : Runs (jobSystem bullmq).Step StartsClean emptyJobPool pool) :
    Invariant bullmq False True pool.shared :=
  (covers_reached (reached.weaken allowed_of_startsClean)).1

theorem nothing_cancelled_pending {bullmq : Bullmq} {pool : JobPool}
    (reached : Runs (jobSystem bullmq).Step StartsClean emptyJobPool pool) :
    NothingCancelledPending pool ∧ CancelsWorker bullmq pool := by
  have holds := covers_clean reached
  refine ⟨(holds.live trivial).quiet, ?_⟩
  intro input ref entry chosen found stored other owned read
  have cancelled : ((jobSystem bullmq).start pool (.jobInput input)).shared.acks = _ :=
    start_cancelAllJobs chosen found stored
  have effect := cancelAllJobs_effect holds entry.context.worker (cancelReason input.msg) read
  rw [← cancelled] at effect
  refine ⟨?_, ?_⟩
  · intro own
    have settled : settlementOf other
        ((jobSystem bullmq).start pool (.jobInput input)).shared.acks =
          some (owned.settlement.getD (.reject (abortError (cancelReason input.msg)))) := by
      simp only [settlementOf, effect, Option.bind_some]
      cases pending : owned.settlement with
      | none => simp [own]
      | some settlement => simp [pending]
    refine ⟨?_, settled⟩
    intro key mapped
    have afterwards := covers_clean (System.runs_start reached (.jobInput input) trivial trivial)
    obtain ⟨kept, unsettled, _⟩ := (afterwards.sane.consistent.mapped key other).mp mapped
    simp only [settlementOf, unsettled.1, Option.bind_some, unsettled.2] at settled
    cases settled
  · intro foreign
    rw [effect]
    simp [foreign]

/-! ## One job that is aborted before and one that is aborted after its processor is called -/

theorem nothing_cancelled_pending_called :
    NothingCancelledPending ((jobSystem exampleBullmq).start pendingPool
      (.abort 0 (.string "cancelled"))) := by
  have called : Runs (jobSystem exampleBullmq).Step StartsClean emptyJobPool pendingPool := by
    apply System.runs_resumeWith (taken_reached fun _ _ => trivial)
    intro task call next waiting
    obtain ⟨rest, known⟩ := taken_waits
    cases known.symm.trans waiting
    refine ⟨⟨_, _, known, _, rfl, ?_⟩, ?_⟩
    · intro ref entry stored
      cases stored
    · intro task paused found
      cases known.symm.trans found
      intro _
      refine ⟨rfl, ?_⟩
      intro job member own found stored
      cases List.mem_singleton.mp member
      cases stored
      rfl
  exact (nothing_cancelled_pending
    (System.runs_start called (.abort 0 (.string "cancelled")) trivial trivial)).1

/-- The abort comes while BullMQ is about to call the processor. -/
def abortedPool : JobPool :=
  (jobSystem exampleBullmq).resumeWith
    ((jobSystem exampleBullmq).start takenPool (.abort 0 (.string "cancelled"))) 1 resolving

theorem early_abort_pending : ∃ pool,
    Runs (jobSystem exampleBullmq).Step anyMove emptyJobPool pool ∧ ¬NothingCancelledPending pool := by
  refine ⟨abortedPool, ?_, ?_⟩
  · apply System.runs_resumeWith
      (System.runs_start (taken_reached fun _ _ => trivial) (.abort 0 (.string "cancelled")) trivial
        trivial)
    intro task call next waiting
    have known : ((jobSystem exampleBullmq).start takenPool
        (.abort 0 (.string "cancelled"))).tasks[1]? =
          some (.processJob manualNode 0 .null, .awaiting .invoke _) := rfl
    cases known.symm.trans waiting
    refine ⟨⟨_, _, known, _, rfl, ?_⟩, trivial⟩
    intro ref entry stored
    cases stored
  · intro quiet
    have reason := quiet 0 _ 0 _ ⟨rfl, rfl⟩ rfl rfl
    cases reason

end NodeRedBull.Cancellation
