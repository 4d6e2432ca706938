import NodeRedBull.JobOutline

/-! Terminal actions of `bullmq job` nodes are exclusive and truthful, as long as BullMQ does
not resolve the call of one after its acknowledgement was settled by something else. -/

namespace NodeRedBull.TerminalActions
open Js Library Acknowledgements AcknowledgementInvariant JobRuntime JobInvariant JobOutline

/-- What the processor that made an acknowledgement gets from `wait`: it has got the
settlement, or the event promise it waits for has it. -/
def WaitDelivers (ref : Nat) (settlement : Settlement) (index : Nat) (runtime : Runtime) :
    Paused Runtime JobCall JobReply JsError JsValue → Prop
  | .finished result => (∃ msg, .sent index msg ∈ runtime.log) → result = settlement.deliver
  | .awaiting (.settled promise) _ => ∃ found, runtime.acks.promises.read promise = some found ∧
      found.entry = ref ∧ found.settlement = some settlement
  | .awaiting _ _ => True

/-- Every terminal action that ended without an error settled its acknowledgement, the worker
gets exactly that, and no other handler ended such an action on the same ackId. -/
def Exclusive (bullmq : Bullmq) (pool : JobPool) : Prop :=
  ∀ handler input settlement, .done handler input none ∈ pool.shared.log →
    outcome bullmq input = some settlement →
      (∃ ref entry, pool.shared.acks.objects.read ref = some entry ∧
        input.ackId = .string entry.ackId ∧ entry.settlement = some settlement ∧
          ∀ index node job token paused,
            pool.tasks[index]? = some (.processJob node job token, paused) →
              .created index ref ∈ pool.shared.log →
                WaitDelivers ref settlement index pool.shared paused) ∧
      ∀ other found, .done other found none ∈ pool.shared.log → (outcome bullmq found).isSome →
        found.ackId.sameString input.ackId = true → other = handler

/-- No call of `rateLimit`, `moveToWait` or `moveToDelayed` resolves in this move after the
acknowledgement it is about was settled. -/
def InTime (pool : JobPool) : PoolMove JobCall JobReply JsError JobTask → Prop
  | .start _ => True
  | .resume index _ reply => ∀ input paused, pool.tasks[index]? = some (.jobInput input, paused) →
      SettlesAfterCall input → (∃ value, reply = .ok value) →
        ∃ ref, Acknowledgements.get input.ackId pool.shared.acks = .ok ref

theorem allowed_of_inTime (pool : JobPool) (move : PoolMove JobCall JobReply JsError JobTask)
    (inTime : InTime pool move) : Allowed True False pool move := by
  cases move with
  | start task => trivial
  | resume index call reply =>
    intro task paused found
    refine ⟨?_, False.elim⟩
    intro _
    cases task with
    | jobInput input => exact inTime input paused found
    | _ => trivial

theorem exclusive_in_time {bullmq : Bullmq} {pool : JobPool}
    (reached : Runs (jobSystem bullmq).Step InTime emptyJobPool pool) : Exclusive bullmq pool := by
  have covers := covers_reached (reached.weaken allowed_of_inTime)
  have holds : Invariant bullmq True False pool.shared := covers.1
  have truthful := holds.truthful trivial
  intro handler input settlement logged meant
  refine ⟨?_, ?_⟩
  · obtain ⟨ref, entry, stored, own, settled⟩ := truthful.delivered handler input settlement logged meant
    have recorded : settlementOf ref pool.shared.acks = some settlement := by
      simp [settlementOf, stored, settled]
    refine ⟨ref, entry, stored, own, settled, ?_⟩
    intro index node job token paused found created
    have held := covers.2.2 index _ paused found
    cases paused with
    | finished result =>
      intro given
      obtain ⟨msg, sent⟩ := given
      obtain ⟨first, recorded', equal⟩ := held ref msg created sent
      rw [recorded] at recorded'
      cases recorded'
      exact equal
    | awaiting call next =>
      cases call with
      | settled promise =>
        obtain ⟨promised, read, _, only⟩ := held.1
        have mine := only ref created
        obtain ⟨owner, kept, agrees, _⟩ := holds.sane.consistent.promised promise promised read
        rw [← mine, stored] at kept
        cases kept
        exact ⟨promised, read, mine.symm, agrees.trans settled⟩
      | _ => trivial
  · intro other found logged' terminal same
    have meant' : (outcome bullmq input).isSome := by simp [meant]
    exact truthful.single other found handler input logged' terminal logged meant' same

/-! ## One job, and two terminal actions on it -/

def exampleBullmq : Bullmq :=
  ⟨⟨.waitingError, "waiting"⟩, ⟨.delayedError, "delayed"⟩, ⟨.rateLimitError, "rate limit"⟩⟩

def manualNode : RunNode := ⟨"run", "q", "manual", .undefined, 0⟩

/-- BullMQ calls the processor, every message can be sent and every method resolves. -/
def resolving : (call : JobCall) → Except JsError (JobReply call)
  | .invoke => .ok (⟨JsNumber.ofNat 0, "r", .ok none, none⟩ : Invocation)
  | .settled _ => .ok (.resolve .undefined)
  | .recorded | .release _ => .ok ()
  | .job _ _ | .rateLimit _ _ => .ok .undefined

def inputOf (action : String) : JobInput :=
  ⟨.object [("bull", .object [("ackId", .string "run:1:0:r")])], .string action,
    JsNumber.ofNat 0, true, none⟩

/-- BullMQ has taken the job and has not called the processor yet. -/
def takenPool : JobPool :=
  (jobSystem exampleBullmq).start
    ((jobSystem exampleBullmq).start emptyJobPool (.newJob (.object [("id", .string "1")])))
    (.processJob manualNode 0 .null)

theorem taken_reached {allowed : JobPool → PoolMove JobCall JobReply JsError JobTask → Prop}
    (any : ∀ pool task, allowed pool (.start task)) :
    Runs (jobSystem exampleBullmq).Step allowed emptyJobPool takenPool :=
  System.runs_start (System.runs_start (Runs.refl _) _ trivial (any _ _)) _ trivial (any _ _)

theorem taken_waits : ∃ next, takenPool.tasks[1]? =
    some (.processJob manualNode 0 .null, .awaiting .invoke next) := ⟨_, rfl⟩

/-- The job waits for its acknowledgement. -/
def pendingPool : JobPool := (jobSystem exampleBullmq).resumeWith takenPool 1 resolving

/-- `moveToWait` waits for BullMQ while `complete` settles the acknowledgement. -/
def contendedPool : JobPool :=
  (jobSystem exampleBullmq).start ((jobSystem exampleBullmq).start pendingPool
    (.jobInput (inputOf "moveToWait"))) (.jobInput (inputOf "complete"))

theorem logged_at {event : Event} {log : List Event} (position : Nat)
    (found : log[position]? = some event) : event ∈ log :=
  List.mem_of_getElem? found

theorem contended_reached : Runs (jobSystem exampleBullmq).Step InTime emptyJobPool contendedPool := by
  apply System.runs_start _ _ trivial trivial
  apply System.runs_start _ _ trivial trivial
  apply System.runs_resumeWith (taken_reached fun _ _ => trivial)
  intro task call next waiting
  obtain ⟨rest, known⟩ := taken_waits
  cases known.symm.trans waiting
  refine ⟨⟨_, _, known, _, rfl, ?_⟩, ?_⟩
  · intro ref entry stored
    cases stored
  · intro input paused found
    cases known.symm.trans found

theorem exclusive_in_time_contended :
    .done 3 (inputOf "complete") none ∈ contendedPool.shared.log ∧
      Exclusive exampleBullmq contendedPool :=
  ⟨logged_at 4 rfl, exclusive_in_time contended_reached⟩

/-- Both actions end without an error when BullMQ resolves `moveToWait` after all. -/
theorem late_answer_not_exclusive :
    ∃ pool, Runs (jobSystem exampleBullmq).Step anyMove emptyJobPool pool ∧
      ¬Exclusive exampleBullmq pool := by
  refine ⟨(jobSystem exampleBullmq).resumeWith contendedPool 2 resolving, ?_, ?_⟩
  · apply System.runs_resumeWith (contended_reached.weaken fun _ _ _ => trivial)
    intro task call next waiting
    have known : contendedPool.tasks[2]? = some (.jobInput (inputOf "moveToWait"),
        .awaiting (.job 0 (.moveToWait .null)) _) := rfl
    cases known.symm.trans waiting
    exact ⟨⟨_, _, known, trivial⟩, trivial⟩
  · intro exclusive
    have late : .done 2 (inputOf "moveToWait") none ∈
        ((jobSystem exampleBullmq).resumeWith contendedPool 2 resolving).shared.log :=
      logged_at 7 rfl
    have early : .done 3 (inputOf "complete") none ∈
        ((jobSystem exampleBullmq).resumeWith contendedPool 2 resolving).shared.log :=
      logged_at 4 rfl
    have same := (exclusive 2 _ _ late rfl).2 3 _ early rfl rfl
    omega

end NodeRedBull.TerminalActions
