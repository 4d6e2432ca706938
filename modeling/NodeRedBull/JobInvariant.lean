import NodeRedBull.JobRuntime

/-! What the handlers of one registry keep for each other: the acknowledgements, the jobs
workers hold and the log only grow in ways every suspended handler can rely on. -/

namespace NodeRedBull.JobInvariant
open Js Library Acknowledgements AcknowledgementInvariant AcknowledgementCreation
open AcknowledgementEffect JobRuntime

def Event.handler : Event → Nat
  | .created handler _ | .settles handler _ _ | .sent handler _ | .done handler _ _
  | .nodeError handler _ | .closed handler _ => handler

/-- A step taken by one of the handlers in `acting`. -/
structure Advance (acting : Nat → Prop) (before after : Runtime) : Prop where
  acks : Grows before.acks after.acks
  logged : ∀ event ∈ before.log, event ∈ after.log
  fresh : ∀ event ∈ after.log, event ∈ before.log ∨ acting (Event.handler event)
  active : ∀ job, ¬acting job.task → (job ∈ before.active ↔ job ∈ after.active)

theorem Advance.refl (acting : Nat → Prop) (runtime : Runtime) : Advance acting runtime runtime :=
  ⟨.refl runtime.acks, fun _ logged => logged, fun _ logged => Or.inl logged, fun _ _ => Iff.rfl⟩

theorem Advance.trans {acting : Nat → Prop} {first second third : Runtime}
    (left : Advance acting first second) (right : Advance acting second third) :
    Advance acting first third where
  acks := left.acks.trans right.acks
  logged := fun event logged => right.logged event (left.logged event logged)
  fresh := by
    intro event logged
    rcases right.fresh event logged with middle | own
    · exact left.fresh event middle
    · exact Or.inr own
  active := fun job other => (left.active job other).trans (right.active job other)

theorem Advance.mono {acting wider : Nat → Prop} {before after : Runtime}
    (step : Advance acting before after) (implies : ∀ handler, acting handler → wider handler) :
    Advance wider before after where
  acks := step.acks
  logged := step.logged
  fresh := fun event logged => (step.fresh event logged).imp id (implies _)
  active := fun job other => step.active job (fun own => other (implies _ own))

theorem advance_record {acting : Nat → Prop} (runtime : Runtime) (event : Event)
    (own : acting (Event.handler event)) : Advance acting runtime (runtime.record event) where
  acks := .refl runtime.acks
  logged := fun _ logged => List.mem_append_left _ logged
  fresh := by
    intro other logged
    rcases List.mem_append.mp logged with old | new
    · exact Or.inl old
    · rw [List.mem_singleton] at new
      exact Or.inr (new ▸ own)
  active := fun _ _ => Iff.rfl

theorem advance_acks {acting : Nat → Prop} (runtime : Runtime) {acks : AckState}
    (grows : Grows runtime.acks acks) : Advance acting runtime { runtime with acks } :=
  ⟨grows, fun _ logged => logged, fun _ logged => Or.inl logged, fun _ _ => Iff.rfl⟩

/-! ## Invariants -/

structure Sane (runtime : Runtime) : Prop where
  consistent : Consistent runtime.acks
  distinct : ∀ ref other entry found, runtime.acks.objects.read ref = some entry →
    runtime.acks.objects.read other = some found → entry.ackId = found.ackId → ref = other
  created : ∀ handler ref, .created handler ref ∈ runtime.log → ref < runtime.acks.objects.size
  signals : ∀ job ∈ runtime.active, job.signal < runtime.acks.signals.size
  separate : ∀ job ∈ runtime.active, ∀ other ∈ runtime.active, job.signal = other.signal →
    job = other

/-- What a terminal action is meant to make of its acknowledgement. -/
def outcome (bullmq : Bullmq) (input : JobInput) : Option Settlement :=
  match input.action with
  | some .complete => some (.resolve (completedValue input.msg))
  | some .fail => some (.reject (failedError input.msg))
  | some .failUnrecoverable => some (.reject (unrecoverableError input.msg))
  | some .rateLimit => some (.reject bullmq.rateLimitError)
  | some .moveToWait => some (.reject bullmq.waitingError)
  | some .moveToDelayed => some (.reject bullmq.delayedError)
  | _ => none

/-- A terminal action that called `done` without an error is what settled its
acknowledgement, and it is the only one that did so. -/
structure Truthful (bullmq : Bullmq) (runtime : Runtime) : Prop where
  delivered : ∀ handler input settlement, .done handler input none ∈ runtime.log →
    outcome bullmq input = some settlement → ∃ ref entry,
      runtime.acks.objects.read ref = some entry ∧ input.ackId = .string entry.ackId ∧
        entry.settlement = some settlement
  single : ∀ handler input other found, .done handler input none ∈ runtime.log →
    (outcome bullmq input).isSome → .done other found none ∈ runtime.log →
      (outcome bullmq found).isSome → input.ackId.sameString found.ackId = true → handler = other

/-- No pending acknowledgement has an aborted signal, and a worker still holds its job. -/
structure Live (runtime : Runtime) : Prop where
  quiet : ∀ ref entry signal found, Unsettled runtime.acks ref entry →
    entry.context.signal = some signal → runtime.acks.signals.read signal = some found →
      found.reason = none
  held : ∀ ref entry, Unsettled runtime.acks ref entry → ∃ job ∈ runtime.active,
    job.worker = entry.context.worker ∧ entry.context.signal = some job.signal ∧
      .created job.task ref ∈ runtime.log

/-- `timely` and `undisturbed` stand for what is asked of the steps of a run. -/
structure Invariant (bullmq : Bullmq) (timely undisturbed : Prop) (runtime : Runtime) : Prop where
  sane : Sane runtime
  truthful : timely → Truthful bullmq runtime
  live : undisturbed → Live runtime

theorem read_of_ackId {runtime : Runtime} (sane : Sane runtime) {ref : Nat}
    {entry : AcknowledgementEntry} (stored : runtime.acks.objects.read ref = some entry)
    {ackId : JsValue} (same : ackId = .string entry.ackId) {other : Nat}
    (found : Acknowledgements.get ackId runtime.acks = .ok other) :
    other = ref ∧ entry.settlement = none := by
  subst same
  have present : runtime.acks.entries.get entry.ackId = some other := by
    cases held : runtime.acks.entries.get entry.ackId with
    | none => simp [Acknowledgements.get, held] at found
    | some mapped =>
      simp only [Acknowledgements.get, held, Except.ok.injEq] at found
      rw [found]
  obtain ⟨mapped, unsettled, key⟩ := (sane.consistent.mapped entry.ackId other).mp present
  have equal := sane.distinct other ref mapped entry unsettled.1 stored key
  subst equal
  rw [unsettled.1] at stored
  cases stored
  exact ⟨rfl, unsettled.2⟩

/-- An entry that is pending was pending before. -/
theorem pending_before {before after : AckState} (grows : Grows before after) {ref : Nat}
    {entry later : AcknowledgementEntry} (stored : before.objects.read ref = some entry)
    (unsettled : Unsettled after ref later) : Unsettled before ref entry := by
  refine ⟨stored, ?_⟩
  cases recorded : entry.settlement with
  | none => rfl
  | some settlement =>
    have first : settlementOf ref before = some settlement := by
      simp [settlementOf, stored, recorded]
    have kept := grows.settled ref settlement first
    simp only [settlementOf, unsettled.1, Option.bind_some, unsettled.2] at kept
    cases kept

theorem unsettled_before {before after : AckState} (grows : Grows before after)
    (entries : ∀ ref later, after.objects.read ref = some later →
      ∃ entry, before.objects.read ref = some entry ∧ later.context = entry.context ∧
        later.ackId = entry.ackId) {ref : Nat} {later : AcknowledgementEntry}
    (unsettled : Unsettled after ref later) :
    ∃ entry, Unsettled before ref entry ∧ later.context = entry.context := by
  obtain ⟨entry, stored, context, _⟩ := entries ref later unsettled.1
  exact ⟨entry, pending_before grows stored unsettled, context⟩

variable {bullmq : Bullmq} {timely undisturbed : Prop}

theorem sane_steady {runtime : Runtime} (sane : Sane runtime) {acks : AckState}
    (consistent : Consistent acks) (grows : Grows runtime.acks acks)
    (entries : ∀ ref later, acks.objects.read ref = some later →
      ∃ entry, runtime.acks.objects.read ref = some entry ∧ later.context = entry.context ∧
        later.ackId = entry.ackId) : Sane { runtime with acks } where
  consistent := consistent
  distinct := by
    intro ref other later found stored read same
    obtain ⟨entry, first, _, key⟩ := entries ref later stored
    obtain ⟨owner, second, _, key'⟩ := entries other found read
    exact sane.distinct ref other entry owner first second (key.symm.trans (same.trans key'))
  created := by
    intro handler ref logged
    obtain ⟨entry, stored⟩ := Store.exists_read (sane.created handler ref logged)
    obtain ⟨later, kept, _⟩ := grows.entries ref entry stored
    exact Store.lt_size_of_read kept
  signals := fun job member => lt_of_lt_of_le (sane.signals job member) grows.signals
  separate := sane.separate

theorem truthful_acks {runtime : Runtime} (truthful : Truthful bullmq runtime) {acks : AckState}
    (grows : Grows runtime.acks acks) : Truthful bullmq { runtime with acks } where
  delivered := by
    intro handler input settlement logged meant
    obtain ⟨ref, entry, stored, own, settled⟩ := truthful.delivered handler input settlement logged meant
    obtain ⟨later, kept, _, _, key⟩ := grows.entries ref entry stored
    refine ⟨ref, later, kept, key ▸ own, ?_⟩
    have first : settlementOf ref runtime.acks = some settlement := by
      simp [settlementOf, stored, settled]
    have still := grows.settled ref settlement first
    simpa only [settlementOf, kept, Option.bind_some] using still
  single := truthful.single

theorem held_entries {runtime : Runtime} (live : Live runtime) {acks : AckState}
    (grows : Grows runtime.acks acks)
    (entries : ∀ ref later, acks.objects.read ref = some later →
      ∃ entry, runtime.acks.objects.read ref = some entry ∧ later.context = entry.context ∧
        later.ackId = entry.ackId) (ref : Nat) (later : AcknowledgementEntry)
    (unsettled : Unsettled acks ref later) : ∃ job ∈ runtime.active,
      job.worker = later.context.worker ∧ later.context.signal = some job.signal ∧
        .created job.task ref ∈ runtime.log := by
  obtain ⟨entry, pending, context⟩ := unsettled_before grows entries unsettled
  obtain ⟨job, member, worker, listens, created⟩ := live.held ref entry pending
  exact ⟨job, member, context ▸ worker, context ▸ listens, created⟩

theorem live_steady {runtime : Runtime} (live : Live runtime) {acks : AckState}
    (grows : Grows runtime.acks acks) (steady : Steady runtime.acks acks) :
    Live { runtime with acks } where
  quiet := by
    intro ref later signal found unsettled listens stored
    obtain ⟨entry, pending, context⟩ := unsettled_before grows steady.entries unsettled
    obtain ⟨earlier, read, reason⟩ := steady.reasons signal found stored
    rw [reason]
    exact live.quiet ref entry signal earlier pending (context ▸ listens) read
  held := held_entries live grows steady.entries

/-- The abort settles what listens to the signal, so nothing pending has it any more. -/
theorem live_abort {runtime : Runtime} (sane : Sane runtime) (live : Live runtime) (signal : Nat)
    (reason : JsValue) : Live (runtime.change (abort signal reason)) where
  quiet := by
    intro ref later other found unsettled listens stored
    have grows := (keeps_abort signal reason runtime.acks sane.consistent).2
    have entries := abort_entries signal reason runtime.acks
    obtain ⟨entry, pending, context⟩ := unsettled_before grows entries unsettled
    rw [context] at listens
    by_cases same : other = signal
    · subst same
      obtain ⟨earlier, read⟩ :=
        Store.exists_read (sane.consistent.signalled ref entry other pending.1 listens)
      have fresh := live.quiet ref entry other earlier pending listens read
      have settled := read_abort sane.consistent read fresh reason ref
      rw [pending.1, Option.map_some, if_pos listens] at settled
      have first := unsettled.1.symm.trans settled
      have unset := unsettled.2
      rw [Option.some.inj first] at unset
      simp [settledBy, pending.2] at unset
    · obtain ⟨earlier, read, kept⟩ :=
        abort_reasons signal reason runtime.acks other same found stored
      rw [kept]
      exact live.quiet ref entry other earlier pending listens read
  held := held_entries live (keeps_abort signal reason runtime.acks sane.consistent).2
    (abort_entries signal reason runtime.acks)

/-- Settling, waiting and timers keep the whole invariant. -/
theorem invariant_steady {runtime : Runtime}
    (holds : Invariant bullmq timely undisturbed runtime) {acks : AckState}
    (consistent : Consistent acks) (grows : Grows runtime.acks acks)
    (steady : Steady runtime.acks acks) :
    Invariant bullmq timely undisturbed { runtime with acks } where
  sane := sane_steady holds.sane consistent grows steady.entries
  truthful := fun asked => truthful_acks (holds.truthful asked) grows
  live := fun asked => live_steady (holds.live asked) grows steady

theorem invariant_abort {runtime : Runtime} (holds : Invariant bullmq timely undisturbed runtime)
    (signal : Nat) (reason : JsValue) :
    Invariant bullmq timely undisturbed (runtime.change (abort signal reason)) := by
  obtain ⟨consistent, grows⟩ := keeps_abort signal reason runtime.acks holds.sane.consistent
  exact ⟨sane_steady holds.sane consistent grows (abort_entries signal reason runtime.acks),
    fun asked => truthful_acks (holds.truthful asked) grows,
    fun asked => live_abort holds.sane (holds.live asked) signal reason⟩

theorem invariant_record {runtime : Runtime} (holds : Invariant bullmq timely undisturbed runtime)
    (event : Event) (created : ∀ handler ref, event ≠ .created handler ref)
    (done : ∀ handler input, event = .done handler input none → outcome bullmq input = none) :
    Invariant bullmq timely undisturbed (runtime.record event) where
  sane := by
    refine ⟨holds.sane.consistent, holds.sane.distinct, ?_, holds.sane.signals, holds.sane.separate⟩
    intro handler ref logged
    rcases List.mem_append.mp logged with old | new
    · exact holds.sane.created handler ref old
    · exact absurd (List.mem_singleton.mp new).symm (created handler ref)
  truthful := by
    intro asked
    have earlier : ∀ handler input, .done handler input none ∈ (runtime.record event).log →
        (outcome bullmq input).isSome → .done handler input none ∈ runtime.log := by
      intro handler input logged terminal
      rcases List.mem_append.mp logged with old | new
      · exact old
      · rw [done handler input (List.mem_singleton.mp new).symm] at terminal
        cases terminal
    refine ⟨?_, ?_⟩
    · intro handler input settlement logged meant
      have terminal : (outcome bullmq input).isSome := by simp [meant]
      exact (holds.truthful asked).delivered handler input settlement
        (earlier handler input logged terminal) meant
    · intro handler input other found logged terminal logged' terminal' same
      exact (holds.truthful asked).single handler input other found
        (earlier handler input logged terminal) terminal (earlier other found logged' terminal')
        terminal' same
  live := by
    intro asked
    refine ⟨(holds.live asked).quiet, ?_⟩
    intro ref entry unsettled
    obtain ⟨job, member, worker, listens, logged⟩ := (holds.live asked).held ref entry unsettled
    exact ⟨job, member, worker, listens, List.mem_append_left _ logged⟩

/-- The state at a point of a segment of handler `index` that began in `start`. -/
def Reached (bullmq : Bullmq) (timely undisturbed : Prop) (index : Nat) (start now : Runtime) :
    Prop :=
  Invariant bullmq timely undisturbed now ∧ Advance (· = index) start now

namespace Reached

variable {index : Nat} {start now : Runtime}

theorem refl (holds : Invariant bullmq timely undisturbed now) :
    Reached bullmq timely undisturbed index now now :=
  ⟨holds, .refl _ now⟩

theorem record (reached : Reached bullmq timely undisturbed index start now) (event : Event)
    (own : Event.handler event = index) (created : ∀ handler ref, event ≠ .created handler ref)
    (done : ∀ handler input, event = .done handler input none → outcome bullmq input = none) :
    Reached bullmq timely undisturbed index start (now.record event) :=
  ⟨invariant_record reached.1 event created done, reached.2.trans (advance_record now event own)⟩

theorem steady (reached : Reached bullmq timely undisturbed index start now) {acks : AckState}
    (keeps : Consistent acks ∧ Grows now.acks acks) (steady : Steady now.acks acks) :
    Reached bullmq timely undisturbed index start { now with acks } :=
  ⟨invariant_steady reached.1 keeps.1 keeps.2 steady, reached.2.trans (advance_acks now keeps.2)⟩

theorem settle (reached : Reached bullmq timely undisturbed index start now) (ref : Nat)
    (settlement : Settlement) :
    Reached bullmq timely undisturbed index start (now.change (settle ref settlement)) :=
  reached.steady (keeps_settle ref settlement now.acks reached.1.sane.consistent)
    (steady_settle ref settlement now.acks)

theorem abort (reached : Reached bullmq timely undisturbed index start now) (signal : Nat)
    (reason : JsValue) :
    Reached bullmq timely undisturbed index start (now.change (abort signal reason)) :=
  ⟨invariant_abort reached.1 signal reason, reached.2.trans
    (advance_acks now (keeps_abort signal reason now.acks reached.1.sane.consistent).2)⟩

theorem cancelAllJobs (reached : Reached bullmq timely undisturbed index start now)
    (worker : Nat) (reason : JsValue) :
    Reached bullmq timely undisturbed index start (cancelAllJobs worker reason now) := by
  unfold JobRuntime.cancelAllJobs
  generalize now.active.filter (fun job => decide (job.worker = worker)) = jobs
  induction jobs generalizing now with
  | nil => exact reached
  | cons job rest ih => exact ih (reached.abort job.signal reason)

theorem cancelJob (reached : Reached bullmq timely undisturbed index start now)
    (worker : Nat) (jobId reason : JsValue) :
    Reached bullmq timely undisturbed index start (cancelJob worker jobId reason now).2 := by
  simp only [JobRuntime.cancelJob]
  split
  next job _ => exact reached.abort job.signal reason
  next => exact reached

end Reached

/-! ## Taking a job and letting it go -/

theorem reached_track {index worker job : Nat} {runtime : Runtime}
    (holds : Invariant bullmq timely undisturbed runtime) :
    Reached bullmq timely undisturbed index runtime (track index worker job runtime).2 := by
  have sane := holds.sane
  have tracked : ∀ other, other ∈ (track index worker job runtime).2.active ↔
      other ∈ runtime.active ∨ other = ⟨index, worker, job, runtime.acks.signals.size⟩ := by
    intro other
    simp [track, newSignal]
  have grows := grows_newSignal runtime.acks
  refine ⟨⟨⟨consistent_newSignal sane.consistent, sane.distinct, sane.created, ?_, ?_⟩, ?_, ?_⟩, ?_⟩
  · intro other member
    have wider : (track index worker job runtime).2.acks.signals.size =
        runtime.acks.signals.size + 1 := by simp [track, newSignal]
    rcases (tracked other).mp member with old | new
    · have bound := sane.signals other old
      omega
    · subst new
      simp only
      omega
  · intro left member right member' same
    rcases (tracked left).mp member with old | new
    · have bound := sane.signals left old
      rcases (tracked right).mp member' with old' | new'
      · exact sane.separate left old right old' same
      · subst new'
        simp only at same
        omega
    · rcases (tracked right).mp member' with old' | new'
      · have bound := sane.signals right old'
        subst new
        simp only at same
        omega
      · exact new.trans new'.symm
  · intro asked
    have truthful := truthful_acks (holds.truthful asked) grows
    exact ⟨truthful.delivered, truthful.single⟩
  · intro asked
    have live := holds.live asked
    refine ⟨?_, ?_⟩
    · intro ref entry signal found unsettled listens stored
      have bound := sane.consistent.signalled ref entry signal unsettled.1 listens
      simp only [track, newSignal, Store.read_alloc] at stored
      rw [if_neg (by omega)] at stored
      exact live.quiet ref entry signal found unsettled listens stored
    · intro ref entry unsettled
      obtain ⟨held, member, rest⟩ := live.held ref entry unsettled
      exact ⟨held, (tracked held).mpr (Or.inl member), rest⟩
  · refine ⟨grows, fun _ logged => logged, fun _ logged => Or.inl logged, ?_⟩
    intro other foreign
    rw [tracked]
    constructor
    · exact Or.inl
    · intro either
      rcases either with old | new
      · exact old
      · subst new
        exact absurd rfl foreign

theorem reached_untrack {index : Nat} {start now : Runtime}
    (reached : Reached bullmq timely undisturbed index start now)
    (settled : undisturbed → ∀ ref, .created index ref ∈ now.log →
      ∃ settlement, settlementOf ref now.acks = some settlement) :
    Reached bullmq timely undisturbed index start (untrack index now) := by
  obtain ⟨holds, advance⟩ := reached
  have kept : ∀ job, job ∈ (untrack index now).active ↔ job ∈ now.active ∧ job.task ≠ index := by
    intro job
    simp [untrack]
  refine ⟨⟨⟨holds.sane.consistent, holds.sane.distinct, holds.sane.created, ?_, ?_⟩, ?_, ?_⟩, ?_⟩
  · exact fun job member => holds.sane.signals job ((kept job).mp member).1
  · exact fun job member other member' =>
      holds.sane.separate job ((kept job).mp member).1 other ((kept other).mp member').1
  · exact fun asked => ⟨(holds.truthful asked).delivered, (holds.truthful asked).single⟩
  · intro asked
    refine ⟨(holds.live asked).quiet, ?_⟩
    intro ref entry unsettled
    obtain ⟨job, member, worker, listens, created⟩ := (holds.live asked).held ref entry unsettled
    refine ⟨job, (kept job).mpr ⟨member, ?_⟩, worker, listens, created⟩
    intro own
    rw [own] at created
    obtain ⟨settlement, recorded⟩ := settled asked ref created
    have pending : Unsettled now.acks ref entry := unsettled
    simp only [settlementOf, pending.1, Option.bind_some, pending.2] at recorded
    cases recorded
  · apply advance.trans
    refine ⟨.refl now.acks, fun _ logged => logged, fun _ logged => Or.inl logged, ?_⟩
    intro job foreign
    rw [kept]
    constructor
    · exact fun member => ⟨member, foreign⟩
    · exact fun both => both.1

/-! ## Creating an acknowledgement -/

/-- What the processor knows when it creates its acknowledgement. -/
structure Creates (undisturbed : Prop) (index : Nat) (context : Context) (now : JsNumber)
    (random : String) (runtime : Runtime) : Prop where
  fresh : ∀ ref entry, runtime.acks.objects.read ref = some entry →
    entry.ackId ≠ ackIdOf context.runNodeId context.job now random runtime.acks
  job : ∃ job ∈ runtime.active, job.task = index ∧ job.worker = context.worker ∧
    context.signal = some job.signal
  quiet : undisturbed → ∀ signal found, context.signal = some signal →
    runtime.acks.signals.read signal = some found → found.reason = none

/-- The state after `create`, with the new acknowledgement on record. -/
def createdRuntime (index : Nat) (context : Context) (timeoutMs now : JsNumber) (random : String)
    (runtime : Runtime) : Runtime :=
  ({ runtime with acks := (create context timeoutMs now random runtime.acks).2 } : Runtime).record
    (.created index runtime.acks.objects.size)

theorem reached_create {index : Nat} {start runtime : Runtime} {context : Context}
    {timeoutMs now : JsNumber} {random : String}
    (reached : Reached bullmq timely undisturbed index start runtime)
    (creates : Creates undisturbed index context now random runtime) :
    Reached bullmq timely undisturbed index start
      (createdRuntime index context timeoutMs now random runtime) := by
  obtain ⟨holds, advance⟩ := reached
  have sane := holds.sane
  obtain ⟨job, member, task, worker, listens⟩ := creates.job
  have grows := grows_create context timeoutMs now random runtime.acks
  have known : ∀ signal, context.signal = some signal → signal < runtime.acks.signals.size := by
    intro signal equal
    rw [listens] at equal
    cases equal
    exact sane.signals job member
  have consistent : Consistent (create context timeoutMs now random runtime.acks).2 :=
    consistent_create sane.consistent
      (fun ref entry unsettled => creates.fresh ref entry unsettled.1) known
  have size : (createdRuntime index context timeoutMs now random runtime).acks.objects.size =
      runtime.acks.objects.size + 1 := by
    simp [createdRuntime, Runtime.record, create, newEntry]
  have logged : ∀ event, event ∈ (createdRuntime index context timeoutMs now random runtime).log ↔
      event ∈ runtime.log ∨ event = .created index runtime.acks.objects.size := by
    intro event
    simp [createdRuntime, Runtime.record]
  have terminal : ∀ handler input, .done handler input none ∈
      (createdRuntime index context timeoutMs now random runtime).log ↔
        .done handler input none ∈ runtime.log := by
    intro handler input
    rw [logged]
    simp
  refine ⟨⟨⟨consistent, ?_, ?_, ?_, sane.separate⟩, ?_, ?_⟩, ?_⟩
  · intro ref other entry found stored read same
    simp only [createdRuntime, Runtime.record, create_objects] at stored read
    split at stored
    next first =>
      split at read
      next second => exact first.trans second.symm
      next second =>
        cases stored
        exact absurd same.symm (creates.fresh other found read)
    next first =>
      split at read
      next second =>
        cases read
        exact absurd same (creates.fresh ref entry stored)
      next second => exact sane.distinct ref other entry found stored read same
  · intro handler ref member'
    rcases (logged _).mp member' with old | new
    · have bound := sane.created handler ref old
      omega
    · cases new
      omega
  · exact fun other member' => lt_of_lt_of_le (sane.signals other member') grows.signals
  · intro asked
    have truthful := truthful_acks (holds.truthful asked) grows
    refine ⟨?_, ?_⟩
    · intro handler input settlement done
      exact truthful.delivered handler input settlement ((terminal handler input).mp done)
    · intro handler input other found done meant done' meant'
      exact truthful.single handler input other found ((terminal handler input).mp done) meant
        ((terminal other found).mp done') meant'
  · intro asked
    have live := holds.live asked
    refine ⟨?_, ?_⟩
    · intro ref entry signal found unsettled hears stored
      have either := (create_unsettled context timeoutMs now random runtime.acks ref entry).mp
        unsettled
      have earlier : ∃ before, runtime.acks.signals.read signal = some before ∧
          found.reason = before.reason := by
        have read := create_signals context timeoutMs now random runtime.acks signal
        rw [show (create context timeoutMs now random runtime.acks).2.signals.read signal =
          some found from stored] at read
        split at read
        · obtain ⟨before, first, equal⟩ := Option.map_eq_some_iff.mp read.symm
          exact ⟨before, first, equal ▸ rfl⟩
        · exact ⟨found, read.symm, rfl⟩
      obtain ⟨before, first, reason⟩ := earlier
      rw [reason]
      rcases either with ⟨_, equal⟩ | pending
      · subst equal
        exact creates.quiet asked signal before hears first
      · exact live.quiet ref entry signal before pending hears first
    · intro ref entry unsettled
      have either := (create_unsettled context timeoutMs now random runtime.acks ref entry).mp
        unsettled
      rcases either with ⟨new, equal⟩ | pending
      · subst equal
        refine ⟨job, member, worker, listens, (logged _).mpr (Or.inr ?_)⟩
        rw [task, new]
      · obtain ⟨held, member', worker', listens', created⟩ := live.held ref entry pending
        exact ⟨held, member', worker', listens', (logged _).mpr (Or.inl created)⟩
  · apply advance.trans
    exact (advance_acks runtime grows).trans (advance_record _ _ rfl)

/-! ## Ending a terminal action -/

/-- Everything that makes it true to end an input without an error now. -/
structure Earned (bullmq : Bullmq) (input : JobInput) (runtime : Runtime) : Prop where
  settled : ∀ settlement, outcome bullmq input = some settlement → ∃ ref entry,
    runtime.acks.objects.read ref = some entry ∧ input.ackId = .string entry.ackId ∧
      entry.settlement = some settlement
  first : ∀ other found, .done other found none ∈ runtime.log → (outcome bullmq found).isSome →
    (outcome bullmq input).isSome → input.ackId.sameString found.ackId = true → False

theorem earned_of_other {input : JobInput} {runtime : Runtime} (none : outcome bullmq input = none) :
    Earned bullmq input runtime where
  settled := by
    intro settlement meant
    rw [none] at meant
    cases meant
  first := by
    intro other found _ _ meant
    rw [none] at meant
    cases meant

theorem Earned.sent {input : JobInput} {runtime : Runtime} (earned : Earned bullmq input runtime)
    (handler : Nat) (msg : JsValue) : Earned bullmq input (runtime.record (.sent handler msg)) where
  settled := earned.settled
  first := by
    intro other found logged
    rcases List.mem_append.mp logged with old | new
    · exact earned.first other found old
    · cases List.mem_singleton.mp new

theorem sameString_symm (left right : JsValue) :
    left.sameString right = right.sameString left := by
  cases left <;> cases right <;> simp [JsValue.sameString, eq_comm]

/-- Recording the end of the input keeps the log truthful. -/
theorem Reached.done {index : Nat} {start now : Runtime} {input : JobInput}
    (reached : Reached bullmq timely undisturbed index start now)
    (earned : timely → Earned bullmq input now) :
    Reached bullmq timely undisturbed index start (now.record (.done index input none)) := by
  obtain ⟨holds, advance⟩ := reached
  refine ⟨⟨⟨holds.sane.consistent, holds.sane.distinct, ?_, holds.sane.signals,
    holds.sane.separate⟩, ?_, ?_⟩, advance.trans (advance_record now _ rfl)⟩
  · intro handler ref logged
    rcases List.mem_append.mp logged with old | new
    · exact holds.sane.created handler ref old
    · cases List.mem_singleton.mp new
  · intro asked
    have truthful := holds.truthful asked
    have here := earned asked
    refine ⟨?_, ?_⟩
    · intro handler found settlement logged meant
      rcases List.mem_append.mp logged with old | new
      · exact truthful.delivered handler found settlement old meant
      · cases List.mem_singleton.mp new
        exact here.settled settlement meant
    · intro handler found other later logged meant logged' meant' same
      rcases List.mem_append.mp logged with old | new
      · rcases List.mem_append.mp logged' with old' | new'
        · exact truthful.single handler found other later old meant old' meant' same
        · cases List.mem_singleton.mp new'
          rw [sameString_symm] at same
          exact (here.first handler found old meant meant' same).elim
      · cases List.mem_singleton.mp new
        rcases List.mem_append.mp logged' with old' | new'
        · exact (here.first other later old' meant' meant same).elim
        · cases List.mem_singleton.mp new'
          rfl
  · intro asked
    refine ⟨(holds.live asked).quiet, ?_⟩
    intro ref entry unsettled
    obtain ⟨job, member, worker, listens, logged⟩ := (holds.live asked).held ref entry unsettled
    exact ⟨job, member, worker, listens, List.mem_append_left _ logged⟩

/-- The entry was pending before this action settled it, so nobody has ended with it yet. -/
theorem earned_settle {input : JobInput} {runtime : Runtime} {ref handler : Nat}
    {settlement : Settlement} (sane : Sane runtime) (truthful : Truthful bullmq runtime)
    {entry : AcknowledgementEntry} (unsettled : Unsettled runtime.acks ref entry)
    (own : input.ackId = .string entry.ackId) (meant : outcome bullmq input = some settlement) :
    Earned bullmq input ((runtime.record (.settles handler ref settlement)).change
      (Acknowledgements.settle ref settlement)) where
  settled := by
    intro other equal
    rw [meant] at equal
    cases equal
    refine ⟨ref, settledBy settlement entry, ?_, ?_, ?_⟩
    · simp [Runtime.change, Runtime.record, read_settle, unsettled.1]
    · simpa [settledBy, unsettled.2] using own
    · simp [settledBy, unsettled.2]
  first := by
    intro other found logged terminal _ same
    rcases List.mem_append.mp logged with old | new
    · obtain ⟨first, recorded⟩ := Option.isSome_iff_exists.mp terminal
      obtain ⟨ref', entry', stored, key, settled⟩ :=
        truthful.delivered other found first old recorded
      rw [own, key] at same
      have equal : entry.ackId = entry'.ackId := by simpa [JsValue.sameString] using same
      have one := sane.distinct ref ref' entry entry' unsettled.1 stored equal
      subst one
      rw [unsettled.1] at stored
      cases stored
      rw [unsettled.2] at settled
      cases settled
    · cases List.mem_singleton.mp new

end NodeRedBull.JobInvariant
