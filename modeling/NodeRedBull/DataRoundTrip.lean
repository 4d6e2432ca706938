import NodeRedBull.AcknowledgementLifetime
import NodeRedBull.CommandGuards
import NodeRedBull.MessageNodes

/-! Job data on its way from a `bullmq cmd` node, through BullMQ, to the messages of a
`bullmq run` node. -/

namespace NodeRedBull.DataRoundTrip
open Js Library Acknowledgements JobRuntime JobInvariant AcknowledgementLifetime Commands
  CommandGuards MessageNodes

/-! ## Adding -/

/-- In some run of the command, a job with this data is added. -/
def Adds (queue : Nat) (msg data : JsValue) : Prop :=
  ∃ exchanges stopped name opts, Course (dispatchCommand queue msg) exchanges stopped ∧
    CommandCall.queue queue .add [name, data, opts] ∈ callsOf exchanges stopped

theorem adds_data {queue : Nat} {msg data : JsValue} (adds : Adds queue msg data) :
    data = addedData msg := by
  obtain ⟨exchanges, stopped, name, opts, run, member⟩ := adds
  obtain ⟨_, _, same, _⟩ := (dispatchCommand_guarded queue msg).course run _ member
  simp only [List.cons.injEq, and_true] at same
  exact same.2.1

/-! ## Emitting -/

/-- Nothing keeps the processor from sending. -/
structure CanSend (node : RunNode) (invocation : Invocation) : Prop where
  sends : invocation.sendThrows = none
  queue : node.completionMode = "manual" → ∃ queue, invocation.queue = .ok queue

/-- For a job that holds this data, a run node sends one message, with this payload. -/
def Emits (data payload : JsValue) : Prop :=
  ∀ (handler : Nat) (node : RunNode) (job : Nat) (token : JsValue) (signal : Nat)
    (invocation : Invocation) (runtime : Runtime), CanSend node invocation →
    (runtime.acks.jobAt job).get "data" = data →
      ∃ msg, sentMessages ((processor handler node job token signal invocation).segment runtime).1 =
        sentMessages runtime ++ [(handler, msg)] ∧ msg.get "payload" = payload

/-- `data.payload` for data with a payload of its own, otherwise the data -/
def unwrapped (data : JsValue) : JsValue :=
  if data.hasOwn "payload" then data.get "payload" else data

theorem sentMessages_sent {handler : Nat} {msg : JsValue} {before after : Runtime}
    {created : List Event} (quiet : ∀ event ∈ created, ∃ ref, event = .created handler ref)
    (log : after.log = before.log ++ created ++ [.sent handler msg]) :
    sentMessages after = sentMessages before ++ [(handler, msg)] := by
  have none : sentMessages { before with log := created } = [] := by
    apply List.filterMap_eq_nil_iff.mpr
    intro event member
    obtain ⟨ref, same⟩ := quiet event member
    rw [same]
  unfold sentMessages at none ⊢
  rw [log, List.filterMap_append, List.filterMap_append, none, List.append_nil]
  rfl

theorem wait_log (ref : Nat) (runtime : Runtime) :
    ((wait onAcks awaitSettled ref : JobBody JsValue).segment runtime).1.log = runtime.log := by
  unfold wait onAcks
  simp only [Async.segment_bind, Async.segment_modifyGet, Paused.andThen]
  cases settlementOf ref runtime.acks with
  | none => rfl
  | some settlement => cases settlement <;> rfl

theorem emits_unwrapped (data : JsValue) : Emits data (unwrapped (data.orElse (.object []))) := by
  intro handler node job token signal invocation runtime able held
  subst held
  by_cases manual : node.completionMode = "manual"
  · obtain ⟨queue, got⟩ := able.queue manual
    let created := createdRuntime handler (processorContext node job signal token queue)
      (parseAckTimeoutMs node.ackTimeout) invocation.now invocation.random runtime
    let msg := createJobMessage (runtime.acks.jobAt job) node.queueName
      [("ackId", .string (ackIdOf node.id job invocation.now invocation.random runtime.acks)),
        ("runNodeId", .string node.id)]
    have segment : (processor handler node job token signal invocation).segment runtime =
        (wait onAcks awaitSettled runtime.acks.objects.size : JobBody JsValue).segment
          (created.record (.sent handler msg)) := by
      unfold processor nodeSend
      simp only [manual, ↓reduceIte, got, able.sends]
      rfl
    refine ⟨msg, ?_, rfl⟩
    have quiet : ∀ event ∈ [Event.created handler runtime.acks.objects.size],
        ∃ ref, event = .created handler ref := fun event member =>
      ⟨_, List.mem_singleton.mp member⟩
    apply sentMessages_sent quiet
    rw [segment, wait_log]
    rfl
  · let msg := createJobMessage (runtime.acks.jobAt job) node.queueName
    have segment : (processor handler node job token signal invocation).segment runtime =
        (runtime.record (.sent handler msg), .finished (.ok (msg.get "payload"))) := by
      unfold processor nodeSend
      simp only [manual, ↓reduceIte, able.sends]
      rfl
    refine ⟨msg, ?_, rfl⟩
    rw [segment]
    have quiet : ∀ event ∈ ([] : List Event), ∃ ref, event = .created handler ref := by
      intro event member
      cases member
    apply sentMessages_sent quiet
    rw [List.append_nil]
    rfl

/-! ## Round trips -/

/-- A payload that is added without job data comes back. -/
def PayloadSurvives (v : JsValue) : Prop :=
  ∀ queue msg data, msg.get "payload" = v → msg.hasOwn "jobData" = false → Adds queue msg data →
    Emits data v

/-- Job data that is added comes back, or its payload does if it has one. -/
def JobDataSurvives (v : JsValue) : Prop :=
  ∀ queue msg data, msg.hasOwn "jobData" = true → msg.get "jobData" = v → Adds queue msg data →
    Emits data (unwrapped v)

theorem payload_survives (v : JsValue) : PayloadSurvives v := by
  intro queue msg data payload noData adds
  have wrapped : data = .object [("payload", v)] := by
    rw [adds_data adds, addedData, noData, payload]
    rfl
  have emits := emits_unwrapped data
  rw [wrapped] at emits ⊢
  exact emits

/-! ### Job data that is falsy -/

def jobDataMessage (v : JsValue) : JsValue := .object [("jobData", v)]

theorem jobDataMessage_adds (v : JsValue) : Adds 0 (jobDataMessage v) v :=
  ⟨[], _, .string "default", .object [], .stop _ Runtime.initial, List.mem_singleton.mpr rfl⟩

def immediateNode : RunNode := ⟨"r1", "q", "immediate", .undefined, 0⟩

def runtimeWith (job : JsValue) : Runtime := ⟨(newJob job AckState.initial).2, [], []⟩

/-- What a run node sends for a job depends on its data alone. -/
theorem emits_unique {data payload other : JsValue} (emits : Emits data payload)
    (emits_other : Emits data other) : payload = other := by
  have able : CanSend immediateNode ⟨.nan, "", .ok none, none⟩ :=
    ⟨rfl, fun manual => absurd manual (by decide)⟩
  have held : ((runtimeWith (.object [("data", data)])).acks.jobAt 0).get "data" = data := rfl
  obtain ⟨msg, sent, same⟩ := emits 0 immediateNode 0 .null 0 _ _ able held
  obtain ⟨msg', sent', same'⟩ := emits_other 0 immediateNode 0 .null 0 _ _ able held
  rw [sent] at sent'
  have equal := List.append_cancel_left sent'
  simp only [List.cons.injEq, Prod.mk.injEq, and_true, true_and] at equal
  rw [← same, ← same', equal]

theorem unwrapped_of_falsy {v : JsValue} (falsy : v.truthy = false) : unwrapped v = v := by
  cases v with
  | object fields | error thrown => cases falsy
  | _ => rfl

theorem jobData_survives_iff (v : JsValue) : JobDataSurvives v ↔ v.truthy = true := by
  constructor
  · intro survives
    cases truthy : v.truthy with
    | true => rfl
    | false =>
      have claimed := survives 0 (jobDataMessage v) v rfl rfl (jobDataMessage_adds v)
      have sent := emits_unwrapped v
      rw [JsValue.orElse, truthy] at sent
      have dropped : unwrapped v = .object [] := emits_unique claimed sent
      rw [unwrapped_of_falsy truthy] at dropped
      rw [dropped] at truthy
      cases truthy
  · intro truthy queue msg data own jobData adds
    have stored : data = v := by
      rw [adds_data adds, addedData, own, jobData]
      rfl
    have emits := emits_unwrapped v
    rw [JsValue.orElse, if_pos truthy] at emits
    rw [stored]
    exact emits

def RoundTrip (v : JsValue) : Prop := PayloadSurvives v ∧ JobDataSurvives v

/-- Payloads survive; so does job data, unless it is falsy: `job.data || {}` drops that. -/
theorem roundTrip_iff (v : JsValue) : PayloadSurvives v ∧ (RoundTrip v ↔ v.truthy = true) := by
  constructor
  · exact payload_survives v
  · constructor
    · intro survives
      exact (jobData_survives_iff v).mp survives.2
    · intro truthy
      exact ⟨payload_survives v, (jobData_survives_iff v).mpr truthy⟩

theorem false_is_lost : ¬ RoundTrip (.bool false) := by
  intro survives
  have truthy := (jobData_survives_iff (.bool false)).mp survives.2
  cases truthy

end NodeRedBull.DataRoundTrip
