import Mathlib.Data.Set.Defs
import NodeRedBull.CommandGuards
import NodeRedBull.Library.Outcome

/-! Which job and which scheduler a command addresses. Jobs keep the id that `add` was given, and
BullMQ compares ids exactly, but most commands trim `msg.jobId` and `msg.schedulerId` first. -/

namespace NodeRedBull.ExactIds
open Js Library JobRuntime Commands CommandGuards

abbrev CommandExchange := Exchange CommandCall CommandReply JsError

/-- What is in a queue: the ids of its jobs, and its schedulers. Every job object of BullMQ has
an id. -/
structure Content where
  idOf : Nat → String
  jobs : Set String
  schedulers : List JsValue

/-- A lookup finds the job with exactly this id. -/
def Content.Answers (content : Content) (exchange : CommandExchange) : Prop :=
  ∀ queue id (found : Option Nat),
    exchange = ⟨.queue queue .getJob [.string id], .ok found⟩ →
      (∀ job, found = some job → id ∈ content.jobs ∧ content.idOf job = id) ∧
      (found = none → id ∉ content.jobs)

/-- The id is one that `getJobSchedulers` reports. -/
def Content.Reports (content : Content) (id : String) : Prop :=
  ∃ scheduler ∈ content.schedulers, schedulerKey (serializeScheduler scheduler) = .ok (.string id)

/-! ## Commands by id -/

/-- The call with which a command reads or acts on its job. -/
inductive Aim where
  | queue (method : QueueMethod)
  | job (method : CommandJobMethod)

def jobAim : Command → Option Aim
  | .getJob => some (.queue .getJob)
  | .addJobLog => some (.queue .addJobLog)
  | .getJobLogs => some (.queue .getJobLogs)
  | .getJobState => some (.job .getState)
  | .removeJob => some (.job .remove)
  | .retryJob => some (.job .retry)
  | .changeDelay => some (.job .changeDelay)
  | .promoteJob => some (.job .promote)
  | .changePriority => some (.job .changePriority)
  | _ => none

def schedulerAim : Command → Option Aim
  | .getJobScheduler => some (.queue .getJobScheduler)
  | .removeJobScheduler => some (.queue .removeJobScheduler)
  | _ => none

def Aim.Hits : Aim → CommandCall → Prop
  | .queue method, .queue _ called _ => called = method
  | .job method, .job _ called _ => called = method
  | _, _ => False

def Reached (aim : Aim) (exchanges : List CommandExchange) : Prop :=
  ∃ exchange ∈ exchanges, aim.Hits exchange.call

/-- The call looks up, reads or acts on the job with this id. -/
def NamesJob (content : Content) (queue : Nat) (id : String) : CommandCall → Prop
  | .queue asked .getJob args | .queue asked .addJobLog args | .queue asked .getJobLogs args =>
    asked = queue ∧ args.head? = some (.string id)
  | .job job _ _ => content.idOf job = id
  | _ => False

def NamesScheduler (queue : Nat) (id : String) (call : CommandCall) : Prop :=
  call = .queue queue .getJobScheduler [.string id] ∨
    call = .queue queue .removeJobScheduler [.string id]

/-- With this `msg.jobId` each of the commands reads or acts on the job with exactly this id, and
on no other. -/
def JobsExact (content : Content) (queue : Nat) (id : String) : Prop :=
  ∀ command aim msg, jobAim command = some aim → commandOf msg = .ok command →
    msg.get "jobId" = .string id →
      (dispatchCommand queue msg).Meets content.Answers (NamesJob content queue id)
        fun exchanges _ => Reached aim exchanges

/-- The removed field `msg.jobid`, which is an error by itself, is not used. -/
def Current (msg : JsValue) : Prop :=
  (msg.get "jobId").isPresent = true ∨ (msg.get "jobid").isPresent = false

def SchedulersExact (content : Content) (queue : Nat) (id : String) : Prop :=
  ∀ command aim msg, schedulerAim command = some aim → commandOf msg = .ok command →
    Current msg → msg.get "schedulerId" = .string id →
      (dispatchCommand queue msg).Meets content.Answers (NamesScheduler queue id)
        fun exchanges _ => Reached aim exchanges

/-- The job of the id and the scheduler of the id are addressed by it, if they are there. -/
def IdExact (content : Content) (queue : Nat) (id : String) : Prop :=
  (id ∈ content.jobs → JobsExact content queue id) ∧
    (content.Reports id → SchedulersExact content queue id)

/-- `add` hands BullMQ the id as it is. -/
def AddsAsGiven (queue : Nat) (id : String) : Prop :=
  ∀ msg, commandOf msg = .ok .add → (msg.get "jobopts").get "jobId" = .string id →
    Calls (fun call => ∃ name data opts, call = .queue queue .add [name, data, opts] ∧
      opts.get "jobId" = .string id) (dispatchCommand queue msg)

def Unspaced (id : String) : Prop := id ≠ "" ∧ trimText id = id

/-! ## The message -/

section
variable {queue : Nat} {msg : JsValue} {id : String}

theorem commandOf_absent (absent : (msg.get "cmd").isPresent = false) :
    commandOf msg = .ok .add := by
  have default : (msg.get "cmd").orElse (.string "add") = .string "add" := by
    rcases JsValue.eq_of_absent absent with same | same | same
    · rw [same]
      rfl
    · rw [same]
      rfl
    · rw [same]
      rfl
  unfold commandOf
  rw [default]
  rfl

theorem dispatchCommand_eq {command : Command} (parsed : commandOf msg = .ok command)
    (other : command ≠ .add) (current : Current msg) :
    dispatchCommand queue msg = runCommand queue msg command := by
  have named : (msg.get "cmd").isPresent = true := by
    by_contra absent
    rw [commandOf_absent (Bool.eq_false_of_not_eq_true absent)] at parsed
    exact other (Except.ok.inj parsed).symm
  have accepted : (!(msg.get "jobId").isPresent && (msg.get "jobid").isPresent) = false := by
    rcases current with present | unused
    · rw [present]
      rfl
    · rw [unused, Bool.and_false]
  unfold dispatchCommand
  simp only [named, accepted, parsed, Bool.not_true, Bool.false_and, Bool.false_eq_true, ↓reduceIte]
  rfl

theorem trimText_orElse (id : String) :
    trimText ((JsValue.string id).orElse (.string "")).toText = trimText id := by
  by_cases blank : id = ""
  · rw [blank]
    rfl
  · have truthy : (JsValue.string id).truthy = true := decide_eq_true blank
    rw [JsValue.orElse, if_pos truthy]
    rfl

theorem getSchedulerId_text (named : msg.get "schedulerId" = .string id) :
    getSchedulerId msg =
      if trimText id = "" then .error (newError "A scheduler id is required")
      else .ok (.string (trimText id)) := by
  unfold getSchedulerId
  rw [named, trimText_orElse]

end

/-! ## Jobs -/

section
variable {content : Content} {queue : Nat} {msg : JsValue} {id : String} {aim : Aim}

abbrev MeetsJob {α : Type} (content : Content) (queue : Nat) (id : String)
    (post : List CommandExchange → α → Prop) (body : CommandBody α) : Prop :=
  body.Meets content.Answers (NamesJob content queue id) post

theorem quiet_serializeCurrent (job : Option Nat) : (serializeCurrent job).Quiet :=
  Async.quiet_bind Async.quiet_get fun _ => Async.quiet_pure _

theorem onQueue_meets {method : QueueMethod} {args : List JsValue}
    {post : List CommandExchange → method.Reply → Prop}
    (names : NamesJob content queue id (.queue queue method args))
    (holds : ∀ reply : method.Reply, content.Answers ⟨.queue queue method args, .ok reply⟩ →
      post [⟨.queue queue method args, .ok reply⟩] reply) :
    MeetsJob content queue id post (onQueue queue method args) :=
  Async.meets_call names holds

theorem onQueue_reached (method : QueueMethod) (args : List JsValue)
    (names : NamesJob content queue id (.queue queue method args)) :
    MeetsJob content queue id (fun exchanges _ => Reached (.queue method) exchanges)
      (onQueue queue method args) :=
  onQueue_meets names fun _ _ => ⟨_, List.mem_singleton_self _, rfl⟩

theorem onJob_reached {job : Nat} (own : content.idOf job = id) (method : CommandJobMethod)
    (args : List JsValue) :
    MeetsJob content queue id (fun exchanges _ => Reached (.job method) exchanges)
      (onJob job method args) := by
  have names : NamesJob content queue id (.job job method args) := own
  exact Async.meets_call names fun _ _ => ⟨_, List.mem_singleton_self _, rfl⟩

/-- The looked up job has the id, which therefore needs no trimming. -/
theorem getRequiredJob_meets (named : msg.get "jobId" = .string id) (unspaced : Unspaced id)
    (held : id ∈ content.jobs) :
    MeetsJob content queue id (fun _ job => content.idOf job = id) (getRequiredJob queue msg) := by
  obtain ⟨written, trimmed⟩ := unspaced
  have names : NamesJob content queue id (.queue queue .getJob [.string id]) := ⟨rfl, rfl⟩
  have looked : MeetsJob content queue id
      (fun _ (found : Option Nat) => ∃ job, found = some job ∧ content.idOf job = id)
      (onQueue queue .getJob [.string id]) := by
    refine onQueue_meets names ?_
    intro found answered
    have answer := answered queue id found rfl
    cases found with
    | none => exact absurd held (answer.2 rfl)
    | some job => exact ⟨job, rfl, (answer.1 job rfl).2⟩
  unfold getRequiredJob
  rw [named, trimText_orElse, trimmed]
  simp only [written, ↓reduceIte]
  apply Async.meets_bind looked
  intro before found known
  obtain ⟨job, same, own⟩ := known
  rw [same]
  exact Async.meets_pure own

theorem requiredJob_meets {rest : Nat → CommandBody JsValue}
    (named : msg.get "jobId" = .string id) (unspaced : Unspaced id) (held : id ∈ content.jobs)
    (acts : ∀ job, content.idOf job = id →
      MeetsJob content queue id (fun exchanges _ => Reached aim exchanges) (rest job)) :
    MeetsJob content queue id (fun exchanges _ => Reached aim exchanges)
      (getRequiredJob queue msg >>= rest) := by
  apply Async.meets_bind (getRequiredJob_meets named unspaced held)
  intro before job own
  apply (acts job own).mono
  intro after value reached
  obtain ⟨exchange, member, hits⟩ := reached
  exact ⟨exchange, List.mem_append_right _ member, hits⟩

theorem changeRequiredJob_meets (named : msg.get "jobId" = .string id) (unspaced : Unspaced id)
    (held : id ∈ content.jobs) (method : CommandJobMethod) (args : List JsValue) :
    MeetsJob content queue id (fun exchanges _ => Reached (.job method) exchanges)
      (changeRequiredJob queue msg method args) := by
  apply requiredJob_meets named unspaced held
  intro job own
  exact Async.meets_quiet (onJob_reached own method args) fun _ => quiet_serializeCurrent _

theorem runCommand_meetsJob {command : Command} (aimed : jobAim command = some aim)
    (named : msg.get "jobId" = .string id) (unspaced : Unspaced id) (held : id ∈ content.jobs) :
    MeetsJob content queue id (fun exchanges _ => Reached aim exchanges)
      (runCommand queue msg command) := by
  cases command with
  | getJob =>
    cases aimed
    exact Async.meets_quiet (onQueue_reached .getJob _ ⟨rfl, congrArg some named⟩)
      fun _ => quiet_serializeCurrent _
  | addJobLog =>
    cases aimed
    exact onQueue_reached .addJobLog _ ⟨rfl, congrArg some named⟩
  | getJobLogs =>
    cases aimed
    exact onQueue_reached .getJobLogs _ ⟨rfl, congrArg some named⟩
  | getJobState =>
    cases aimed
    exact requiredJob_meets named unspaced held fun job own => onJob_reached own _ _
  | removeJob =>
    cases aimed
    apply requiredJob_meets named unspaced held
    intro job own
    exact Async.meets_quiet (onJob_reached own _ _) fun _ => Async.quiet_pure _
  | retryJob | changeDelay | promoteJob | changePriority =>
    cases aimed
    exact changeRequiredJob_meets named unspaced held _ _
  | _ => cases aimed

/-- A job whose id needs no trimming is what all nine commands address by its id. -/
theorem jobsExact_of_unspaced (unspaced : Unspaced id) (held : id ∈ content.jobs) :
    JobsExact content queue id := by
  intro command aim msg aimed parsed named
  have other : command ≠ .add := by
    intro same
    rw [same] at aimed
    cases aimed
  have current : Current msg := by
    rw [Current, named]
    exact .inl (decide_eq_true unspaced.1)
  rw [dispatchCommand_eq parsed other current]
  exact runCommand_meetsJob aimed named unspaced held

end

/-! ## Schedulers -/

section
variable {content : Content} {queue : Nat} {id : String}

theorem runCommand_meetsScheduler {msg : JsValue} {aim : Aim} {command : Command}
    (aimed : schedulerAim command = some aim) (named : msg.get "schedulerId" = .string id)
    (unspaced : Unspaced id) :
    (runCommand queue msg command).Meets content.Answers (NamesScheduler queue id)
      fun exchanges _ => Reached aim exchanges := by
  have found : getSchedulerId msg = .ok (.string id) := by
    rw [getSchedulerId_text named, unspaced.2, if_neg unspaced.1]
  have reached : ∀ method, NamesScheduler queue id (.queue queue method [.string id]) →
      (onQueue queue method [.string id]).Meets content.Answers (NamesScheduler queue id)
        fun exchanges _ => Reached (.queue method) exchanges := by
    intro method names
    exact Async.meets_call names fun _ _ => ⟨_, List.mem_singleton_self _, rfl⟩
  cases command with
  | getJobScheduler =>
    cases aimed
    have asks : runCommand queue msg .getJobScheduler =
        onQueue queue .getJobScheduler [.string id] >>= fun scheduler =>
          pure (serializeScheduler scheduler) := by
      unfold runCommand
      dsimp only
      rw [found]
      rfl
    rw [asks]
    exact Async.meets_quiet (reached .getJobScheduler (.inl rfl)) fun _ => Async.quiet_pure _
  | removeJobScheduler =>
    cases aimed
    unfold runCommand
    dsimp only
    rw [found]
    exact reached .removeJobScheduler (.inr rfl)
  | _ => cases aimed

theorem schedulersExact_of_unspaced (unspaced : Unspaced id) :
    SchedulersExact content queue id := by
  intro command aim msg aimed parsed current named
  have other : command ≠ .add := by
    intro same
    rw [same] at aimed
    cases aimed
  rw [dispatchCommand_eq parsed other current]
  exact runCommand_meetsScheduler aimed named unspaced

end

/-! ## Ids that are trimmed -/

section
variable {content : Content} {queue : Nat} {id : String}

def messageOf (cmd field id : String) : JsValue :=
  .object [("cmd", .string cmd), (field, .string id)]

theorem getRequiredJob_blank {rest : Nat → CommandBody JsValue} {msg : JsValue}
    (named : msg.get "jobId" = .string id) (blank : trimText id = "") (state : Runtime) :
    ((getRequiredJob queue msg >>= rest).segment state).2 =
      .finished (.error (newError "msg.jobId is required")) := by
  unfold getRequiredJob
  rw [named, trimText_orElse, blank]
  rfl

theorem getRequiredJob_lookup {rest : Nat → CommandBody JsValue} {msg : JsValue}
    (named : msg.get "jobId" = .string id) (written : trimText id ≠ "") (state : Runtime) :
    ∃ next, ((getRequiredJob queue msg >>= rest).segment state).2 =
      .awaiting (.queue queue .getJob [.string (trimText id)]) next := by
  unfold getRequiredJob
  rw [named, trimText_orElse]
  simp only [written, ↓reduceIte]
  exact ⟨_, rfl⟩

/-- Without its whitespace the id is another one, or none. -/
theorem unspaced_of_jobsExact (ids : JobsExact content queue id) : Unspaced id := by
  have named : (messageOf "getJobState" "jobId" id).get "jobId" = .string id := rfl
  have parsed : commandOf (messageOf "getJobState" "jobId" id) = .ok .getJobState := rfl
  have meets := ids .getJobState _ _ rfl parsed named
  have asks : runCommand queue (messageOf "getJobState" "jobId" id) .getJobState =
      getRequiredJob queue (messageOf "getJobState" "jobId" id) >>= fun job =>
        onJob job .getState [] := rfl
  rw [dispatchCommand_eq parsed (by decide) (.inr rfl), asks] at meets
  have outcome := meets [] _ (.stop _ Runtime.initial) (by simp)
  have written : trimText id ≠ "" := by
    intro blank
    have refused := outcome.failed _ (getRequiredJob_blank named blank Runtime.initial)
    obtain ⟨exchange, member, -⟩ := refused
    cases member
  obtain ⟨next, waits⟩ := getRequiredJob_lookup named written Runtime.initial
  rw [waits] at outcome
  have names := outcome.only _ (List.mem_singleton_self _)
  have same : trimText id = id := by
    have head := names.2
    rw [List.head?_cons, Option.some.injEq, JsValue.string.injEq] at head
    exact head
  rw [same] at written
  exact ⟨written, same⟩

theorem unspaced_of_schedulersExact (ids : SchedulersExact content queue id) : Unspaced id := by
  have named : (messageOf "removeJobScheduler" "schedulerId" id).get "schedulerId" = .string id :=
    rfl
  have parsed : commandOf (messageOf "removeJobScheduler" "schedulerId" id) =
    .ok .removeJobScheduler := rfl
  have meets := ids .removeJobScheduler _ _ rfl parsed (.inr rfl) named
  have asks : runCommand queue (messageOf "removeJobScheduler" "schedulerId" id)
      .removeJobScheduler =
    orThrow (getSchedulerId (messageOf "removeJobScheduler" "schedulerId" id)) >>= fun schedulerId =>
      onQueue queue .removeJobScheduler [schedulerId] := rfl
  rw [dispatchCommand_eq parsed (by decide) (.inr rfl), asks, getSchedulerId_text named] at meets
  by_cases blank : trimText id = ""
  · rw [if_pos blank] at meets
    have outcome := meets [] _ (.stop _ Runtime.initial) (by simp)
    obtain ⟨exchange, member, -⟩ := outcome.failed _ rfl
    cases member
  · rw [if_neg blank] at meets
    have outcome := meets [] _ (.stop _ Runtime.initial) (by simp)
    have names := outcome.only (.queue queue .removeJobScheduler [.string (trimText id)])
      (List.mem_singleton_self _)
    have same : trimText id = id := by
      rcases names with other | own
      · cases other
      · simpa using own
    rw [same] at blank
    exact ⟨blank, same⟩

end

/-! ## Adding -/

theorem dispatchAdd_asGiven {queue : Nat} {msg : JsValue} {id : String}
    (given : (msg.get "jobopts").get "jobId" = .string id) :
    Calls (fun call => ∃ name data opts, call = .queue queue .add [name, data, opts] ∧
      opts.get "jobId" = .string id) (dispatchAdd queue msg) := by
  have kept : (msg.get "jobopts").orElse (.object []) = msg.get "jobopts" := by
    have truthy : (msg.get "jobopts").truthy = true := by
      cases opts : msg.get "jobopts" with
      | object fields => rfl
      | error thrown => rfl
      | _ =>
        rw [opts] at given
        cases given
    rw [JsValue.orElse, if_pos truthy]
  unfold dispatchAdd
  rw [kept]
  by_cases repetition : hasRepeat (msg.get "jobopts") = true
  · simp only [repetition, ↓reduceIte]
    exact Async.callsOnly_throw _
  · simp only [repetition, Bool.false_eq_true, ↓reduceIte]
    exact Async.callsOnly_bind (onQueue_calls queue ⟨_, _, _, rfl, given⟩) fun job =>
      serializeCurrent_calls job

theorem addsAsGiven (queue : Nat) (id : String) : AddsAsGiven queue id := by
  intro msg parsed given
  apply dispatchCommand_of_passed queue msg fun error => Async.callsOnly_throw error
  intro command same
  rw [Except.ok.inj (same.symm.trans parsed)]
  exact dispatchAdd_asGiven given

/-- Jobs are added under their ids as given; an id then addresses its job and its scheduler if
and only if trimming leaves it as it is. -/
theorem id_exact_iff (content : Content) (queue : Nat) (id : String) :
    AddsAsGiven queue id ∧
      (IdExact content queue id ↔ (id ∈ content.jobs ∨ content.Reports id → Unspaced id)) := by
  refine ⟨addsAsGiven queue id, ?_, ?_⟩
  · intro ids there
    rcases there with held | reported
    · exact unspaced_of_jobsExact (ids.1 held)
    · exact unspaced_of_schedulersExact (ids.2 reported)
  · intro unspaced
    exact ⟨fun held => jobsExact_of_unspaced (unspaced (.inl held)) held,
      fun reported => schedulersExact_of_unspaced (unspaced (.inr reported))⟩

/-! Two jobs whose ids differ in whitespace only. -/

def twoJobs : Content where
  idOf job := if job = 0 then " a " else "a"
  jobs := {id | id = " a " ∨ id = "a"}
  schedulers := []

/-- The lookup of the trimmed id, and the removal of the job that it has found. -/
def removal : List CommandExchange :=
  [⟨.queue 0 .getJob [.string "a"], .ok (some 1)⟩, ⟨.job 1 .remove [], .ok .undefined⟩]

theorem removal_answers : ∀ exchange ∈ removal, twoJobs.Answers exchange := by
  intro exchange member queue id found same
  rcases List.mem_cons.mp member with first | second
  · rw [first] at same
    cases same
    refine ⟨?_, fun none => by cases none⟩
    intro job this
    cases this
    exact ⟨.inr rfl, rfl⟩
  · rw [List.mem_singleton.mp second] at same
    cases same

theorem removal_run :
    Course (dispatchCommand 0 (messageOf "removeJob" "jobId" " a ")) removal
      (.finished (.ok (.bool true))) := by
  have looks : ((dispatchCommand 0 (messageOf "removeJob" "jobId" " a ")).segment
      Runtime.initial).2 = .awaiting (.queue 0 .getJob [.string "a"]) _ := rfl
  refine .answered Runtime.initial looks ?_
  refine .answered Runtime.initial rfl ?_
  exact .stop _ Runtime.initial

/-- The command that names one job removes the other. -/
theorem spaced_id_removes_other :
    (" a " ∈ twoJobs.jobs ∧
      Course (dispatchCommand 0 (messageOf "removeJob" "jobId" " a ")) removal
        (.finished (.ok (.bool true))) ∧
      (∀ exchange ∈ removal, twoJobs.Answers exchange) ∧
      ∃ exchange ∈ removal, exchange.call = .job 1 .remove [] ∧ twoJobs.idOf 1 = "a") ∧
      ¬ IdExact twoJobs 0 " a " := by
  have held : " a " ∈ twoJobs.jobs := .inl rfl
  refine ⟨⟨held, removal_run, removal_answers, _, List.mem_cons_of_mem _ (List.mem_singleton_self _),
    rfl, rfl⟩, ?_⟩
  intro ids
  have unspaced := unspaced_of_jobsExact (ids.1 held)
  exact absurd unspaced.2 (by decide)

end NodeRedBull.ExactIds
