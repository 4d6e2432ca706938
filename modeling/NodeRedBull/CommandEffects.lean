import NodeRedBull.CommandGuards
import NodeRedBull.Library.Script

/-! What a command does to a queue: it fails with the first call that is rejected, and all but
`stopAndRemoveAllJobs` make one call at most besides the lookup of a job. -/

namespace NodeRedBull.CommandEffects
open Js Library Acknowledgements JobRuntime Commands CommandGuards

abbrev CommandExchanges := List (Exchange CommandCall CommandReply JsError)

abbrev StoppedCommand := Paused Runtime CommandCall CommandReply JsError JsValue

/-- Everything but the lookup of a job. -/
def Acts (queue : Nat) (call : CommandCall) : Prop := ¬Lookup queue call

section Commands
variable (queue : Nat) (msg : JsValue)

/-- The rules that a command keeps to. -/
abbrev Commits {α : Type} (body : CommandBody α) : Prop := Async.Commits (Acts queue) body

theorem quiet_current (job : Option Nat) : (serializeCurrent job).Quiet :=
  Async.quiet_bind Async.quiet_get fun _ => Async.quiet_pure _

theorem quiet_jobs (jobs : List (Option Nat)) : (serializeJobs jobs).Quiet :=
  Async.quiet_bind Async.quiet_get fun _ => Async.quiet_pure _

theorem onQueue_commits (method : QueueMethod) (args : List JsValue) :
    Commits queue (onQueue queue method args) :=
  Async.commits_call (CommandCall.queue queue method args)

theorem onJob_commits (job : Nat) (method : CommandJobMethod) (args : List JsValue) :
    Commits queue (onJob job method args) :=
  Async.commits_call (CommandCall.job job method args)

/-- A call of the queue whose answer is then serialized or replaced. -/
theorem oneCall_commits (method : QueueMethod) (args : List JsValue)
    {serialize : method.Reply → CommandBody JsValue} (quiet : ∀ reply, (serialize reply).Quiet) :
    Commits queue (onQueue queue method args >>= serialize) :=
  Async.commits_quiet (onQueue_commits queue method args) quiet

theorem orThrow_failsFast {α : Type} (result : Except JsError α) :
    Async.FailsFast (orThrow result) := by
  cases result with
  | ok value => exact (Async.quiet_pure value).failsFast
  | error error => exact Async.failsFast_throw error

/-- A check of the message, before any call. -/
theorem checked_commits {α : Type} (result : Except JsError α) {rest : α → CommandBody JsValue}
    (further : ∀ value, Commits queue (rest value)) : Commits queue (orThrow result >>= rest) :=
  Async.commits_after (orThrow_failsFast result) (orThrow_calls _) further

theorem getRequiredJob_failsFast : Async.FailsFast (getRequiredJob queue msg) := by
  unfold getRequiredJob
  dsimp only
  split
  · exact Async.failsFast_throw _
  · apply Async.failsFast_bind (Async.failsFast_call _)
    intro job
    cases job with
    | none => exact Async.failsFast_throw _
    | some job => exact (Async.quiet_pure job).failsFast

/-- The lookup of a job does not count. -/
theorem requiredJob_commits {rest : Nat → CommandBody JsValue}
    (further : ∀ job, Commits queue (rest job)) :
    Commits queue (getRequiredJob queue msg >>= rest) := by
  apply Async.commits_after (getRequiredJob_failsFast queue msg) _ further
  apply getRequiredJob_calls
  intro args acts
  exact acts ⟨args, rfl⟩

theorem changeRequiredJob_commits (method : CommandJobMethod) (args : List JsValue) :
    Commits queue (changeRequiredJob queue msg method args) := by
  apply requiredJob_commits
  intro job
  exact Async.commits_quiet (onJob_commits queue job method args) fun _ => quiet_current (some job)

theorem thenTrue_commits (method : QueueMethod) (args : List JsValue) :
    Commits queue (thenTrue queue method args) :=
  oneCall_commits queue method args fun _ => Async.quiet_pure _

theorem dispatchAdd_commits : Commits queue (dispatchAdd queue msg) := by
  unfold dispatchAdd
  by_cases repetition : hasRepeat ((msg.get "jobopts").orElse (.object [])) = true
  · simp only [repetition, ↓reduceIte]
    exact Async.commits_throw _
  · simp only [repetition, Bool.false_eq_true, ↓reduceIte]
    exact oneCall_commits queue .add _ fun job => quiet_current job

theorem dispatchAddBulk_commits : Commits queue (dispatchAddBulk queue msg) := by
  have added : ∀ jobs, Commits queue (do serializeJobs (← onQueue queue .addBulk [jobs])) :=
    fun jobs => oneCall_commits queue .addBulk [jobs] fun added => quiet_jobs added
  unfold dispatchAddBulk
  cases (msg.get "payload").orElse (.array []) with
  | array items =>
    by_cases repetition : items.any repeats = true
    · simp only [repetition, ↓reduceIte]
      exact Async.commits_throw _
    · simp only [repetition, Bool.false_eq_true, ↓reduceIte]
      exact added _
  | _ => exact added _

theorem dispatchUpsertJobScheduler_commits :
    Commits queue (dispatchUpsertJobScheduler queue msg) := by
  unfold dispatchUpsertJobScheduler
  by_cases malformed : (!(msg.get "repeat").isObject || (msg.get "repeat").isArray) = true
  · simp only [malformed, ↓reduceIte]
    exact Async.commits_throw _
  · by_cases old : ((msg.get "repeat").hasOwn "cron" || (msg.get "repeat").hasOwn "utc") = true
    · simp only [malformed, old, Bool.false_eq_true, ↓reduceIte]
      exact Async.commits_throw _
    · simp only [malformed, old, Bool.false_eq_true, ↓reduceIte]
      apply checked_commits
      intro schedulerId
      exact oneCall_commits queue .upsertJobScheduler _ fun job => quiet_current job

theorem dispatchSetGlobalRateLimit_commits :
    Commits queue (dispatchSetGlobalRateLimit queue msg) := by
  unfold dispatchSetGlobalRateLimit
  by_cases missing : (isNullish (fieldOrPayload msg "max") ||
      isNullish (fieldOrPayload msg "duration")) = true
  · simp only [missing, ↓reduceIte]
    exact Async.commits_throw _
  · simp only [missing, Bool.false_eq_true, ↓reduceIte]
    exact oneCall_commits queue .setGlobalRateLimit _ fun _ => Async.quiet_pure _

theorem runCommand_commits {command : Command} (single : command ≠ .stopAndRemoveAllJobs) :
    Commits queue (runCommand queue msg command) := by
  cases command with
  | stopAndRemoveAllJobs => exact absurd rfl single
  | add => exact dispatchAdd_commits queue msg
  | addBulk => exact dispatchAddBulk_commits queue msg
  | upsertJobScheduler => exact dispatchUpsertJobScheduler_commits queue msg
  | setGlobalRateLimit => exact dispatchSetGlobalRateLimit_commits queue msg
  | getJob => exact oneCall_commits queue .getJob _ fun job => quiet_current job
  | getJobs | getDelayed | getPrioritized =>
    exact oneCall_commits queue _ _ fun jobs => quiet_jobs jobs
  | getJobState =>
    exact requiredJob_commits queue msg fun job => onJob_commits queue job .getState []
  | removeJob =>
    apply requiredJob_commits
    intro job
    exact Async.commits_quiet (onJob_commits queue job .remove []) fun _ => Async.quiet_pure _
  | retryJob | changeDelay | promoteJob | changePriority =>
    exact changeRequiredJob_commits queue msg _ _
  | getJobScheduler =>
    apply checked_commits
    intro schedulerId
    exact oneCall_commits queue .getJobScheduler _ fun _ => Async.quiet_pure _
  | getJobSchedulers => exact oneCall_commits queue .getJobSchedulers _ fun _ => Async.quiet_pure _
  | removeJobScheduler | getJobCounts =>
    exact checked_commits queue _ fun _ => onQueue_commits queue _ _
  | pause | resume | drain | setGlobalConcurrency | rateLimit =>
    exact thenTrue_commits queue _ _
  | _ => exact onQueue_commits queue _ _

theorem dispatchCommand_commits (single : commandOf msg ≠ .ok .stopAndRemoveAllJobs) :
    Commits queue (dispatchCommand queue msg) := by
  apply dispatchCommand_of_passed queue msg
  · exact fun error => Async.commits_throw error
  · intro command parsed
    apply runCommand_commits
    intro same
    rw [same] at parsed
    exact single parsed

end Commands

/-- A command acts once at most: the lookup of a job apart, whatever it calls is its last call, and
when that succeeds the command does. So a command that has failed has done nothing, or the call that
it made was rejected, with the error that the command fails with. -/
theorem command_acts_once {queue : Nat} {msg : JsValue}
    (single : commandOf msg ≠ .ok .stopAndRemoveAllJobs) {exchanges : CommandExchanges}
    {stopped : StoppedCommand} (run : Course (dispatchCommand queue msg) exchanges stopped) :
    (∀ exchange ∈ exchanges, ∀ error, exchange.reply = .error error →
      stopped = .finished (.error error)) ∧
    ∀ before exchange after, exchanges = before ++ exchange :: after → Acts queue exchange.call →
      (∀ earlier ∈ before, Lookup queue earlier.call) ∧ after = [] ∧
        (exchange.succeeded → ∃ value, stopped = .finished (.ok value)) := by
  have commits := dispatchCommand_commits queue msg single
  refine ⟨commits.fast exchanges stopped run, ?_⟩
  intro before exchange after split acts
  refine ⟨?_, commits.last exchanges stopped run before exchange after split acts⟩
  intro earlier member
  by_contra other
  obtain ⟨front, back, parts⟩ := List.append_of_mem member
  have again : exchanges = front ++ earlier :: (back ++ exchange :: after) := by
    rw [split, parts, List.append_assoc]
    rfl
  have nothing := (commits.last exchanges stopped run front earlier _ again other).1
  simp at nothing

/-- A job that cannot be removed while it is active. -/
def lockedJob : JsError := newError "Job 7 could not be removed because it is locked"

def removeMessage : JsValue := .object [("cmd", .string "removeJob"), ("jobId", .string "7")]

def lockedRemoval : CommandExchanges :=
  [⟨.queue 0 .getJob [.string "7"], .ok (some 3)⟩, ⟨.job 3 .remove [], .error lockedJob⟩]

theorem lockedRemoval_run :
    Course (dispatchCommand 0 removeMessage) lockedRemoval (.finished (.error lockedJob)) := by
  have looks : ((dispatchCommand 0 removeMessage).segment Runtime.initial).2 =
      .awaiting (.queue 0 .getJob [.string "7"]) _ := rfl
  exact .answered Runtime.initial looks
    (.answered Runtime.initial rfl (.stop _ Runtime.initial))

theorem command_acts_once_locked :
    (∀ earlier ∈ lockedRemoval.take 1, Lookup 0 earlier.call) ∧ lockedRemoval.drop 2 = [] := by
  have acts : Acts 0 (.job 3 .remove []) := by
    intro looks
    obtain ⟨args, same⟩ := looks
    cases same
  have once := (command_acts_once (show commandOf removeMessage ≠ .ok .stopAndRemoveAllJobs from nofun)
    lockedRemoval_run).2 (lockedRemoval.take 1) ⟨.job 3 .remove [], .error lockedJob⟩
    (lockedRemoval.drop 2) rfl acts
  exact ⟨once.1, once.2.1⟩

/-! ## Stopping everything -/

/-- The ids of the schedulers that are removed, up to one that is no object. -/
def removedIds : List JsValue → List JsValue
  | [] => []
  | scheduler :: rest =>
    match schedulerKey scheduler with
    | .error _ => []
    | .ok id => if id.truthy then id :: removedIds rest else removedIds rest

/-- The error at the first scheduler that is no object. -/
def keyError : List JsValue → Option JsError
  | [] => none
  | scheduler :: rest =>
    match schedulerKey scheduler with
    | .error error => some error
    | .ok _ => keyError rest

def listingOf (queue : Nat) : CommandCall :=
  .queue queue .getJobSchedulers [ofNat 0, minusOne, .bool true]

def removalOf (queue : Nat) (id : JsValue) : CommandCall := .queue queue .removeJobScheduler [id]

def drainOf (queue : Nat) : CommandCall := .queue queue .drain [.bool true]

def cleanOf (queue : Nat) (state : String) : CommandCall :=
  .queue queue .clean [ofNat 0, ofNat 0, .string state]

/-- What follows the listing of the schedulers. -/
def teardown (queue : Nat) (schedulers : List JsValue) : List CommandCall :=
  (removedIds schedulers).map (removalOf queue) ++ (drainOf queue :: cleanStates.map (cleanOf queue))

/-- A state that was cleaned, with what BullMQ answered. -/
def cleaning (queue : Nat) (cleaned : String × JsValue) :
    Exchange CommandCall CommandReply JsError :=
  ⟨cleanOf queue cleaned.1, .ok cleaned.2⟩

theorem orThrow_scripted {α : Type} {own : CommandExchanges → JsError → Prop}
    (result : Except JsError α) (owned : ∀ error, result = .error error → own [] error) :
    Async.Scripted [] (fun exchanges value => exchanges = [] ∧ result = .ok value) own
      (orThrow result) := by
  cases result with
  | ok value => exact Async.scripted_pure ⟨rfl, rfl⟩
  | error error => exact Async.scripted_throw (owned error rfl)

/-- The loop has removed what it could when it meets a scheduler that is no object. -/
def Unlisted (queue : Nat) (schedulers : List JsValue) (exchanges : CommandExchanges)
    (error : JsError) : Prop :=
  exchanges.map Exchange.call = (removedIds schedulers).map (removalOf queue) ∧
    keyError schedulers = some error

theorem removeSchedulers_scripted (queue : Nat) (schedulers : List JsValue) :
    Async.Scripted ((removedIds schedulers).map (removalOf queue))
      (fun _ removed => removed = removedIds schedulers ∧
        ∀ scheduler ∈ schedulers, ∃ id, schedulerKey scheduler = .ok id)
      (Unlisted queue schedulers) (removeSchedulers queue schedulers) := by
  induction schedulers with
  | nil => exact Async.scripted_pure ⟨rfl, nofun⟩
  | cons scheduler rest ih =>
    have unlisted : ∀ error, schedulerKey scheduler = .error error →
        Unlisted queue (scheduler :: rest) [] error := by
      intro error noObject
      simp only [Unlisted, removedIds, keyError, noObject, List.map_nil, and_self]
    apply Async.scripted_after (orThrow_scripted (schedulerKey scheduler) unlisted)
    intro id key
    have objects : (∀ other ∈ rest, ∃ id, schedulerKey other = .ok id) →
        ∀ other ∈ scheduler :: rest, ∃ id, schedulerKey other = .ok id := by
      intro later other member
      rcases List.mem_cons.mp member with same | further
      · exact ⟨id, by rw [same, key]⟩
      · exact later other further
    have keyless : keyError (scheduler :: rest) = keyError rest := by
      simp only [keyError, key]
    by_cases named : id.truthy = true
    · have ids : removedIds (scheduler :: rest) = id :: removedIds rest := by
        simp only [removedIds, key, named, ↓reduceIte]
      have removal : Async.Scripted [removalOf queue id]
          (fun exchanges _ => exchanges.map Exchange.call = [removalOf queue id])
          (Unlisted queue (scheduler :: rest)) (onQueue queue .removeJobScheduler [id]) :=
        Async.scripted_call fun _ => rfl
      simp only [ids, named, ↓reduceIte]
      apply Async.scripted_bind removal
      intro before answer removed
      have continued : ∀ after error, Unlisted queue rest after error →
          Unlisted queue (scheduler :: rest) (before ++ after) error := by
        intro after error unlisted
        refine ⟨?_, keyless.trans unlisted.2⟩
        rw [List.map_append, removed, unlisted.1, ids]
        rfl
      apply Async.scripted_return (ih.weaken continued)
      intro exchanges removed known
      exact ⟨congrArg (List.cons id) known.1, objects known.2⟩
    · have ids : removedIds (scheduler :: rest) = removedIds rest := by
        simp only [removedIds, key, named, Bool.false_eq_true, ↓reduceIte]
      have continued : ∀ after error, Unlisted queue rest after error →
          Unlisted queue (scheduler :: rest) after error := by
        intro after error unlisted
        refine ⟨?_, keyless.trans unlisted.2⟩
        rw [unlisted.1, ids]
      simp only [ids, named, Bool.false_eq_true, ↓reduceIte]
      refine ⟨ih.fast, ih.follows, ?_, (ih.weaken continued).failed⟩
      intro exchanges removed run
      obtain ⟨calls, known⟩ := ih.returned exchanges removed run
      exact ⟨calls, known.1, objects known.2⟩

theorem cleanAll_scripted {own : CommandExchanges → JsError → Prop} (queue : Nat)
    (states : List String) :
    Async.Scripted (states.map (cleanOf queue))
      (fun exchanges cleaned => cleaned.map Prod.fst = states ∧
        exchanges = cleaned.map (cleaning queue)) own (cleanAll queue states) := by
  induction states generalizing own with
  | nil => exact Async.scripted_pure ⟨rfl, rfl⟩
  | cons state rest ih =>
    have first : Async.Scripted [cleanOf queue state]
        (fun exchanges found => exchanges = [cleaning queue (state, found)]) own
        (onQueue queue .clean [ofNat 0, ofNat 0, .string state]) :=
      Async.scripted_call fun reply => rfl
    apply Async.scripted_bind first
    intro before found asked
    apply Async.scripted_return ih
    intro after cleaned known
    rw [asked, known.2]
    exact ⟨congrArg (List.cons state) known.1, rfl⟩

/-- What the command reports. -/
def report (removed : List JsValue) (cleaned : List (String × JsValue)) : JsValue :=
  .object [("removedSchedulers", .array removed), ("cleaned", .object cleaned)]

/-- How the command is done: every scheduler listed is an object, the report names the ids that
were removed, and for each state what the last calls were answered. -/
structure Reported (queue : Nat) (schedulers : List JsValue) (exchanges : CommandExchanges)
    (value : JsValue) : Prop where
  objects : ∀ scheduler ∈ schedulers, ∃ id, schedulerKey scheduler = .ok id
  reports : ∃ before cleaned, exchanges = before ++ cleaned.map (cleaning queue) ∧
    cleaned.map Prod.fst = cleanStates ∧ value = report (removedIds schedulers) cleaned

/-- The command once the schedulers are listed. -/
def afterListing (queue : Nat) (schedulers : List JsValue) : CommandBody JsValue := do
  let removed ← removeSchedulers queue schedulers
  let _ ← onQueue queue .drain [.bool true]
  let cleaned ← cleanAll queue cleanStates
  return .object [("removedSchedulers", .array removed), ("cleaned", .object cleaned)]

theorem afterListing_scripted (queue : Nat) (schedulers : List JsValue) :
    Async.Scripted (teardown queue schedulers) (Reported queue schedulers)
      (Unlisted queue schedulers) (afterListing queue schedulers) := by
  have drained : ∀ {own : CommandExchanges → JsError → Prop}, Async.Scripted [drainOf queue]
      (fun _ _ => True) own (onQueue queue .drain [.bool true]) :=
    Async.scripted_call fun _ => trivial
  apply Async.scripted_bind (removeSchedulers_scripted queue schedulers)
  intro before removed known
  have single : drainOf queue :: cleanStates.map (cleanOf queue) =
      [drainOf queue] ++ cleanStates.map (cleanOf queue) := rfl
  rw [single]
  apply Async.scripted_bind drained
  intro between answer _
  apply Async.scripted_return (cleanAll_scripted queue cleanStates)
  intro after cleaned result
  refine ⟨known.2, before ++ between, cleaned, ?_, result.1, ?_⟩
  · rw [result.2, List.append_assoc]
  · rw [known.1]
    rfl

/-- The command lists the schedulers first, and fails with the error of that call when it is
rejected. Then it removes each one listed, in order, drains the queue with its delayed jobs and
cleans the four states; it makes no other call, stops at the first call that is rejected, and
reports what it was answered when all are done. It fails by itself only at a scheduler that is no
object, once those before it are removed. -/
theorem stopAndRemoveAllJobs_plan {queue : Nat} {exchanges : CommandExchanges}
    {stopped : StoppedCommand}
    (run : Course (dispatchStopAndRemoveAllJobs queue) exchanges stopped) :
    (exchanges = [] ∧ callsOf exchanges stopped = [listingOf queue] ∧
      ∀ result, stopped ≠ .finished result) ∨
    (∃ error, exchanges = [⟨listingOf queue, .error error⟩] ∧ stopped = .finished (.error error)) ∨
      ∃ schedulers rest, exchanges = ⟨listingOf queue, .ok schedulers⟩ :: rest ∧
        callsOf rest stopped <+: teardown queue schedulers ∧
        (∀ exchange ∈ rest, ∀ error, exchange.reply = .error error →
          stopped = .finished (.error error)) ∧
        (∀ value, stopped = .finished (.ok value) →
          rest.map Exchange.call = teardown queue schedulers ∧
            (∀ exchange ∈ rest, exchange.succeeded) ∧ Reported queue schedulers rest value) ∧
        ∀ error, stopped = .finished (.error error) →
          (∃ exchange ∈ rest, exchange.reply = .error error) ∨
            (rest.map Exchange.call = (removedIds schedulers).map (removalOf queue) ∧
              keyError schedulers = some error) := by
  have listing : ∀ {others early}, Course (onQueue queue .getJobSchedulers
      [ofNat 0, minusOne, .bool true]) others early →
      (others = [] ∧ early.waitsFor = [listingOf queue] ∧ ∀ result, early ≠ .finished result) ∨
        ∃ reply, others = [⟨listingOf queue, reply⟩] ∧ early = .finished reply :=
    fun course => Async.course_call course
  have parts : dispatchStopAndRemoveAllJobs queue =
      (onQueue queue .getJobSchedulers [ofNat 0, minusOne, .bool true] >>= afterListing queue) := rfl
  rw [parts] at run
  rcases Async.course_bind run with ⟨early, course, halts⟩ | ⟨one, two, schedulers, split, course, later⟩
  · rcases listing course with ⟨none, waits, open_⟩ | ⟨reply, asked, ended⟩
    · left
      refine ⟨none, ?_, ?_⟩
      · rw [Async.callsOf_halts halts]
        unfold callsOf
        rw [none, waits]
        rfl
      · intro result settled
        rw [settled] at halts
        cases halts with
        | failed error => exact open_ _ rfl
    · right
      left
      rw [ended] at halts
      cases halts with
      | failed error => exact ⟨error, asked, rfl⟩
  · right
    right
    have script := afterListing_scripted queue schedulers
    refine ⟨schedulers, two, ?_, script.follows two stopped later, script.fast two stopped later,
      ?_, ?_⟩
    · rcases listing course with ⟨_, _, open_⟩ | ⟨reply, asked, ended⟩
      · exact absurd rfl (open_ _)
      · cases ended
        rw [split, asked]
        rfl
    · intro value returned
      rw [returned] at later
      obtain ⟨calls, reported⟩ := script.returned two value later
      exact ⟨calls, script.fast.succeeded later, reported⟩
    · intro error thrown
      rw [thrown] at later
      exact script.failed two error later

/-- Of two schedulers the first one cannot be removed. -/
def twoSchedulers : List JsValue :=
  [.object [("id", .string "hourly")], .object [("id", .string "daily")]]

def stuckRemoval : Exchange CommandCall CommandReply JsError :=
  ⟨removalOf 0 (.string "hourly"), .error lockedJob⟩

theorem stuckRemoval_run : Course (dispatchStopAndRemoveAllJobs 0)
    [⟨listingOf 0, .ok twoSchedulers⟩, stuckRemoval] (.finished (.error lockedJob)) := by
  have lists : ((dispatchStopAndRemoveAllJobs 0).segment Runtime.initial).2 =
      .awaiting (listingOf 0) _ := rfl
  exact .answered Runtime.initial lists
    (.answered Runtime.initial rfl (.stop _ Runtime.initial))

theorem stopAndRemoveAllJobs_plan_stuck : ∃ schedulers rest,
    [⟨listingOf 0, .ok twoSchedulers⟩, stuckRemoval] = ⟨listingOf 0, .ok schedulers⟩ :: rest ∧
      callsOf rest (.finished (.error lockedJob) : StoppedCommand) <+: teardown 0 schedulers ∧
      ∃ exchange ∈ rest, exchange.reply = .error lockedJob := by
  rcases stopAndRemoveAllJobs_plan stuckRemoval_run with waiting | refused | planned
  · cases waiting.1
  · obtain ⟨error, single, _⟩ := refused
    cases single
  · obtain ⟨schedulers, rest, split, follows, _, _, failed⟩ := planned
    refine ⟨schedulers, rest, split, follows, ?_⟩
    rcases failed lockedJob rfl with rejected | noObject
    · exact rejected
    · cases split
      cases noObject.2

end NodeRedBull.CommandEffects
