import NodeRedBull.FlowSerialization
import NodeRedBull.JobRuntime

/-! The commands of a `bullmq cmd` node and its job schedulers (`lib/commands.js`,
`lib/scheduler.js`). -/

namespace NodeRedBull.Commands
open Js Library Acknowledgements Serialization FlowSerialization JobRuntime

/-! ## What a command awaits -/

/-- The methods of a BullMQ Queue that commands call. -/
inductive QueueMethod where
  | add | addBulk | getJob | getJobs | retryJobs | getDelayed | promoteJobs | getPrioritized
  | getCountsPerPriority | getDeduplicationJobId | removeDeduplicationKey | upsertJobScheduler
  | getJobScheduler | getJobSchedulers | getJobSchedulersCount | removeJobScheduler
  | getJobCounts | pause | resume | isPaused | isMaxed | drain | clean | setGlobalConcurrency
  | getGlobalConcurrency | removeGlobalConcurrency | setGlobalRateLimit | getGlobalRateLimit
  | removeGlobalRateLimit | rateLimit | getRateLimitTtl | removeRateLimitKey | addJobLog
  | getJobLogs | getVersion | exportPrometheusMetrics
  deriving DecidableEq

/-- What a method resolves to; a job is a live object of BullMQ, or undefined. -/
def QueueMethod.Reply : QueueMethod → Type
  | .add | .getJob | .upsertJobScheduler => Option Nat
  | .addBulk | .getJobs | .getDelayed | .getPrioritized => List (Option Nat)
  | .getJobSchedulers => List JsValue
  | _ => JsValue

/-- The methods of a BullMQ Job that commands call. -/
inductive CommandJobMethod where
  | getState | remove | retry | changeDelay | promote | changePriority
  deriving DecidableEq

inductive CommandCall where
  | queue (queue : Nat) (method : QueueMethod) (args : List JsValue)
  | job (job : Nat) (method : CommandJobMethod) (args : List JsValue)

def CommandReply : CommandCall → Type
  | .queue _ method _ => method.Reply
  | .job _ _ _ => JsValue

abbrev CommandBody := Async Runtime CommandCall CommandReply JsError

def onQueue (queue : Nat) (method : QueueMethod) (args : List JsValue) :
    CommandBody method.Reply :=
  Async.call (CommandCall.queue queue method args)

def onJob (job : Nat) (method : CommandJobMethod) (args : List JsValue) : CommandBody JsValue :=
  Async.call (CommandCall.job job method args)

def orThrow {α : Type} : Except JsError α → CommandBody α
  | .ok value => pure value
  | .error error => throw error

/-- `serializeJob(job)`, as the job is now -/
def serializeCurrent (job : Option Nat) : CommandBody JsValue :=
  return serializeRef (← MonadState.get).acks.jobAt job

/-- `jobs.map(serializeJob)` -/
def serializeJobs (jobs : List (Option Nat)) : CommandBody JsValue :=
  return .array (jobs.map (serializeRef (← MonadState.get).acks.jobAt))

/-! ## Schedulers -/

def getSchedulerId (msg : JsValue) : Except JsError JsValue :=
  let schedulerId := trimText ((msg.get "schedulerId").orElse (.string "")).toText
  if schedulerId = "" then .error (newError "A scheduler id is required")
  else .ok (.string schedulerId)

def schedulerFields : List String :=
  ["id", "key", "name", "next", "pattern", "every", "limit", "offset", "tz", "endDate",
    "startDate", "iterationCount"]

def serializeScheduler (scheduler : JsValue) : JsValue :=
  if scheduler.truthy then
    .object ((schedulerFields.filter scheduler.hasOwn).map fun key => (key, scheduler.get key))
  else scheduler

/-! ## Arguments -/

def cleanStates : List String := ["completed", "failed", "delayed", "wait"]

def removedCommands : List (String × String) :=
  [("count", "getJobSchedulersCount"), ("getRepeatableJobs", "getJobSchedulers"),
    ("getRepeatableJobByKey", "getJobScheduler"), ("removeRepeatableByKey", "removeJobScheduler")]

def valueOrDefault (value defaultValue : JsValue) : JsValue :=
  match value with
  | .undefined | .null => defaultValue
  | value => value

/-- `value == null` -/
def isNullish : JsValue → Bool
  | .undefined | .null => true
  | _ => false

/-- `msg.name ?? msg.payload?.name` -/
def fieldOrPayload (msg : JsValue) (name : String) : JsValue :=
  valueOrDefault (msg.get name) ((msg.get "payload").get name)

/-- Whether `opts.repeat` is truthy; every string inherits a method of that name. -/
def hasRepeat (opts : JsValue) : Bool :=
  match opts with
  | .string _ => true
  | opts => (opts.get "repeat").truthy

/-- `job && job.opts && job.opts.repeat` -/
def repeats (job : JsValue) : Bool :=
  job.truthy && (job.get "opts").truthy && hasRepeat (job.get "opts")

/-- The arguments that `...value` stands for: a string is spread into its characters. -/
def spreadArgs : JsValue → Except JsError (List JsValue)
  | .array items => .ok items
  | .string text => .ok (text.toList.map fun c => .string (String.singleton c))
  | _ => .error
    (newTypeError "Spread syntax requires ...iterable[Symbol.iterator] to be a function")

def minusOne : JsValue := .number (.finite (-1))

/-- `valueOrDefault(msg.start, 0), valueOrDefault(msg.end, -1)` -/
def rangeArgs (msg : JsValue) : List JsValue :=
  [valueOrDefault (msg.get "start") (ofNat 0), valueOrDefault (msg.get "end") minusOne]

/-! ## Commands -/

def getRequiredJob (queue : Nat) (msg : JsValue) : CommandBody Nat := do
  let jobId := trimText ((msg.get "jobId").orElse (.string "")).toText
  if jobId = "" then throw (newError "msg.jobId is required")
  let job : Option Nat ← onQueue queue .getJob [.string jobId]
  match job with
  | some job => return job
  | none => throw (newError ("Job not found: " ++ jobId))

def dispatchAdd (queue : Nat) (msg : JsValue) : CommandBody JsValue := do
  let opts := (msg.get "jobopts").orElse (.object [])
  if hasRepeat opts then
    throw (newError ("add does not support repeat options; use cmd \"upsertJobScheduler\"" ++
      " with msg.repeat.pattern"))
  let data := if msg.hasOwn "jobData" then msg.get "jobData"
    else .object [("payload", msg.get "payload")]
  serializeCurrent (← onQueue queue .add
    [(msg.get "jobName").orElse (.string "default"), data, opts])

def dispatchAddBulk (queue : Nat) (msg : JsValue) : CommandBody JsValue := do
  let jobs := (msg.get "payload").orElse (.array [])
  match jobs with
  | .array items =>
    if items.any repeats then
      throw (newError ("addBulk does not support repeat options; use cmd" ++
        " \"upsertJobScheduler\" with msg.repeat.pattern"))
  | _ => pure ()
  serializeJobs (← onQueue queue .addBulk [jobs])

def dispatchUpsertJobScheduler (queue : Nat) (msg : JsValue) : CommandBody JsValue := do
  let repetition := msg.get "repeat"
  if !repetition.isObject || repetition.isArray then
    throw (newError ("upsertJobScheduler requires msg.repeat to be a BullMQ v6 repeat options" ++
      " object"))
  if repetition.hasOwn "cron" || repetition.hasOwn "utc" then
    throw (newError ("upsertJobScheduler requires BullMQ v6 repeat.pattern and repeat.tz" ++
      " fields"))
  let schedulerId ← orThrow (getSchedulerId msg)
  serializeCurrent (← onQueue queue .upsertJobScheduler
    [schedulerId, repetition, msg.get "template"])

/-- `scheduler.id || scheduler.key` -/
def schedulerKey : JsValue → Except JsError JsValue
  | .undefined => .error (newTypeError "Cannot read properties of undefined (reading 'id')")
  | .null => .error (newTypeError "Cannot read properties of null (reading 'id')")
  | scheduler => .ok ((scheduler.get "id").orElse (scheduler.get "key"))

/-- The loop over the schedulers, with what it adds to `removedSchedulers`. -/
def removeSchedulers (queue : Nat) : List JsValue → CommandBody (List JsValue)
  | [] => return []
  | scheduler :: rest => do
    let id ← orThrow (schedulerKey scheduler)
    if id.truthy then
      let _ ← onQueue queue .removeJobScheduler [id]
      return id :: (← removeSchedulers queue rest)
    else removeSchedulers queue rest

/-- The loop over the states, with what it adds to `cleaned`. -/
def cleanAll (queue : Nat) : List String → CommandBody (List (String × JsValue))
  | [] => return []
  | state :: rest => do
    let found : JsValue ← onQueue queue .clean [ofNat 0, ofNat 0, .string state]
    return (state, found) :: (← cleanAll queue rest)

def dispatchStopAndRemoveAllJobs (queue : Nat) : CommandBody JsValue := do
  let schedulers : List JsValue ←
    onQueue queue .getJobSchedulers [ofNat 0, minusOne, .bool true]
  let removed ← removeSchedulers queue schedulers
  let _ ← onQueue queue .drain [.bool true]
  let cleaned ← cleanAll queue cleanStates
  return .object [("removedSchedulers", .array removed), ("cleaned", .object cleaned)]

def dispatchSetGlobalRateLimit (queue : Nat) (msg : JsValue) : CommandBody JsValue := do
  let max := fieldOrPayload msg "max"
  let duration := fieldOrPayload msg "duration"
  if isNullish max || isNullish duration then
    throw (newError "msg.max and msg.duration are required")
  let _ ← onQueue queue .setGlobalRateLimit [max, duration]
  return .bool true

/-- Look up a job, call a method of it and return the job as it is then. -/
def changeRequiredJob (queue : Nat) (msg : JsValue) (method : CommandJobMethod)
    (args : List JsValue) : CommandBody JsValue := do
  let job ← getRequiredJob queue msg
  let _ ← onJob job method args
  serializeCurrent (some job)

/-- `await queue.method(...args); return true;` -/
def thenTrue (queue : Nat) (method : QueueMethod) (args : List JsValue) : CommandBody JsValue := do
  let _ ← onQueue queue method args
  return .bool true

inductive Command where
  | add | addBulk | getJob | getJobs | getJobState | removeJob | retryJob | retryJobs | getDelayed
  | changeDelay | promoteJob | promoteJobs | getPrioritized | getCountsPerPriority
  | changePriority | getDeduplicationJobId | removeDeduplicationKey | upsertJobScheduler
  | getJobScheduler | getJobSchedulers | getJobSchedulersCount | removeJobScheduler
  | getJobCounts | pause | resume | isPaused | isMaxed | drain | clean | stopAndRemoveAllJobs
  | setGlobalConcurrency | getGlobalConcurrency | removeGlobalConcurrency | setGlobalRateLimit
  | getGlobalRateLimit | removeGlobalRateLimit | rateLimit | getRateLimitTtl
  | removeRateLimitKey | addJobLog | getJobLogs | getVersion | exportPrometheusMetrics
  deriving DecidableEq

def Command.parse : JsValue → Option Command
  | .string "add" => some .add
  | .string "addBulk" => some .addBulk
  | .string "getJob" => some .getJob
  | .string "getJobs" => some .getJobs
  | .string "getJobState" => some .getJobState
  | .string "removeJob" => some .removeJob
  | .string "retryJob" => some .retryJob
  | .string "retryJobs" => some .retryJobs
  | .string "getDelayed" => some .getDelayed
  | .string "changeDelay" => some .changeDelay
  | .string "promoteJob" => some .promoteJob
  | .string "promoteJobs" => some .promoteJobs
  | .string "getPrioritized" => some .getPrioritized
  | .string "getCountsPerPriority" => some .getCountsPerPriority
  | .string "changePriority" => some .changePriority
  | .string "getDeduplicationJobId" => some .getDeduplicationJobId
  | .string "removeDeduplicationKey" => some .removeDeduplicationKey
  | .string "upsertJobScheduler" => some .upsertJobScheduler
  | .string "getJobScheduler" => some .getJobScheduler
  | .string "getJobSchedulers" => some .getJobSchedulers
  | .string "getJobSchedulersCount" => some .getJobSchedulersCount
  | .string "removeJobScheduler" => some .removeJobScheduler
  | .string "getJobCounts" => some .getJobCounts
  | .string "pause" => some .pause
  | .string "resume" => some .resume
  | .string "isPaused" => some .isPaused
  | .string "isMaxed" => some .isMaxed
  | .string "drain" => some .drain
  | .string "clean" => some .clean
  | .string "stopAndRemoveAllJobs" => some .stopAndRemoveAllJobs
  | .string "setGlobalConcurrency" => some .setGlobalConcurrency
  | .string "getGlobalConcurrency" => some .getGlobalConcurrency
  | .string "removeGlobalConcurrency" => some .removeGlobalConcurrency
  | .string "setGlobalRateLimit" => some .setGlobalRateLimit
  | .string "getGlobalRateLimit" => some .getGlobalRateLimit
  | .string "removeGlobalRateLimit" => some .removeGlobalRateLimit
  | .string "rateLimit" => some .rateLimit
  | .string "getRateLimitTtl" => some .getRateLimitTtl
  | .string "removeRateLimitKey" => some .removeRateLimitKey
  | .string "addJobLog" => some .addJobLog
  | .string "getJobLogs" => some .getJobLogs
  | .string "getVersion" => some .getVersion
  | .string "exportPrometheusMetrics" => some .exportPrometheusMetrics
  | _ => none

/-- The `switch` of `dispatchCommand` -/
def runCommand (queue : Nat) (msg : JsValue) : Command → CommandBody JsValue
  | .add => dispatchAdd queue msg
  | .addBulk => dispatchAddBulk queue msg
  | .getJob => do serializeCurrent (← onQueue queue .getJob [msg.get "jobId"])
  | .getJobs => do
    serializeJobs (← onQueue queue .getJobs
      (msg.get "types" :: rangeArgs msg ++ [valueOrDefault (msg.get "asc") (.bool false)]))
  | .getJobState => do onJob (← getRequiredJob queue msg) .getState []
  | .removeJob => do
    let _ ← onJob (← getRequiredJob queue msg) .remove []
    return .bool true
  | .retryJob => changeRequiredJob queue msg .retry [msg.get "state"]
  | .retryJobs => onQueue queue .retryJobs [(msg.get "opts").orElse (.object [])]
  | .getDelayed => do serializeJobs (← onQueue queue .getDelayed (rangeArgs msg))
  | .changeDelay => changeRequiredJob queue msg .changeDelay [msg.get "delay"]
  | .promoteJob => changeRequiredJob queue msg .promote []
  | .promoteJobs => onQueue queue .promoteJobs []
  | .getPrioritized => do serializeJobs (← onQueue queue .getPrioritized (rangeArgs msg))
  | .getCountsPerPriority =>
    onQueue queue .getCountsPerPriority [(msg.get "priorities").orElse (.array [])]
  | .changePriority => changeRequiredJob queue msg .changePriority
      [.object [("priority", msg.get "priority"),
        ("lifo", valueOrDefault (msg.get "lifo") (.bool false))]]
  | .getDeduplicationJobId => onQueue queue .getDeduplicationJobId [msg.get "deduplicationId"]
  | .removeDeduplicationKey => onQueue queue .removeDeduplicationKey [msg.get "deduplicationId"]
  | .upsertJobScheduler => dispatchUpsertJobScheduler queue msg
  | .getJobScheduler => do
    let schedulerId ← orThrow (getSchedulerId msg)
    let scheduler : JsValue ← onQueue queue .getJobScheduler [schedulerId]
    return serializeScheduler scheduler
  | .getJobSchedulers => do
    let schedulers : List JsValue ← onQueue queue .getJobSchedulers
      (rangeArgs msg ++ [valueOrDefault (msg.get "asc") (.bool true)])
    return .array (schedulers.map serializeScheduler)
  | .getJobSchedulersCount => onQueue queue .getJobSchedulersCount []
  | .removeJobScheduler => do
    onQueue queue .removeJobScheduler [← orThrow (getSchedulerId msg)]
  | .getJobCounts => do
    onQueue queue .getJobCounts (← orThrow (spreadArgs ((msg.get "types").orElse (.array []))))
  | .pause => thenTrue queue .pause []
  | .resume => thenTrue queue .resume []
  | .isPaused => onQueue queue .isPaused []
  | .isMaxed => onQueue queue .isMaxed []
  | .drain => thenTrue queue .drain [valueOrDefault (msg.get "delayed") (.bool false)]
  | .clean => onQueue queue .clean [valueOrDefault (msg.get "grace") (ofNat 0),
      valueOrDefault (msg.get "limit") (ofNat 1000),
      (msg.get "state").orElse (.string "completed")]
  | .stopAndRemoveAllJobs => dispatchStopAndRemoveAllJobs queue
  | .setGlobalConcurrency => thenTrue queue .setGlobalConcurrency [msg.get "concurrency"]
  | .getGlobalConcurrency => onQueue queue .getGlobalConcurrency []
  | .removeGlobalConcurrency => onQueue queue .removeGlobalConcurrency []
  | .setGlobalRateLimit => dispatchSetGlobalRateLimit queue msg
  | .getGlobalRateLimit => onQueue queue .getGlobalRateLimit []
  | .removeGlobalRateLimit => onQueue queue .removeGlobalRateLimit []
  | .rateLimit => thenTrue queue .rateLimit [msg.get "duration"]
  | .getRateLimitTtl => onQueue queue .getRateLimitTtl [msg.get "maxJobs"]
  | .removeRateLimitKey => onQueue queue .removeRateLimitKey []
  | .addJobLog =>
    onQueue queue .addJobLog [msg.get "jobId", msg.get "logRow", msg.get "keepLogs"]
  | .getJobLogs => onQueue queue .getJobLogs
      (msg.get "jobId" :: rangeArgs msg ++ [valueOrDefault (msg.get "asc") (.bool true)])
  | .getVersion => onQueue queue .getVersion []
  | .exportPrometheusMetrics => onQueue queue .exportPrometheusMetrics []

/-- The command of a message: `Object.hasOwn` and `switch` see its name. -/
def commandOf (msg : JsValue) : Except JsError Command :=
  let cmd := (msg.get "cmd").orElse (.string "add")
  match removedCommands.find? fun entry => decide (entry.1 = cmd.toText) with
  | some entry => .error (newError
      ("cmd \"" ++ cmd.toText ++ "\" is not supported; use \"" ++ entry.2 ++ "\""))
  | none =>
    match Command.parse cmd with
    | some command => .ok command
    | none => .error (newError ("Unsupported bullmq cmd: " ++ cmd.toText))

def dispatchCommand (queue : Nat) (msg : JsValue) : CommandBody JsValue := do
  if !(msg.get "cmd").isPresent && (msg.get "command").isPresent then
    throw (newError "msg.command is not supported; use msg.cmd")
  if !(msg.get "jobId").isPresent && (msg.get "jobid").isPresent then
    throw (newError "msg.jobid is not supported; use msg.jobId")
  runCommand queue msg (← orThrow (commandOf msg))

end NodeRedBull.Commands
