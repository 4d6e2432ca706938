import NodeRedBull.Js.Value
import NodeRedBull.Library.OrderedMap
import NodeRedBull.Library.Store
import NodeRedBull.Library.Async

/-! The in-process acknowledgement registry of manual-mode jobs
(`lib/acknowledgements.js`). Entries are objects with an identity; the timers, abort
signals, event promises and BullMQ jobs they refer to live in the same state. -/

namespace NodeRedBull.Acknowledgements
open Js Library

/-- `{ type: "resolve", value }` or `{ type: "reject", error }` -/
inductive Settlement where
  | resolve (value : JsValue)
  | reject (error : JsError)

/-- Listeners of an entry's "settled" event. All of them are registered with `once`. -/
inductive SettledListener where
  | deleteEntry
  | wake (promise : Nat)
  deriving DecidableEq

/-- The job, its queue and its worker are objects of BullMQ. -/
structure Context where
  job : Nat
  queue : Option Nat
  queueName : String
  runNodeId : String
  worker : Nat
  signal : Option Nat
  token : JsValue

/-- `timeoutMs` and `ackId` are what the timer callback and the "settled" handler of
`create` capture; the constructor copies the other fields from its context. -/
structure AcknowledgementEntry where
  events : List SettledListener
  settlement : Option Settlement
  context : Context
  timeoutMs : JsNumber
  ackId : String

/-- An AbortSignal with the entries whose abort listener is registered on it. -/
structure AbortSignal where
  reason : Option JsValue
  listeners : List Nat

/-- A promise of `once(entry.events, "settled")`. -/
structure EventPromise where
  entry : Nat
  settlement : Option Settlement

structure AckState where
  objects : Store AcknowledgementEntry
  entries : OrderedMap String Nat
  timers : List Nat
  signals : Store AbortSignal
  promises : Store EventPromise
  jobs : Store JsValue

def AckState.initial : AckState := ⟨.empty, .empty, [], .empty, .empty, .empty⟩

/-- What a job object holds now; BullMQ may change it at any time. -/
def AckState.jobAt (state : AckState) (job : Nat) : JsValue :=
  (state.jobs.read job).getD .undefined

def clearTimeout (ref : Nat) (state : AckState) : AckState :=
  { state with timers := state.timers.filter (fun other => decide (other ≠ ref)) }

def AbortSignal.remove (ref : Nat) (signal : AbortSignal) : AbortSignal :=
  { signal with listeners := signal.listeners.filter (fun other => decide (other ≠ ref)) }

def AbortSignal.add (ref : Nat) (signal : AbortSignal) : AbortSignal :=
  { signal with listeners := signal.listeners ++ [ref] }

def removeEventListener (ref : Nat) (signal : Option Nat) (state : AckState) : AckState :=
  match signal with
  | none => state
  | some signal => { state with signals := state.signals.modify signal (AbortSignal.remove ref) }

def callListener (ackId : String) (settlement : Settlement) (state : AckState) :
    SettledListener → AckState
  | .deleteEntry => { state with entries := state.entries.delete ackId }
  | .wake promise =>
    { state with
      promises := state.promises.modify promise ({ · with settlement := some settlement }) }

/-- `this.events.emit("settled", settlement)`: each listener goes before it is called. -/
def emitSettled (ref : Nat) (settlement : Settlement) (state : AckState) : AckState :=
  match state.objects.read ref with
  | none => state
  | some entry =>
    entry.events.foldl (callListener entry.ackId settlement)
      { state with objects := state.objects.write ref { entry with events := [] } }

/-- `AcknowledgementEntry.settle` -/
def settle (ref : Nat) (settlement : Settlement) (state : AckState) : AckState :=
  match state.objects.read ref with
  | none => state
  | some entry =>
    if entry.settlement.isSome then state
    else
      let recorded := { state with
        objects := state.objects.write ref { entry with settlement := some settlement } }
      emitSettled ref settlement
        (removeEventListener ref entry.context.signal (clearTimeout ref recorded))

def complete (ref : Nat) (value : JsValue) : AckState → AckState := settle ref (.resolve value)

def fail (ref : Nat) (error : JsError) : AckState → AckState := settle ref (.reject error)

/-- `new AbortController()`: nothing listens to its signal yet. -/
def newSignal (state : AckState) : Nat × AckState :=
  let (signal, signals) := state.signals.alloc ⟨none, []⟩
  (signal, { state with signals })

def newJob (job : JsValue) (state : AckState) : Nat × AckState :=
  let (ref, jobs) := state.jobs.alloc job
  (ref, { state with jobs })

def changeJob (ref : Nat) (job : JsValue) (state : AckState) : AckState :=
  { state with jobs := state.jobs.write ref job }

def abortError (reason : JsValue) : JsError := newError reason.toText

/-- `AbortController.abort`: the first call stores the reason and runs the listeners. -/
def abort (signal : Nat) (reason : JsValue) (state : AckState) : AckState :=
  match state.signals.read signal with
  | none => state
  | some found =>
    if found.reason.isSome then state
    else
      found.listeners.foldl (fun state ref => fail ref (abortError reason) state)
        { state with signals := state.signals.write signal { found with reason := some reason } }

def timeoutError (timeoutMs : JsNumber) : JsError :=
  newError ("BullMQ job acknowledgement timed out after " ++ String.ofList timeoutMs.toChars ++ "ms")

/-- The timer of an entry fires: it is no longer armed when its callback runs. -/
def timerFires (ref : Nat) (state : AckState) : AckState :=
  match state.objects.read ref with
  | none => state
  | some entry => fail ref (timeoutError entry.timeoutMs) (clearTimeout ref state)

/-- `parseAckTimeoutMs` with its default of five minutes -/
def parseAckTimeoutMs (value : JsValue) (defaultMs : JsNumber := JsNumber.ofNat 300000) : JsNumber :=
  match value with
  | .undefined | .null | .string "" => defaultMs
  | value =>
    let parsed := value.toNumber
    if !parsed.isFinite || parsed.lt (JsNumber.ofNat 0) then defaultMs else parsed

/-- The ackId is built from the clock and from `Math.random()`. -/
def ackIdOf (runNodeId : String) (job : Nat) (now : JsNumber) (random : String)
    (state : AckState) : String :=
  runNodeId ++ ":" ++ ((state.jobAt job).get "id").toText ++ ":" ++ String.ofList now.toChars ++
    ":" ++ random

/-- `new AcknowledgementEntry(context, timeoutMs)` -/
def newEntry (context : Context) (timeoutMs : JsNumber) (ackId : String) (state : AckState) :
    Nat × AckState :=
  let (ref, objects) := state.objects.alloc ⟨[], none, context, timeoutMs, ackId⟩
  let signals := match context.signal with
    | none => state.signals
    | some signal => state.signals.modify signal (AbortSignal.add ref)
  let timers := if timeoutMs.positive then state.timers ++ [ref] else state.timers
  (ref, { state with objects, signals, timers })

/-- `AcknowledgementRegistry.create` -/
def create (context : Context) (timeoutMs : JsNumber) (now : JsNumber) (random : String)
    (state : AckState) : (String × Nat) × AckState :=
  let ackId := ackIdOf context.runNodeId context.job now random state
  let (ref, constructed) := newEntry context timeoutMs ackId state
  let listening := constructed.objects.modify ref
    fun entry => { entry with events := entry.events ++ [.deleteEntry] }
  ((ackId, ref), { constructed with
    objects := listening, entries := constructed.entries.set ackId ref })

def missingAcknowledgement : JsError :=
  newError "Missing, stale, or already-settled BullMQ acknowledgement"

/-- `AcknowledgementRegistry.get`; a key that is no string finds nothing. -/
def get (ackId : JsValue) (state : AckState) : Except JsError Nat :=
  match ackId with
  | .string ackId =>
    match state.entries.get ackId with
    | some ref => .ok ref
    | none => .error missingAcknowledgement
  | _ => .error missingAcknowledgement

/-- `AcknowledgementRegistry.rejectByRunNode`: the values are copied before the walk. -/
def rejectByRunNode (runNodeId : String) (error : JsError) (state : AckState) : AckState :=
  state.entries.values.foldl (fun state ref =>
    match state.objects.read ref with
    | some entry => if entry.context.runNodeId = runNodeId then fail ref error state else state
    | none => state) state

/-- `once(this.events, "settled")` -/
def onceSettled (ref : Nat) (state : AckState) : Nat × AckState :=
  let (promise, promises) := state.promises.alloc ⟨ref, none⟩
  (promise, { state with
    promises,
    objects := state.objects.modify ref
      fun entry => { entry with events := entry.events ++ [.wake promise] } })

def Settlement.deliver : Settlement → Except JsError JsValue
  | .resolve value => .ok value
  | .reject error => .error error

def settlementOf (ref : Nat) (state : AckState) : Option Settlement :=
  (state.objects.read ref).bind AcknowledgementEntry.settlement

/-- `AcknowledgementEntry.wait`, in any program that can run a synchronous step on the
registry and wait for an event promise. -/
def wait {m : Type → Type} [Monad m] [MonadExceptOf JsError m]
    (step : {α : Type} → (AckState → α × AckState) → m α) (settled : Nat → m Settlement)
    (ref : Nat) : m JsValue := do
  let settlement ← match ← step fun state => (settlementOf ref state, state) with
    | some settlement => pure settlement
    | none => settled (← step (onceSettled ref))
  match settlement with
  | .reject error => throw error
  | .resolve value => return value

end NodeRedBull.Acknowledgements
