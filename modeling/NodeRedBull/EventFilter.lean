import Mathlib.Algebra.Order.BigOperators.Group.List
import NodeRedBull.Separators

/-! The event filter of a `bullmq events` node and the messages it sends (`bull-queue.js`). -/

namespace NodeRedBull.EventFilter
open Js Connections Separators

def defaultEvents : List String :=
  ["active", "added", "cleaned", "completed", "deduplicated", "delayed", "drained", "duplicated",
    "failed", "paused", "progress", "removed", "resumed", "retries-exhausted", "stalled", "waiting",
    "waiting-children"]

def parseEventFilter (value : JsValue) : List String :=
  if value.truthy then
    (((splitSeparators value.toText.toList).map JsNumber.trim).filter
      fun event => decide (event ≠ [])).map String.ofList
  else defaultEvents

/-- One event that QueueEvents emits. -/
structure Emission where
  event : String
  payload : JsValue
  eventId : JsValue

/-- An events node that has its QueueEvents: the event of each listener it registered there, in
order, and the messages it sent. -/
structure EventsNode where
  queueName : String
  listeners : List String
  sent : List JsValue

def eventMessage (queueName event : String) (payload eventId : JsValue) : JsValue :=
  .object [
    ("topic", .string event),
    ("payload", payload),
    ("bull", .object [("queue", .string queueName), ("event", .string event),
      ("eventId", eventId)])]

/-- `node.queueEvents.on(event, ...)` -/
def EventsNode.on (node : EventsNode) (event : String) : EventsNode :=
  { node with listeners := node.listeners ++ [event] }

/-- The subscription loop of `BullEventsNode`; `events` is the configured filter. -/
def bullEventsNode (queueName : String) (events : JsValue) : EventsNode :=
  (parseEventFilter events).foldl EventsNode.on ⟨queueName, [], []⟩

/-- The listener of one event is called. -/
def EventsNode.call (emission : Emission) (node : EventsNode) (event : String) : EventsNode :=
  if event = emission.event then
    { node with
      sent := node.sent ++ [eventMessage node.queueName event emission.payload emission.eventId] }
  else node

/-- `queueEvents.emit(...)` calls the listeners in the order of their registration. -/
def EventsNode.emit (node : EventsNode) (emission : Emission) : EventsNode :=
  node.listeners.foldl (EventsNode.call emission) node

def EventsNode.run (node : EventsNode) (emissions : List Emission) : EventsNode :=
  emissions.foldl EventsNode.emit node

/-! ## What a node sends -/

/-- The message of an emission. -/
def Emission.message (queueName : String) (emission : Emission) : JsValue :=
  eventMessage queueName emission.event emission.payload emission.eventId

theorem foldl_on (events : List String) (node : EventsNode) :
    events.foldl EventsNode.on node = { node with listeners := node.listeners ++ events } := by
  induction events generalizing node with
  | nil => simp
  | cons event rest ih => simp [ih, EventsNode.on]

theorem foldl_call (emission : Emission) (events : List String) (node : EventsNode) :
    events.foldl (EventsNode.call emission) node = { node with
      sent := node.sent ++
        List.replicate (events.count emission.event) (emission.message node.queueName) } := by
  induction events generalizing node with
  | nil => simp
  | cons event rest ih =>
    rw [List.foldl_cons, ih]
    by_cases same : event = emission.event
    · subst same
      simp [EventsNode.call, Emission.message, List.replicate_succ]
    · simp [EventsNode.call, same]

/-- One message for each listener of the event. -/
theorem emit_eq (node : EventsNode) (emission : Emission) : node.emit emission = { node with
    sent := node.sent ++
      List.replicate (node.listeners.count emission.event) (emission.message node.queueName) } :=
  foldl_call emission node.listeners node

theorem run_sent (node : EventsNode) (emissions : List Emission) :
    (node.run emissions).sent = node.sent ++ emissions.flatMap fun emission =>
      List.replicate (node.listeners.count emission.event) (emission.message node.queueName) := by
  unfold EventsNode.run
  induction emissions generalizing node with
  | nil => simp
  | cons emission rest ih => rw [List.foldl_cons, ih, emit_eq, List.flatMap_cons, List.append_assoc]

/-! ## The names of a filter -/

/-- The names that a text lists, in order. -/
def listed (text : String) : List String :=
  (((text.toList.splitOnP isSeparator).map JsNumber.trim).filter nonempty).map String.ofList

/-- The text lists the name, or it lists no name and the name is one of the default set. -/
def Selected (text event : String) : Prop :=
  event ∈ listed text ∨ listed text = [] ∧ event ∈ defaultEvents

instance (text event : String) : Decidable (Selected text event) :=
  inferInstanceAs (Decidable (_ ∨ _))

theorem listed_eq (text : String) :
    listed text = (trimmedPieces text.toList).map String.ofList := by
  unfold listed
  rw [trimmedPieces_eq, pieces_eq_splitOnP, filter_map_trim]

theorem parseEventFilter_text {text : String} (some : text ≠ "") :
    parseEventFilter (.string text) = listed text := by
  have truthy : (JsValue.string text).truthy = true := by simp [JsValue.truthy, some]
  rw [parseEventFilter, if_pos truthy, listed_eq]
  rfl

theorem parseEventFilter_empty : parseEventFilter (.string "") = defaultEvents := rfl

/-- How many messages an emission is due. -/
def due (text event : String) : Nat := if Selected text event then 1 else 0

/-- How many listeners a filter registers for an event. -/
def listenerCount (text event : String) : Nat := (parseEventFilter (.string text)).count event

/-- The filter names the event once, and it is no text without names for a default event. -/
def Unambiguous (text event : String) : Prop :=
  (listed text).count event ≤ 1 ∧ (listed text = [] → event ∈ defaultEvents → text = "")

theorem listed_empty : listed "" = [] := by decide

theorem selected_of_named {text : String} (named : listed text ≠ []) (event : String) :
    Selected text event ↔ event ∈ listed text := by
  simp [Selected, named]

theorem selected_of_unnamed {text : String} (unnamed : listed text = []) (event : String) :
    Selected text event ↔ event ∈ defaultEvents := by
  simp [Selected, unnamed]

theorem due_of_named {text : String} (named : listed text ≠ []) (event : String) :
    due text event = if event ∈ listed text then 1 else 0 :=
  if_congr (selected_of_named named event) rfl rfl

theorem due_of_unnamed {text : String} (unnamed : listed text = []) (event : String) :
    due text event = if event ∈ defaultEvents then 1 else 0 :=
  if_congr (selected_of_unnamed unnamed event) rfl rfl

theorem listenerCount_empty (event : String) : listenerCount "" event = due "" event := by
  have distinct : defaultEvents.Nodup := by decide
  rw [due_of_unnamed listed_empty, listenerCount, parseEventFilter_empty, distinct.count]

theorem unambiguous_empty (event : String) : Unambiguous "" event := by
  rw [Unambiguous, listed_empty]
  simp

theorem listenerCount_of_unnamed {text : String} (some : text ≠ "") (unnamed : listed text = [])
    (event : String) : listenerCount text event = 0 := by
  rw [listenerCount, parseEventFilter_text some, unnamed]
  rfl

theorem listenerCount_of_named {text : String} (named : listed text ≠ []) (event : String) :
    listenerCount text event = (listed text).count event := by
  have some : text ≠ "" := fun empty => named (by rw [empty, listed_empty])
  rw [listenerCount, parseEventFilter_text some]

theorem due_le_listenerCount {text : String} (named : listed text ≠ []) (event : String) :
    due text event ≤ listenerCount text event := by
  rw [due_of_named named, listenerCount_of_named named]
  by_cases member : event ∈ listed text
  · have counted := List.count_pos_iff.mpr member
    rw [if_pos member]
    omega
  · rw [if_neg member]
    omega

theorem listenerCount_le_due {text : String} (unnamed : listed text = []) (event : String) :
    listenerCount text event ≤ due text event := by
  by_cases empty : text = ""
  · rw [empty, listenerCount_empty]
  · rw [listenerCount_of_unnamed empty unnamed]
    omega

theorem listenerCount_eq_due_iff (text event : String) :
    listenerCount text event = due text event ↔ Unambiguous text event := by
  by_cases empty : text = ""
  · rw [empty]
    exact ⟨fun _ => unambiguous_empty event, fun _ => listenerCount_empty event⟩
  · by_cases unnamed : listed text = []
    · rw [listenerCount_of_unnamed empty unnamed, due_of_unnamed unnamed, Unambiguous, unnamed]
      by_cases default : event ∈ defaultEvents <;> simp [default, empty]
    · rw [listenerCount_of_named unnamed, due_of_named unnamed, Unambiguous]
      by_cases member : event ∈ listed text
      · have counted := List.count_pos_iff.mpr member
        simp only [member, ↓reduceIte, unnamed, false_implies, and_true]
        omega
      · have uncounted := List.count_eq_zero.mpr member
        simp [member, unnamed, uncounted]

/-! ## Deliveries -/

/-- Repetitions that are pairwise no more than others make the same list only if they are equal. -/
theorem flatMap_replicate_inj {α β : Type} (made : α → β) {few many : α → Nat} (items : List α)
    (fewer : ∀ item, few item ≤ many item)
    (same : items.flatMap (fun item => List.replicate (few item) (made item)) =
      items.flatMap fun item => List.replicate (many item) (made item)) :
    ∀ item ∈ items, few item = many item := by
  have lengths : (items.map few).sum = (items.map many).sum := by
    simpa only [List.length_flatMap, List.length_replicate] using congrArg List.length same
  clear same
  induction items with
  | nil => simp
  | cons first rest ih =>
    have here := fewer first
    have later : (rest.map few).sum ≤ (rest.map many).sum :=
      List.sum_le_sum fun item _ => fewer item
    simp only [List.map_cons, List.sum_cons] at lengths
    intro item member
    rcases List.mem_cons.mp member with own | other
    · rw [own]
      omega
    · exact ih (by omega) item other

/-- One message for every selected emission, in order, and no others. -/
def DeliversOnce (queueName text : String) (emissions : List Emission) : Prop :=
  ((bullEventsNode queueName (.string text)).run emissions).sent =
    (emissions.filter fun emission => decide (Selected text emission.event)).map
      (Emission.message queueName)

theorem filter_map_eq (queueName text : String) (emissions : List Emission) :
    (emissions.filter fun emission => decide (Selected text emission.event)).map
      (Emission.message queueName) = emissions.flatMap fun emission =>
        List.replicate (due text emission.event) (emission.message queueName) := by
  induction emissions with
  | nil => rfl
  | cons emission rest ih =>
    by_cases selected : Selected text emission.event <;> simp [due, selected, ih]

theorem bullEventsNode_sent (queueName text : String) (emissions : List Emission) :
    ((bullEventsNode queueName (.string text)).run emissions).sent =
      emissions.flatMap fun emission =>
        List.replicate (listenerCount text emission.event) (emission.message queueName) := by
  rw [run_sent, bullEventsNode, foldl_on]
  rfl

/-- Events are delivered once unless one of them is named twice, or is dropped because a filter
that names no event is not the empty text. -/
theorem deliversOnce_iff (queueName text : String) (emissions : List Emission) :
    DeliversOnce queueName text emissions ↔
      ∀ emission ∈ emissions, Unambiguous text emission.event := by
  unfold DeliversOnce
  rw [bullEventsNode_sent, filter_map_eq]
  have unambiguous : (∀ emission ∈ emissions, listenerCount text emission.event =
      due text emission.event) ↔ ∀ emission ∈ emissions, Unambiguous text emission.event :=
    forall₂_congr fun emission _ => listenerCount_eq_due_iff text emission.event
  rw [← unambiguous]
  constructor
  · intro same
    by_cases unnamed : listed text = []
    · have fewer : ∀ emission : Emission,
          listenerCount text emission.event ≤ due text emission.event :=
        fun emission => listenerCount_le_due unnamed emission.event
      exact flatMap_replicate_inj (Emission.message queueName) emissions fewer same
    · have fewer : ∀ emission : Emission,
          due text emission.event ≤ listenerCount text emission.event :=
        fun emission => due_le_listenerCount unnamed emission.event
      intro emission member
      exact (flatMap_replicate_inj (Emission.message queueName) emissions fewer same.symm
        emission member).symm
  · intro counts
    exact List.flatMap_congr fun emission member => by rw [counts emission member]

def completion (id : String) : Emission :=
  ⟨"completed", .object [("jobId", .string id)], .string "1-0"⟩

/-- A name that is listed twice is delivered twice. -/
theorem completed_twice :
    ¬ DeliversOnce "q" "completed, failed\ncompleted" [completion "7"] := by
  intro once
  have lengths := congrArg List.length once
  have twice : ((bullEventsNode "q" (.string "completed, failed\ncompleted")).run
      [completion "7"]).sent.length = 2 := by decide
  rw [twice, List.length_map] at lengths
  have filtered := List.length_filter_le
    (fun emission => decide (Selected "completed, failed\ncompleted" emission.event))
    [completion "7"]
  rw [← lengths] at filtered
  exact absurd filtered (by decide)

end NodeRedBull.EventFilter
