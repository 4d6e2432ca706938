import Mathlib.Data.List.Sort
import NodeRedBull.AcknowledgementRun
import NodeRedBull.Library.OneShot

/-! The acknowledgement registry refines cells that take the first value offered to them: which
operation settles an acknowledgement is determined by the order of the calls alone. -/

namespace NodeRedBull.AcknowledgementCells
open Js Library Acknowledgements AcknowledgementInvariant AcknowledgementCreation
open AcknowledgementEffect AcknowledgementRun

/-! ## What the registry is for -/

/-- What `create` fixes for good. -/
structure Origin where
  context : Context
  timeoutMs : JsNumber

abbrev AckCell := Cell Origin Settlement

def timedOut (origin : Origin) : Settlement := .reject (timeoutError origin.timeoutMs)

def abortedSignal : Operation → Option Nat
  | .abort signal _ => some signal
  | _ => none

/-- The signals that these operations aborted. -/
def abortedBy (operations : List Operation) : List Nat := operations.filterMap abortedSignal

/-- What an operation offers to the acknowledgement at `index`, after the earlier ones. Only the
first abort of a signal counts. -/
def offerOf (earlier : List Operation) (operation : Operation) (index : Nat) (origin : Origin) :
    Option Settlement :=
  match operation with
  | .complete ref value => if index = ref then some (.resolve value) else none
  | .fail ref error => if index = ref then some (.reject error) else none
  | .timerFires ref => if index = ref then some (timedOut origin) else none
  | .abort signal reason =>
    if origin.context.signal = some signal ∧ signal ∉ abortedBy earlier then
      some (.reject (abortError reason))
    else none
  | .rejectByRunNode runNodeId error =>
    if origin.context.runNodeId = runNodeId then some (.reject error) else none
  | _ => none

def eventOf (earlier : List Operation) : Operation → CellEvent Origin Settlement
  | .create context timeoutMs _ _ => .opens ⟨context, timeoutMs⟩
  | operation => .offers (offerOf earlier operation)

def eventsOf (operations : List Operation) : List (CellEvent Origin Settlement) :=
  operations.mapIdx fun position operation => eventOf (operations.take position) operation

/-- The cells that these calls stand for. -/
def cellsBy (operations : List Operation) : List AckCell :=
  CellEvent.cellsAfter (eventsOf operations)

theorem getElem?_eventsOf (operations : List Operation) (position : Nat) :
    (eventsOf operations)[position]? =
      operations[position]?.map (eventOf (operations.take position)) :=
  List.getElem?_mapIdx

theorem take_eventsOf (operations : List Operation) (count : Nat) :
    (eventsOf operations).take count = eventsOf (operations.take count) := by
  apply List.ext_getElem?
  intro position
  rw [getElem?_eventsOf, List.getElem?_take, List.getElem?_take, getElem?_eventsOf]
  by_cases below : position < count
  · rw [if_pos below, if_pos below, List.take_take, Nat.min_eq_left (Nat.le_of_lt below)]
  · rw [if_neg below, if_neg below]
    rfl

/-- The last event is that of the last operation, after all the others. -/
theorem eventsOf_append (operations : List Operation) (operation : Operation) :
    eventsOf (operations ++ [operation]) = eventsOf operations ++ [eventOf operations operation] := by
  have former : (operations.mapIdx fun position other =>
      eventOf ((operations ++ [operation]).take position) other) = eventsOf operations := by
    apply List.mapIdx_eq_mapIdx_iff.mpr
    intro position below
    rw [List.take_append_of_le_length (Nat.le_of_lt below)]
  unfold eventsOf at former ⊢
  rw [List.mapIdx_concat, former, List.take_left' rfl]

theorem mem_abortedBy_append {operations : List Operation} {operation : Operation} {signal : Nat} :
    signal ∈ abortedBy (operations ++ [operation]) ↔
      signal ∈ abortedBy operations ∨ abortedSignal operation = some signal := by
  unfold abortedBy
  rw [List.filterMap_append, List.mem_append]
  apply or_congr_right
  cases aborted : abortedSignal operation <;> simp [aborted, eq_comm]

/-! ## The cells of a registry -/

def originOf (entry : AcknowledgementEntry) : Origin := ⟨entry.context, entry.timeoutMs⟩

def cellOf (entry : AcknowledgementEntry) : AckCell := ⟨originOf entry, entry.settlement⟩

def cellsOf (state : AckState) : List AckCell := state.objects.cells.map cellOf

theorem getElem?_cellsOf (state : AckState) (ref : Nat) :
    (cellsOf state)[ref]? = (state.objects.read ref).map cellOf :=
  List.getElem?_map

theorem length_cellsOf (state : AckState) : (cellsOf state).length = state.objects.size :=
  List.length_map _

theorem cellOf_settledBy (settlement : Settlement) (entry : AcknowledgementEntry) :
    cellOf (settledBy settlement entry) = (cellOf entry).take (some settlement) := by
  unfold settledBy
  cases pending : entry.settlement with
  | none =>
    rw [if_neg (by simp)]
    unfold cellOf Cell.take
    rw [pending]
    rfl
  | some first =>
    rw [if_pos (by simp)]
    unfold cellOf Cell.take
    rw [pending]
    rfl

/-- `signal.aborted` -/
def Aborted (state : AckState) (signal : Nat) : Prop :=
  ∃ found, state.signals.read signal = some found ∧ found.reason ≠ none

/-- The operation offers to each entry what its event says. -/
def Offers (earlier : List Operation) (operation : Operation) (before after : AckState) : Prop :=
  ∀ ref, (after.objects.read ref).map cellOf = (before.objects.read ref).map fun entry =>
    (cellOf entry).take (offerOf earlier operation ref (originOf entry))

section Offers
variable {earlier : List Operation} {before after : AckState}

theorem cellsOf_offers {operation : Operation} (offers : Offers earlier operation before after)
    (event : eventOf earlier operation = .offers (offerOf earlier operation)) :
    cellsOf after = (eventOf earlier operation).apply (cellsOf before) := by
  apply List.ext_getElem?
  intro ref
  rw [getElem?_cellsOf, offers ref, event]
  change _ = ((cellsOf before).mapIdx fun index cell =>
    cell.take (offerOf earlier operation index cell.label))[ref]?
  rw [List.getElem?_mapIdx, getElem?_cellsOf, Option.map_map]
  rfl

/-- An operation that leaves every entry what it is, but for who listens to it. -/
theorem offers_nothing {operation : Operation}
    (same : ∀ ref, (after.objects.read ref).map cellOf = (before.objects.read ref).map cellOf)
    (silent : ∀ ref origin, offerOf earlier operation ref origin = none) :
    Offers earlier operation before after := by
  intro ref
  rw [same ref]
  congr 1
  funext entry
  rw [silent, Cell.take_none]

theorem offers_settle (state : AckState) {ref : Nat} {settlement : Origin → Settlement}
    {operation : Operation}
    (offer : ∀ index origin, offerOf earlier operation index origin =
      if index = ref then some (settlement origin) else none)
    {entry : AcknowledgementEntry} (stored : state.objects.read ref = some entry) :
    Offers earlier operation state (settle ref (settlement (originOf entry)) state) := by
  intro other
  rw [read_settle]
  by_cases same : other = ref
  · subst same
    rw [if_pos rfl, stored, Option.map_some, Option.map_some, Option.map_some, offer, if_pos rfl,
      cellOf_settledBy]
  · rw [if_neg same]
    congr 1
    funext entry
    rw [offer, if_neg same, Cell.take_none]

/-- Nobody has this entry. -/
theorem offers_missing {state : AckState} {ref : Nat} {settlement : Origin → Settlement}
    {operation : Operation}
    (offer : ∀ index origin, offerOf earlier operation index origin =
      if index = ref then some (settlement origin) else none)
    (missing : state.objects.read ref = none) : Offers earlier operation state state := by
  intro other
  by_cases same : other = ref
  · rw [same, missing]
    rfl
  · congr 1
    funext entry
    rw [offer, if_neg same, Cell.take_none]

theorem offers_one {state : AckState} {ref : Nat} {settlement : Settlement} {operation : Operation}
    (offer : ∀ index origin, offerOf earlier operation index origin =
      if index = ref then some settlement else none) :
    Offers earlier operation state (settle ref settlement state) := by
  cases stored : state.objects.read ref with
  | none =>
    rw [settle_settled settlement fun entry unsettled => by rw [unsettled.1] at stored; cases stored]
    exact offers_missing offer stored
  | some entry => exact offers_settle state offer stored

theorem offers_timerFires (ref : Nat) (state : AckState) :
    Offers earlier (.timerFires ref) state (timerFires ref state) := by
  have offer : ∀ index origin, offerOf earlier (.timerFires ref) index origin =
      if index = ref then some (timedOut origin) else none := fun _ _ => rfl
  unfold timerFires
  cases stored : state.objects.read ref with
  | none => exact offers_missing offer stored
  | some entry =>
    have settled : Offers earlier (.timerFires ref) (clearTimeout ref state)
        (settle ref (timedOut (originOf entry)) (clearTimeout ref state)) :=
      offers_settle (clearTimeout ref state) offer stored
    exact settled

theorem offers_rejectByRunNode {state : AckState} (consistent : Consistent state)
    (runNodeId : String) (error : JsError) :
    Offers earlier (.rejectByRunNode runNodeId error) state (rejectByRunNode runNodeId error state) := by
  intro ref
  rw [read_rejectByRunNode consistent, Option.map_map]
  congr 1
  funext entry
  change cellOf (if entry.context.runNodeId = runNodeId then _ else entry) = (cellOf entry).take
    (if entry.context.runNodeId = runNodeId then some (.reject error) else none)
  by_cases own : entry.context.runNodeId = runNodeId
  · rw [if_pos own, if_pos own, cellOf_settledBy]
  · rw [if_neg own, if_neg own, Cell.take_none]

theorem offers_abort {state : AckState} (consistent : Consistent state) {signal : Nat}
    (known : signal < state.signals.size)
    (aborted : signal ∈ abortedBy earlier ↔ Aborted state signal) (reason : JsValue) :
    Offers earlier (.abort signal reason) state (abort signal reason state) := by
  obtain ⟨found, read⟩ := Store.exists_read known
  by_cases fresh : found.reason = none
  · have first : signal ∉ abortedBy earlier := by
      rw [aborted]
      intro before
      obtain ⟨other, same, stored⟩ := before
      cases read.symm.trans same
      exact stored fresh
    intro ref
    rw [read_abort consistent read fresh, Option.map_map]
    congr 1
    funext entry
    have offer : offerOf earlier (.abort signal reason) ref (originOf entry) =
        if entry.context.signal = some signal then some (.reject (abortError reason)) else none :=
      if_congr (and_iff_left first) rfl rfl
    rw [offer]
    change cellOf (if entry.context.signal = some signal then _ else entry) = _
    by_cases listens : entry.context.signal = some signal
    · rw [if_pos listens, if_pos listens, cellOf_settledBy]
    · rw [if_neg listens, if_neg listens, Cell.take_none]
  · -- the listeners ran when the signal was aborted, and an entry created since waits in vain
    have again : signal ∈ abortedBy earlier := aborted.mpr ⟨found, read, fresh⟩
    have same : abort signal reason state = state := by
      unfold abort
      simp only [read, Option.isSome_iff_ne_none.mpr fresh, ↓reduceIte]
    rw [same]
    exact offers_nothing (fun _ => rfl) fun ref origin => if_neg fun both => both.2 again

end Offers

/-! ## What the operations do -/

theorem segment_get (ackId : JsValue) (state : AckState) :
    ((perform (.get ackId)).segment state).1 = state := by
  simp only [perform, Async.segment_bind, Async.segment_get, Paused.andThen]
  cases Acknowledgements.get ackId state with
  | ok ref => rfl
  | error error => rfl

/-- A call of `wait` may register an event promise, and does nothing else. -/
theorem segment_wait (ref : Nat) (state : AckState) :
    ((perform (.wait ref)).segment state).1 = state ∨
      ((perform (.wait ref)).segment state).1 = (onceSettled ref state).2 := by
  simp only [perform, waitBody, wait, Async.segment_bind, Async.segment_modifyGet, Paused.andThen]
  cases settlementOf ref state with
  | none => exact .inr rfl
  | some settlement =>
    cases settlement with
    | resolve value => exact .inl rfl
    | reject error => exact .inl rfl

theorem cells_create (context : Context) (timeoutMs now : JsNumber) (random : String)
    (state : AckState) : cellsOf (create context timeoutMs now random state).2 =
      cellsOf state ++ [⟨⟨context, timeoutMs⟩, none⟩] := by
  apply List.ext_getElem?
  intro ref
  rw [getElem?_cellsOf, create_objects]
  by_cases fresh : ref = state.objects.size
  · rw [if_pos fresh, fresh, ← length_cellsOf, List.getElem?_concat_length]
    rfl
  · rw [if_neg fresh, ← getElem?_cellsOf]
    by_cases old : ref < (cellsOf state).length
    · rw [List.getElem?_append_left old]
    · have bound : (cellsOf state).length < ref := by
        rw [length_cellsOf] at old ⊢
        omega
      rw [List.getElem?_eq_none (Nat.le_of_lt bound), List.getElem?_eq_none]
      rw [List.length_append]
      exact bound

theorem offers_onceSettled (earlier : List Operation) (ref : Nat) (state : AckState) :
    Offers earlier (.wait ref) state (onceSettled ref state).2 := by
  apply offers_nothing _ fun _ _ => rfl
  intro other
  rw [onceSettled_objects]
  by_cases same : other = ref
  · rw [if_pos same, same, Option.map_map]
    rfl
  · rw [if_neg same]

/-- What may be called when, whatever was called before: callers have the entry or the signal that
they call on, a timer fires while it is armed, and no pending entry has the ackId of a new one. -/
def Possible (state : AckState) : Operation → Prop
  | .create context _ now random =>
    Free (ackIdOf context.runNodeId context.job now random state) state ∧
      ∀ signal, context.signal = some signal → signal < state.signals.size
  | .abort signal _ => signal < state.signals.size
  | operation => Callable state operation

theorem Possible.admissible {state : AckState} {operation : Operation}
    (possible : Possible state operation) : Admissible state operation := by
  cases operation with
  | create context timeoutMs now random => exact possible
  | wait ref => exact possible
  | _ => trivial

/-- An operation does to the cells what its event says. -/
theorem perform_cells {earlier : List Operation} {operation : Operation} {state : AckState}
    (consistent : Consistent state)
    (aborted : ∀ signal, signal ∈ abortedBy earlier ↔ Aborted state signal)
    (possible : Possible state operation) :
    cellsOf ((perform operation).segment state).1 =
      (eventOf earlier operation).apply (cellsOf state) := by
  have same : ∀ {operation : Operation},
      (∀ ref origin, offerOf earlier operation ref origin = none) →
        Offers earlier operation state state := fun silent => offers_nothing (fun _ => rfl) silent
  cases operation with
  | create context timeoutMs now random => exact cells_create context timeoutMs now random state
  | newSignal => exact cellsOf_offers (same fun _ _ => rfl) rfl
  | newJob job => exact cellsOf_offers (same fun _ _ => rfl) rfl
  | changeJob ref job => exact cellsOf_offers (same fun _ _ => rfl) rfl
  | complete ref value => exact cellsOf_offers (offers_one fun _ _ => rfl) rfl
  | fail ref error => exact cellsOf_offers (offers_one fun _ _ => rfl) rfl
  | timerFires ref => exact cellsOf_offers (offers_timerFires ref state) rfl
  | abort signal reason =>
    exact cellsOf_offers (offers_abort consistent possible (aborted signal) reason) rfl
  | rejectByRunNode runNodeId error =>
    exact cellsOf_offers (offers_rejectByRunNode consistent runNodeId error) rfl
  | get ackId =>
    rw [segment_get]
    exact cellsOf_offers (same fun _ _ => rfl) rfl
  | wait ref =>
    rcases segment_wait ref state with unchanged | registered
    · rw [unchanged]
      exact cellsOf_offers (same fun _ _ => rfl) rfl
    · rw [registered]
      exact cellsOf_offers (offers_onceSettled earlier ref state) rfl

/-! ### Aborted signals -/

/-- A signal keeps its reason, or has none yet. -/
theorem aborted_iff {before after : AckState} {signal : Nat} (grows : Grows before after)
    (reasons : ∀ later, after.signals.read signal = some later →
      ∃ found, before.signals.read signal = some found ∧ later.reason = found.reason) :
    Aborted after signal ↔ Aborted before signal := by
  constructor
  · intro aborted
    obtain ⟨later, stored, given⟩ := aborted
    obtain ⟨found, read, same⟩ := reasons later stored
    exact ⟨found, read, same ▸ given⟩
  · intro aborted
    obtain ⟨found, read, given⟩ := aborted
    have bound := Nat.lt_of_lt_of_le (Store.lt_size_of_read read) grows.signals
    obtain ⟨later, stored⟩ := Store.exists_read bound
    obtain ⟨other, first, same⟩ := reasons later stored
    cases read.symm.trans first
    exact ⟨later, stored, same ▸ given⟩

theorem aborted_steady {before after : AckState} (grows : Grows before after)
    (steady : Steady before after) (signal : Nat) :
    Aborted after signal ↔ Aborted before signal :=
  aborted_iff grows (steady.reasons signal)

theorem aborted_newSignal (state : AckState) (signal : Nat) :
    Aborted (newSignal state).2 signal ↔ Aborted state signal := by
  have read : (newSignal state).2.signals.read signal =
      if signal = state.signals.size then some ⟨none, []⟩ else state.signals.read signal :=
    Store.read_alloc state.signals ⟨none, []⟩ signal
  unfold Aborted
  rw [read]
  by_cases fresh : signal = state.signals.size
  · have missing := (state.signals.read_eq_none_iff signal).mpr (by omega)
    simp only [missing, if_pos fresh, Option.some.injEq, exists_eq_left', reduceCtorEq,
      false_and, exists_false, ne_eq, not_true_eq_false]
  · rw [if_neg fresh]

theorem aborted_create (context : Context) (timeoutMs now : JsNumber) (random : String)
    (state : AckState) (signal : Nat) :
    Aborted (create context timeoutMs now random state).2 signal ↔ Aborted state signal := by
  apply aborted_iff (grows_create context timeoutMs now random state)
  intro later stored
  rw [create_signals] at stored
  split at stored
  · obtain ⟨earlier, read, same⟩ := Option.map_eq_some_iff.mp stored
    exact ⟨earlier, read, same ▸ rfl⟩
  · exact ⟨later, stored, rfl⟩

theorem aborted_abort {state : AckState} (consistent : Consistent state) {signal : Nat}
    (known : signal < state.signals.size) (reason : JsValue) (other : Nat) :
    Aborted (abort signal reason state) other ↔ Aborted state other ∨ some signal = some other := by
  have grows := (keeps_abort signal reason state consistent).2
  by_cases same : other = signal
  · subst same
    refine ⟨fun _ => .inr rfl, fun _ => ?_⟩
    have bound := Nat.lt_of_lt_of_le known grows.signals
    obtain ⟨later, stored⟩ := Store.exists_read bound
    exact ⟨later, stored, abort_reason known stored⟩
  · rw [aborted_iff grows (abort_reasons signal reason state other same)]
    simp [Ne.symm same]

/-- The signals that have a reason are those that were aborted. -/
theorem perform_aborted {operation : Operation} {state : AckState}
    (consistent : Consistent state) (possible : Possible state operation) (signal : Nat) :
    Aborted ((perform operation).segment state).1 signal ↔
      Aborted state signal ∨ abortedSignal operation = some signal := by
  have steadily : ∀ {operation : Operation} {after : AckState}, abortedSignal operation = none →
      (Aborted after signal ↔ Aborted state signal) →
        (Aborted after signal ↔ Aborted state signal ∨ abortedSignal operation = some signal) := by
    intro operation after other same
    rw [same, other]
    simp
  have settled : ∀ ref settlement,
      Aborted (settle ref settlement state) signal ↔ Aborted state signal := fun ref settlement =>
    aborted_steady (keeps_settle ref settlement state consistent).2
      (steady_settle ref settlement state) signal
  cases operation with
  | create context timeoutMs now random =>
    exact steadily rfl (aborted_create context timeoutMs now random state signal)
  | newSignal => exact steadily rfl (aborted_newSignal state signal)
  | newJob job => exact steadily rfl Iff.rfl
  | changeJob ref job => exact steadily rfl Iff.rfl
  | complete ref value => exact steadily rfl (settled ref (.resolve value))
  | fail ref error => exact steadily rfl (settled ref (.reject error))
  | timerFires ref =>
    exact steadily rfl (aborted_steady (keeps_timerFires ref state consistent).2
      (steady_timerFires ref state) signal)
  | abort other reason => exact aborted_abort consistent possible reason signal
  | rejectByRunNode runNodeId error =>
    exact steadily rfl (aborted_steady (keeps_rejectByRunNode runNodeId error state consistent).2
      (steady_rejectByRunNode runNodeId error state) signal)
  | get ackId =>
    rw [segment_get]
    exact steadily rfl Iff.rfl
  | wait ref =>
    rcases segment_wait ref state with unchanged | registered
    · rw [unchanged]
      exact steadily rfl Iff.rfl
    · rw [registered]
      exact steadily rfl (aborted_steady (grows_onceSettled ref state)
        (steady_onceSettled ref state) signal)

/-! ### The order of the map -/

/-- Entries only leave the map. -/
def Shrinks (before after : AckState) : Prop :=
  after.entries.values.Sublist before.entries.values

theorem Shrinks.refl (state : AckState) : Shrinks state state := List.Sublist.refl _

theorem Shrinks.trans {first second third : AckState} (left : Shrinks first second)
    (right : Shrinks second third) : Shrinks first third :=
  List.Sublist.trans right left

theorem shrinks_foldl {α : Type} {operation : AckState → α → AckState}
    (each : ∀ state item, Shrinks state (operation state item)) (items : List α)
    (state : AckState) : Shrinks state (items.foldl operation state) := by
  induction items generalizing state with
  | nil => exact .refl state
  | cons item rest ih => exact (each state item).trans (ih _)

theorem shrinks_callListener (ackId : String) (settlement : Settlement) (state : AckState)
    (listener : SettledListener) :
    Shrinks state (callListener ackId settlement state listener) := by
  cases listener with
  | deleteEntry => exact List.filter_sublist.map Prod.snd
  | wake promise => exact .refl state

theorem shrinks_settle (ref : Nat) (settlement : Settlement) (state : AckState) :
    Shrinks state (settle ref settlement state) := by
  unfold settle
  cases state.objects.read ref with
  | none => exact .refl state
  | some entry =>
    dsimp only
    split
    · exact .refl state
    · have removed : ∀ before : AckState,
          Shrinks before (removeEventListener ref entry.context.signal before) := by
        intro before
        unfold removeEventListener
        cases entry.context.signal with
        | none => exact .refl before
        | some signal => exact .refl before
      have emitted : ∀ before : AckState, Shrinks before (emitSettled ref settlement before) := by
        intro before
        unfold emitSettled
        cases before.objects.read ref with
        | none => exact .refl before
        | some stored => exact shrinks_foldl (shrinks_callListener stored.ackId settlement) _ _
      let recorded := clearTimeout ref { state with
        objects := state.objects.write ref { entry with settlement := some settlement } }
      have both := (removed recorded).trans (emitted _)
      exact both

theorem shrinks_timerFires (ref : Nat) (state : AckState) :
    Shrinks state (timerFires ref state) := by
  unfold timerFires
  cases state.objects.read ref with
  | none => exact .refl state
  | some entry => exact shrinks_settle ref _ (clearTimeout ref state)

theorem shrinks_abort (signal : Nat) (reason : JsValue) (state : AckState) :
    Shrinks state (abort signal reason state) := by
  unfold abort
  cases state.signals.read signal with
  | none => exact .refl state
  | some found =>
    dsimp only
    split
    · exact .refl state
    · exact shrinks_foldl (fun before ref => shrinks_settle ref _ before) _ _

theorem shrinks_rejectByRunNode (runNodeId : String) (error : JsError) (state : AckState) :
    Shrinks state (rejectByRunNode runNodeId error state) := by
  apply shrinks_foldl
  intro before ref
  cases before.objects.read ref with
  | none => exact .refl before
  | some entry =>
    dsimp only
    split
    · exact shrinks_settle ref _ before
    · exact .refl before

/-- The map lists its entries in the order of their creation. -/
def Ordered (state : AckState) : Prop := state.entries.values.Pairwise (· < ·)

theorem ordered_create {context : Context} {timeoutMs now : JsNumber} {random : String}
    {state : AckState} (consistent : Consistent state) (ordered : Ordered state)
    (free : Free (ackIdOf context.runNodeId context.job now random state) state) :
    Ordered (create context timeoutMs now random state).2 := by
  have absent : ackIdOf context.runNodeId context.job now random state ∉ state.entries.keys := by
    rw [← OrderedMap.get_eq_none_iff]
    cases found : state.entries.get (ackIdOf context.runNodeId context.job now random state) with
    | none => rfl
    | some ref =>
      obtain ⟨entry, unsettled, same⟩ := (consistent.mapped _ ref).mp found
      exact absurd same (free ref entry unsettled)
  have appended : (create context timeoutMs now random state).2.entries.values =
      state.entries.values ++ [state.objects.size] := by
    change (state.entries.set _ state.objects.size).entries.map Prod.snd = _
    rw [OrderedMap.entries_set_of_not_mem _ _ _ absent, List.map_append]
    rfl
  unfold Ordered
  rw [appended, List.pairwise_append]
  refine ⟨ordered, List.pairwise_singleton _ _, ?_⟩
  intro ref member new same
  obtain ⟨ackId, found⟩ := (state.entries.mem_values_iff ref).mp member
  obtain ⟨entry, unsettled, _⟩ := (consistent.mapped ackId ref).mp found
  rw [List.mem_singleton.mp same]
  exact Store.lt_size_of_read unsettled.1

theorem perform_ordered {operation : Operation} {state : AckState} (consistent : Consistent state)
    (ordered : Ordered state) (possible : Possible state operation) :
    Ordered ((perform operation).segment state).1 := by
  have kept : ∀ {after : AckState}, Shrinks state after → Ordered after :=
    fun shrinks => List.Pairwise.sublist shrinks ordered
  cases operation with
  | create context timeoutMs now random => exact ordered_create consistent ordered possible.1
  | newSignal => exact ordered
  | newJob job => exact ordered
  | changeJob ref job => exact ordered
  | complete ref value => exact kept (shrinks_settle ref (.resolve value) state)
  | fail ref error => exact kept (shrinks_settle ref (.reject error) state)
  | timerFires ref => exact kept (shrinks_timerFires ref state)
  | abort signal reason => exact kept (shrinks_abort signal reason state)
  | rejectByRunNode runNodeId error => exact kept (shrinks_rejectByRunNode runNodeId error state)
  | get ackId =>
    rw [segment_get]
    exact ordered
  | wait ref =>
    rcases segment_wait ref state with unchanged | registered
    · rw [unchanged]
      exact ordered
    · rw [registered]
      exact ordered

/-! ## Every run -/

/-- The registry, with a signal that may have been aborted before its entry is created. -/
def openRegistry : System AckState Nat (fun _ => Settlement) JsError Returned Operation :=
  { registry with launch := fun pool operation => Possible pool.shared operation }

theorem open_covers {pool : RegistryPool} (reached : Runs openRegistry.Step anyMove initial pool) :
    outline.Covers pool :=
  Outline.covers_run (sound_of_admissible fun _ _ => Possible.admissible) reached
    (Outline.covers_initial consistent_initial trivial)

theorem open_wakes : Shape openRegistry (fun _ => Wakes) :=
  ⟨wakes_shape.begun, wakes_shape.resumed⟩

def operationsOf (pool : RegistryPool) : List Operation := pool.tasks.map Prod.fst

/-- What every run keeps. An acknowledgement is named by the number of those before it. -/
structure Represents (pool : RegistryPool) : Prop where
  cells : cellsOf pool.shared = cellsBy (operationsOf pool)
  aborted : ∀ signal, signal ∈ abortedBy (operationsOf pool) ↔ Aborted pool.shared signal
  ordered : Ordered pool.shared
  named : ∀ (position : Nat) (context : Context) (timeoutMs now : JsNumber) (random ackId : String)
    (ref : Nat), pool.tasks[position]? = some
      (.create context timeoutMs now random, .finished (.ok (.created ackId ref))) →
        ref = (cellsBy ((operationsOf pool).take position)).length

theorem start_eq (pool : RegistryPool) (operation : Operation) : openRegistry.start pool operation =
    ⟨((perform operation).segment pool.shared).1,
      pool.tasks ++ [(operation, ((perform operation).segment pool.shared).2)]⟩ := by
  rw [openRegistry.start_eq_begin]
  · rfl
  · cases ((openRegistry.body pool.tasks.length operation).segment pool.shared).2 with
    | finished result => rfl
    | awaiting promise next => rfl

section Represents
variable {pool : RegistryPool}

theorem represents_start (reached : Runs openRegistry.Step anyMove initial pool)
    (represents : Represents pool) {operation : Operation}
    (possible : Possible pool.shared operation) : Represents (openRegistry.start pool operation) := by
  have consistent : Consistent pool.shared := (open_covers reached).1
  have operations : operationsOf (openRegistry.start pool operation) =
      operationsOf pool ++ [operation] := by
    unfold operationsOf
    rw [start_eq, List.map_append]
    rfl
  have shared : (openRegistry.start pool operation).shared =
      ((perform operation).segment pool.shared).1 := by
    rw [start_eq]
  refine ⟨?_, ?_, ?_, ?_⟩
  · rw [operations, shared, perform_cells consistent represents.aborted possible, represents.cells]
    unfold cellsBy
    rw [eventsOf_append]
    exact (CellEvent.cellsAfter_append _ _).symm
  · intro signal
    rw [operations, shared, mem_abortedBy_append, represents.aborted]
    exact (perform_aborted consistent possible signal).symm
  · rw [shared]
    exact perform_ordered consistent represents.ordered possible
  · intro position context timeoutMs now random ackId ref found
    rw [operations]
    rw [start_eq, List.getElem?_append] at found
    split at found
    next old =>
      have within : position ≤ (operationsOf pool).length := by
        rw [operationsOf, List.length_map]
        exact Nat.le_of_lt old
      rw [List.take_append_of_le_length within]
      exact represents.named position context timeoutMs now random ackId ref found
    next new =>
      have bound := (List.getElem?_eq_some_iff.mp found).1
      simp only [List.length_cons, List.length_nil] at bound
      have last : position = pool.tasks.length := by omega
      subst last
      rw [Nat.sub_self, List.getElem?_cons_zero, Option.some.injEq, Prod.mk.injEq] at found
      obtain ⟨same, returned⟩ := found
      subst same
      have whole : (operationsOf pool).length = pool.tasks.length := List.length_map _
      rw [← whole, List.take_left', ← represents.cells, length_cellsOf]
      · cases returned
        rfl
      · rfl

theorem represents_resume (reached : Runs openRegistry.Step anyMove initial pool)
    (represents : Represents pool) {index promise : Nat} {operation : Operation}
    {next : Except JsError Settlement → RegistryBody Returned} {reply : Except JsError Settlement}
    (waiting : pool.tasks[index]? = some (operation, .awaiting promise next)) :
    Represents (openRegistry.resume pool index operation (next reply)) := by
  have wakes := open_wakes.run reached waiting
  cases operation with
  | wait ref =>
    have woken := wakes reply pool.shared
    have unforked : openRegistry.forked index ((next reply).segment pool.shared).2 = [] := by
      rw [woken]
      rfl
    rw [openRegistry.resume_eq_set unforked, woken]
    have bound := (List.getElem?_eq_some_iff.mp waiting).1
    have kinds := System.kinds_set waiting
    refine ⟨?_, ?_, represents.ordered, ?_⟩
    · exact represents.cells.trans (congrArg cellsBy (kinds _).symm)
    · intro signal
      unfold operationsOf
      rw [kinds]
      exact represents.aborted signal
    · intro position context timeoutMs now random ackId other found
      unfold operationsOf
      rw [kinds]
      have different : position ≠ index := by
        intro same
        subst same
        rw [List.getElem?_set_self bound] at found
        cases found
      rw [List.getElem?_set_ne (Ne.symm different)] at found
      exact represents.named position context timeoutMs now random ackId other found
  | _ => exact False.elim wakes

theorem represents_reached (reached : Runs openRegistry.Step anyMove initial pool) :
    Represents pool := by
  have empty : Represents initial := by
    refine ⟨rfl, ?_, List.Pairwise.nil, ?_⟩
    · intro signal
      refine ⟨nofun, ?_⟩
      intro aborted
      obtain ⟨found, read, _⟩ := aborted
      cases read
    · intro position context timeoutMs now random ackId ref found
      cases found
  have both : Runs openRegistry.Step anyMove initial pool ∧ Represents pool := by
    apply reached.invariant ⟨.refl _, empty⟩
    intro before move after held _ made
    obtain ⟨run, represents⟩ := held
    refine ⟨run.extend trivial made, ?_⟩
    cases made with
    | start possible => exact represents_start run represents possible
    | resume waiting _ => exact represents_resume run represents waiting
  exact both.2

end Represents

/-- The cells that still have no value, in order. -/
def pendingOf (cells : List AckCell) : List Nat :=
  (List.range cells.length).filter fun index => (cells[index]?.bind Cell.value).isNone

theorem values_pending {state : AckState} (consistent : Consistent state) (ordered : Ordered state) :
    state.entries.values = pendingOf (cellsOf state) := by
  apply List.Pairwise.eq_of_mem_iff ordered (List.pairwise_lt_range.filter _)
  intro ref
  rw [OrderedMap.mem_values_iff, List.mem_filter, List.mem_range, length_cellsOf, getElem?_cellsOf]
  constructor
  · intro mapped
    obtain ⟨ackId, found⟩ := mapped
    obtain ⟨entry, unsettled, _⟩ := (consistent.mapped ackId ref).mp found
    refine ⟨Store.lt_size_of_read unsettled.1, ?_⟩
    rw [unsettled.1]
    exact Option.isNone_iff_eq_none.mpr unsettled.2
  · intro pending
    obtain ⟨bound, empty⟩ := pending
    obtain ⟨entry, stored⟩ := Store.exists_read bound
    rw [stored] at empty
    have unsettled : entry.settlement = none := Option.isNone_iff_eq_none.mp empty
    exact ⟨entry.ackId, (consistent.mapped entry.ackId ref).mpr ⟨entry, ⟨stored, unsettled⟩, rfl⟩⟩

/-- A signal is aborted, an entry is created for it and awaited, and the signal is aborted again. -/
def lateListener : RegistryPool :=
  [Operation.newSignal, .newJob (.object [("id", .string "1")]), .abort 0 (.string "cancelled"),
    .create ⟨0, none, "q", "run", 0, some 0, .string "token"⟩ (JsNumber.ofNat 5)
      (JsNumber.ofNat 0) "r", .wait 0, .abort 0 (.string "cancelled"), .complete 0 (.bool true),
    .rejectByRunNode "run" (newError "closed")].foldl openRegistry.start initial

theorem lateListener_reached : Runs openRegistry.Step anyMove initial lateListener := by
  refine Runs.extend (Runs.extend (Runs.extend (Runs.extend (Runs.extend (Runs.extend (Runs.extend
    (Runs.extend (Runs.refl initial) trivial (System.Step.start ?_)) trivial
    (System.Step.start ?_)) trivial (System.Step.start ?_)) trivial (System.Step.start ?_))
    trivial (System.Step.start ?_)) trivial (System.Step.start ?_)) trivial
    (System.Step.start ?_)) trivial (System.Step.start ?_)
  · trivial
  · trivial
  · exact Nat.one_pos
  · refine ⟨?_, ?_⟩
    · intro ref entry unsettled
      cases unsettled.1
    · intro signal listens
      cases listens
      exact Nat.one_pos
  · exact Nat.one_pos
  · exact Nat.one_pos
  · exact Nat.one_pos
  · trivial

/-- The registry is what its calls say, in the order in which they were made: each entry has the
settlement that its cell has, and the map has the entries without one. -/
theorem registry_refines_cells {pool : RegistryPool}
    (reached : Runs openRegistry.Step anyMove initial pool) :
    cellsOf pool.shared = cellsBy (operationsOf pool) ∧
      pool.shared.entries.values = pendingOf (cellsBy (operationsOf pool)) := by
  have represents := represents_reached reached
  refine ⟨represents.cells, ?_⟩
  rw [← represents.cells]
  exact values_pending (open_covers reached).1 represents.ordered

theorem registry_refines_cells_late : lateListener.shared.entries.values = [] :=
  (registry_refines_cells lateListener_reached).2

/-- An acknowledgement is settled by the first call after its creation that offers it a settlement,
and this is what everyone gets who waits for it. -/
theorem first_offer_settles {pool : RegistryPool}
    (reached : Runs openRegistry.Step anyMove initial pool) {position : Nat} {context : Context}
    {timeoutMs now : JsNumber} {random ackId : String} {ref : Nat}
    (created : pool.tasks[position]? = some
      (.create context timeoutMs now random, .finished (.ok (.created ackId ref)))) :
    settlementOf ref pool.shared = ((eventsOf (operationsOf pool)).drop (position + 1)).findSome?
        (CellEvent.offered ref ⟨context, timeoutMs⟩) ∧
      ∀ (index : Nat) (result : Except JsError Returned),
        pool.tasks[index]? = some (.wait ref, .finished result) → ∃ settlement,
          ((eventsOf (operationsOf pool)).drop (position + 1)).findSome?
            (CellEvent.offered ref ⟨context, timeoutMs⟩) = some settlement ∧
          result = settlement.deliver.map Returned.value := by
  have represents := represents_reached reached
  have place := represents.named position context timeoutMs now random ackId ref created
  have opened : (eventsOf (operationsOf pool))[position]? = some (.opens ⟨context, timeoutMs⟩) := by
    rw [getElem?_eventsOf, operationsOf, List.getElem?_map, created]
    rfl
  have settles : settlementOf ref pool.shared =
      ((eventsOf (operationsOf pool)).drop (position + 1)).findSome?
        (CellEvent.offered ref ⟨context, timeoutMs⟩) := by
    have cell := CellEvent.opened_cell opened ref (by rw [place, take_eventsOf]; rfl)
    have same : (cellsOf pool.shared)[ref]?.bind Cell.value = settlementOf ref pool.shared := by
      rw [getElem?_cellsOf]
      unfold settlementOf
      cases pool.shared.objects.read ref <;> rfl
    rw [← same, represents.cells, cellsBy, cell]
    rfl
  refine ⟨settles, ?_⟩
  intro index result found
  have delivered : Delivered (.wait ref) result pool.shared :=
    (open_covers reached).2.2 index (.wait ref) _ found
  obtain ⟨settlement, recorded, equal⟩ := delivered
  exact ⟨settlement, settles ▸ recorded, equal⟩

theorem first_offer_settles_late :
    settlementOf 0 lateListener.shared = some (.resolve (.bool true)) := by
  have created : ∃ ackId, lateListener.tasks[3]? = some
      (.create ⟨0, none, "q", "run", 0, some 0, .string "token"⟩ (JsNumber.ofNat 5)
        (JsNumber.ofNat 0) "r", .finished (.ok (.created ackId 0))) := ⟨_, rfl⟩
  obtain ⟨ackId, found⟩ := created
  exact (first_offer_settles lateListener_reached found).1

end NodeRedBull.AcknowledgementCells
