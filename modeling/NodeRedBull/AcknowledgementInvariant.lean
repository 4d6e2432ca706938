import NodeRedBull.Acknowledgements

/-! What every operation of the acknowledgement registry keeps. The map, the timers, the
abort listeners and the event promises are all determined by which entries are unsettled. -/

namespace NodeRedBull.AcknowledgementInvariant
open Js Library Acknowledgements

/-- The entry is allocated and nothing has settled it. -/
def Unsettled (state : AckState) (ref : Nat) (entry : AcknowledgementEntry) : Prop :=
  state.objects.read ref = some entry ∧ entry.settlement = none

structure Consistent (state : AckState) : Prop where
  mapped : ∀ ackId ref, state.entries.get ackId = some ref ↔
    ∃ entry, Unsettled state ref entry ∧ entry.ackId = ackId
  armed : ∀ ref, ref ∈ state.timers ↔
    ∃ entry, Unsettled state ref entry ∧ entry.timeoutMs.positive = true
  listening : ∀ signal found ref, state.signals.read signal = some found →
    (ref ∈ found.listeners ↔ ∃ entry, Unsettled state ref entry ∧ entry.context.signal = some signal)
  signalled : ∀ ref entry signal, state.objects.read ref = some entry →
    entry.context.signal = some signal → signal < state.signals.size
  deleting : ∀ ref entry, Unsettled state ref entry → .deleteEntry ∈ entry.events
  promised : ∀ promise found, state.promises.read promise = some found →
    ∃ entry, state.objects.read found.entry = some entry ∧
      found.settlement = entry.settlement ∧
      (entry.settlement = none → .wake promise ∈ entry.events)
  waking : ∀ ref entry promise, state.objects.read ref = some entry →
    .wake promise ∈ entry.events →
    ∃ found, state.promises.read promise = some found ∧ found.entry = ref

/-- What an operation never takes back: settlements, the identity of entries and of event
promises, and that a signal was aborted. -/
structure Grows (before after : AckState) : Prop where
  settled : ∀ ref settlement, settlementOf ref before = some settlement →
    settlementOf ref after = some settlement
  entries : ∀ ref entry, before.objects.read ref = some entry →
    ∃ later, after.objects.read ref = some later ∧ later.context = entry.context ∧
      later.timeoutMs = entry.timeoutMs ∧ later.ackId = entry.ackId
  promises : ∀ promise found, before.promises.read promise = some found →
    ∃ later, after.promises.read promise = some later ∧ later.entry = found.entry
  signals : before.signals.size ≤ after.signals.size

theorem Grows.refl (state : AckState) : Grows state state where
  settled := fun _ _ found => found
  entries := fun _ entry found => ⟨entry, found, rfl, rfl, rfl⟩
  promises := fun _ found stored => ⟨found, stored, rfl⟩
  signals := le_rfl

theorem Grows.trans {first second third : AckState} (left : Grows first second)
    (right : Grows second third) : Grows first third where
  settled := fun ref settlement found => right.settled ref settlement (left.settled ref settlement found)
  entries := by
    intro ref entry found
    obtain ⟨middle, stored, context, timeout, ackId⟩ := left.entries ref entry found
    obtain ⟨later, last, context', timeout', ackId'⟩ := right.entries ref middle stored
    exact ⟨later, last, context'.trans context, timeout'.trans timeout, ackId'.trans ackId⟩
  promises := by
    intro promise found stored
    obtain ⟨middle, kept, owner⟩ := left.promises promise found stored
    obtain ⟨later, last, owner'⟩ := right.promises promise middle kept
    exact ⟨later, last, owner'.trans owner⟩
  signals := left.signals.trans right.signals

/-- An operation of the registry: it keeps the invariant and takes nothing back. -/
def Keeps (operation : AckState → AckState) : Prop :=
  ∀ state, Consistent state → Consistent (operation state) ∧ Grows state (operation state)

theorem Keeps.foldl {α : Type} {operation : AckState → α → AckState}
    (each : ∀ item, Keeps (fun state => operation state item)) (items : List α) :
    Keeps (fun state => items.foldl operation state) := by
  induction items with
  | nil => exact fun state consistent => ⟨consistent, .refl state⟩
  | cons item rest ih =>
    intro state consistent
    obtain ⟨middle, first⟩ := each item state consistent
    obtain ⟨last, second⟩ := ih (operation state item) middle
    exact ⟨last, first.trans second⟩

theorem consistent_initial : Consistent AckState.initial where
  mapped := by simp [AckState.initial, Unsettled]
  armed := by simp [AckState.initial, Unsettled]
  listening := by simp [AckState.initial]
  signalled := by simp [AckState.initial]
  deleting := by simp [AckState.initial, Unsettled]
  promised := by simp [AckState.initial]
  waking := by simp [AckState.initial]

/-! ## Settling -/

/-- Everything a settlement of an unsettled entry does. -/
structure Settles (ref : Nat) (settlement : Settlement) (entry : AcknowledgementEntry)
    (before after : AckState) : Prop where
  objects : ∀ other, after.objects.read other =
    if other = ref then some { entry with settlement := some settlement, events := [] }
    else before.objects.read other
  entries : ∀ ackId, after.entries.get ackId =
    if .deleteEntry ∈ entry.events ∧ ackId = entry.ackId then none else before.entries.get ackId
  timers : ∀ other, other ∈ after.timers ↔ other ∈ before.timers ∧ other ≠ ref
  signals : ∀ signal, after.signals.read signal =
    if entry.context.signal = some signal then
      (before.signals.read signal).map (AbortSignal.remove ref)
    else before.signals.read signal
  promises : ∀ promise, after.promises.read promise =
    if .wake promise ∈ entry.events then
      (before.promises.read promise).map ({ · with settlement := some settlement })
    else before.promises.read promise

private theorem callListeners (ackId : String) (settlement : Settlement)
    (listeners : List SettledListener) (state : AckState) :
    (listeners.foldl (callListener ackId settlement) state).objects = state.objects ∧
      (listeners.foldl (callListener ackId settlement) state).timers = state.timers ∧
      (listeners.foldl (callListener ackId settlement) state).signals = state.signals ∧
      (∀ key, (listeners.foldl (callListener ackId settlement) state).entries.get key =
        if .deleteEntry ∈ listeners ∧ key = ackId then none else state.entries.get key) ∧
      ∀ promise, (listeners.foldl (callListener ackId settlement) state).promises.read promise =
        if .wake promise ∈ listeners then
          (state.promises.read promise).map ({ · with settlement := some settlement })
        else state.promises.read promise := by
  induction listeners generalizing state with
  | nil => simp
  | cons listener rest ih =>
    obtain ⟨objects, timers, signals, entries, promises⟩ := ih (callListener ackId settlement state listener)
    rw [List.foldl_cons]
    cases listener with
    | deleteEntry =>
      refine ⟨objects, timers, signals, ?_, ?_⟩
      · intro key
        rw [entries key]
        simp only [callListener, OrderedMap.get_delete, List.mem_cons, true_or, true_and]
        by_cases same : key = ackId
        · simp [same]
        · simp [same]
      · intro promise
        rw [promises promise]
        simp [callListener]
    | wake woken =>
      refine ⟨objects, timers, signals, ?_, ?_⟩
      · intro key
        rw [entries key]
        simp [callListener]
      · intro promise
        rw [promises promise]
        simp only [callListener, Store.read_modify, List.mem_cons, SettledListener.wake.injEq]
        by_cases same : promise = woken
        · subst same
          by_cases again : SettledListener.wake promise ∈ rest
          · simp [again, Function.comp_def]
          · simp [again]
        · simp [same]

private theorem removeEventListener_frame (ref : Nat) (signal : Option Nat) (state : AckState) :
    (removeEventListener ref signal state).objects = state.objects ∧
      (removeEventListener ref signal state).entries = state.entries ∧
      (removeEventListener ref signal state).timers = state.timers ∧
      (removeEventListener ref signal state).promises = state.promises ∧
      ∀ other, (removeEventListener ref signal state).signals.read other =
        if signal = some other then (state.signals.read other).map (AbortSignal.remove ref)
        else state.signals.read other := by
  cases signal with
  | none => simp [removeEventListener]
  | some signal =>
    refine ⟨rfl, rfl, rfl, rfl, ?_⟩
    intro other
    simp only [removeEventListener, Store.read_modify, Option.some.injEq]
    by_cases same : other = signal
    · subst same
      simp
    · have different : ¬signal = other := fun equal => same equal.symm
      simp [same, different]

theorem settle_spec {state : AckState} {ref : Nat} {entry : AcknowledgementEntry}
    (found : Unsettled state ref entry) (settlement : Settlement) :
    Settles ref settlement entry state (settle ref settlement state) := by
  obtain ⟨stored, pending⟩ := found
  have recorded : settle ref settlement state = emitSettled ref settlement
      (removeEventListener ref entry.context.signal (clearTimeout ref { state with
        objects := state.objects.write ref { entry with settlement := some settlement } })) := by
    simp [settle, stored, pending]
  obtain ⟨objects, entries, timers, promises, signals⟩ :=
    removeEventListener_frame ref entry.context.signal (clearTimeout ref { state with
      objects := state.objects.write ref { entry with settlement := some settlement } })
  rw [recorded]
  generalize removeEventListener ref entry.context.signal (clearTimeout ref { state with
    objects := state.objects.write ref { entry with settlement := some settlement } }) = cleared
    at objects entries timers promises signals ⊢
  have read : cleared.objects.read ref = some { entry with settlement := some settlement } := by
    rw [objects]
    simp [clearTimeout, Store.read_write, stored]
  simp only [emitSettled, read]
  obtain ⟨objects', timers', signals', entries', promises'⟩ :=
    callListeners entry.ackId settlement entry.events { cleared with
      objects := cleared.objects.write ref { entry with settlement := some settlement, events := [] } }
  refine ⟨?_, ?_, ?_, ?_, ?_⟩
  · intro other
    rw [objects', Store.read_write, read, objects]
    by_cases same : other = ref
    · simp [same]
    · simp [same, clearTimeout, Store.read_write]
  · intro key
    rw [entries', entries]
    rfl
  · intro other
    rw [timers', timers]
    simp [clearTimeout]
  · intro signal
    rw [signals', signals]
    rfl
  · intro promise
    rw [promises', promises]
    rfl

theorem settle_settled {state : AckState} {ref : Nat} (settlement : Settlement)
    (settled : ∀ entry, ¬Unsettled state ref entry) : settle ref settlement state = state := by
  unfold settle
  cases stored : state.objects.read ref with
  | none => rfl
  | some entry =>
    cases recorded : entry.settlement with
    | none => exact absurd ⟨stored, recorded⟩ (settled entry)
    | some first => simp [recorded]

namespace Settles

variable {ref : Nat} {settlement : Settlement} {entry : AcknowledgementEntry}
variable {before after : AckState}

/-- The settled entry is out, and no other entry changes. -/
theorem unsettled_iff (settles : Settles ref settlement entry before after) (other : Nat)
    (found : AcknowledgementEntry) :
    Unsettled after other found ↔ other ≠ ref ∧ Unsettled before other found := by
  unfold Unsettled
  rw [settles.objects other]
  by_cases same : other = ref
  · rw [if_pos same]
    constructor
    · intro given
      obtain ⟨stored, pending⟩ := given
      cases stored
      cases pending
    · intro impossible
      exact absurd same impossible.1
  · simp [same]

theorem grows (settles : Settles ref settlement entry before after)
    (found : Unsettled before ref entry) : Grows before after where
  settled := by
    intro other first recorded
    unfold settlementOf at recorded ⊢
    rw [settles.objects other]
    by_cases same : other = ref
    · subst same
      rw [found.1] at recorded
      have pending : entry.settlement = some first := recorded
      rw [found.2] at pending
      cases pending
    · rw [if_neg same]
      exact recorded
  entries := by
    intro other stored read
    by_cases same : other = ref
    · subst same
      rw [found.1] at read
      cases read
      refine ⟨{ entry with settlement := some settlement, events := [] }, ?_, rfl, rfl, rfl⟩
      rw [settles.objects other, if_pos rfl]
    · refine ⟨stored, ?_, rfl, rfl, rfl⟩
      rw [settles.objects other, if_neg same]
      exact read
  promises := by
    intro promise stored read
    by_cases woken : SettledListener.wake promise ∈ entry.events
    · refine ⟨{ stored with settlement := some settlement }, ?_, rfl⟩
      rw [settles.promises promise, if_pos woken, read]
      rfl
    · refine ⟨stored, ?_, rfl⟩
      rw [settles.promises promise, if_neg woken]
      exact read
  signals := by
    by_contra shrunk
    have kept : after.signals.size < before.signals.size := by omega
    have gone := (before.signals.read_eq_none_iff after.signals.size).not.mpr (by omega)
    apply gone
    have absent := (after.signals.read_eq_none_iff after.signals.size).mpr le_rfl
    rw [settles.signals] at absent
    split at absent
    · exact Option.map_eq_none_iff.mp absent
    · exact absent

theorem keeps (settles : Settles ref settlement entry before after)
    (found : Unsettled before ref entry) (consistent : Consistent before) : Consistent after where
  mapped := by
    intro ackId other
    rw [settles.entries ackId]
    have deleting := consistent.deleting ref entry found
    by_cases own : ackId = entry.ackId
    · rw [if_pos ⟨deleting, own⟩]
      constructor
      · intro impossible
        cases impossible
      · intro given
        obtain ⟨stored, pending, key⟩ := given
        obtain ⟨different, unsettled⟩ := (settles.unsettled_iff other stored).mp pending
        -- two unsettled entries under one ackId would both be what the map finds
        have first := (consistent.mapped ackId ref).mpr ⟨entry, found, own.symm⟩
        have second := (consistent.mapped ackId other).mpr ⟨stored, unsettled, key⟩
        rw [first] at second
        exact absurd (Option.some.inj second).symm different
    · rw [if_neg (fun both => own both.2), consistent.mapped ackId other]
      constructor
      · intro given
        obtain ⟨stored, pending, key⟩ := given
        refine ⟨stored, (settles.unsettled_iff other stored).mpr ⟨?_, pending⟩, key⟩
        intro same
        subst same
        have equal := found.1.symm.trans pending.1
        cases equal
        exact own key.symm
      · intro given
        obtain ⟨stored, pending, key⟩ := given
        exact ⟨stored, ((settles.unsettled_iff other stored).mp pending).2, key⟩
  armed := by
    intro other
    rw [settles.timers other, consistent.armed other]
    simp only [settles.unsettled_iff]
    constructor
    · intro given
      obtain ⟨⟨stored, pending, positive⟩, different⟩ := given
      exact ⟨stored, ⟨different, pending⟩, positive⟩
    · intro given
      obtain ⟨stored, ⟨different, pending⟩, positive⟩ := given
      exact ⟨⟨stored, pending, positive⟩, different⟩
  listening := by
    intro signal later other read
    simp only [settles.unsettled_iff]
    rw [settles.signals signal] at read
    by_cases own : entry.context.signal = some signal
    · rw [if_pos own] at read
      obtain ⟨earlier, stored, removed⟩ := Option.map_eq_some_iff.mp read
      subst removed
      simp only [AbortSignal.remove, List.mem_filter, decide_eq_true_eq,
        consistent.listening signal earlier other stored]
      constructor
      · intro given
        obtain ⟨⟨kept, pending, listens⟩, different⟩ := given
        exact ⟨kept, ⟨different, pending⟩, listens⟩
      · intro given
        obtain ⟨kept, ⟨different, pending⟩, listens⟩ := given
        exact ⟨⟨kept, pending, listens⟩, different⟩
    · rw [if_neg own] at read
      rw [consistent.listening signal later other read]
      constructor
      · intro given
        obtain ⟨kept, pending, listens⟩ := given
        refine ⟨kept, ⟨?_, pending⟩, listens⟩
        intro same
        subst same
        have equal := found.1.symm.trans pending.1
        cases equal
        exact own listens
      · intro given
        obtain ⟨kept, ⟨_, pending⟩, listens⟩ := given
        exact ⟨kept, pending, listens⟩
  signalled := by
    intro other stored signal read listens
    have bound : signal < before.signals.size := by
      rw [settles.objects other] at read
      split at read
      · cases read
        exact consistent.signalled ref entry signal found.1 listens
      · exact consistent.signalled other stored signal read listens
    exact lt_of_lt_of_le bound (settles.grows found).signals
  deleting := by
    intro other stored pending
    exact consistent.deleting other stored ((settles.unsettled_iff other stored).mp pending).2
  promised := by
    intro promise later read
    rw [settles.promises promise] at read
    by_cases woken : SettledListener.wake promise ∈ entry.events
    · rw [if_pos woken] at read
      obtain ⟨earlier, stored, resolved⟩ := Option.map_eq_some_iff.mp read
      subst resolved
      obtain ⟨owner, held, same⟩ := consistent.waking ref entry promise found.1 woken
      rw [stored] at held
      cases held
      refine ⟨{ entry with settlement := some settlement, events := [] }, ?_, rfl, ?_⟩
      · rw [settles.objects, if_pos same]
      · intro impossible
        cases impossible
    · rw [if_neg woken] at read
      obtain ⟨owner, stored, agrees, wakes⟩ := consistent.promised promise later read
      have different : later.entry ≠ ref := by
        intro same
        rw [same, found.1] at stored
        cases stored
        exact woken (wakes found.2)
      refine ⟨owner, ?_, agrees, wakes⟩
      rw [settles.objects, if_neg different]
      exact stored
  waking := by
    intro other stored promise read wakes
    rw [settles.objects other] at read
    by_cases same : other = ref
    · rw [if_pos same] at read
      cases read
      cases wakes
    · rw [if_neg same] at read
      obtain ⟨held, kept, owner⟩ := consistent.waking other stored promise read wakes
      obtain ⟨later, last, owner'⟩ := (settles.grows found).promises promise held kept
      exact ⟨later, last, owner'.trans owner⟩

end Settles

theorem keeps_settle (ref : Nat) (settlement : Settlement) : Keeps (settle ref settlement) := by
  intro state consistent
  by_cases pending : ∃ entry, Unsettled state ref entry
  · obtain ⟨entry, found⟩ := pending
    have settles := settle_spec found settlement
    exact ⟨settles.keeps found consistent, settles.grows found⟩
  · rw [settle_settled settlement (not_exists.mp pending)]
    exact ⟨consistent, .refl state⟩

/-- The expired timer is out of the list already when `settle` clears it again. -/
theorem timerFires_eq {state : AckState} (consistent : Consistent state) {ref : Nat}
    {entry : AcknowledgementEntry} (stored : state.objects.read ref = some entry) :
    timerFires ref state = fail ref (timeoutError entry.timeoutMs) state := by
  simp only [timerFires, stored, fail]
  cases pending : entry.settlement with
  | none =>
    have again : ∀ objects, clearTimeout ref { clearTimeout ref state with objects } =
        clearTimeout ref { state with objects } := by
      intro objects
      simp [clearTimeout, List.filter_filter]
    have kept : (clearTimeout ref state).objects = state.objects := rfl
    simp only [settle, kept, stored, pending, Option.isSome_none, Bool.false_eq_true, ↓reduceIte,
      again]
  | some first =>
    have settled : ∀ found, ¬Unsettled state ref found := by
      intro found unsettled
      have equal := stored.symm.trans unsettled.1
      cases equal
      rw [unsettled.2] at pending
      cases pending
    have unarmed : ref ∉ state.timers := by
      intro armed
      obtain ⟨found, unsettled, _⟩ := (consistent.armed ref).mp armed
      exact settled found unsettled
    have same : clearTimeout ref state = state := by
      have kept : state.timers.filter (fun other => decide (other ≠ ref)) = state.timers := by
        rw [List.filter_eq_self]
        intro other member
        apply decide_eq_true
        intro equal
        exact unarmed (equal ▸ member)
      simp only [clearTimeout, kept]
    rw [same]

theorem keeps_timerFires (ref : Nat) : Keeps (timerFires ref) := by
  intro state consistent
  cases stored : state.objects.read ref with
  | none =>
    simp only [timerFires, stored]
    exact ⟨consistent, .refl state⟩
  | some entry =>
    rw [timerFires_eq consistent stored]
    exact keeps_settle ref _ state consistent

theorem keeps_abort (signal : Nat) (reason : JsValue) : Keeps (abort signal reason) := by
  intro state consistent
  unfold abort
  cases stored : state.signals.read signal with
  | none => exact ⟨consistent, .refl state⟩
  | some found =>
    by_cases aborted : found.reason.isSome
    · simp only [aborted, ↓reduceIte]
      exact ⟨consistent, .refl state⟩
    · simp only [aborted, Bool.false_eq_true, ↓reduceIte]
      have marked : Consistent { state with
          signals := state.signals.write signal { found with reason := some reason } } := by
        refine ⟨consistent.mapped, consistent.armed, ?_, ?_, consistent.deleting,
          consistent.promised, consistent.waking⟩
        · intro other later ref read
          simp only [Store.read_write, stored, Option.map_some] at read
          split at read
          next same =>
            cases read
            subst same
            exact consistent.listening other found ref stored
          next different => exact consistent.listening other later ref read
        · intro ref entry other read listens
          simp only [Store.size_write]
          exact consistent.signalled ref entry other read listens
      have grown : Grows state { state with
          signals := state.signals.write signal { found with reason := some reason } } := by
        refine ⟨fun _ _ found => found, fun _ entry read => ⟨entry, read, rfl, rfl, rfl⟩,
          fun _ found read => ⟨found, read, rfl⟩, ?_⟩
        simp
      obtain ⟨kept, further⟩ := Keeps.foldl
        (fun ref => keeps_settle ref (.reject (abortError reason))) found.listeners _ marked
      exact ⟨kept, grown.trans further⟩

theorem keeps_rejectByRunNode (runNodeId : String) (error : JsError) :
    Keeps (rejectByRunNode runNodeId error) := by
  intro state consistent
  apply Keeps.foldl _ state.entries.values state consistent
  intro ref state consistent
  cases stored : state.objects.read ref with
  | none =>
    simp only [stored]
    exact ⟨consistent, .refl state⟩
  | some entry =>
    simp only [stored]
    by_cases own : entry.context.runNodeId = runNodeId
    · rw [if_pos own]
      exact keeps_settle ref _ state consistent
    · rw [if_neg own]
      exact ⟨consistent, .refl state⟩

end NodeRedBull.AcknowledgementInvariant
