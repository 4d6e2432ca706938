import NodeRedBull.AcknowledgementInvariant

/-! Which entries each operation of the registry settles, and with what. -/

namespace NodeRedBull.AcknowledgementEffect
open Js Library Acknowledgements AcknowledgementInvariant

/-- The entry after it was asked to settle: the first settlement stays. -/
def settledBy (settlement : Settlement) (entry : AcknowledgementEntry) : AcknowledgementEntry :=
  if entry.settlement.isSome then entry
  else { entry with settlement := some settlement, events := [] }

theorem settledBy_twice (settlement : Settlement) (entry : AcknowledgementEntry) :
    settledBy settlement (settledBy settlement entry) = settledBy settlement entry := by
  unfold settledBy
  by_cases settled : entry.settlement.isSome
  · simp [settled]
  · simp [settled]

theorem context_settledBy (settlement : Settlement) (entry : AcknowledgementEntry) :
    (settledBy settlement entry).context = entry.context := by
  unfold settledBy
  split
  · rfl
  · rfl

theorem read_settle (ref : Nat) (settlement : Settlement) (state : AckState) (other : Nat) :
    (settle ref settlement state).objects.read other =
      if other = ref then (state.objects.read ref).map (settledBy settlement)
      else state.objects.read other := by
  by_cases pending : ∃ entry, Unsettled state ref entry
  · obtain ⟨entry, found⟩ := pending
    rw [(settle_spec found settlement).objects other, found.1]
    simp [settledBy, found.2]
  · rw [settle_settled settlement (not_exists.mp pending)]
    by_cases same : other = ref
    · subst same
      rw [if_pos rfl]
      cases stored : state.objects.read other with
      | none => rfl
      | some entry =>
        have settled : entry.settlement.isSome := by
          rw [Option.isSome_iff_ne_none]
          intro unsettled
          exact pending ⟨entry, stored, unsettled⟩
        simp [settledBy, settled]
    · rw [if_neg same]

/-- A walk that settles the chosen ones of a list of entries, with one settlement. -/
theorem read_walk (settlement : Settlement) (chosen : Context → Prop) [DecidablePred chosen]
    (refs : List Nat) (state : AckState) (other : Nat) :
    (refs.foldl (fun state ref =>
        match state.objects.read ref with
        | some entry => if chosen entry.context then settle ref settlement state else state
        | none => state) state).objects.read other =
      (state.objects.read other).map fun entry =>
        if other ∈ refs ∧ chosen entry.context then settledBy settlement entry else entry := by
  induction refs generalizing state with
  | nil => simp
  | cons ref rest ih =>
    rw [List.foldl_cons, ih]
    have first : (match state.objects.read ref with
        | some entry => if chosen entry.context then settle ref settlement state else state
        | none => state).objects.read other = (state.objects.read other).map fun entry =>
          if other = ref ∧ chosen entry.context then settledBy settlement entry else entry := by
      cases stored : state.objects.read ref with
      | none =>
        by_cases same : other = ref
        · subst same
          simp [stored]
        · simp [same]
      | some entry =>
        by_cases picked : chosen entry.context
        · simp only [picked, ↓reduceIte, read_settle]
          by_cases same : other = ref
          · subst same
            simp [stored, picked]
          · simp [same]
        · simp only [picked, ↓reduceIte]
          by_cases same : other = ref
          · subst same
            simp [stored, picked]
          · simp [same]
    rw [first, Option.map_map]
    congr 1
    funext entry
    by_cases here : other = ref
    · by_cases picked : chosen entry.context
      · simp [here, picked, context_settledBy, settledBy_twice]
      · simp [picked]
    · simp [here]

/-- `rejectByRunNode` settles exactly the unsettled entries of its run node. -/
theorem read_rejectByRunNode {state : AckState} (consistent : Consistent state)
    (runNodeId : String) (error : JsError) (ref : Nat) :
    (rejectByRunNode runNodeId error state).objects.read ref =
      (state.objects.read ref).map fun entry =>
        if entry.context.runNodeId = runNodeId then settledBy (.reject error) entry else entry := by
  have walked : (rejectByRunNode runNodeId error state).objects.read ref =
      (state.objects.read ref).map fun entry =>
        if ref ∈ state.entries.values ∧ entry.context.runNodeId = runNodeId then
          settledBy (.reject error) entry
        else entry :=
    read_walk (.reject error) (fun context => context.runNodeId = runNodeId)
      state.entries.values state ref
  rw [walked]
  cases stored : state.objects.read ref with
  | none => rfl
  | some entry =>
    simp only [Option.map_some, Option.some.injEq]
    by_cases own : entry.context.runNodeId = runNodeId
    · cases pending : entry.settlement with
      | none =>
        have mapped := (consistent.mapped entry.ackId ref).mpr ⟨entry, ⟨stored, pending⟩, rfl⟩
        have member := (state.entries.mem_values_iff ref).mpr ⟨_, mapped⟩
        simp [own, member]
      | some first =>
        have kept : settledBy (.reject error) entry = entry := by simp [settledBy, pending]
        simp [kept]
    · simp [own]

/-- An abort settles exactly the unsettled entries that listen to the signal. -/
theorem read_abort {state : AckState} (consistent : Consistent state) {signal : Nat}
    {found : AbortSignal} (stored : state.signals.read signal = some found)
    (fresh : found.reason = none) (reason : JsValue) (ref : Nat) :
    (abort signal reason state).objects.read ref =
      (state.objects.read ref).map fun entry =>
        if entry.context.signal = some signal then
          settledBy (.reject (abortError reason)) entry
        else entry := by
  have walked : ∀ (refs : List Nat) (state : AckState),
      (refs.foldl (fun state ref => fail ref (abortError reason) state) state).objects.read ref =
        (state.objects.read ref).map fun entry =>
          if ref ∈ refs then settledBy (.reject (abortError reason)) entry else entry := by
    intro refs
    induction refs with
    | nil => simp
    | cons head rest ih =>
      intro state
      rw [List.foldl_cons, ih, fail, read_settle]
      by_cases here : ref = head
      · subst here
        simp [Function.comp_def, settledBy_twice]
      · simp [here]
  simp only [abort, stored, fresh, Option.isSome_none, Bool.false_eq_true, ↓reduceIte]
  rw [walked]
  cases held : state.objects.read ref with
  | none => simp
  | some entry =>
    simp only [Option.map_some, Option.some.injEq]
    cases pending : entry.settlement with
    | none =>
      have listening := consistent.listening signal found ref stored
      by_cases listens : entry.context.signal = some signal
      · rw [if_pos (listening.mpr ⟨entry, ⟨held, pending⟩, listens⟩), if_pos listens]
      · have deaf : ref ∉ found.listeners := by
          intro member
          obtain ⟨other, unsettled, hears⟩ := listening.mp member
          have equal := held.symm.trans unsettled.1
          cases equal
          exact listens hears
        rw [if_neg deaf, if_neg listens]
    | some first =>
      have kept : settledBy (.reject (abortError reason)) entry = entry := by
        simp [settledBy, pending]
      simp [kept]

/-! ## What no operation but a creation or an abort does -/

/-- No new entry, no entry with another owner, and no signal newly aborted. -/
structure Steady (before after : AckState) : Prop where
  entries : ∀ ref later, after.objects.read ref = some later →
    ∃ entry, before.objects.read ref = some entry ∧ later.context = entry.context ∧
      later.ackId = entry.ackId
  reasons : ∀ signal later, after.signals.read signal = some later →
    ∃ found, before.signals.read signal = some found ∧ later.reason = found.reason

theorem Steady.refl (state : AckState) : Steady state state :=
  ⟨fun _ entry found => ⟨entry, found, rfl, rfl⟩, fun _ found stored => ⟨found, stored, rfl⟩⟩

theorem steady_jobs (state : AckState) (jobs : Store JsValue) : Steady state { state with jobs } :=
  ⟨fun _ entry found => ⟨entry, found, rfl, rfl⟩, fun _ found stored => ⟨found, stored, rfl⟩⟩

theorem Steady.trans {first second third : AckState} (left : Steady first second)
    (right : Steady second third) : Steady first third where
  entries := by
    intro ref later stored
    obtain ⟨middle, read, context, ackId⟩ := right.entries ref later stored
    obtain ⟨entry, found, context', ackId'⟩ := left.entries ref middle read
    exact ⟨entry, found, context.trans context', ackId.trans ackId'⟩
  reasons := by
    intro signal later stored
    obtain ⟨middle, read, reason⟩ := right.reasons signal later stored
    obtain ⟨found, first, reason'⟩ := left.reasons signal middle read
    exact ⟨found, first, reason.trans reason'⟩

theorem steady_foldl {α : Type} {operation : AckState → α → AckState}
    (each : ∀ state item, Steady state (operation state item)) (items : List α)
    (state : AckState) : Steady state (items.foldl operation state) := by
  induction items generalizing state with
  | nil => exact .refl state
  | cons item rest ih => exact (each state item).trans (ih (operation state item))

theorem steady_settle (ref : Nat) (settlement : Settlement) (state : AckState) :
    Steady state (settle ref settlement state) where
  entries := by
    intro other later stored
    rw [read_settle] at stored
    split at stored
    next same =>
      obtain ⟨entry, read, equal⟩ := Option.map_eq_some_iff.mp stored
      subst same equal
      refine ⟨entry, read, context_settledBy settlement entry, ?_⟩
      unfold settledBy
      split
      · rfl
      · rfl
    next different => exact ⟨later, stored, rfl, rfl⟩
  reasons := by
    intro signal later stored
    by_cases pending : ∃ entry, Unsettled state ref entry
    · obtain ⟨entry, found⟩ := pending
      rw [(settle_spec found settlement).signals signal] at stored
      split at stored
      · obtain ⟨earlier, read, equal⟩ := Option.map_eq_some_iff.mp stored
        subst equal
        exact ⟨earlier, read, rfl⟩
      · exact ⟨later, stored, rfl⟩
    · rw [settle_settled settlement (not_exists.mp pending)] at stored
      exact ⟨later, stored, rfl⟩

theorem steady_failAll (error : JsError) (refs : List Nat) (state : AckState) :
    Steady state (refs.foldl (fun state ref => fail ref error state) state) :=
  steady_foldl (fun state ref => steady_settle ref (.reject error) state) refs state

theorem steady_timerFires (ref : Nat) (state : AckState) : Steady state (timerFires ref state) := by
  unfold timerFires
  cases state.objects.read ref with
  | none => exact .refl state
  | some entry =>
    have cleared : Steady state (clearTimeout ref state) :=
      ⟨fun _ entry found => ⟨entry, found, rfl, rfl⟩, fun _ found stored => ⟨found, stored, rfl⟩⟩
    exact cleared.trans (steady_settle ref _ _)

theorem steady_rejectByRunNode (runNodeId : String) (error : JsError) (state : AckState) :
    Steady state (rejectByRunNode runNodeId error state) := by
  apply steady_foldl
  intro state ref
  cases state.objects.read ref with
  | none => exact .refl state
  | some entry =>
    by_cases own : entry.context.runNodeId = runNodeId
    · simp only [own, ↓reduceIte]
      exact steady_settle ref _ state
    · simp only [own, ↓reduceIte]
      exact .refl state

theorem steady_onceSettled (ref : Nat) (state : AckState) :
    Steady state (onceSettled ref state).2 where
  entries := by
    intro other later stored
    simp only [onceSettled, Store.read_modify] at stored
    split at stored
    next same =>
      obtain ⟨entry, read, equal⟩ := Option.map_eq_some_iff.mp stored
      subst same equal
      exact ⟨entry, read, rfl, rfl⟩
    next different => exact ⟨later, stored, rfl, rfl⟩
  reasons := fun _ found stored => ⟨found, stored, rfl⟩

/-- An abort makes no new entry either, and it aborts no other signal. -/
theorem abort_reasons (signal : Nat) (reason : JsValue) (state : AckState) (other : Nat)
    (different : other ≠ signal) (later : AbortSignal)
    (stored : (abort signal reason state).signals.read other = some later) :
    ∃ found, state.signals.read other = some found ∧ later.reason = found.reason := by
  unfold abort at stored
  cases read : state.signals.read signal with
  | none =>
    simp only [read] at stored
    exact ⟨later, stored, rfl⟩
  | some found =>
    by_cases aborted : found.reason.isSome
    · simp only [read, aborted, ↓reduceIte] at stored
      exact ⟨later, stored, rfl⟩
    · simp only [read, aborted, Bool.false_eq_true, ↓reduceIte] at stored
      obtain ⟨middle, first, same⟩ :=
        (steady_failAll (abortError reason) found.listeners _).reasons other later stored
      rw [Store.read_write, if_neg different] at first
      exact ⟨middle, first, same⟩

/-- An aborted signal has a reason. -/
theorem abort_reason {signal : Nat} {reason : JsValue} {state : AckState}
    (known : signal < state.signals.size) {later : AbortSignal}
    (stored : (abort signal reason state).signals.read signal = some later) :
    later.reason ≠ none := by
  obtain ⟨found, read⟩ := Store.exists_read known
  unfold abort at stored
  by_cases aborted : found.reason.isSome
  · simp only [read, aborted, ↓reduceIte] at stored
    cases stored
    exact Option.isSome_iff_ne_none.mp aborted
  · simp only [read, aborted, Bool.false_eq_true, ↓reduceIte] at stored
    obtain ⟨middle, first, same⟩ :=
      (steady_failAll (abortError reason) found.listeners _).reasons signal later stored
    rw [Store.read_write, if_pos rfl, read] at first
    cases first
    rw [same]
    exact Option.some_ne_none reason

theorem abort_entries (signal : Nat) (reason : JsValue) (state : AckState) (ref : Nat)
    (later : AcknowledgementEntry)
    (stored : (abort signal reason state).objects.read ref = some later) :
    ∃ entry, state.objects.read ref = some entry ∧ later.context = entry.context ∧
      later.ackId = entry.ackId := by
  unfold abort at stored
  cases read : state.signals.read signal with
  | none =>
    simp only [read] at stored
    exact ⟨later, stored, rfl, rfl⟩
  | some found =>
    by_cases aborted : found.reason.isSome
    · simp only [read, aborted, ↓reduceIte] at stored
      exact ⟨later, stored, rfl, rfl⟩
    · simp only [read, aborted, Bool.false_eq_true, ↓reduceIte] at stored
      have walked := (steady_failAll (abortError reason) found.listeners _).entries ref later stored
      exact walked

end NodeRedBull.AcknowledgementEffect
