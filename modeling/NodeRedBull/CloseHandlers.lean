import NodeRedBull.ConfigPairs

/-! What a close handler enters in the trace: that it began, what it took, and its one report. -/

namespace NodeRedBull.CloseHandlers
open Js Library Connections ConfigNode ConfigBooks ConfigStep ConfigAccounts ConfigPairs

/-- The task that took a pair, or the close handler that began or reported. -/
def handlerOf : Effect → Option Nat
  | .took handler _ _ | .closeBegan handler | .done handler _ => some handler
  | _ => none

def entries (handler : Nat) (trace : List Effect) : List Effect :=
  trace.filter fun effect => decide (handlerOf effect = some handler)

/-- What `handler` passed to `done`. -/
def reportOf (handler : Nat) : Effect → Option (Option JsError)
  | .done other failure => if other = handler then some failure else none
  | _ => none

def reports (handler : Nat) (trace : List Effect) : List (Option JsError) :=
  trace.filterMap (reportOf handler)

theorem entries_append (handler : Nat) (first second : List Effect) :
    entries handler (first ++ second) = entries handler first ++ entries handler second :=
  List.filter_append ..

theorem reports_entries (handler : Nat) (trace : List Effect) :
    reports handler trace = reports handler (entries handler trace) := by
  symm
  apply select_filter
  intro effect other
  cases effect with
  | done index failure =>
    have different : ¬index = handler := by simpa [handlerOf] using other
    exact if_neg different
  | _ => rfl

/-- No handler has entered anything in between. -/
def SameEntries (before after : ConfigState) : Prop :=
  ∀ handler, entries handler after.trace = entries handler before.trace

theorem SameEntries.refl (state : ConfigState) : SameEntries state state := fun _ => rfl

theorem SameEntries.trans (first second third : ConfigState) (left : SameEntries first second)
    (right : SameEntries second third) : SameEntries first third :=
  fun handler => (right handler).trans (left handler)

theorem entries_record (handler : Nat) (effect : Effect) (state : ConfigState) :
    entries handler (state.record effect).trace =
      entries handler state.trace ++ entries handler [effect] :=
  entries_append handler state.trace [effect]

theorem sameEntries_record {effect : Effect} (other : handlerOf effect = none)
    (state : ConfigState) : SameEntries state (state.record effect) := by
  intro handler
  rw [entries_record]
  simp [entries, other]

theorem sameEntries_frame : ClosingFrame SameEntries where
  refl := SameEntries.refl
  trans := SameEntries.trans
  record := by
    intro effect state closing
    apply sameEntries_record
    cases effect <;> first | rfl | cases closing
  ended := fun _ _ _ => rfl

theorem sameEntries_paired (index owner : Nat) (connection : Option Nat)
    (left right : ConfigState) (same : SameEntries left right) :
    SameEntries (left.record (.closesPair index owner connection))
      (right.record (.closesPair index owner connection)) := by
  intro handler
  rw [entries_record, entries_record, same handler]

/-! ## The start of a task -/

theorem entries_ledger (handler : Nat) (state : ConfigState) :
    entries handler state.trace = entries handler (ledger state) := by
  unfold entries ledger
  rw [List.filter_filter]
  apply List.filter_congr
  intro effect _
  cases effect <;> simp [handlerOf, Effect.isAccount]

theorem sameEntries_of_ledger {before after : ConfigState} {events : List Effect}
    (grown : ledger after = ledger before ++ events)
    (others : ∀ event ∈ events, handlerOf event = none) : SameEntries before after := by
  intro handler
  have none : entries handler events = [] := by
    apply List.filter_eq_nil_iff.mpr
    intro event member
    simp [others event member]
  rw [entries_ledger, grown, entries_append, none, List.append_nil, ← entries_ledger]

theorem sameEntries_effect (packages : Packages) (index : Nat) {task : ConfigTask}
    (ordinary : closesSomething task = false) (state : ConfigState) :
    SameEntries state (effect packages index task state) := by
  obtain ⟨events, grown, created⟩ := effect_ledger packages index ordinary
  apply sameEntries_of_ledger grown
  intro event member
  obtain ⟨owner, connection, same⟩ := created event member
  rw [same]
  rfl

/-- What a close handler enters when it begins. -/
def opening (handler : Nat) (pairs : List Pair) : List Effect :=
  .closeBegan handler :: pairs.map fun pair => .took handler pair.1 pair.2

theorem entries_opening (handler other : Nat) (pairs : List Pair) :
    entries other (opening handler pairs) = if handler = other then opening handler pairs else [] := by
  have all : ∀ event ∈ opening handler pairs, handlerOf event = some handler := by
    intro event member
    rcases List.mem_cons.mp member with rfl | took
    · rfl
    · obtain ⟨pair, _, rfl⟩ := List.mem_map.mp took
      rfl
  by_cases same : handler = other
  · rw [if_pos same]
    apply List.filter_eq_self.mpr
    intro event member
    rw [all event member, same]
    exact decide_eq_true rfl
  · rw [if_neg same]
    apply List.filter_eq_nil_iff.mpr
    intro event member
    rw [all event member]
    simp [same]

theorem reports_opening (handler other : Nat) (pairs : List Pair) :
    reports other (opening handler pairs) = [] := by
  apply List.filterMap_eq_nil_iff.mpr
  intro event member
  rcases List.mem_cons.mp member with rfl | took
  · rfl
  · obtain ⟨pair, _, rfl⟩ := List.mem_map.mp took
    rfl

theorem sameEntries_startAll (position : Nat) (pairs : List Pair) (state : ConfigState) :
    SameEntries state (startAll position pairs state) := by
  induction pairs generalizing position state with
  | nil => exact SameEntries.refl state
  | cons pair rest ih =>
    exact SameEntries.trans _ _ _ (sameEntries_record rfl state) (ih (position + 1) _)

theorem entries_close (packages : Packages) (index handler : Nat) (state : ConfigState) :
    entries handler (effect packages index .close state).trace = entries handler state.trace ++
      if index = handler then opening index state.resources.entries.reverse else [] := by
  have started := sameEntries_startAll (index + 1) (takeAll index state).1 (takeAll index state).2
  have trace : (takeAll index state).2.trace =
      state.trace ++ opening index state.resources.entries.reverse := by
    simp [takeAll, opening]
  rw [← entries_opening, ← entries_append, ← trace]
  exact started handler

/-- A task enters nothing for another one. -/
theorem entries_effect (packages : Packages) {index handler : Nat} (other : handler ≠ index)
    (task : ConfigTask) (state : ConfigState) :
    entries handler (effect packages index task state).trace = entries handler state.trace := by
  by_cases closing : closesSomething task = true
  · cases task with
    | releaseResource owner =>
      unfold effect
      dsimp only
      split
      · rfl
      · have different : ¬index = handler := fun same => other same.symm
        show entries handler (((_ : ConfigState).record _).record _).trace = _
        rw [entries_record, entries_record]
        simp [entries, handlerOf, different]
    | close =>
      rw [entries_close, if_neg (Ne.symm other), List.append_nil]
    | pair parent owner connection => exact sameEntries_record rfl state handler
    | connectionStatus connection status => rfl
    | _ => cases closing
  · have ordinary : closesSomething task = false := by simpa using closing
    exact sameEntries_effect packages index ordinary state handler

/-- Only the end of a close handler reports. -/
theorem reports_effect (packages : Packages) (index handler : Nat) (task : ConfigTask)
    (state : ConfigState) :
    reports handler (effect packages index task state).trace = reports handler state.trace := by
  by_cases closing : closesSomething task = true
  · cases task with
    | releaseResource owner =>
      unfold effect
      dsimp only
      split
      · rfl
      · simp [take, ConfigState.record, reports, reportOf]
    | close =>
      rw [reports_entries, entries_close, reports_entries handler state.trace]
      unfold reports
      rw [List.filterMap_append]
      split
      · have none := reports_opening index handler state.resources.entries.reverse
        unfold reports at none
        rw [none, List.append_nil]
      · exact List.append_nil _
    | pair parent owner connection =>
      simp [effect, ConfigState.record, reports, reportOf]
    | connectionStatus connection status => rfl
    | _ => cases closing
  · have ordinary : closesSomething task = false := by simpa using closing
    rw [reports_entries, sameEntries_effect packages index ordinary state handler,
      ← reports_entries]

end NodeRedBull.CloseHandlers
