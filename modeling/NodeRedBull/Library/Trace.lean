import Mathlib.Data.List.Basic

/-! Traces of events: the latest event of a kind, and conditions on every event in the light of
what came before it. -/

namespace NodeRedBull.Library

variable {ε β : Type}

/-- The last value that `select` finds in the trace. -/
def latest (select : ε → Option β) (trace : List ε) : Option β := (trace.filterMap select).getLast?

theorem latest_append (select : ε → Option β) (first second : List ε) :
    latest select (first ++ second) = (latest select second).or (latest select first) := by
  unfold latest
  rw [List.filterMap_append, List.getLast?_append]

theorem latest_singleton (select : ε → Option β) (event : ε) :
    latest select [event] = select event := by
  unfold latest
  cases found : select event <;> simp [found]

theorem latest_eq_none_iff {select : ε → Option β} {trace : List ε} :
    latest select trace = none ↔ ∀ event ∈ trace, select event = none := by
  unfold latest
  rw [List.getLast?_eq_none_iff, List.filterMap_eq_nil_iff]

/-- Events that `select` passes over can be left out. -/
theorem select_filter {select : ε → Option β} {keep : ε → Bool}
    (kept : ∀ event, keep event = false → select event = none) (trace : List ε) :
    (trace.filter keep).filterMap select = trace.filterMap select := by
  rw [List.filterMap_filter]
  apply List.filterMap_congr
  intro event _
  cases kind : keep event with
  | true => rfl
  | false => simp [kept event kind]

theorem select_snoc {select : ε → Option β} {event : ε} (passed : select event = none)
    (trace : List ε) : (trace ++ [event]).filterMap select = trace.filterMap select := by
  rw [List.filterMap_append, List.filterMap_cons_none passed, List.filterMap_nil, List.append_nil]

theorem latest_filter {select : ε → Option β} {keep : ε → Bool}
    (kept : ∀ event, keep event = false → select event = none) (trace : List ε) :
    latest select (trace.filter keep) = latest select trace := by
  unfold latest
  rw [select_filter kept]

/-- Every event of the trace is justified by what came before it. -/
def Always (justified : List ε → ε → Prop) (trace : List ε) : Prop :=
  ∀ before event after, trace = before ++ event :: after → justified before event

theorem always_nil (justified : List ε → ε → Prop) : Always justified [] := by
  intro before event after split
  cases before <;> cases split

theorem Always.snoc {justified : List ε → ε → Prop} {trace : List ε} {last : ε}
    (always : Always justified trace) (next : justified trace last) :
    Always justified (trace ++ [last]) := by
  intro before event after split
  rcases List.eq_nil_or_concat after with rfl | ⟨middle, other, rfl⟩
  · obtain ⟨rfl, same⟩ := List.append_inj' split rfl
    cases same
    exact next
  · rw [List.concat_eq_append, ← List.cons_append, ← List.append_assoc] at split
    obtain ⟨same, _⟩ := List.append_inj' split rfl
    exact always before event middle same

/-- A condition on the events that `keep` keeps can be checked without the others. -/
theorem Always.of_filter {justified wider : List ε → ε → Prop} {keep : ε → Bool} {trace : List ε}
    (always : Always justified (trace.filter keep))
    (kept : ∀ before event, keep event = true → justified (before.filter keep) event →
      wider before event)
    (dropped : ∀ before event, keep event = false → wider before event) :
    Always wider trace := by
  intro before event after split
  cases kind : keep event with
  | false => exact dropped before event kind
  | true =>
    apply kept before event kind
    apply always (before.filter keep) event (after.filter keep)
    rw [split, List.filter_append, List.filter_cons, if_pos kind]

end NodeRedBull.Library
