import Mathlib.Control.Lawful
import Mathlib.Data.List.Forall2

/-! Fallible functions on the items of a list, in order: the first failure is the result. -/

namespace NodeRedBull.Library

variable {ε α β γ : Type} {f : α → Except ε β} {item : α} {rest : List α}

/-- A sequence that succeeds does so step by step. -/
theorem bind_eq_ok {program : Except ε α} {next : α → Except ε β} {value : β}
    (ok : (program >>= next) = .ok value) :
    ∃ first, program = .ok first ∧ next first = .ok value := by
  cases program with
  | error error => cases ok
  | ok first => exact ⟨first, rfl, ok⟩

theorem bind_eq_error {program : Except ε α} {next : α → Except ε β} {error : ε}
    (failed : (program >>= next) = .error error) :
    program = .error error ∨ ∃ first, program = .ok first ∧ next first = .error error := by
  cases program with
  | error thrown => exact .inl (congrArg Except.error (Except.error.inj failed))
  | ok first => exact .inr ⟨first, rfl, failed⟩

theorem mapM_cons_of_ok {value : β} (first : f item = .ok value) :
    (item :: rest).mapM f = (rest.mapM f).map (value :: ·) := by
  rw [List.mapM_cons, first]
  rfl

theorem mapM_cons_of_error {error : ε} (first : f item = .error error) :
    (item :: rest).mapM f = .error error := by
  rw [List.mapM_cons, first]
  rfl

theorem map_eq_error_iff {change : α → β} {result : Except ε α} {error : ε} :
    result.map change = .error error ↔ result = .error error := by
  cases result <;> simp [Except.map]

theorem map_eq_ok_iff {change : α → β} {result : Except ε α} {value : β} :
    result.map change = .ok value ↔ ∃ found, result = .ok found ∧ change found = value := by
  cases result <;> simp [Except.map]

/-- The failure is the failure of an item. -/
theorem mapM_error {items : List α} {error : ε} (failed : items.mapM f = .error error) :
    ∃ item ∈ items, f item = .error error := by
  induction items with
  | nil => cases failed
  | cons item rest ih =>
    cases first : f item with
    | error thrown =>
      rw [mapM_cons_of_error first] at failed
      cases failed
      exact ⟨item, List.mem_cons_self, first⟩
    | ok value =>
      rw [mapM_cons_of_ok first, map_eq_error_iff] at failed
      obtain ⟨other, member, thrown⟩ := ih failed
      exact ⟨other, List.mem_cons_of_mem _ member, thrown⟩

theorem mapM_fails {items : List α} (member : item ∈ items) {error : ε}
    (failed : f item = .error error) : ∃ thrown, items.mapM f = .error thrown := by
  induction items with
  | nil => cases member
  | cons first rest ih =>
    cases result : f first with
    | error thrown => exact ⟨thrown, mapM_cons_of_error result⟩
    | ok value =>
      rcases List.mem_cons.mp member with own | later
      · rw [← own, failed] at result
        cases result
      · obtain ⟨thrown, failed⟩ := ih later
        exact ⟨thrown, by rw [mapM_cons_of_ok result, failed]; rfl⟩

/-- Success is success on every item, with the values in their order. -/
theorem mapM_eq_ok_iff {items : List α} {values : List β} :
    items.mapM f = .ok values ↔ List.Forall₂ (fun item value => f item = .ok value) items values := by
  induction items generalizing values with
  | nil =>
    rw [List.mapM_nil, List.forall₂_nil_left_iff]
    exact ⟨fun same => (Except.ok.inj same).symm, fun same => by rw [same]; rfl⟩
  | cons item rest ih =>
    cases first : f item with
    | error thrown =>
      rw [mapM_cons_of_error first]
      constructor
      · intro failed
        cases failed
      · intro all
        cases all with
        | cons head tail =>
          rw [first] at head
          cases head
    | ok value =>
      rw [mapM_cons_of_ok first]
      constructor
      · intro succeeded
        cases others : rest.mapM f with
        | error thrown =>
          rw [others] at succeeded
          cases succeeded
        | ok found =>
          rw [others] at succeeded
          cases succeeded
          exact .cons first (ih.mp others)
      · intro all
        cases all with
        | cons head tail =>
          rw [ih.mpr tail]
          rw [first] at head
          cases head
          rfl

theorem map_cons_inj {value : β} {left right : Except ε (List β)} :
    left.map (value :: ·) = right.map (value :: ·) ↔ left = right := by
  cases left <;> cases right <;> simp [Except.map]

theorem mapM_flatMap (pieces : γ → List α) (items : List γ) :
    (items.flatMap pieces).mapM f =
      (items.mapM fun item => (pieces item).mapM f).map List.flatten := by
  induction items with
  | nil => rfl
  | cons item rest ih =>
    rw [List.flatMap_cons, List.mapM_append, ih, List.mapM_cons]
    cases (pieces item).mapM f with
    | error error => rfl
    | ok found =>
      cases rest.mapM fun item => (pieces item).mapM f with
      | error error => rfl
      | ok others => rfl

end NodeRedBull.Library
