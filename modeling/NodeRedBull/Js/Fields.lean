import NodeRedBull.Js.Value

/-! Reading the fields of a plain object after they were set or deleted. -/

namespace NodeRedBull.Js.JsValue

def IsPlain (value : JsValue) : Prop := ∃ fields, value = .object fields

theorem isPlain_object (fields : List (String × JsValue)) : IsPlain (.object fields) := ⟨fields, rfl⟩

theorem IsPlain.set {value : JsValue} (plain : IsPlain value) (name : String) (stored : JsValue) :
    IsPlain (value.set name stored) := by
  obtain ⟨fields, same⟩ := plain
  subst same
  unfold JsValue.set
  dsimp only
  split
  · exact isPlain_object _
  · exact isPlain_object _

theorem IsPlain.delete {value : JsValue} (plain : IsPlain value) (name : String) :
    IsPlain (value.delete name) := by
  obtain ⟨fields, same⟩ := plain
  subst same
  exact isPlain_object _

section
variable {fields : List (String × JsValue)} {name other : String} (stored : JsValue)

theorem field_replaced_other (different : other ≠ name) :
    field (fields.map fun entry => if entry.1 = name then (name, stored) else entry) other =
      field fields other := by
  unfold field
  induction fields with
  | nil => rfl
  | cons entry rest ih =>
    rw [List.map_cons, List.find?_cons, List.find?_cons]
    by_cases here : entry.1 = name
    · have skipped : ¬ name = other := fun same => different same.symm
      simp only [here, if_true, skipped, decide_false]
      exact ih
    · rw [if_neg here]
      by_cases asked : entry.1 = other
      · simp only [asked, decide_true]
      · simp only [asked, decide_false]
        exact ih

theorem field_replaced_own (present : fields.any (fun entry => decide (entry.1 = name)) = true) :
    field (fields.map fun entry => if entry.1 = name then (name, stored) else entry) name =
      stored := by
  unfold field
  induction fields with
  | nil => cases present
  | cons entry rest ih =>
    rw [List.map_cons, List.find?_cons]
    by_cases here : entry.1 = name
    · simp [here]
    · have later : rest.any (fun entry => decide (entry.1 = name)) = true := by
        simpa [here] using present
      rw [if_neg here]
      simp only [here, decide_false]
      exact ih later

theorem field_append_own (absent : ¬ fields.any (fun entry => decide (entry.1 = name)) = true) :
    field (fields ++ [(name, stored)]) name = stored := by
  have nothing : fields.find? (fun entry => decide (entry.1 = name)) = none := by
    rw [List.find?_eq_none]
    intro entry member found
    exact absent (List.any_eq_true.mpr ⟨entry, member, found⟩)
  unfold field
  rw [List.find?_append, nothing]
  simp

theorem field_append_other (different : other ≠ name) :
    field (fields ++ [(name, stored)]) other = field fields other := by
  have skipped : ¬ name = other := fun same => different same.symm
  unfold field
  rw [List.find?_append]
  simp [skipped]

theorem field_filter (fields : List (String × JsValue)) (name other : String) :
    field (fields.filter fun entry => decide (entry.1 ≠ name)) other =
      if other = name then .undefined else field fields other := by
  unfold field
  rw [List.find?_filter]
  by_cases same : other = name
  · have nothing : fields.find? (fun entry => decide (decide (entry.1 ≠ name) = true ∧
        decide (entry.1 = other) = true)) = none := by
      rw [List.find?_eq_none]
      intro entry _
      simp [same]
    rw [if_pos same, nothing]
    rfl
  · rw [if_neg same]
    congr 3
    funext entry
    by_cases asked : entry.1 = other <;> simp [asked, same]

end

theorem IsPlain.get_set {value : JsValue} (plain : IsPlain value) (name other : String)
    (stored : JsValue) :
    (value.set name stored).get other = if other = name then stored else value.get other := by
  obtain ⟨fields, same⟩ := plain
  subst same
  unfold JsValue.set
  dsimp only
  by_cases present : fields.any (fun entry => decide (entry.1 = name)) = true
  · rw [if_pos present]
    by_cases own : other = name
    · rw [if_pos own, own]
      exact field_replaced_own stored present
    · rw [if_neg own]
      exact field_replaced_other stored own
  · rw [if_neg present]
    by_cases own : other = name
    · rw [if_pos own, own]
      exact field_append_own stored present
    · rw [if_neg own]
      exact field_append_other stored own

theorem IsPlain.get_delete {value : JsValue} (plain : IsPlain value) (name other : String) :
    (value.delete name).get other = if other = name then .undefined else value.get other := by
  obtain ⟨fields, same⟩ := plain
  subst same
  exact field_filter fields name other

end NodeRedBull.Js.JsValue
