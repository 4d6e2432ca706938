import Mathlib.Data.List.Basic

/-! A heap of mutable objects. An object is named by its index, is never freed,
and keeps its index for good, so an index is the identity of the object. -/

namespace NodeRedBull.Library

structure Store (α : Type) where
  cells : List α

namespace Store

variable {α : Type}

def empty : Store α := ⟨[]⟩

def size (store : Store α) : Nat := store.cells.length

def read (store : Store α) (ref : Nat) : Option α := store.cells[ref]?

/-- The new object and the store that holds it. -/
def alloc (store : Store α) (value : α) : Nat × Store α :=
  (store.cells.length, ⟨store.cells ++ [value]⟩)

def write (store : Store α) (ref : Nat) (value : α) : Store α :=
  ⟨store.cells.set ref value⟩

def modify (store : Store α) (ref : Nat) (change : α → α) : Store α :=
  ⟨store.cells.modify ref change⟩

/-- Every object is replaced, in its place. -/
def map {β : Type} (change : α → β) (store : Store α) : Store β := ⟨store.cells.map change⟩

@[simp] theorem read_empty (ref : Nat) : (empty : Store α).read ref = none := rfl

@[simp] theorem alloc_fst (store : Store α) (value : α) : (store.alloc value).1 = store.size := rfl

theorem read_eq_none_iff (store : Store α) (ref : Nat) :
    store.read ref = none ↔ store.size ≤ ref :=
  List.getElem?_eq_none_iff

theorem lt_size_of_read {store : Store α} {ref : Nat} {value : α}
    (found : store.read ref = some value) : ref < store.size :=
  (List.getElem?_eq_some_iff.mp found).1

theorem exists_read {store : Store α} {ref : Nat} (bound : ref < store.size) :
    ∃ value, store.read ref = some value :=
  ⟨_, List.getElem?_eq_getElem bound⟩

theorem read_alloc (store : Store α) (value : α) (ref : Nat) :
    (store.alloc value).2.read ref = if ref = store.size then some value else store.read ref := by
  by_cases fresh : ref = store.size
  · subst fresh
    simp [read, alloc, size]
  · rw [if_neg fresh]
    simp only [read, alloc, List.getElem?_append]
    by_cases old : ref < store.cells.length
    · rw [if_pos old]
    · have beyond : store.cells.length < ref := by
        simp only [size] at fresh
        omega
      rw [if_neg old, List.getElem?_eq_none (by simp; omega), List.getElem?_eq_none (by omega)]

theorem read_write (store : Store α) (ref other : Nat) (value : α) :
    (store.write ref value).read other =
      if other = ref then (store.read ref).map (fun _ => value) else store.read other := by
  simp only [read, write, List.getElem?_set]
  by_cases same : other = ref
  · subst same
    by_cases bound : other < store.cells.length
    · simp [bound]
    · simp [bound]
  · have different : ¬ref = other := fun equal => same equal.symm
    simp [same, different]

theorem read_modify (store : Store α) (ref other : Nat) (change : α → α) :
    (store.modify ref change).read other =
      if other = ref then (store.read ref).map change else store.read other := by
  simp only [read, modify, List.getElem?_modify]
  by_cases same : other = ref
  · subst same
    simp
  · have different : ¬ref = other := fun equal => same equal.symm
    simp [same, different]

@[simp] theorem size_alloc (store : Store α) (value : α) :
    (store.alloc value).2.size = store.size + 1 := by
  simp [alloc, size]

@[simp] theorem size_write (store : Store α) (ref : Nat) (value : α) :
    (store.write ref value).size = store.size := by
  simp [write, size]

@[simp] theorem size_modify (store : Store α) (ref : Nat) (change : α → α) :
    (store.modify ref change).size = store.size := by
  simp [modify, size]

@[simp] theorem read_map {β : Type} (change : α → β) (store : Store α) (ref : Nat) :
    (store.map change).read ref = (store.read ref).map change :=
  List.getElem?_map

theorem alloc_map {β : Type} (change : α → β) (store : Store α) (value : α) :
    (store.map change).alloc (change value) =
      ((store.alloc value).1, (store.alloc value).2.map change) := by
  simp [alloc, map]

theorem map_write {β : Type} (change : α → β) (store : Store α) (ref : Nat) (value : α) :
    (store.write ref value).map change = (store.map change).write ref (change value) := by
  simp [write, map]

/-- A change that each object makes in its own way. -/
theorem map_modify {β : Type} {change : α → β} {edit : α → α} {other_edit : β → β}
    (commutes : ∀ value, change (edit value) = other_edit (change value)) (store : Store α)
    (ref : Nat) : (store.modify ref edit).map change = (store.map change).modify ref other_edit := by
  apply congrArg Store.mk
  apply List.ext_getElem?
  intro index
  simp only [modify, map, List.getElem?_map, List.getElem?_modify]
  cases store.cells[index]? with
  | none => rfl
  | some value =>
    by_cases here : ref = index
    · simp [here, commutes]
    · simp [here]

/-- Every object of the first store is in the second, unchanged. -/
def Extends (before after : Store α) : Prop :=
  ∀ ref value, before.read ref = some value → after.read ref = some value

theorem Extends.refl (store : Store α) : Extends store store := fun _ _ found => found

theorem Extends.trans {first second third : Store α} (left : Extends first second)
    (right : Extends second third) : Extends first third :=
  fun ref value found => right ref value (left ref value found)

theorem extends_alloc (store : Store α) (value : α) : Extends store (store.alloc value).2 := by
  intro ref old found
  rw [read_alloc, if_neg (Nat.ne_of_lt (lt_size_of_read found))]
  exact found

/-- What holds of every object still does when it holds of the new one. -/
theorem all_alloc {holds : Nat → α → Prop} {store : Store α} {value : α}
    (all : ∀ ref old, store.read ref = some old → holds ref old) (new : holds store.size value)
    (ref : Nat) (found : α) (read : (store.alloc value).2.read ref = some found) :
    holds ref found := by
  rw [read_alloc] at read
  split at read
  next fresh =>
    cases read
    rw [fresh]
    exact new
  next => exact all ref found read

/-- No two objects refer to the same thing. -/
def Apart (refers : α → Option Nat) (store : Store α) : Prop :=
  ∀ thing left one right other, store.read left = some one → store.read right = some other →
    refers one = some thing → refers other = some thing → left = right

theorem apart_empty (refers : α → Option Nat) : (empty : Store α).Apart refers := by
  intro thing left one right other found
  cases found

/-- A new object that refers to nothing that an old one refers to. -/
theorem Apart.alloc {refers : α → Option Nat} {store : Store α} {value : α}
    (apart : store.Apart refers)
    (fresh : ∀ thing ref old, store.read ref = some old → refers old = some thing →
      refers value ≠ some thing) : (store.alloc value).2.Apart refers := by
  intro thing left one right other one_found other_found one_refers other_refers
  rw [read_alloc] at one_found other_found
  split at one_found
  next left_new =>
    cases one_found
    split at other_found
    next right_new => rw [left_new, right_new]
    next => exact absurd one_refers (fresh thing right other other_found other_refers)
  next =>
    split at other_found
    next right_new =>
      cases other_found
      exact absurd other_refers (fresh thing left one one_found one_refers)
    next => exact apart thing left one right other one_found other_found one_refers other_refers

end Store

end NodeRedBull.Library
