import Mathlib.Data.List.Basic

/-! Cells that are opened one after another. Each takes the first value that it is offered, and
keeps it. -/

namespace NodeRedBull.Library

variable {ω ν : Type}

structure Cell (ω ν : Type) where
  label : ω
  value : Option ν

/-- A value for every cell that it concerns, by its position and its label. -/
inductive CellEvent (ω ν : Type) where
  | opens (label : ω)
  | offers (offer : Nat → ω → Option ν)

def Cell.take (cell : Cell ω ν) (offered : Option ν) : Cell ω ν :=
  { cell with value := cell.value.or offered }

theorem Cell.take_none (cell : Cell ω ν) : cell.take none = cell := by
  unfold take
  rw [Option.or_none]

theorem Cell.take_take (cell : Cell ω ν) (first second : Option ν) :
    (cell.take first).take second = cell.take (first.or second) := by
  unfold take
  rw [Option.or_assoc]

namespace CellEvent

def offered (index : Nat) (label : ω) : CellEvent ω ν → Option ν
  | .opens _ => none
  | .offers offer => offer index label

def apply (cells : List (Cell ω ν)) : CellEvent ω ν → List (Cell ω ν)
  | .opens label => cells ++ [⟨label, none⟩]
  | .offers offer => cells.mapIdx fun index cell => cell.take (offer index cell.label)

/-- The cells after these events. -/
def cellsAfter (events : List (CellEvent ω ν)) : List (Cell ω ν) := events.foldl apply []

theorem cellsAfter_append (events : List (CellEvent ω ν)) (event : CellEvent ω ν) :
    cellsAfter (events ++ [event]) = event.apply (cellsAfter events) := by
  unfold cellsAfter
  rw [List.foldl_append]
  rfl

variable {cells : List (Cell ω ν)} {cell : Cell ω ν} {index : Nat}

theorem getElem?_apply (event : CellEvent ω ν) (found : cells[index]? = some cell) :
    (event.apply cells)[index]? = some (cell.take (event.offered index cell.label)) := by
  cases event with
  | opens label =>
    have below := (List.getElem?_eq_some_iff.mp found).1
    change (cells ++ [⟨label, none⟩])[index]? = some (cell.take none)
    rw [List.getElem?_append_left below, found, Cell.take_none]
  | offers offer =>
    change (cells.mapIdx fun index cell => cell.take (offer index cell.label))[index]? = _
    rw [List.getElem?_mapIdx, found]
    rfl

/-- A cell has what it had, or else the first value that came for it. -/
theorem getElem?_foldl_apply (events : List (CellEvent ω ν)) (found : cells[index]? = some cell) :
    (events.foldl apply cells)[index]? =
      some (cell.take (events.findSome? (offered index cell.label))) := by
  induction events generalizing cells cell with
  | nil => exact found.trans (congrArg some cell.take_none.symm)
  | cons event rest ih =>
    have first : (event :: rest).findSome? (offered index cell.label) =
        (event.offered index cell.label).or (rest.findSome? (offered index cell.label)) := by
      rw [List.findSome?_cons]
      cases event.offered index cell.label <;> rfl
    rw [List.foldl_cons, ih (getElem?_apply event found), Cell.take_take, first]
    rfl

/-- The cell that an event opens has the first value that came for it afterwards. -/
theorem opened_cell {events : List (CellEvent ω ν)} {position : Nat} {label : ω}
    (opened : events[position]? = some (.opens label)) (index : Nat)
    (place : index = (cellsAfter (events.take position)).length) :
    (cellsAfter events)[index]? =
      some ⟨label, (events.drop (position + 1)).findSome? (offered index label)⟩ := by
  obtain ⟨below, there⟩ := List.getElem?_eq_some_iff.mp opened
  have split : events = events.take position ++ .opens label :: events.drop (position + 1) := by
    rw [← there, List.getElem_cons_drop, List.take_append_drop]
  have new : (apply (cellsAfter (events.take position)) (.opens label))[index]? =
      some ⟨label, none⟩ := by
    rw [place]
    exact List.getElem?_concat_length
  calc (cellsAfter events)[index]?
      = ((events.drop (position + 1)).foldl apply
          (apply (cellsAfter (events.take position)) (.opens label)))[index]? := by
        conv_lhs => rw [split]
        unfold cellsAfter
        rw [List.foldl_append, List.foldl_cons]
    _ = some ⟨label, (events.drop (position + 1)).findSome? (offered index label)⟩ := by
        rw [getElem?_foldl_apply _ new]
        rfl

end CellEvent

end NodeRedBull.Library
