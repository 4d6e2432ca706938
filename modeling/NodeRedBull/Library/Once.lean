import Mathlib.Data.List.Nodup

/-! Reports of events, one for each key: what has been told after every event, whether the event
was the first of its key or not. -/

namespace NodeRedBull.Library

variable {α κ : Type} {key : α → κ}

/-- Each key of the events has been told by exactly one of them. -/
structure OncePerKey (key : α → κ) (events told : List α) : Prop where
  among : told ⊆ events
  once : (told.map key).Nodup
  all : ∀ event ∈ events, key event ∈ told.map key

namespace OncePerKey

theorem nil (key : α → κ) : OncePerKey key [] [] := ⟨by simp, List.nodup_nil, by simp⟩

variable {events told : List α} {event : α}

theorem key_told_iff (reported : OncePerKey key events told) (name : κ) :
    name ∈ told.map key ↔ name ∈ events.map key := by
  constructor
  · exact fun member => List.map_subset key reported.among member
  · intro member
    obtain ⟨event, occurred, rfl⟩ := List.mem_map.mp member
    exact reported.all event occurred

/-- Another event of a key that has been told. -/
theorem again (reported : OncePerKey key events told) (known : key event ∈ events.map key) :
    OncePerKey key (events ++ [event]) told := by
  refine ⟨fun _ member => List.mem_append_left _ (reported.among member), reported.once, ?_⟩
  intro other member
  rcases List.mem_append.mp member with old | new
  · exact reported.all other old
  · rw [List.mem_singleton.mp new]
    exact (reported.key_told_iff _).mpr known

/-- The first event of its key is told. -/
theorem first (reported : OncePerKey key events told) (fresh : key event ∉ events.map key) :
    OncePerKey key (events ++ [event]) (told ++ [event]) := by
  refine ⟨?_, ?_, ?_⟩
  · intro other member
    rcases List.mem_append.mp member with old | new
    · exact List.mem_append_left _ (reported.among old)
    · exact List.mem_append_right _ new
  · rw [List.map_append, List.map_singleton]
    apply List.nodup_append.mpr
    refine ⟨reported.once, List.nodup_singleton _, ?_⟩
    intro name old other new same
    rw [List.mem_singleton.mp new] at same
    exact fresh ((reported.key_told_iff _).mp (same ▸ old))
  · intro other member
    rw [List.map_append]
    rcases List.mem_append.mp member with old | new
    · exact List.mem_append_left _ (reported.all other old)
    · rw [List.mem_singleton.mp new]
      exact List.mem_append_right _ (by simp)

end OncePerKey

/-- In a list without repeated keys only one item has the key of a given one. -/
theorem filter_key_eq_singleton [DecidableEq κ] {items : List α} {item : α}
    (nodup : (items.map key).Nodup) (member : item ∈ items) :
    items.filter (fun other => decide (key other = key item)) = [item] := by
  induction items with
  | nil => cases member
  | cons first rest ih =>
    rw [List.map_cons, List.nodup_cons] at nodup
    rcases List.mem_cons.mp member with rfl | later
    · have none_ : rest.filter (fun other => decide (key other = key item)) = [] := by
        rw [List.filter_eq_nil_iff]
        intro other among same
        exact nodup.1 (of_decide_eq_true same ▸ List.mem_map_of_mem among)
      rw [List.filter_cons_of_pos (by simp), none_]
    · have different : key first ≠ key item :=
        fun same => nodup.1 (same ▸ List.mem_map_of_mem later)
      rw [List.filter_cons_of_neg (by simpa using different), ih nodup.2 later]

end NodeRedBull.Library
