import Mathlib.Data.List.Nodup
import Mathlib.Data.List.Perm.Basic

/-! An insertion-ordered map with distinct keys: setting a present key keeps its
position, a new key is appended, and iteration follows the order of insertion. -/

namespace NodeRedBull.Library

/-- Distinctness of the keys is carried by the map, so a lookup determines its entry. -/
structure OrderedMap (κ ν : Type) where
  entries : List (κ × ν)
  nodup : (entries.map Prod.fst).Nodup

namespace OrderedMap

variable {κ ν : Type}

def empty : OrderedMap κ ν := ⟨[], by simp⟩

def keys (map : OrderedMap κ ν) : List κ := map.entries.map Prod.fst

def values (map : OrderedMap κ ν) : List ν := map.entries.map Prod.snd

variable [DecidableEq κ]

def get (map : OrderedMap κ ν) (key : κ) : Option ν :=
  (map.entries.find? (fun entry => decide (entry.1 = key))).map Prod.snd

def has (map : OrderedMap κ ν) (key : κ) : Bool := (map.get key).isSome

private theorem replace_keys (entries : List (κ × ν)) (key : κ) (value : ν) :
    (entries.map (fun entry => if entry.1 = key then (key, value) else entry)).map Prod.fst =
      entries.map Prod.fst := by
  rw [List.map_map]
  apply List.map_congr_left
  intro entry _
  by_cases same : entry.1 = key
  · simp [same]
  · simp [same]

def set (map : OrderedMap κ ν) (key : κ) (value : ν) : OrderedMap κ ν :=
  if present : key ∈ map.keys then
    ⟨map.entries.map (fun entry => if entry.1 = key then (key, value) else entry), by
      rw [replace_keys]
      exact map.nodup⟩
  else
    ⟨map.entries ++ [(key, value)], by
      rw [List.map_append, List.nodup_append]
      refine ⟨map.nodup, by simp, ?_⟩
      intro old member new fresh same
      simp only [List.map_cons, List.map_nil, List.mem_singleton] at fresh
      exact present (fresh ▸ same ▸ member)⟩

def delete (map : OrderedMap κ ν) (key : κ) : OrderedMap κ ν :=
  ⟨map.entries.filter (fun entry => decide (entry.1 ≠ key)),
    (List.filter_sublist.map Prod.fst).nodup map.nodup⟩

/-- Every entry of `other` is set in turn, so `other` wins on a shared key. -/
def merge (map other : OrderedMap κ ν) : OrderedMap κ ν :=
  other.entries.foldl (fun target entry => target.set entry.1 entry.2) map

theorem get_eq_some_iff (map : OrderedMap κ ν) (key : κ) (value : ν) :
    map.get key = some value ↔ (key, value) ∈ map.entries := by
  obtain ⟨entries, distinct⟩ := map
  simp only [get]
  induction entries with
  | nil => simp
  | cons entry rest ih =>
    obtain ⟨head, stored⟩ := entry
    simp only [List.map_cons, List.nodup_cons] at distinct
    by_cases same : head = key
    · subst same
      have absent : (head, value) ∉ rest := fun member =>
        distinct.1 (List.mem_map.mpr ⟨_, member, rfl⟩)
      simp [absent, eq_comm]
    · have other : key ≠ head := fun equal => same equal.symm
      simpa [List.find?_cons, same, other] using ih distinct.2

theorem get_eq_none_iff (map : OrderedMap κ ν) (key : κ) :
    map.get key = none ↔ key ∉ map.keys := by
  simp only [get, keys, Option.map_eq_none_iff, List.find?_eq_none, decide_eq_true_eq,
    List.mem_map, not_exists, not_and]

theorem mem_values_iff (map : OrderedMap κ ν) (value : ν) :
    value ∈ map.values ↔ ∃ key, map.get key = some value := by
  simp [values, get_eq_some_iff]

@[simp] theorem get_empty (key : κ) : (empty : OrderedMap κ ν).get key = none := rfl

theorem entries_set_of_not_mem (map : OrderedMap κ ν) (key : κ) (value : ν)
    (absent : key ∉ map.keys) : (map.set key value).entries = map.entries ++ [(key, value)] := by
  simp only [set, dif_neg absent]

theorem get_set (map : OrderedMap κ ν) (key other : κ) (value : ν) :
    (map.set key value).get other = if other = key then some value else map.get other := by
  apply Option.ext
  intro found
  by_cases present : key ∈ map.keys
  · rw [get_eq_some_iff]
    simp only [set, dif_pos present, List.mem_map]
    by_cases same : other = key
    · subst same
      obtain ⟨⟨head, old⟩, member, equal⟩ := List.mem_map.mp present
      simp only at equal
      subst equal
      simp only [↓reduceIte, Option.some.injEq]
      constructor
      · intro given
        obtain ⟨⟨head', stored⟩, _, replaced⟩ := given
        by_cases hit : head' = head
        · rw [if_pos hit] at replaced
          exact (Prod.mk.inj replaced).2
        · rw [if_neg hit] at replaced
          exact absurd (Prod.mk.inj replaced).1 hit
      · intro same
        subst same
        exact ⟨_, member, by simp⟩
    · rw [if_neg same, get_eq_some_iff]
      constructor
      · intro given
        obtain ⟨⟨head, stored⟩, member, replaced⟩ := given
        by_cases hit : head = key
        · rw [if_pos hit] at replaced
          exact absurd (Prod.mk.inj replaced).1.symm same
        · rw [if_neg hit] at replaced
          exact replaced ▸ member
      · intro member
        exact ⟨_, member, by simp [same]⟩
  · rw [get_eq_some_iff, entries_set_of_not_mem map key value present]
    by_cases same : other = key
    · subst same
      have unmapped : (other, found) ∉ map.entries := fun member =>
        present (List.mem_map.mpr ⟨_, member, rfl⟩)
      simp [unmapped, eq_comm]
    · simp [same, get_eq_some_iff]

theorem get_delete (map : OrderedMap κ ν) (key other : κ) :
    (map.delete key).get other = if other = key then none else map.get other := by
  apply Option.ext
  intro found
  rw [get_eq_some_iff]
  simp only [delete, List.mem_filter, decide_eq_true_eq]
  by_cases same : other = key
  · simp [same]
  · simp [same, get_eq_some_iff]

/-- Deleting a mapped key takes exactly its own entry out. -/
theorem perm_cons_delete (map : OrderedMap κ ν) (key : κ) (value : ν)
    (found : map.get key = some value) :
    map.entries.Perm ((key, value) :: (map.delete key).entries) := by
  rw [List.perm_ext_iff_of_nodup map.nodup.of_map]
  · intro given
    obtain ⟨head, stored⟩ := given
    simp only [List.mem_cons, Prod.mk.injEq, delete, List.mem_filter, decide_eq_true_eq,
      ← get_eq_some_iff]
    by_cases same : head = key
    · subst same
      simp [found, eq_comm]
    · simp [same]
  · apply List.nodup_cons.mpr
    refine ⟨?_, (map.delete key).nodup.of_map⟩
    simp [delete]

private theorem get_foldl_set (entries : List (κ × ν)) (distinct : (entries.map Prod.fst).Nodup)
    (target : OrderedMap κ ν) (key : κ) :
    (entries.foldl (fun map entry => map.set entry.1 entry.2) target).get key =
      ((⟨entries, distinct⟩ : OrderedMap κ ν).get key).or (target.get key) := by
  induction entries generalizing target with
  | nil => simp [get]
  | cons entry rest ih =>
    obtain ⟨head, value⟩ := entry
    simp only [List.map_cons, List.nodup_cons] at distinct
    rw [List.foldl_cons, ih distinct.2, get_set]
    by_cases same : key = head
    · subst same
      have absent : (⟨rest, distinct.2⟩ : OrderedMap κ ν).get key = none :=
        (get_eq_none_iff _ _).mpr distinct.1
      rw [absent]
      simp [get]
    · have other : ¬ head = key := fun equal => same equal.symm
      simp [get, same, other]

theorem get_merge (map other : OrderedMap κ ν) (key : κ) :
    (map.merge other).get key = (other.get key).or (map.get key) :=
  get_foldl_set other.entries other.nodup map key

end OrderedMap

end NodeRedBull.Library
