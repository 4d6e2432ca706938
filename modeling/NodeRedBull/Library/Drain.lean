import NodeRedBull.Library.Pool

/-! Pools in which one task after another can be brought to its end. -/

namespace NodeRedBull.Library

variable {σ κ : Type} {ρ : κ → Type} {ε α μ : Type}

namespace System

/-- The chosen tasks before `bound` have ended, and all other tasks are where they were. -/
structure Drained (chosen : μ → Prop) (bound : Nat) (pool last : Pool σ κ ρ ε α μ) : Prop where
  ended : ∀ (index : Nat) (task : μ) (paused : Paused σ κ ρ ε α), index < bound →
    pool.tasks[index]? = some (task, paused) → chosen task →
      ∃ result, last.tasks[index]? = some (task, .finished result)
  others : ∀ index : Nat, (bound ≤ index ∨ ∀ (task : μ) (paused : Paused σ κ ρ ε α),
    pool.tasks[index]? = some (task, paused) → ¬chosen task) →
      last.tasks[index]? = pool.tasks[index]?

variable {system : System σ κ ρ ε α μ}
variable {allowed : Pool σ κ ρ ε α μ → PoolMove κ ρ ε μ → Prop}
variable {chosen : μ → Prop} {holds : Pool σ κ ρ ε α μ → Prop} {pool : Pool σ κ ρ ε α μ}

/-- If each chosen task can be brought to its end alone, all of them can. -/
theorem drains
    (each : ∀ (pool : Pool σ κ ρ ε α μ) (index : Nat) (task : μ) (paused : Paused σ κ ρ ε α),
      holds pool → pool.tasks[index]? = some (task, paused) → chosen task →
        ∃ last, Runs system.Step allowed pool last ∧ holds last ∧
          (∃ result, last.tasks[index]? = some (task, .finished result)) ∧
          ∀ other, other ≠ index → last.tasks[other]? = pool.tasks[other]?)
    (held : holds pool) (bound : Nat) :
    ∃ last, Runs system.Step allowed pool last ∧ holds last ∧ Drained chosen bound pool last := by
  induction bound with
  | zero =>
    exact ⟨pool, .refl pool, held, fun index _ _ below => absurd below (Nat.not_lt_zero index),
      fun _ _ => rfl⟩
  | succ bound ih =>
    obtain ⟨middle, run, still, drained⟩ := ih
    have here : middle.tasks[bound]? = pool.tasks[bound]? := drained.others bound (.inl (Nat.le_refl bound))
    by_cases due : ∃ task paused, pool.tasks[bound]? = some (task, paused) ∧ chosen task
    · obtain ⟨task, paused, found, picked⟩ := due
      obtain ⟨last, further, kept, ended, others⟩ :=
        each middle bound task paused still (here.trans found) picked
      refine ⟨last, run.trans further, kept, ?_, ?_⟩
      · intro index other stopped below member chosen
        by_cases same : index = bound
        · subst same
          cases found.symm.trans member
          exact ended
        · rw [others index same]
          exact drained.ended index other stopped (by omega) member chosen
      · intro index apart
        have different : index ≠ bound := by
          intro same
          subst same
          rcases apart with beyond | never
          · omega
          · exact never task paused found picked
        rw [others index different]
        apply drained.others
        exact apart.imp (fun beyond => by omega) fun never => never
    · refine ⟨middle, run, still, ?_, ?_⟩
      · intro index task paused below member picked
        have different : index ≠ bound := by
          intro same
          subst same
          exact due ⟨task, paused, member, picked⟩
        exact drained.ended index task paused (by omega) member picked
      · intro index apart
        apply drained.others
        rcases apart with beyond | never
        · exact .inl (by omega)
        · exact .inr never

theorem Drained.kinds {last : Pool σ κ ρ ε α μ}
    (drained : Drained chosen pool.tasks.length pool last) :
    last.tasks.map Prod.fst = pool.tasks.map Prod.fst := by
  apply List.ext_getElem?
  intro index
  rw [List.getElem?_map, List.getElem?_map]
  cases found : pool.tasks[index]? with
  | none =>
    rw [drained.others index (.inr fun task paused member => by rw [found] at member; cases member),
      found]
  | some entry =>
    obtain ⟨task, paused⟩ := entry
    by_cases picked : chosen task
    · obtain ⟨result, ended⟩ := drained.ended index task paused
        (List.getElem?_eq_some_iff.mp found).1 found picked
      rw [ended]
      rfl
    · have same := drained.others index (.inr fun other stopped member => by
        cases found.symm.trans member
        exact picked)
      rw [same, found]

/-- A task of the one pool is in the other too. -/
theorem found_of_kinds {first last : Pool σ κ ρ ε α μ}
    (kinds : last.tasks.map Prod.fst = first.tasks.map Prod.fst) {index : Nat} {task : μ}
    {paused : Paused σ κ ρ ε α} (found : last.tasks[index]? = some (task, paused)) :
    ∃ stopped, first.tasks[index]? = some (task, stopped) := by
  have kind : (first.tasks.map Prod.fst)[index]? = some task := by
    rw [← kinds, List.getElem?_map, found]
    rfl
  rw [List.getElem?_map] at kind
  obtain ⟨entry, there, same⟩ := Option.map_eq_some_iff.mp kind
  exact ⟨entry.2, same ▸ there⟩

theorem Drained.finished {last : Pool σ κ ρ ε α μ}
    (drained : Drained chosen pool.tasks.length pool last) {index : Nat} {task : μ}
    {paused : Paused σ κ ρ ε α} (found : last.tasks[index]? = some (task, paused))
    (picked : chosen task) : ∃ result, paused = .finished result := by
  obtain ⟨stopped, there⟩ := found_of_kinds drained.kinds found
  have below := (List.getElem?_eq_some_iff.mp there).1
  obtain ⟨result, ended⟩ := drained.ended index task stopped below there picked
  cases found.symm.trans ended
  exact ⟨result, rfl⟩

end System

end NodeRedBull.Library
