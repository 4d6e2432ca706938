import NodeRedBull.Library.Pool

/-! A pool with a clock. Time does not pass a limit within which a call is answered, so a body whose
limits add up to a budget has ended when its budget is spent. -/

namespace NodeRedBull.Library

variable {σ κ : Type} {ρ : κ → Type} {ε α β μ : Type}

/-! ## Budgets of bodies -/

namespace Async

/-- The limits of the calls that the body makes, whatever it is answered, add up to the budget at
most. -/
def CostsAtMost (limit : κ → Option Nat) (program : Async σ κ ρ ε α) (budget : Nat) : Prop :=
  match program with
  | .pure _ | .throw _ => True
  | .read next => ∀ state, (next state).CostsAtMost limit budget
  | .write _ next => next.CostsAtMost limit budget
  | .await call next => ∃ time rest, limit call = some time ∧ time + rest ≤ budget ∧
      ∀ reply, (next reply).CostsAtMost limit rest

variable {limit : κ → Option Nat} {budget further : Nat}

theorem costs_mono {program : Async σ κ ρ ε α} {larger : Nat}
    (costs : program.CostsAtMost limit budget) (included : budget ≤ larger) :
    program.CostsAtMost limit larger := by
  induction program generalizing budget larger with
  | pure value => trivial
  | throw error => trivial
  | read next ih => exact fun state => ih state (costs state) included
  | write state next ih => exact ih costs included
  | await call next _ =>
    obtain ⟨time, rest, limited, spent, later⟩ := costs
    exact ⟨time, rest, limited, by omega, later⟩

theorem costs_pure (value : α) : (Pure.pure value : Async σ κ ρ ε α).CostsAtMost limit 0 := trivial

theorem costs_throw (error : ε) :
    (MonadExcept.throw error : Async σ κ ρ ε α).CostsAtMost limit 0 := trivial

theorem costs_get : (get : Async σ κ ρ ε σ).CostsAtMost limit 0 := fun _ => trivial

theorem costs_modify (change : σ → σ) :
    (modify change : Async σ κ ρ ε PUnit).CostsAtMost limit 0 := fun _ => trivial

theorem costs_call {request : κ} {time : Nat} (limited : limit request = some time) :
    (call request : Async σ κ ρ ε (ρ request)).CostsAtMost limit time := by
  refine ⟨time, 0, limited, by omega, fun reply => ?_⟩
  cases reply <;> trivial

theorem costs_bind {program : Async σ κ ρ ε α} {rest : α → Async σ κ ρ ε β}
    (first : program.CostsAtMost limit budget)
    (second : ∀ value, (rest value).CostsAtMost limit further) :
    (program >>= rest).CostsAtMost limit (budget + further) := by
  change (program.bind rest).CostsAtMost limit (budget + further)
  induction program generalizing budget with
  | pure value => exact costs_mono (second value) (by omega)
  | throw error => trivial
  | read next ih => exact fun state => ih state (first state)
  | write state next ih => exact ih first
  | await call next ih =>
    obtain ⟨time, left, limited, spent, later⟩ := first
    exact ⟨time, left + further, limited, by omega, fun reply => ih reply (later reply)⟩

theorem costs_tryCatch {program : Async σ κ ρ ε α} {handler : ε → Async σ κ ρ ε α}
    (first : program.CostsAtMost limit budget)
    (second : ∀ error, (handler error).CostsAtMost limit further) :
    (MonadExcept.tryCatch program handler).CostsAtMost limit (budget + further) := by
  change (program.tryCatch handler).CostsAtMost limit (budget + further)
  induction program generalizing budget with
  | pure value => trivial
  | throw error => exact costs_mono (second error) (by omega)
  | read next ih => exact fun state => ih state (first state)
  | write state next ih => exact ih first
  | await call next ih =>
    obtain ⟨time, left, limited, spent, later⟩ := first
    exact ⟨time, left + further, limited, by omega, fun reply => ih reply (later reply)⟩

/-- What costs nothing before a body does not count. -/
theorem costs_after {program : Async σ κ ρ ε α} {rest : α → Async σ κ ρ ε β}
    (first : program.CostsAtMost limit 0)
    (second : ∀ value, (rest value).CostsAtMost limit budget) :
    (program >>= rest).CostsAtMost limit budget := by
  have both := costs_bind first second
  rwa [Nat.zero_add] at both

/-- Neither does what costs nothing after it. -/
theorem costs_before {program : Async σ κ ρ ε α} {rest : α → Async σ κ ρ ε β}
    (first : program.CostsAtMost limit budget)
    (second : ∀ value, (rest value).CostsAtMost limit 0) :
    (program >>= rest).CostsAtMost limit budget :=
  costs_bind first second

/-- A handler that costs nothing. -/
theorem costs_caught {program : Async σ κ ρ ε α} {handler : ε → Async σ κ ρ ε α}
    (first : program.CostsAtMost limit budget)
    (second : ∀ error, (handler error).CostsAtMost limit 0) :
    (MonadExcept.tryCatch program handler).CostsAtMost limit budget :=
  costs_tryCatch first second

theorem costs_map {program : Async σ κ ρ ε α} (change : α → β)
    (costs : program.CostsAtMost limit budget) : (change <$> program).CostsAtMost limit budget :=
  costs_bind costs fun value => costs_pure (change value)

end Async

/-- The same for a body that has stopped. -/
def Paused.CostsAtMost (limit : κ → Option Nat) (budget : Nat) : Paused σ κ ρ ε α → Prop
  | .finished _ => True
  | .awaiting call next => ∃ time rest, limit call = some time ∧ time + rest ≤ budget ∧
      ∀ reply, (next reply).CostsAtMost limit rest

theorem Async.segment_costs {program : Async σ κ ρ ε α} {limit : κ → Option Nat} {budget : Nat}
    (costs : program.CostsAtMost limit budget) (state : σ) :
    (program.segment state).2.CostsAtMost limit budget := by
  induction program generalizing state with
  | pure value => trivial
  | throw error => trivial
  | read next ih => exact ih state (costs state) state
  | write stored next ih => exact ih costs stored
  | await call next _ => exact costs

/-! ## Pools with a clock -/

/-- When a task was started and when it last stopped. -/
structure Stamp where
  started : Nat
  stopped : Nat

structure TimedPool (σ κ : Type) (ρ : κ → Type) (ε α μ : Type) where
  pool : Pool σ κ ρ ε α μ
  clock : Nat
  stamps : List Stamp

/-- Time passes, or the pool moves. -/
inductive TimedMove (κ : Type) (ρ : κ → Type) (ε μ : Type) where
  | wait (time : Nat)
  | move (move : PoolMove κ ρ ε μ)

/-- The stamps after a move: that of the answered task, and one for each task that was started. -/
def PoolMove.restamp (clock count : Nat) (stamps : List Stamp) : PoolMove κ ρ ε μ → List Stamp
  | .start _ => stamps ++ List.replicate (count - stamps.length) ⟨clock, clock⟩
  | .resume index _ _ => (stamps.modify index fun stamp => { stamp with stopped := clock }) ++
      List.replicate (count - stamps.length) ⟨clock, clock⟩

variable (system : System σ κ ρ ε α μ) (limit : κ → Option Nat)

/-- Time passes only as long as no task waits longer than its call may take; a move takes none. -/
inductive TimedStep :
    TimedPool σ κ ρ ε α μ → TimedMove κ ρ ε μ → TimedPool σ κ ρ ε α μ → Prop where
  | wait {timed : TimedPool σ κ ρ ε α μ} (duration : Nat)
      (due : ∀ (index : Nat) task call next (stamp : Stamp) (time : Nat),
        timed.pool.tasks[index]? = some (task, Paused.awaiting call next) →
        timed.stamps[index]? = some stamp → limit call = some time →
        timed.clock + duration ≤ stamp.stopped + time) :
      TimedStep timed (.wait duration) { timed with clock := timed.clock + duration }
  | move {timed : TimedPool σ κ ρ ε α μ} {move : PoolMove κ ρ ε μ} {after : Pool σ κ ρ ε α μ}
      (made : system.Step timed.pool move after) :
      TimedStep timed (.move move)
        ⟨after, timed.clock, move.restamp timed.clock after.tasks.length timed.stamps⟩

def emptyTimed (shared : σ) : TimedPool σ κ ρ ε α μ := ⟨⟨shared, []⟩, 0, []⟩

variable {system limit}

/-- Without its clock a run is a run of the pool. -/
theorem untimed_run {first last : TimedPool σ κ ρ ε α μ}
    (run : Runs (TimedStep system limit) anyMove first last) :
    Runs system.Step anyMove first.pool last.pool := by
  induction run with
  | refl => exact .refl _
  | tail _ step ih =>
    obtain ⟨move, _, made⟩ := step
    cases made with
    | wait duration due => exact ih
    | move made => exact ih.extend trivial made

/-! ## What a move does to the tasks -/

/-- A task that has just run its first segment. -/
def System.Begun (system : System σ κ ρ ε α μ) (entry : μ × Paused σ κ ρ ε α) : Prop :=
  ∃ index state, entry.2 = ((system.body index entry.1).segment state).2

theorem begun_foldl (system : System σ κ ρ ε α μ) (tasks : List μ) (pool : Pool σ κ ρ ε α μ) :
    ∃ begun : List (μ × Paused σ κ ρ ε α), (∀ entry ∈ begun, system.Begun entry) ∧
      (tasks.foldl system.begin pool).tasks = pool.tasks ++ begun := by
  induction tasks generalizing pool with
  | nil => exact ⟨[], by simp, (List.append_nil _).symm⟩
  | cons task rest ih =>
    obtain ⟨begun, fresh, tasks⟩ := ih (system.begin pool task)
    refine ⟨(task, ((system.body pool.tasks.length task).segment pool.shared).2) :: begun, ?_, ?_⟩
    · intro entry member
      rcases List.mem_cons.mp member with first | later
      · exact ⟨pool.tasks.length, pool.shared, by rw [first]⟩
      · exact fresh entry later
    · rw [List.foldl_cons, tasks]
      simp [System.begin]

theorem start_tasks (system : System σ κ ρ ε α μ) (pool : Pool σ κ ρ ε α μ) (task : μ) :
    ∃ begun : List (μ × Paused σ κ ρ ε α), (∀ entry ∈ begun, system.Begun entry) ∧
      (system.start pool task).tasks = pool.tasks ++ begun := by
  obtain ⟨begun, fresh, tasks⟩ := begun_foldl system
    (system.forked pool.tasks.length ((system.body pool.tasks.length task).segment pool.shared).2)
    ⟨((system.body pool.tasks.length task).segment pool.shared).1, pool.tasks ++
      [(task, ((system.body pool.tasks.length task).segment pool.shared).2)]⟩
  refine ⟨(task, ((system.body pool.tasks.length task).segment pool.shared).2) :: begun, ?_, ?_⟩
  · intro entry member
    rcases List.mem_cons.mp member with first | later
    · exact ⟨pool.tasks.length, pool.shared, by rw [first]⟩
    · exact fresh entry later
  · have appended := tasks
    rw [List.append_assoc] at appended
    exact appended

theorem resume_tasks (system : System σ κ ρ ε α μ) (pool : Pool σ κ ρ ε α μ) (index : Nat)
    (task : μ) (rest : Async σ κ ρ ε α) :
    ∃ begun : List (μ × Paused σ κ ρ ε α), (∀ entry ∈ begun, system.Begun entry) ∧
      (system.resume pool index task rest).tasks =
        pool.tasks.set index (task, (rest.segment pool.shared).2) ++ begun :=
  begun_foldl system _ ⟨(rest.segment pool.shared).1,
    pool.tasks.set index (task, (rest.segment pool.shared).2)⟩

/-! ## Tasks end within their budget -/

/-- The stamps fit the tasks, no limit has been passed, and what a task with a budget may still
take is left of it. -/
structure Punctual (limit : κ → Option Nat) (budget : μ → Option Nat)
    (timed : TimedPool σ κ ρ ε α μ) : Prop where
  stamped : timed.stamps.length = timed.pool.tasks.length
  past : ∀ (index : Nat) stamp, timed.stamps[index]? = some stamp →
    stamp.started ≤ stamp.stopped ∧ stamp.stopped ≤ timed.clock
  due : ∀ (index : Nat) task call next (stamp : Stamp) (time : Nat),
    timed.pool.tasks[index]? = some (task, Paused.awaiting call next) →
    timed.stamps[index]? = some stamp → limit call = some time →
    timed.clock ≤ stamp.stopped + time
  costs : ∀ (index : Nat) task paused stamp total, timed.pool.tasks[index]? = some (task, paused) →
    timed.stamps[index]? = some stamp → budget task = some total →
    ∃ rest, stamp.stopped - stamp.started + rest ≤ total ∧ paused.CostsAtMost limit rest

/-- Every task with a budget keeps to it. -/
def Affordable (system : System σ κ ρ ε α μ) (limit : κ → Option Nat) (budget : μ → Option Nat) :
    Prop :=
  ∀ index task total, budget task = some total → (system.body index task).CostsAtMost limit total

variable {budget : μ → Option Nat}

theorem punctual_empty (shared : σ) :
    Punctual limit budget (emptyTimed shared : TimedPool σ κ ρ ε α μ) := by
  constructor
  · rfl
  · intro index stamp found
    cases found
  · intro index task call next stamp time found
    cases found
  · intro index task paused stamp total found
    cases found

theorem punctual_wait {timed : TimedPool σ κ ρ ε α μ} (holds : Punctual limit budget timed)
    (duration : Nat)
    (due : ∀ (index : Nat) task call next (stamp : Stamp) (time : Nat),
      timed.pool.tasks[index]? = some (task, Paused.awaiting call next) →
      timed.stamps[index]? = some stamp → limit call = some time →
      timed.clock + duration ≤ stamp.stopped + time) :
    Punctual limit budget { timed with clock := timed.clock + duration } where
  stamped := holds.stamped
  past := by
    intro index stamp found
    have before := holds.past index stamp found
    exact ⟨before.1, Nat.le_add_right_of_le before.2⟩
  due := due
  costs := holds.costs

/-- Tasks that have just begun come after the others, with fresh stamps. -/
theorem punctual_append {timed : TimedPool σ κ ρ ε α μ} (affordable : Affordable system limit budget)
    (holds : Punctual limit budget timed) (shared : σ)
    {begun : List (μ × Paused σ κ ρ ε α)} (fresh : ∀ entry ∈ begun, system.Begun entry) :
    Punctual limit budget ⟨⟨shared, timed.pool.tasks ++ begun⟩, timed.clock,
      timed.stamps ++ List.replicate begun.length ⟨timed.clock, timed.clock⟩⟩ := by
  have lengths := holds.stamped
  have stamps : ∀ (index : Nat) stamp,
      (timed.stamps ++ List.replicate begun.length ⟨timed.clock, timed.clock⟩)[index]? =
        some stamp → timed.stamps[index]? = some stamp ∨
          timed.pool.tasks.length ≤ index ∧ stamp = ⟨timed.clock, timed.clock⟩ := by
    intro index stamp found
    rw [List.getElem?_append] at found
    split at found
    next old => exact .inl found
    next new =>
      have member := List.mem_of_getElem? found
      exact .inr ⟨by omega, (List.mem_replicate.mp member).2⟩
  constructor
  · simp [lengths]
  · intro index stamp found
    rcases stamps index stamp found with old | new
    · exact holds.past index stamp old
    · rw [new.2]
      exact ⟨Nat.le_refl _, Nat.le_refl _⟩
  · intro index task call next stamp time waiting found limited
    rcases stamps index stamp found with old | new
    · have bound := (List.getElem?_eq_some_iff.mp old).1
      rw [List.getElem?_append_left (by omega)] at waiting
      exact holds.due index task call next stamp time waiting old limited
    · rw [new.2]
      exact Nat.le_add_right _ _
  · intro index task paused stamp total here found paid
    rcases stamps index stamp found with old | new
    · have bound := (List.getElem?_eq_some_iff.mp old).1
      rw [List.getElem?_append_left (by omega)] at here
      exact holds.costs index task paused stamp total here old paid
    · rw [List.getElem?_append_right new.1] at here
      obtain ⟨position, state, segment⟩ := fresh _ (List.mem_of_getElem? here)
      refine ⟨total, ?_, ?_⟩
      · rw [new.2]
        simp
      · have stopped : paused = ((system.body position task).segment state).2 := segment
        rw [stopped]
        exact Async.segment_costs (affordable position task total paid) state

/-- A task is answered and goes on to where it stops next. -/
theorem punctual_answer {timed : TimedPool σ κ ρ ε α μ} (holds : Punctual limit budget timed)
    {index : Nat} {task : μ} {call : κ} {next : Except ε (ρ call) → Async σ κ ρ ε α}
    (waiting : timed.pool.tasks[index]? = some (task, .awaiting call next))
    (reply : Except ε (ρ call)) (shared : σ) :
    Punctual limit budget ⟨⟨shared, timed.pool.tasks.set index
      (task, ((next reply).segment timed.pool.shared).2)⟩, timed.clock,
      timed.stamps.modify index fun stamp => { stamp with stopped := timed.clock }⟩ := by
  have stamps : ∀ (other : Nat) stamp,
      (timed.stamps.modify index fun stamp => { stamp with stopped := timed.clock })[other]? =
        some stamp → ∃ before, timed.stamps[other]? = some before ∧
          stamp = if index = other then { before with stopped := timed.clock } else before := by
    intro other stamp found
    rw [List.getElem?_modify] at found
    obtain ⟨before, old, same⟩ := Option.map_eq_some_iff.mp found
    refine ⟨before, old, same.symm.trans ?_⟩
    split
    · rfl
    · rfl
  have bound := (List.getElem?_eq_some_iff.mp waiting).1
  constructor
  · simp [holds.stamped]
  · intro other stamp found
    obtain ⟨before, old, same⟩ := stamps other stamp found
    have ordered := holds.past other before old
    rw [same]
    split
    · exact ⟨by dsimp only; omega, Nat.le_refl _⟩
    · exact ordered
  · intro other found_task asked further stamp time here found limited
    obtain ⟨before, old, same⟩ := stamps other stamp found
    by_cases answered : index = other
    · rw [same, if_pos answered]
      exact Nat.le_add_right _ _
    · rw [List.getElem?_set_ne answered] at here
      rw [same, if_neg answered]
      exact holds.due other found_task asked further before time here old limited
  · intro other found_task paused stamp total here found paid
    obtain ⟨before, old, same⟩ := stamps other stamp found
    by_cases answered : index = other
    · subst answered
      rw [List.getElem?_set_self bound] at here
      cases here
      obtain ⟨rest, spent, costs⟩ :=
        holds.costs index task _ before total waiting old paid
      obtain ⟨time, left, limited, charged, later⟩ := costs
      have in_time := holds.due index task call next before time waiting old limited
      have ordered := holds.past index before old
      refine ⟨left, ?_, Async.segment_costs (later reply) timed.pool.shared⟩
      rw [same, if_pos rfl]
      dsimp only
      omega
    · rw [List.getElem?_set_ne answered] at here
      rw [same, if_neg answered]
      exact holds.costs other found_task paused before total here old paid

theorem punctual_step {before after : TimedPool σ κ ρ ε α μ} {move : TimedMove κ ρ ε μ}
    (affordable : Affordable system limit budget) (holds : Punctual limit budget before)
    (made : TimedStep system limit before move after) : Punctual limit budget after := by
  cases made with
  | wait duration due => exact punctual_wait holds duration due
  | @move move pool made =>
    cases made with
    | @start task launched =>
      obtain ⟨begun, fresh, tasks⟩ := start_tasks system before.pool task
      have appended := punctual_append affordable holds (system.start before.pool task).shared fresh
      have count : (system.start before.pool task).tasks.length - before.stamps.length =
          begun.length := by
        rw [tasks, List.length_append, holds.stamped]
        omega
      unfold PoolMove.restamp
      dsimp only
      rw [count]
      rw [← tasks] at appended
      exact appended
    | @resume index task call next reply waiting answer =>
      obtain ⟨begun, fresh, tasks⟩ := resume_tasks system before.pool index task (next reply)
      have answered := punctual_answer holds waiting reply before.pool.shared
      have appended := punctual_append affordable answered
        (system.resume before.pool index task (next reply)).shared fresh
      have count : (system.resume before.pool index task (next reply)).tasks.length -
          before.stamps.length = begun.length := by
        rw [tasks, List.length_append, List.length_set, holds.stamped]
        omega
      unfold PoolMove.restamp
      dsimp only
      rw [count]
      dsimp only at appended
      rw [← tasks] at appended
      exact appended

theorem punctual_run {shared : σ} {timed : TimedPool σ κ ρ ε α μ}
    (affordable : Affordable system limit budget)
    (run : Runs (TimedStep system limit) anyMove (emptyTimed shared) timed) :
    Punctual limit budget timed :=
  run.invariant (punctual_empty shared) fun _ _ _ holds _ made => punctual_step affordable holds made

/-- A task with a budget has ended, or its budget is not spent yet. -/
theorem Punctual.ends {timed : TimedPool σ κ ρ ε α μ} (holds : Punctual limit budget timed)
    {index : Nat} {task : μ} {paused : Paused σ κ ρ ε α} {stamp : Stamp} {total : Nat}
    (found : timed.pool.tasks[index]? = some (task, paused))
    (stamped : timed.stamps[index]? = some stamp) (paid : budget task = some total) :
    (∃ result, paused = .finished result) ∨ timed.clock ≤ stamp.started + total := by
  cases paused with
  | finished result => exact .inl ⟨result, rfl⟩
  | awaiting call next =>
    obtain ⟨rest, spent, costs⟩ := holds.costs index task _ stamp total found stamped paid
    obtain ⟨time, left, limited, charged, _⟩ := costs
    have in_time := holds.due index task call next stamp time found stamped limited
    have ordered := holds.past index stamp stamped
    exact .inr (by omega)

/-! ## Tasks that a call starts -/

/-- Which task started a task, if another one did. -/
structure Parented (system : System σ κ ρ ε α μ) (parent : μ → Option Nat) : Prop where
  forked : ∀ index call task, task ∈ system.forks index call → parent task = some index
  launched : ∀ pool task, system.launch pool task → parent task = none

/-- What was started by another task was started together with it. -/
structure Siblings (parent : μ → Option Nat) (timed : TimedPool σ κ ρ ε α μ) : Prop where
  stamped : timed.stamps.length = timed.pool.tasks.length
  together : ∀ (index : Nat) task paused handler, timed.pool.tasks[index]? = some (task, paused) →
    parent task = some handler → handler < timed.pool.tasks.length ∧
      timed.stamps[index]?.map Stamp.started = timed.stamps[handler]?.map Stamp.started

variable {parent : μ → Option Nat}

theorem siblings_start {timed : TimedPool σ κ ρ ε α μ} {task : μ}
    (parented : Parented system parent) (holds : Siblings parent timed)
    (launched : system.launch timed.pool task) :
    Siblings parent ⟨system.start timed.pool task, timed.clock,
      (PoolMove.start task : PoolMove κ ρ ε μ).restamp timed.clock
        (system.start timed.pool task).tasks.length timed.stamps⟩ := by
  obtain ⟨children, kinds, appended⟩ := System.tasks_foldl_begin system
    (system.forked timed.pool.tasks.length
      ((system.body timed.pool.tasks.length task).segment timed.pool.shared).2)
    ⟨((system.body timed.pool.tasks.length task).segment timed.pool.shared).1, timed.pool.tasks ++
      [(task, ((system.body timed.pool.tasks.length task).segment timed.pool.shared).2)]⟩
  have tasks : (system.start timed.pool task).tasks = timed.pool.tasks ++
      [(task, ((system.body timed.pool.tasks.length task).segment timed.pool.shared).2)] ++
        children := appended
  have stamped := holds.stamped
  have fresh : (system.start timed.pool task).tasks.length - timed.stamps.length =
      children.length + 1 := by
    rw [tasks]
    simp only [List.length_append, List.length_cons, List.length_nil]
    omega
  have newest : ∀ index, timed.pool.tasks.length ≤ index →
      index < timed.pool.tasks.length + (children.length + 1) →
      (timed.stamps ++ List.replicate (children.length + 1) ⟨timed.clock, timed.clock⟩)[index]? =
        some ⟨timed.clock, timed.clock⟩ := by
    intro index beyond bound
    rw [List.getElem?_append_right (by omega), List.getElem?_replicate, if_pos (by omega)]
  unfold PoolMove.restamp
  dsimp only
  rw [fresh]
  constructor
  · rw [tasks]
    simp only [List.length_append, List.length_replicate, List.length_cons, List.length_nil]
    omega
  · intro index found paused handler here child
    dsimp only at here ⊢
    have last := (List.getElem?_eq_some_iff.mp here).1
    rw [tasks] at here last ⊢
    simp only [List.length_append, List.length_cons, List.length_nil] at last ⊢
    by_cases old : index < timed.pool.tasks.length
    · rw [List.append_assoc, List.getElem?_append_left old] at here
      obtain ⟨bound, same⟩ := holds.together index found paused handler here child
      rw [List.getElem?_append_left (by omega), List.getElem?_append_left (by omega)]
      exact ⟨by omega, same⟩
    · have origin : parent found = none ∨ parent found = some timed.pool.tasks.length := by
        rw [List.append_assoc, List.getElem?_append_right (by omega)] at here
        rcases List.mem_cons.mp (List.mem_of_getElem? here) with self | other
        · cases self
          exact .inl (parented.launched _ _ launched)
        · have forked : found ∈ system.forked timed.pool.tasks.length
              ((system.body timed.pool.tasks.length task).segment timed.pool.shared).2 := by
            rw [← kinds]
            exact List.mem_map_of_mem other
          cases ended : ((system.body timed.pool.tasks.length task).segment timed.pool.shared).2 with
          | finished result =>
            rw [ended] at forked
            cases forked
          | awaiting call next =>
            rw [ended] at forked
            exact .inr (parented.forked _ call found forked)
      rcases origin with orphan | parental
      · cases child.symm.trans orphan
      · cases child.symm.trans parental
        rw [newest index (by omega) (by omega), newest _ (Nat.le_refl _) (by omega)]
        exact ⟨by omega, rfl⟩

theorem siblings_resume {timed : TimedPool σ κ ρ ε α μ} {index : Nat} {task : μ}
    {paused stopped : Paused σ κ ρ ε α} (holds : Siblings parent timed)
    (waiting : timed.pool.tasks[index]? = some (task, paused)) {after : Pool σ κ ρ ε α μ}
    (tasks : after.tasks = timed.pool.tasks.set index (task, stopped)) (call : κ)
    (reply : Except ε (ρ call)) :
    Siblings parent ⟨after, timed.clock, (PoolMove.resume index call reply :
      PoolMove κ ρ ε μ).restamp timed.clock after.tasks.length timed.stamps⟩ := by
  have bound := (List.getElem?_eq_some_iff.mp waiting).1
  have stamped := holds.stamped
  have unchanged : after.tasks.length - timed.stamps.length = 0 := by
    rw [tasks, List.length_set]
    omega
  have started : ∀ other : Nat,
      ((timed.stamps.modify index fun stamp => { stamp with stopped := timed.clock })[other]?.map
        Stamp.started) = timed.stamps[other]?.map Stamp.started := by
    intro other
    rw [List.getElem?_modify]
    cases timed.stamps[other]? with
    | none => rfl
    | some stamp =>
      show some _ = some _
      by_cases here : index = other
      · simp [here]
      · simp [here]
  unfold PoolMove.restamp
  dsimp only
  rw [unchanged, List.replicate_zero, List.append_nil]
  constructor
  · rw [tasks]
    simp [stamped]
  · intro other found now handler here child
    dsimp only at here ⊢
    rw [started, started, tasks, List.length_set]
    rw [tasks] at here
    by_cases same : index = other
    · subst same
      rw [List.getElem?_set_self bound] at here
      cases here
      exact holds.together index task paused handler waiting child
    · rw [List.getElem?_set_ne same] at here
      exact holds.together other found now handler here child

/-- Where an answered task starts no others, the tasks that a call started have run as long as the
one that made it. -/
theorem siblings_run {shared : σ} {timed : TimedPool σ κ ρ ε α μ}
    (parented : Parented system parent)
    (alone : ∀ {pool : Pool σ κ ρ ε α μ} {index task call next reply},
      Runs system.Step anyMove ⟨shared, []⟩ pool →
      pool.tasks[index]? = some (task, Paused.awaiting call next) →
      system.answers pool index call reply →
      ∃ stopped, (system.resume pool index task (next reply)).tasks =
        pool.tasks.set index (task, stopped))
    (run : Runs (TimedStep system limit) anyMove (emptyTimed shared) timed) :
    Siblings parent timed := by
  induction run with
  | refl =>
    refine ⟨rfl, ?_⟩
    intro index task paused handler found
    cases found
  | @tail middle last reached step ih =>
    obtain ⟨move, _, made⟩ := step
    have before : Runs system.Step anyMove ⟨shared, []⟩ middle.pool := untimed_run reached
    cases made with
    | wait duration due => exact ⟨ih.stamped, ih.together⟩
    | move made =>
      cases made with
      | start launched => exact siblings_start parented ih launched
      | @resume index task call next reply waiting answer =>
        obtain ⟨stopped, tasks⟩ := alone before waiting answer
        exact siblings_resume ih waiting tasks call reply

end NodeRedBull.Library
