import NodeRedBull.Library.Async
import NodeRedBull.Library.Transition

/-! Any number of asynchronous bodies over one shared state. A body runs one segment
at a time; between segments every other body may run, so a proof about a body has to
say what it relies on while it waits. -/

namespace NodeRedBull.Library

/-- Each task keeps the description `μ` it was started from; its index is its identity. -/
structure Pool (σ κ : Type) (ρ : κ → Type) (ε α μ : Type) where
  shared : σ
  tasks : List (μ × Paused σ κ ρ ε α)

/-- `launch` says which tasks the environment may start, `answers` how it may reply to a
waiting task, and `forks` which tasks a call starts at once, in order. -/
structure System (σ κ : Type) (ρ : κ → Type) (ε α μ : Type) where
  body : Nat → μ → Async σ κ ρ ε α
  launch : Pool σ κ ρ ε α μ → μ → Prop
  answers : Pool σ κ ρ ε α μ → Nat → (call : κ) → Except ε (ρ call) → Prop
  forks : Nat → κ → List μ

inductive PoolMove (κ : Type) (ρ : κ → Type) (ε μ : Type) where
  | start (task : μ)
  | resume (index : Nat) (call : κ) (reply : Except ε (ρ call))

namespace System

variable {σ κ : Type} {ρ : κ → Type} {ε α μ : Type} (system : System σ κ ρ ε α μ)

/-- Start one task and run its first segment. -/
def begin (pool : Pool σ κ ρ ε α μ) (task : μ) : Pool σ κ ρ ε α μ :=
  let (shared, paused) := (system.body pool.tasks.length task).segment pool.shared
  ⟨shared, pool.tasks ++ [(task, paused)]⟩

def forked (index : Nat) : Paused σ κ ρ ε α → List μ
  | .finished _ => []
  | .awaiting call _ => system.forks index call

def start (pool : Pool σ κ ρ ε α μ) (task : μ) : Pool σ κ ρ ε α μ :=
  let (shared, paused) := (system.body pool.tasks.length task).segment pool.shared
  (system.forked pool.tasks.length paused).foldl system.begin
    ⟨shared, pool.tasks ++ [(task, paused)]⟩

def resume (pool : Pool σ κ ρ ε α μ) (index : Nat) (task : μ) (rest : Async σ κ ρ ε α) :
    Pool σ κ ρ ε α μ :=
  let (shared, paused) := rest.segment pool.shared
  (system.forked index paused).foldl system.begin
    ⟨shared, pool.tasks.set index (task, paused)⟩

inductive Step : Pool σ κ ρ ε α μ → PoolMove κ ρ ε μ → Pool σ κ ρ ε α μ → Prop where
  | start {pool : Pool σ κ ρ ε α μ} {task : μ} (launched : system.launch pool task) :
      Step pool (.start task) (system.start pool task)
  | resume {pool : Pool σ κ ρ ε α μ} {index : Nat} {task : μ} {call : κ}
      {next : Except ε (ρ call) → Async σ κ ρ ε α} {reply : Except ε (ρ call)}
      (waiting : pool.tasks[index]? = some (task, .awaiting call next))
      (answered : system.answers pool index call reply) :
      Step pool (.resume index call reply) (system.resume pool index task (next reply))

/-- A task that forks nothing. -/
theorem start_eq_begin {pool : Pool σ κ ρ ε α μ} {task : μ}
    (alone : system.forked pool.tasks.length
      ((system.body pool.tasks.length task).segment pool.shared).2 = []) :
    system.start pool task = system.begin pool task := by
  unfold start
  dsimp only
  rw [alone]
  rfl

theorem resume_eq_set {pool : Pool σ κ ρ ε α μ} {index : Nat} {task : μ} {rest : Async σ κ ρ ε α}
    (alone : system.forked index (rest.segment pool.shared).2 = []) :
    system.resume pool index task rest =
      ⟨(rest.segment pool.shared).1,
        pool.tasks.set index (task, (rest.segment pool.shared).2)⟩ := by
  unfold resume
  dsimp only
  rw [alone]
  rfl

@[simp] theorem begin_length (pool : Pool σ κ ρ ε α μ) (task : μ) :
    (system.begin pool task).tasks.length = pool.tasks.length + 1 := by
  simp [System.begin]

/-- Answer the task at `index`, if it waits, from a table of replies. -/
def resumeWith (pool : Pool σ κ ρ ε α μ) (index : Nat) (replies : (call : κ) → Except ε (ρ call)) :
    Pool σ κ ρ ε α μ :=
  match pool.tasks[index]? with
  | some (task, .awaiting call next) => system.resume pool index task (next (replies call))
  | _ => pool

variable {system}
variable {allowed : Pool σ κ ρ ε α μ → PoolMove κ ρ ε μ → Prop} {first pool : Pool σ κ ρ ε α μ}

theorem runs_start (run : Runs system.Step allowed first pool) (task : μ)
    (launched : system.launch pool task) (permitted : allowed pool (.start task)) :
    Runs system.Step allowed first (system.start pool task) :=
  run.extend permitted (.start launched)

theorem step_resumeWith {index : Nat} {replies : (call : κ) → Except ε (ρ call)} {task : μ} {call : κ}
    {next : Except ε (ρ call) → Async σ κ ρ ε α}
    (waiting : pool.tasks[index]? = some (task, .awaiting call next))
    (answered : system.answers pool index call (replies call)) :
    system.Step pool (.resume index call (replies call)) (system.resumeWith pool index replies) := by
  unfold resumeWith
  rw [waiting]
  exact .resume waiting answered

theorem runs_resumeWith {index : Nat} {replies : (call : κ) → Except ε (ρ call)}
    (run : Runs system.Step allowed first pool)
    (answered : ∀ task call next, pool.tasks[index]? = some (task, .awaiting call next) →
      system.answers pool index call (replies call) ∧
        allowed pool (.resume index call (replies call))) :
    Runs system.Step allowed first (system.resumeWith pool index replies) := by
  unfold resumeWith
  split
  next task call next waiting =>
    obtain ⟨answer, permitted⟩ := answered task call next waiting
    exact run.extend permitted (.resume waiting answer)
  next => exact run

/-- The tasks that are started in turn come after the others, in order. -/
theorem tasks_foldl_begin (system : System σ κ ρ ε α μ) (tasks : List μ)
    (pool : Pool σ κ ρ ε α μ) :
    ∃ begun : List (μ × Paused σ κ ρ ε α), begun.map Prod.fst = tasks ∧
      (tasks.foldl system.begin pool).tasks = pool.tasks ++ begun := by
  induction tasks generalizing pool with
  | nil => exact ⟨[], rfl, (List.append_nil _).symm⟩
  | cons task rest ih =>
    obtain ⟨begun, kinds, tasks⟩ := ih (system.begin pool task)
    refine ⟨(task, ((system.body pool.tasks.length task).segment pool.shared).2) :: begun, ?_, ?_⟩
    · rw [List.map_cons, kinds]
    · rw [List.foldl_cons, tasks]
      simp [System.begin]

/-- A task stays what it was started as. -/
theorem kinds_set {tasks : List (μ × Paused σ κ ρ ε α)} {index : Nat} {task : μ}
    {stopped : Paused σ κ ρ ε α} (found : tasks[index]? = some (task, stopped))
    (paused : Paused σ κ ρ ε α) :
    (tasks.set index (task, paused)).map Prod.fst = tasks.map Prod.fst := by
  apply List.ext_getElem?
  intro position
  rw [List.getElem?_map, List.getElem?_map, List.getElem?_set]
  by_cases same : index = position
  · rw [if_pos same, if_pos (List.getElem?_eq_some_iff.mp found).1, ← same, found]
    rfl
  · rw [if_neg same]

theorem kinds_start (system : System σ κ ρ ε α μ) (pool : Pool σ κ ρ ε α μ) (task : μ) :
    (system.start pool task).tasks.map Prod.fst = pool.tasks.map Prod.fst ++ task ::
      system.forked pool.tasks.length ((system.body pool.tasks.length task).segment pool.shared).2 := by
  obtain ⟨begun, kinds, tasks⟩ := tasks_foldl_begin system
    (system.forked pool.tasks.length ((system.body pool.tasks.length task).segment pool.shared).2)
    ⟨((system.body pool.tasks.length task).segment pool.shared).1,
      pool.tasks ++ [(task, ((system.body pool.tasks.length task).segment pool.shared).2)]⟩
  unfold start
  dsimp only
  rw [tasks, List.map_append, List.map_append, kinds, List.append_assoc]
  rfl

theorem kinds_resume (system : System σ κ ρ ε α μ) {pool : Pool σ κ ρ ε α μ} {index : Nat} {task : μ}
    {stopped : Paused σ κ ρ ε α} (found : pool.tasks[index]? = some (task, stopped))
    (rest : Async σ κ ρ ε α) :
    (system.resume pool index task rest).tasks.map Prod.fst =
      pool.tasks.map Prod.fst ++ system.forked index (rest.segment pool.shared).2 := by
  obtain ⟨begun, kinds, tasks⟩ := tasks_foldl_begin system
    (system.forked index (rest.segment pool.shared).2)
    ⟨(rest.segment pool.shared).1, pool.tasks.set index (task, (rest.segment pool.shared).2)⟩
  unfold resume
  dsimp only
  rw [tasks, List.map_append, kinds, kinds_set found]

/-! ### Tasks that can be run to their end -/

/-- A body that waits only where it can be answered, and forks nothing there, can be run to its
end, and no other task moves. -/
theorem runs_to_end {related : σ → σ → Prop} {calls : κ → Prop} {index : Nat} {task : μ}
    (alone : ∀ call, calls call → system.forks index call = [])
    (answerable : ∀ pool call, calls call → ∃ reply, system.answers pool index call reply ∧
      allowed pool (.resume index call reply))
    (program : Async σ κ ρ ε α) {start now : σ} (framed : program.Framed related calls start now)
    {pool : Pool σ κ ρ ε α μ} (found : pool.tasks[index]? = some (task, (program.segment now).2)) :
    ∃ last, Runs system.Step allowed pool last ∧
      (∃ result, last.tasks[index]? = some (task, .finished result)) ∧
      ∀ other, other ≠ index → last.tasks[other]? = pool.tasks[other]? := by
  induction program generalizing start now pool with
  | pure value => exact ⟨pool, .refl _, ⟨.ok value, found⟩, fun _ _ => rfl⟩
  | throw error => exact ⟨pool, .refl _, ⟨.error error, found⟩, fun _ _ => rfl⟩
  | read next ih => exact ih now framed found
  | write state next ih => exact ih framed found
  | await call next ih =>
    have waiting : pool.tasks[index]? = some (task, .awaiting call next) := found
    obtain ⟨_, _, member, rest⟩ := framed
    obtain ⟨reply, answered, permitted⟩ := answerable pool call member
    have later : (next reply).Framed related calls pool.shared pool.shared :=
      rest pool.shared trivial trivial reply trivial
    have unforked : system.forked index ((next reply).segment pool.shared).2 = [] := by
      have waits := (Async.segment_of_frame later).2.1
      cases stopped : ((next reply).segment pool.shared).2 with
      | finished result => rfl
      | awaiting other further =>
        rw [stopped] at waits
        exact alone other waits
    have bound := (List.getElem?_eq_some_iff.mp waiting).1
    have resumed : (system.resume pool index task (next reply)).tasks[index]? =
        some (task, ((next reply).segment pool.shared).2) := by
      rw [system.resume_eq_set unforked, List.getElem?_set_self bound]
    obtain ⟨last, run, ended, others⟩ := ih reply later resumed
    refine ⟨last, ?_, ended, ?_⟩
    · exact ((Runs.refl pool).extend permitted (.resume waiting answered)).trans run
    · intro other different
      rw [others other different, system.resume_eq_set unforked,
        List.getElem?_set_ne (Ne.symm different)]

/-- The same for a task that has already stopped somewhere. -/
theorem runs_to_end_of_paused {related : σ → σ → Prop} {calls : κ → Prop} {index : Nat} {task : μ}
    (refl : ∀ state, related state state)
    (alone : ∀ call, calls call → system.forks index call = [])
    (answerable : ∀ pool call, calls call → ∃ reply, system.answers pool index call reply ∧
      allowed pool (.resume index call reply))
    {paused : Paused σ κ ρ ε α} (waits : paused.WaitsAt calls)
    (respects : paused.Respects related calls) {pool : Pool σ κ ρ ε α μ}
    (found : pool.tasks[index]? = some (task, paused)) :
    ∃ last, Runs system.Step allowed pool last ∧
      (∃ result, last.tasks[index]? = some (task, .finished result)) ∧
      ∀ other, other ≠ index → last.tasks[other]? = pool.tasks[other]? := by
  cases paused with
  | finished result => exact ⟨pool, .refl _, ⟨result, found⟩, fun _ _ => rfl⟩
  | awaiting call next =>
    have framed : (Async.await call next).Framed related calls pool.shared pool.shared :=
      ⟨trivial, refl _, waits, fun later _ _ reply _ => respects reply later⟩
    exact runs_to_end alone answerable (.await call next) framed found

end System

/-! ## Invariants of a pool -/

/-- A condition on the shared state, which tasks have left traces in it, what a segment of
each task may do to it, and a condition on every task and what it waits for. -/
structure PoolInvariant (σ κ : Type) (ρ : κ → Type) (ε α μ : Type) where
  shared : σ → Prop
  scope : Nat → σ → Prop
  guarantee : Nat → σ → σ → Prop
  task : Nat → μ → σ → Paused σ κ ρ ε α → Prop

namespace PoolInvariant

variable {σ κ : Type} {ρ : κ → Type} {ε α μ : Type} (holds : PoolInvariant σ κ ρ ε α μ)

def Covers (pool : Pool σ κ ρ ε α μ) : Prop :=
  holds.shared pool.shared ∧ holds.scope pool.tasks.length pool.shared ∧
    ∀ index task paused, pool.tasks[index]? = some (task, paused) →
      holds.task index task pool.shared paused

/-- A segment of task `index` leaves the shared state, its own task and every other task
in order. -/
def Settles (index : Nat) (task : μ) (before : σ) (program : Async σ κ ρ ε α) : Prop :=
  holds.shared (program.segment before).1 ∧
    holds.guarantee index before (program.segment before).1 ∧
    (∀ other task paused, other ≠ index → holds.task other task before paused →
      holds.task other task (program.segment before).1 paused) ∧
    holds.task index task (program.segment before).1 (program.segment before).2

/-- Every segment that can run, from the beginning or from an answered await, settles. -/
structure Kept (system : System σ κ ρ ε α μ)
    (allowed : Pool σ κ ρ ε α μ → PoolMove κ ρ ε μ → Prop) : Prop where
  widened : ∀ count state, holds.scope count state → holds.scope (count + 1) state
  inScope : ∀ index count before after, index < count → holds.guarantee index before after →
    holds.scope count before → holds.scope count after
  launched : ∀ pool task, holds.Covers pool → system.launch pool task →
    allowed pool (.start task) →
    holds.Settles pool.tasks.length task pool.shared (system.body pool.tasks.length task)
  forked : ∀ (pool : Pool σ κ ρ ε α μ) index call task, task ∈ system.forks index call →
    holds.Covers pool →
    holds.Settles pool.tasks.length task pool.shared (system.body pool.tasks.length task)
  resumed : ∀ pool index task call next reply, holds.Covers pool →
    pool.tasks[index]? = some (task, .awaiting call next) →
    system.answers pool index call reply → allowed pool (.resume index call reply) →
    holds.Settles index task pool.shared (next reply)

/-- A preorder that every segment respects. -/
structure Respected (grows : σ → σ → Prop) : Prop where
  refl : ∀ state, grows state state
  trans : ∀ first second third, grows first second → grows second third → grows first third
  guaranteed : ∀ index before after, holds.guarantee index before after → grows before after

variable {holds}

theorem covers_begin {system : System σ κ ρ ε α μ}
    {allowed : Pool σ κ ρ ε α μ → PoolMove κ ρ ε μ → Prop} (keeps : holds.Kept system allowed)
    {pool : Pool σ κ ρ ε α μ} {task : μ} (covers : holds.Covers pool)
    (settles : holds.Settles pool.tasks.length task pool.shared
      (system.body pool.tasks.length task)) :
    holds.Covers (system.begin pool task) := by
  obtain ⟨kept, guaranteed, others, own⟩ := settles
  have scope := keeps.inScope pool.tasks.length (pool.tasks.length + 1) _ _ (by omega) guaranteed
    (keeps.widened _ _ covers.2.1)
  refine ⟨kept, ?_, ?_⟩
  · simpa [System.begin] using scope
  intro index found paused member
  simp only [System.begin, List.getElem?_append] at member
  split at member
  next old => exact others index found paused (by omega) (covers.2.2 index found paused member)
  next new =>
    have position : index = pool.tasks.length := by
      have bound := (List.getElem?_eq_some_iff.mp member).1
      simp only [List.length_cons, List.length_nil] at bound
      omega
    subst position
    simp only [Nat.sub_self, List.getElem?_cons_zero, Option.some.injEq, Prod.mk.injEq] at member
    rw [← member.1, ← member.2]
    exact own

theorem forks_spec {system : System σ κ ρ ε α μ}
    {allowed : Pool σ κ ρ ε α μ → PoolMove κ ρ ε μ → Prop} (kept : holds.Kept system allowed)
    {grows : σ → σ → Prop} (respected : holds.Respected grows) (index : Nat)
    (paused : Paused σ κ ρ ε α) {pool : Pool σ κ ρ ε α μ} (covers : holds.Covers pool) :
    holds.Covers ((system.forked index paused).foldl system.begin pool) ∧
      grows pool.shared ((system.forked index paused).foldl system.begin pool).shared := by
  cases paused with
  | finished result => exact ⟨covers, respected.refl _⟩
  | awaiting call next =>
    have children : ∀ (tasks : List μ) pool, (∀ task ∈ tasks, task ∈ system.forks index call) →
        holds.Covers pool → holds.Covers (tasks.foldl system.begin pool) ∧
          grows pool.shared (tasks.foldl system.begin pool).shared := by
      intro tasks
      induction tasks with
      | nil => exact fun _ _ covered => ⟨covered, respected.refl _⟩
      | cons child rest ih =>
        intro pool members covered
        have first := kept.forked pool index call child (members child (by simp)) covered
        obtain ⟨last, further⟩ := ih _
          (fun other member => members other (List.mem_cons_of_mem _ member))
          (covers_begin kept covered first)
        exact ⟨last, respected.trans _ _ _ (respected.guaranteed _ _ _ first.2.1) further⟩
    exact children _ pool (fun _ member => member) covers

/-- Every move of the system keeps the invariant of the pool and respects the preorder. -/
theorem step_spec {system : System σ κ ρ ε α μ}
    {allowed : Pool σ κ ρ ε α μ → PoolMove κ ρ ε μ → Prop} (kept : holds.Kept system allowed)
    {grows : σ → σ → Prop} (respected : holds.Respected grows)
    {before after : Pool σ κ ρ ε α μ} {move : PoolMove κ ρ ε μ} (covers : holds.Covers before)
    (permitted : allowed before move) (made : system.Step before move after) :
    holds.Covers after ∧ grows before.shared after.shared := by
  cases made with
  | @start task launched =>
    have first := kept.launched before task covers launched permitted
    obtain ⟨last, further⟩ := forks_spec kept respected before.tasks.length
      ((system.body before.tasks.length task).segment before.shared).2 (covers_begin kept covers first)
    exact ⟨last, respected.trans _ _ _ (respected.guaranteed _ _ _ first.2.1) further⟩
  | @resume index task call next reply waiting answered =>
    have settles := kept.resumed before index task call next reply covers waiting answered
      permitted
    have resumed : holds.Covers ⟨((next reply).segment before.shared).1,
        before.tasks.set index (task, ((next reply).segment before.shared).2)⟩ := by
      obtain ⟨shared, guaranteed, others, own⟩ := settles
      have bound := (List.getElem?_eq_some_iff.mp waiting).1
      refine ⟨shared, ?_, ?_⟩
      · simpa using kept.inScope index before.tasks.length _ _ bound guaranteed covers.2.1
      intro other found paused member
      simp only [List.getElem?_set] at member
      split at member
      next same =>
        subst same
        simp only [Option.some.injEq, Prod.mk.injEq] at member
        rw [← member.1, ← member.2]
        exact own
      next different =>
        exact others other found paused (fun same => different same.symm)
          (covers.2.2 other found paused member)
    obtain ⟨last, further⟩ := forks_spec kept respected index
      ((next reply).segment before.shared).2 resumed
    exact ⟨last, respected.trans _ _ _ (respected.guaranteed _ _ _ settles.2.1) further⟩

theorem respected_any : holds.Respected (fun _ _ => True) :=
  ⟨fun _ => trivial, fun _ _ _ _ _ => trivial, fun _ _ _ _ => trivial⟩

theorem covers_run {system : System σ κ ρ ε α μ}
    {allowed : Pool σ κ ρ ε α μ → PoolMove κ ρ ε μ → Prop} (kept : holds.Kept system allowed)
    {first last : Pool σ κ ρ ε α μ} (run : Runs system.Step allowed first last)
    (covers : holds.Covers first) : holds.Covers last :=
  run.invariant covers fun _ _ _ held permitted made =>
    (step_spec kept respected_any held permitted made).1

theorem grows_run {system : System σ κ ρ ε α μ}
    {allowed : Pool σ κ ρ ε α μ → PoolMove κ ρ ε μ → Prop} (kept : holds.Kept system allowed)
    {grows : σ → σ → Prop} (respected : holds.Respected grows) {first last : Pool σ κ ρ ε α μ}
    (run : Runs system.Step allowed first last) (covers : holds.Covers first) :
    grows first.shared last.shared := by
  let related : Pool σ κ ρ ε α μ → Pool σ κ ρ ε α μ → Prop :=
    fun before after => grows before.shared after.shared
  have ends : related first last := run.relates covers
    (fun _ _ _ held permitted made => (step_spec kept respected held permitted made).1)
    (fun pool => respected.refl pool.shared)
    (fun _ _ _ left right => respected.trans _ _ _ left right)
    (fun _ _ _ held permitted made => (step_spec kept respected held permitted made).2)
  exact ends

end PoolInvariant

/-- What a task has come to whatever the shared state and the replies were. -/
structure Shape {σ κ : Type} {ρ : κ → Type} {ε α μ : Type} (system : System σ κ ρ ε α μ)
    (shape : Nat → μ → Paused σ κ ρ ε α → Prop) : Prop where
  begun : ∀ index task state, shape index task ((system.body index task).segment state).2
  resumed : ∀ index task call next reply state, shape index task (.awaiting call next) →
    shape index task ((next reply).segment state).2

theorem Shape.run {σ κ : Type} {ρ : κ → Type} {ε α μ : Type} {system : System σ κ ρ ε α μ}
    {shape : Nat → μ → Paused σ κ ρ ε α → Prop} (shaped : Shape system shape)
    {allowed : Pool σ κ ρ ε α μ → PoolMove κ ρ ε μ → Prop} {shared : σ}
    {last : Pool σ κ ρ ε α μ} (run : Runs system.Step allowed ⟨shared, []⟩ last) {index : Nat}
    {task : μ} {paused : Paused σ κ ρ ε α} (found : last.tasks[index]? = some (task, paused)) :
    shape index task paused := by
  let holds : PoolInvariant σ κ ρ ε α μ :=
    ⟨fun _ => True, fun _ _ => True, fun _ _ _ => True, fun index task _ => shape index task⟩
  have kept : holds.Kept system allowed :=
    { widened := fun _ _ _ => trivial
      inScope := fun _ _ _ _ _ _ _ => trivial
      launched := fun pool task _ _ _ =>
        ⟨trivial, trivial, fun _ _ _ _ held => held, shaped.begun _ task pool.shared⟩
      forked := fun pool _ _ task _ _ =>
        ⟨trivial, trivial, fun _ _ _ _ held => held, shaped.begun _ task pool.shared⟩
      resumed := fun pool index task call next reply covers waiting _ _ =>
        ⟨trivial, trivial, fun _ _ _ _ kept => kept,
          shaped.resumed index task call next reply pool.shared (covers.2.2 index task _ waiting)⟩ }
  have covers : holds.Covers last := PoolInvariant.covers_run kept run ⟨trivial, trivial, by simp⟩
  exact covers.2.2 index task paused found

/-! ## Proof outlines -/

/-- A proof outline for every task of a system: the invariant of the shared state, which tasks
have left traces in it, what task `index` relies on and what its segments guarantee, what it
knows where it waits, the answers it can get and what it has achieved when it settles. -/
structure Outline (σ κ : Type) (ρ : κ → Type) (ε α μ : Type) where
  invariant : σ → Prop
  scope : Nat → σ → Prop
  rely : Nat → σ → σ → Prop
  guarantee : Nat → σ → σ → Prop
  waiting : Nat → μ → σ → κ → Prop
  answers : Nat → μ → σ → (call : κ) → Except ε (ρ call) → Prop
  post : Nat → μ → Except ε α → σ → Prop

namespace Outline

variable {σ κ : Type} {ρ : κ → Type} {ε α μ : Type} (outline : Outline σ κ ρ ε α μ)

def contract (index : Nat) (task : μ) : Contract σ κ ρ ε where
  invariant := outline.invariant
  rely := outline.rely index
  guarantee := outline.guarantee index
  waiting := outline.waiting index task
  answers := outline.answers index task

/-- The end of a task is the end of a segment as well. -/
def settles (index : Nat) (task : μ) (start : σ) (result : Except ε α) (now : σ) : Prop :=
  outline.invariant now ∧ outline.guarantee index start now ∧
    outline.post index task result now

/-- What is known of a stopped task between segments. -/
def Holds (index : Nat) (task : μ) (shared : σ) : Paused σ κ ρ ε α → Prop
  | .finished result => outline.post index task result shared
  | .awaiting call next =>
    outline.waiting index task shared call ∧
      ∀ later, outline.invariant later → outline.rely index shared later →
        ∀ reply, outline.answers index task later call reply →
          (next reply).wp (outline.contract index task) (outline.settles index task) later later

/-- The invariant of the pool that the outline stands for. -/
def poolInvariant : PoolInvariant σ κ ρ ε α μ where
  shared := outline.invariant
  scope := outline.scope
  guarantee := outline.guarantee
  task := outline.Holds

def Covers (pool : Pool σ κ ρ ε α μ) : Prop := outline.poolInvariant.Covers pool

/-- The obligations on an outline: the rely conditions are preorders, a segment of one task
is something every other task relies on, an end keeps its post condition, and every task
that can start keeps its contract. -/
structure Sound (system : System σ κ ρ ε α μ)
    (allowed : Pool σ κ ρ ε α μ → PoolMove κ ρ ε μ → Prop) : Prop where
  rely_refl : ∀ index state, outline.rely index state state
  rely_trans : ∀ index first second third, outline.rely index first second →
    outline.rely index second third → outline.rely index first third
  widened : ∀ count state, outline.scope count state → outline.scope (count + 1) state
  inScope : ∀ index count before after, index < count → outline.guarantee index before after →
    outline.scope count before → outline.scope count after
  interferes : ∀ index other before after, other ≠ index →
    outline.guarantee index before after → outline.rely other before after
  waiting_stable : ∀ index task call before after, outline.rely index before after →
    outline.waiting index task before call → outline.waiting index task after call
  post_stable : ∀ index task result before after, outline.rely index before after →
    outline.post index task result before → outline.post index task result after
  answered : ∀ pool index task call next reply, outline.Covers pool →
    pool.tasks[index]? = some (task, .awaiting call next) →
    system.answers pool index call reply → allowed pool (.resume index call reply) →
    outline.answers index task pool.shared call reply
  launched : ∀ pool task, outline.Covers pool → system.launch pool task →
    allowed pool (.start task) →
    (system.body pool.tasks.length task).wp (outline.contract pool.tasks.length task)
      (outline.settles pool.tasks.length task) pool.shared pool.shared
  forked : ∀ (pool : Pool σ κ ρ ε α μ) index call task, task ∈ system.forks index call →
    outline.Covers pool →
    (system.body pool.tasks.length task).wp (outline.contract pool.tasks.length task)
      (outline.settles pool.tasks.length task) pool.shared pool.shared

variable {outline}

theorem Holds.stable {system : System σ κ ρ ε α μ}
    {allowed : Pool σ κ ρ ε α μ → PoolMove κ ρ ε μ → Prop}
    (sound : outline.Sound system allowed) {index : Nat} {task : μ} {before after : σ}
    {paused : Paused σ κ ρ ε α} (holds : outline.Holds index task before paused)
    (grown : outline.rely index before after) : outline.Holds index task after paused := by
  cases paused with
  | finished result => exact sound.post_stable index task result before after grown holds
  | awaiting call next =>
    refine ⟨sound.waiting_stable index task call before after grown holds.1, ?_⟩
    intro later kept further reply answer
    exact holds.2 later kept (sound.rely_trans index before after later grown further) reply answer

/-- A segment that keeps its contract leaves its own task and every other one covered. -/
theorem settles_segment {system : System σ κ ρ ε α μ}
    {allowed : Pool σ κ ρ ε α μ → PoolMove κ ρ ε μ → Prop}
    (sound : outline.Sound system allowed) {index : Nat} {task : μ} {program : Async σ κ ρ ε α}
    {before : σ} (met : program.wp (outline.contract index task) (outline.settles index task)
      before before) :
    outline.poolInvariant.Settles index task before program := by
  rw [Async.wp_iff_segment] at met
  have parts : outline.invariant (program.segment before).1 ∧
      outline.guarantee index before (program.segment before).1 ∧
      outline.Holds index task (program.segment before).1 (program.segment before).2 := by
    cases stopped : (program.segment before).2 with
    | finished result =>
      rw [stopped] at met
      exact met
    | awaiting call next =>
      rw [stopped] at met
      exact met
  refine ⟨parts.1, parts.2.1, ?_, parts.2.2⟩
  intro other task paused different held
  exact held.stable sound (sound.interferes index other _ _ different parts.2.1)

theorem kept {system : System σ κ ρ ε α μ}
    {allowed : Pool σ κ ρ ε α μ → PoolMove κ ρ ε μ → Prop}
    (sound : outline.Sound system allowed) : outline.poolInvariant.Kept system allowed where
  widened := sound.widened
  inScope := sound.inScope
  launched := fun pool task covers launched permitted =>
    settles_segment sound (sound.launched pool task covers launched permitted)
  forked := fun pool index call task member covers =>
    settles_segment sound (sound.forked pool index call task member covers)
  resumed := by
    intro pool index task call next reply covers waiting answered permitted
    have held : outline.Holds index task pool.shared (.awaiting call next) :=
      covers.2.2 index task _ waiting
    exact settles_segment sound (held.2 pool.shared covers.1 (sound.rely_refl index pool.shared)
      reply (sound.answered pool index task call next reply covers waiting answered permitted))

theorem covers_run {system : System σ κ ρ ε α μ}
    {allowed : Pool σ κ ρ ε α μ → PoolMove κ ρ ε μ → Prop}
    (sound : outline.Sound system allowed) {first last : Pool σ κ ρ ε α μ}
    (run : Runs system.Step allowed first last) (covers : outline.Covers first) :
    outline.Covers last :=
  PoolInvariant.covers_run (kept sound) run covers

theorem covers_initial {shared : σ} (holds : outline.invariant shared)
    (scope : outline.scope 0 shared) : outline.Covers ⟨shared, []⟩ :=
  ⟨holds, scope, by simp⟩

end Outline

end NodeRedBull.Library
