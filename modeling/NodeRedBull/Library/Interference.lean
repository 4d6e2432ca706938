import NodeRedBull.Library.Pool

/-! One asynchronous body among others: where it can stop, and in which states, when the others
change the shared state whenever it waits. -/

namespace NodeRedBull.Library

variable {σ κ : Type} {ρ : κ → Type} {ε α β μ : Type}

/-- What the other bodies may do to the shared state at any time, what has to be known where the
body waits, and the answers a call gets. -/
structure Interference (σ κ : Type) (ρ : κ → Type) (ε : Type) where
  others : σ → σ → Prop
  waiting : σ → κ → Prop
  answers : σ → (call : κ) → Except ε (ρ call) → Prop

/-- The body, started in `start`, has come to `paused`, and the shared state is `now`. -/
inductive Interference.Reaches (interference : Interference σ κ ρ ε)
    (program : Async σ κ ρ ε α) (start : σ) : Paused σ κ ρ ε α → σ → Prop where
  | first : Reaches interference program start (program.segment start).2 (program.segment start).1
  | others {paused : Paused σ κ ρ ε α} {now later : σ}
      (reached : Reaches interference program start paused now)
      (changed : interference.others now later) : Reaches interference program start paused later
  | answered {call : κ} {next : Except ε (ρ call) → Async σ κ ρ ε α} {now : σ}
      {reply : Except ε (ρ call)}
      (reached : Reaches interference program start (.awaiting call next) now)
      (answer : interference.answers now call reply) :
      Reaches interference program start ((next reply).segment now).2 ((next reply).segment now).1

/-! ## Bodies that wait a bounded number of times -/

namespace Async

def WaitsAtMost (program : Async σ κ ρ ε α) (count : Nat) : Prop :=
  match program with
  | .pure _ | .throw _ => True
  | .read next => ∀ state, (next state).WaitsAtMost count
  | .write _ next => next.WaitsAtMost count
  | .await _ next => 0 < count ∧ ∀ reply, (next reply).WaitsAtMost (count - 1)

theorem waitsAtMost_mono {program : Async σ κ ρ ε α} {count larger : Nat}
    (waits : program.WaitsAtMost count) (included : count ≤ larger) :
    program.WaitsAtMost larger := by
  induction program generalizing count larger with
  | pure value => trivial
  | throw error => trivial
  | read next ih => exact fun state => ih state (waits state) included
  | write state next ih => exact ih waits included
  | await call next ih =>
    have positive := waits.1
    exact ⟨by omega, fun reply => ih reply (waits.2 reply) (by omega)⟩

theorem waitsAtMost_bind {program : Async σ κ ρ ε α} {rest : α → Async σ κ ρ ε β}
    {count further : Nat} (first : program.WaitsAtMost count)
    (second : ∀ value, (rest value).WaitsAtMost further) :
    (program >>= rest).WaitsAtMost (count + further) := by
  change (program.bind rest).WaitsAtMost (count + further)
  induction program generalizing count with
  | pure value => exact waitsAtMost_mono (second value) (by omega)
  | throw error => trivial
  | read next ih => exact fun state => ih state (first state)
  | write state next ih => exact ih first
  | await call next ih =>
    have positive := first.1
    refine ⟨by omega, fun reply => ?_⟩
    have remaining : count + further - 1 = count - 1 + further := by omega
    rw [remaining]
    exact ih reply (first.2 reply)

theorem waitsAtMost_tryCatch {program : Async σ κ ρ ε α} {handler : ε → Async σ κ ρ ε α}
    {count further : Nat} (first : program.WaitsAtMost count)
    (second : ∀ error, (handler error).WaitsAtMost further) :
    (MonadExcept.tryCatch program handler).WaitsAtMost (count + further) := by
  change (program.tryCatch handler).WaitsAtMost (count + further)
  induction program generalizing count with
  | pure value => trivial
  | throw error => exact waitsAtMost_mono (second error) (by omega)
  | read next ih => exact fun state => ih state (first state)
  | write state next ih => exact ih first
  | await call next ih =>
    have positive := first.1
    refine ⟨by omega, fun reply => ?_⟩
    have remaining : count + further - 1 = count - 1 + further := by omega
    rw [remaining]
    exact ih reply (first.2 reply)

theorem waitsAtMost_call (request : κ) :
    (call request : Async σ κ ρ ε (ρ request)).WaitsAtMost 1 := by
  refine ⟨by omega, fun reply => ?_⟩
  cases reply <;> trivial

/-- Reading and writing the shared state is no waiting. -/
theorem waitsAtMost_get {rest : σ → Async σ κ ρ ε β} {count : Nat}
    (next : ∀ state, (rest state).WaitsAtMost count) :
    ((get : Async σ κ ρ ε σ) >>= rest).WaitsAtMost count := next

theorem waitsAtMost_modify {change : σ → σ} {rest : PUnit → Async σ κ ρ ε β} {count : Nat}
    (next : (rest ⟨⟩).WaitsAtMost count) :
    ((modify change : Async σ κ ρ ε PUnit) >>= rest).WaitsAtMost count := fun _ => next

end Async

/-- The same for a body that has stopped. -/
def Paused.WaitsAtMost (count : Nat) : Paused σ κ ρ ε α → Prop
  | .finished _ => True
  | .awaiting _ next => 0 < count ∧ ∀ reply, (next reply).WaitsAtMost (count - 1)

theorem Async.segment_waitsAtMost {program : Async σ κ ρ ε α} {count : Nat}
    (waits : program.WaitsAtMost count) (state : σ) :
    (program.segment state).2.WaitsAtMost count := by
  induction program generalizing state with
  | pure value => trivial
  | throw error => trivial
  | read next ih => exact ih state (waits state) state
  | write stored next ih => exact ih waits stored
  | await call next _ => exact waits

/-- A body that cannot wait any more has ended. -/
theorem Async.segment_ends {program : Async σ κ ρ ε α} (waits : program.WaitsAtMost 0) (state : σ) :
    ∃ result, (program.segment state).2 = .finished result := by
  have stopped := segment_waitsAtMost waits state
  cases ended : (program.segment state).2 with
  | finished result => exact ⟨result, rfl⟩
  | awaiting call next =>
    rw [ended] at stopped
    exact absurd stopped.1 (by omega)

/-! ## Bodies whose calls are answered by a fixed function -/

/-- The body goes on from where it stopped for at most `count` answers. -/
def Paused.drive (replies : (call : κ) → Except ε (ρ call)) :
    Nat → σ → Paused σ κ ρ ε α → σ × Paused σ κ ρ ε α
  | 0, now, paused => (now, paused)
  | _ + 1, now, .finished result => (now, .finished result)
  | count + 1, now, .awaiting call next =>
    let resumed := (next (replies call)).segment now
    drive replies count resumed.1 resumed.2

theorem Interference.Reaches.drive {interference : Interference σ κ ρ ε}
    {program : Async σ κ ρ ε α} {start : σ} (replies : (call : κ) → Except ε (ρ call))
    (answers : ∀ now call, interference.answers now call (replies call)) (count : Nat) :
    ∀ {now : σ} {paused : Paused σ κ ρ ε α}, interference.Reaches program start paused now →
      interference.Reaches program start (paused.drive replies count now).2
        (paused.drive replies count now).1 := by
  induction count with
  | zero => exact fun reached => reached
  | succ count ih =>
    intro now paused reached
    cases paused with
    | finished result => exact reached
    | awaiting call next => exact ih (.answered reached (answers now call))

theorem Paused.drive_ends (replies : (call : κ) → Except ε (ρ call)) {count : Nat} :
    ∀ {paused : Paused σ κ ρ ε α} (now : σ), paused.WaitsAtMost count →
      ∃ result, (paused.drive replies count now).2 = .finished result := by
  induction count with
  | zero =>
    intro paused now waits
    cases paused with
    | finished result => exact ⟨result, rfl⟩
    | awaiting call next => exact absurd waits.1 (by omega)
  | succ count ih =>
    intro paused now waits
    cases paused with
    | finished result => exact ⟨result, rfl⟩
    | awaiting call next =>
      exact ih _ (Async.segment_waitsAtMost (waits.2 (replies call)) now)

/-! ## What a body ensures -/

namespace Interference

/-- The contract of a body that has nothing to guarantee: what it knows, it knows at the end. -/
def contract (interference : Interference σ κ ρ ε) : Contract σ κ ρ ε where
  invariant _ := True
  rely := Relation.ReflTransGen interference.others
  guarantee _ _ := True
  waiting := interference.waiting
  answers := interference.answers

/-- The weakest condition on the state now under which the body ends as `post` says. -/
def Ensures (interference : Interference σ κ ρ ε) (program : Async σ κ ρ ε α)
    (post : Except ε α → σ → Prop) (now : σ) : Prop :=
  program.wp interference.contract (fun _ result now => post result now) now now

/-- The same for a body that has stopped. -/
def EnsuresFrom (interference : Interference σ κ ρ ε) (post : Except ε α → σ → Prop) (now : σ) :
    Paused σ κ ρ ε α → Prop
  | .finished result => post result now
  | .awaiting call next => interference.waiting now call ∧
      ∀ later, Relation.ReflTransGen interference.others now later →
        ∀ reply, interference.answers later call reply →
          interference.Ensures (next reply) post later

/-- What a body must still ensure after its first part. -/
def Continues (interference : Interference σ κ ρ ε) (rest : α → Async σ κ ρ ε β)
    (post : Except ε β → σ → Prop) : Except ε α → σ → Prop
  | .ok value, now => interference.Ensures (rest value) post now
  | .error error, now => post (.error error) now

/-- What a handler must ensure, or the first part without it. -/
def Handles (interference : Interference σ κ ρ ε) (handler : ε → Async σ κ ρ ε α)
    (post : Except ε α → σ → Prop) : Except ε α → σ → Prop
  | .ok value, now => post (.ok value) now
  | .error error, now => interference.Ensures (handler error) post now

variable {interference : Interference σ κ ρ ε} {program : Async σ κ ρ ε α}
variable {post wider : Except ε α → σ → Prop} {start now : σ}

@[simp] theorem continues_ok (rest : α → Async σ κ ρ ε β) (post : Except ε β → σ → Prop)
    (value : α) : interference.Continues rest post (.ok value) now =
      interference.Ensures (rest value) post now := rfl

/-- The start of a segment does not matter where nothing has to be guaranteed. -/
theorem wp_iff_ensures (first : σ) :
    program.wp interference.contract (fun _ result now => post result now) first now ↔
      interference.Ensures program post now := by
  unfold Ensures
  induction program generalizing first now with
  | pure value => rfl
  | throw error => rfl
  | read next ih => exact (ih now first).trans (ih now now).symm
  | write state next ih => exact (ih first).trans (ih now).symm
  | await call next _ => rfl

theorem ensures_iff_segment :
    interference.Ensures program post now ↔
      interference.EnsuresFrom post (program.segment now).1 (program.segment now).2 := by
  unfold Ensures
  rw [Async.wp_iff_segment]
  cases (program.segment now).2 with
  | finished result => rfl
  | awaiting call next =>
    constructor
    · intro met
      exact ⟨met.2.2.1, fun later changed reply answer =>
        met.2.2.2 later trivial changed reply answer⟩
    · intro ensured
      exact ⟨trivial, trivial, ensured.1, fun later _ changed reply answer =>
        ensured.2 later changed reply answer⟩

theorem ensures_mono (implies : ∀ result now, post result now → wider result now)
    (ensured : interference.Ensures program post now) : interference.Ensures program wider now :=
  Async.wp_mono program (fun _ result now => implies result now) ensured

@[simp] theorem ensures_pure (value : α) :
    interference.Ensures (Pure.pure value) post now ↔ post (.ok value) now := Iff.rfl

@[simp] theorem ensures_get (post : Except ε σ → σ → Prop) :
    interference.Ensures get post now ↔ post (.ok now) now := Iff.rfl

@[simp] theorem ensures_modify (change : σ → σ) (post : Except ε PUnit → σ → Prop) :
    interference.Ensures (modify change) post now ↔ post (.ok ⟨⟩) (change now) := Iff.rfl

@[simp] theorem ensures_modifyGet (change : σ → β × σ) (post : Except ε β → σ → Prop) :
    interference.Ensures (modifyGet change) post now ↔
      post (.ok (change now).1) (change now).2 := Iff.rfl

theorem ensures_bind (rest : α → Async σ κ ρ ε β) (post : Except ε β → σ → Prop) :
    interference.Ensures (program >>= rest) post now ↔
      interference.Ensures program (interference.Continues rest post) now := by
  unfold Ensures
  rw [Async.wp_bind]
  apply iff_of_eq
  congr 1
  funext first result later
  cases result with
  | ok value => exact propext (wp_iff_ensures first)
  | error error => rfl

theorem ensures_map (change : α → β) (post : Except ε β → σ → Prop) :
    interference.Ensures (change <$> program) post now ↔
      interference.Ensures program (fun result now => post (result.map change) now) now :=
  Async.wp_map change program _

theorem ensures_tryCatch (handler : ε → Async σ κ ρ ε α) :
    interference.Ensures (MonadExcept.tryCatch program handler) post now ↔
      interference.Ensures program (interference.Handles handler post) now := by
  unfold Ensures
  rw [Async.wp_tryCatch]
  apply iff_of_eq
  congr 1
  funext first result later
  cases result with
  | ok value => rfl
  | error error => exact propext (wp_iff_ensures first)

theorem ensures_call (request : κ) (post : Except ε (ρ request) → σ → Prop) :
    interference.Ensures (Async.call request) post now ↔
      interference.waiting now request ∧
        ∀ later, Relation.ReflTransGen interference.others now later →
          ∀ reply, interference.answers later request reply → post reply later := by
  unfold Ensures
  rw [Async.wp_call]
  constructor
  · intro met
    exact ⟨met.2.2.1, fun later changed reply answer =>
      met.2.2.2 later trivial changed reply answer⟩
  · intro ensured
    exact ⟨trivial, trivial, ensured.1, fun later _ changed reply answer =>
      ensured.2 later changed reply answer⟩

/-! ### Bodies that keep a condition -/

/-- The condition holds wherever the body ends, if it holds where it starts. -/
def Keeps (interference : Interference σ κ ρ ε) (holds : σ → Prop) (program : Async σ κ ρ ε α) :
    Prop :=
  ∀ now, holds now → interference.Ensures program (fun _ later => holds later) now

variable {holds : σ → Prop}

theorem keeps_pure (value : α) :
    interference.Keeps holds (Pure.pure value : Async σ κ ρ ε α) := fun _ held => held

theorem keeps_throw (error : ε) :
    interference.Keeps holds (MonadExcept.throw error : Async σ κ ρ ε α) := fun _ held => held

theorem keeps_get : interference.Keeps holds (get : Async σ κ ρ ε σ) := fun _ held => held

theorem keeps_modify {change : σ → σ} (kept : ∀ state, holds state → holds (change state)) :
    interference.Keeps holds (modify change : Async σ κ ρ ε PUnit) :=
  fun now held => kept now held

/-- What the first part ensures, the rest keeps, whether the first part throws or not. -/
theorem ensures_bind_keeps {rest : α → Async σ κ ρ ε β}
    (first : interference.Ensures program (fun _ later => holds later) now)
    (second : ∀ value, interference.Keeps holds (rest value)) :
    interference.Ensures (program >>= rest) (fun _ later => holds later) now := by
  rw [ensures_bind]
  apply ensures_mono _ first
  intro result later still
  cases result with
  | ok value => exact second value later still
  | error error => exact still

theorem ensures_tryCatch_keeps {handler : ε → Async σ κ ρ ε α}
    (first : interference.Ensures program (fun _ later => holds later) now)
    (second : ∀ error, interference.Keeps holds (handler error)) :
    interference.Ensures (MonadExcept.tryCatch program handler) (fun _ later => holds later)
      now := by
  rw [ensures_tryCatch]
  apply ensures_mono _ first
  intro result later still
  cases result with
  | ok value => exact still
  | error error => exact second error later still

theorem keeps_bind {rest : α → Async σ κ ρ ε β} (first : interference.Keeps holds program)
    (second : ∀ value, interference.Keeps holds (rest value)) :
    interference.Keeps holds (program >>= rest) :=
  fun now held => ensures_bind_keeps (first now held) second

/-- The others keep the condition as well. -/
def Stable (interference : Interference σ κ ρ ε) (holds : σ → Prop) : Prop :=
  ∀ before after, interference.others before after → holds before → holds after

theorem Stable.always {before after : σ} (stable : interference.Stable holds)
    (changed : Relation.ReflTransGen interference.others before after) (held : holds before) :
    holds after := by
  induction changed with
  | refl => exact held
  | tail _ last ih => exact stable _ _ last ih

theorem keeps_call (stable : interference.Stable holds) {request : κ}
    (waits : ∀ state, holds state → interference.waiting state request) :
    interference.Keeps holds (Async.call request : Async σ κ ρ ε (ρ request)) := by
  intro now held
  rw [ensures_call]
  exact ⟨waits now held, fun later changed _ _ => stable.always changed held⟩

/-- Whatever the others do, a body that has stopped still ensures what it ensured. -/
theorem ensuresFrom_changed {paused : Paused σ κ ρ ε α} {later : σ}
    (kept : ∀ result now later, post result now → interference.others now later →
      post result later)
    (still : ∀ now later call, interference.waiting now call → interference.others now later →
      interference.waiting later call)
    (ensured : interference.EnsuresFrom post now paused) (changed : interference.others now later) :
    interference.EnsuresFrom post later paused := by
  cases paused with
  | finished result => exact kept result now later ensured changed
  | awaiting call next =>
    refine ⟨still now later call ensured.1 changed, ?_⟩
    intro last further reply answer
    exact ensured.2 last (Relation.ReflTransGen.head changed further) reply answer

/-- A body that ensures a condition, which the others keep, ensures it wherever it stops. -/
theorem Reaches.ensured (met : interference.Ensures program post start)
    (kept : ∀ result now later, post result now → interference.others now later →
      post result later)
    (still : ∀ now later call, interference.waiting now call → interference.others now later →
      interference.waiting later call)
    {paused : Paused σ κ ρ ε α} (reached : interference.Reaches program start paused now) :
    interference.EnsuresFrom post now paused := by
  induction reached with
  | first => exact ensures_iff_segment.mp met
  | others _ changed ih => exact ensuresFrom_changed kept still ih changed
  | answered _ answer ih =>
    have ensured := ih.2 _ Relation.ReflTransGen.refl _ answer
    exact ensures_iff_segment.mp ensured

end Interference

/-! ## A task of a pool -/

namespace System

variable {system : System σ κ ρ ε α μ}
variable {allowed : Pool σ κ ρ ε α μ → PoolMove κ ρ ε μ → Prop}

/-- What the other tasks do is what their bodies respect, and every answer of the system is one
the body may get. -/
structure Interferes (system : System σ κ ρ ε α μ) (related : Nat → σ → σ → Prop)
    (calls : κ → Prop) (handler : Nat) (interference : Interference σ κ ρ ε) : Prop where
  respects : ∀ index task, (system.body index task).Respects (related index) calls
  refl : ∀ index state, related index state state
  others : ∀ index before after, index ≠ handler → related index before after →
    interference.others before after
  answers : ∀ pool index call reply, system.answers pool index call reply →
    interference.answers pool.shared call reply

/-- Every task respects its relation, and the one at `handler` reaches where it stopped. -/
def reachesInvariant (related : Nat → σ → σ → Prop) (calls : κ → Prop) (handler : Nat)
    (interference : Interference σ κ ρ ε) (program : Async σ κ ρ ε α) (start : σ) :
    PoolInvariant σ κ ρ ε α μ where
  shared _ := True
  scope count _ := handler < count
  guarantee := related
  task index _ state paused := paused.Respects (related index) calls ∧
    (index = handler → interference.Reaches program start paused state)

variable {related : Nat → σ → σ → Prop} {calls : κ → Prop} {handler : Nat}
variable {interference : Interference σ κ ρ ε} {program : Async σ κ ρ ε α} {start : σ}

theorem reaches_kept (interferes : Interferes system related calls handler interference) :
    (reachesInvariant (μ := μ) related calls handler interference program start).Kept system
      allowed := by
  have begun : ∀ (pool : Pool σ κ ρ ε α μ) (task : μ), handler < pool.tasks.length →
      (reachesInvariant related calls handler interference program start).Settles
        pool.tasks.length task pool.shared (system.body pool.tasks.length task) := by
    intro pool task later
    have framed := interferes.respects pool.tasks.length task pool.shared pool.shared
      (interferes.refl _ _)
    obtain ⟨near, _, respects⟩ := Async.segment_of_frame framed
    refine ⟨trivial, near, ?_, respects, fun same => absurd same (by omega)⟩
    intro other found paused _ held
    exact ⟨held.1, fun same =>
      .others (held.2 same) (interferes.others pool.tasks.length _ _ (by omega) near)⟩
  exact
    { widened := fun count _ wide => Nat.lt_succ_of_lt wide
      inScope := fun _ _ _ _ _ _ wide => wide
      launched := fun pool task covers _ _ => begun pool task covers.2.1
      forked := fun pool _ _ task _ covers => begun pool task covers.2.1
      resumed := by
        intro pool index task call next reply covers waiting answered _
        have held := covers.2.2 index task _ waiting
        obtain ⟨near, _, respects⟩ := Async.segment_of_frame (held.1 reply pool.shared)
        refine ⟨trivial, near, ?_, respects, fun same => ?_⟩
        · intro other found paused different held
          refine ⟨held.1, fun same => .others (held.2 same) (interferes.others index _ _ ?_ near)⟩
          omega
        · exact .answered (held.2 same) (interferes.answers pool index call reply answered) }

/-- A condition on the shared state that the first tasks may break, but no other. -/
theorem scope_of_run {scope : Nat → σ → Prop}
    (respects : ∀ index task, (system.body index task).Respects (related index) calls)
    (refl : ∀ index state, related index state state)
    (widened : ∀ count state, scope count state → scope (count + 1) state)
    (inScope : ∀ index count before after, index < count → related index before after →
      scope count before → scope count after)
    {shared : σ} (initial : scope 0 shared) {pool : Pool σ κ ρ ε α μ}
    (run : Runs system.Step allowed ⟨shared, []⟩ pool) : scope pool.tasks.length pool.shared := by
  let holds : PoolInvariant σ κ ρ ε α μ :=
    ⟨fun _ => True, scope, related, fun index _ _ paused => paused.Respects (related index) calls⟩
  have begun : ∀ (pool : Pool σ κ ρ ε α μ) (task : μ), holds.Settles pool.tasks.length task
      pool.shared (system.body pool.tasks.length task) := by
    intro pool task
    obtain ⟨near, _, kept⟩ := Async.segment_of_frame
      (respects pool.tasks.length task pool.shared pool.shared (refl _ _))
    exact ⟨trivial, near, fun _ _ _ _ held => held, kept⟩
  have kept : holds.Kept system allowed :=
    { widened := widened
      inScope := inScope
      launched := fun pool task _ _ _ => begun pool task
      forked := fun pool _ _ task _ _ => begun pool task
      resumed := by
        intro pool index task call next reply covers waiting _ _
        have held : (Paused.awaiting call next).Respects (related index) calls :=
          covers.2.2 index task _ waiting
        obtain ⟨near, _, further⟩ := Async.segment_of_frame (held reply pool.shared)
        exact ⟨trivial, near, fun _ _ _ _ still => still, further⟩ }
  have covers : holds.Covers pool := PoolInvariant.covers_run kept run ⟨trivial, initial, by simp⟩
  exact covers.2.1

theorem respects_of_run (interferes : Interferes system related calls handler interference)
    {shared : σ} {pool : Pool σ κ ρ ε α μ} (run : Runs system.Step allowed ⟨shared, []⟩ pool)
    {index : Nat} {task : μ} {paused : Paused σ κ ρ ε α}
    (found : pool.tasks[index]? = some (task, paused)) : paused.Respects (related index) calls := by
  have shaped : Shape system (fun index _ paused => paused.Respects (related index) calls) :=
    { begun := fun index task state =>
        (Async.segment_of_frame (interferes.respects index task state state
          (interferes.refl _ _))).2.2
      resumed := fun _ _ _ _ reply state respects =>
        (Async.segment_of_frame (respects reply state)).2.2 }
  exact shaped.run run found

/-- In a run of the system, a task that is started somewhere reaches where it stops later, from
the state it was started in. -/
theorem reaches_of_run (interferes : Interferes system related calls handler interference)
    {shared : σ} {pool last : Pool σ κ ρ ε α μ} {task found : μ} {paused : Paused σ κ ρ ε α}
    (before : Runs system.Step allowed ⟨shared, []⟩ pool) (position : pool.tasks.length = handler)
    (run : Runs system.Step allowed (system.start pool task) last)
    (stopped : last.tasks[handler]? = some (found, paused)) :
    interference.Reaches (system.body handler task) pool.shared paused last.shared := by
  subst position
  let holds : PoolInvariant σ κ ρ ε α μ := reachesInvariant related calls pool.tasks.length
    interference (system.body pool.tasks.length task) pool.shared
  have kept : holds.Kept system allowed := reaches_kept interferes
  have framed := interferes.respects pool.tasks.length task pool.shared pool.shared
    (interferes.refl _ _)
  obtain ⟨_, _, respects⟩ := Async.segment_of_frame framed
  have begun : holds.Covers (system.begin pool task) := by
    refine ⟨trivial, ?_, ?_⟩
    · change pool.tasks.length < (system.begin pool task).tasks.length
      rw [System.begin_length]
      omega
    intro index other paused member
    simp only [System.begin, List.getElem?_append] at member
    split at member
    next old =>
      exact ⟨respects_of_run interferes before member, fun same => absurd same (by omega)⟩
    next new =>
      have bound := (List.getElem?_eq_some_iff.mp member).1
      simp only [List.length_cons, List.length_nil] at bound
      have same : index = pool.tasks.length := by omega
      subst same
      simp only [Nat.sub_self, List.getElem?_cons_zero, Option.some.injEq, Prod.mk.injEq] at member
      rw [← member.2]
      exact ⟨respects, fun _ => .first⟩
  have started : holds.Covers (system.start pool task) :=
    (PoolInvariant.forks_spec kept PoolInvariant.respected_any pool.tasks.length
      ((system.body pool.tasks.length task).segment pool.shared).2 begun).1
  have covers := PoolInvariant.covers_run kept run started
  exact (covers.2.2 pool.tasks.length found paused stopped).2 rfl

end System
end NodeRedBull.Library
