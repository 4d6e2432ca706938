import NodeRedBull.Library.Course
import NodeRedBull.Library.Part
import NodeRedBull.Library.Twins

/-! Tasks of a pool that change nothing until they make known what they have come to, and the
answers that a task was given along a run. -/

namespace NodeRedBull.Library

variable {σ κ : Type} {ρ : κ → Type} {ε α β γ μ ω : Type}

/-! ## The answers to one task -/

def PoolMove.exchangeOf (index : Nat) : PoolMove κ ρ ε μ → Option (Exchange κ ρ ε)
  | .start _ => none
  | .resume answered call reply => if answered = index then some ⟨call, reply⟩ else none

/-- What the task at `index` was answered, in order. -/
def exchangesOf (index : Nat) (moves : List (PoolMove κ ρ ε μ)) : List (Exchange κ ρ ε) :=
  moves.filterMap (PoolMove.exchangeOf index)

theorem exchangeOf_same (index : Nat) (call : κ) (reply : Except ε (ρ call)) :
    (PoolMove.resume index call reply : PoolMove κ ρ ε μ).exchangeOf index = some ⟨call, reply⟩ :=
  if_pos rfl

theorem exchangeOf_other {index answered : Nat} (different : answered ≠ index) (call : κ)
    (reply : Except ε (ρ call)) :
    (PoolMove.resume answered call reply : PoolMove κ ρ ε μ).exchangeOf index = none :=
  if_neg different

/-- One more answer to a body that waits. -/
theorem Course.further {program : Async σ κ ρ ε α} {exchanges : List (Exchange κ ρ ε)} {call : κ}
    {next : Except ε (ρ call) → Async σ κ ρ ε α}
    (run : Course program exchanges (.awaiting call next)) (reply : Except ε (ρ call)) (state : σ) :
    Course program (exchanges ++ [⟨call, reply⟩]) ((next reply).segment state).2 := by
  generalize waiting : Paused.awaiting call next = stopped at run
  induction run with
  | stop program started => exact .answered started waiting.symm (.stop (next reply) state)
  | answered started waits _ ih => exact .answered started waits (ih waiting)

theorem Course.respects {related : σ → σ → Prop} {calls : κ → Prop} {program : Async σ κ ρ ε α}
    (framed : ∀ state, program.Framed related calls state state)
    {exchanges : List (Exchange κ ρ ε)} {stopped : Paused σ κ ρ ε α}
    (run : Course program exchanges stopped) : stopped.Respects related calls := by
  induction run with
  | stop program state => exact (Async.segment_of_frame (framed state)).2.2
  | @answered program state call next reply rest stopped waits later ih =>
    have respects := (Async.segment_of_frame (framed state)).2.2
    rw [waits] at respects
    exact ih fun state => respects reply state

/-! ## Bodies that only ask -/

namespace Async

/-- A body that changes nothing. -/
structure Asks (program : Async σ κ ρ ε α) : Prop where
  unchanging : program.Respects Eq fun _ => True

theorem asks_pure (value : α) : (Pure.pure value : Async σ κ ρ ε α).Asks := ⟨respects_pure value⟩

theorem asks_throw (error : ε) : (MonadExcept.throw error : Async σ κ ρ ε α).Asks :=
  ⟨respects_throw error⟩

theorem asks_get : (get : Async σ κ ρ ε σ).Asks := ⟨respects_get⟩

theorem asks_call (request : κ) : (call request : Async σ κ ρ ε (ρ request)).Asks :=
  ⟨respects_call (fun _ => rfl) trivial⟩

theorem asks_bind {program : Async σ κ ρ ε α} {rest : α → Async σ κ ρ ε β} (first : program.Asks)
    (second : ∀ value, (rest value).Asks) : (program >>= rest).Asks :=
  ⟨respects_bind first.unchanging fun value => (second value).unchanging⟩

/-- What a body respects, it respects among more calls. -/
theorem framed_embed {κ' : Type} {ρ' : κ' → Type} {into : κ → κ'}
    {back : ∀ call, ρ' (into call) → ρ call} {related : σ → σ → Prop} {calls : κ → Prop}
    {program : Async σ κ ρ ε α} {start now : σ} (framed : program.Framed related calls start now) :
    (program.embed into back).Framed related (fun _ => True) start now := by
  induction program generalizing start now with
  | pure value => exact framed
  | throw error => exact framed
  | read next ih => exact ih now framed
  | write state next ih => exact ih framed
  | await call next ih =>
    obtain ⟨_, near, _, later⟩ := framed
    refine ⟨trivial, near, trivial, ?_⟩
    intro now _ _ reply _
    exact ih _ (later now trivial trivial _ trivial)

theorem respects_embed {κ' : Type} {ρ' : κ' → Type} {into : κ → κ'}
    {back : ∀ call, ρ' (into call) → ρ call} {related : σ → σ → Prop} {calls : κ → Prop}
    {program : Async σ κ ρ ε α} (respects : program.Respects related calls) :
    (program.embed into back).Respects related fun _ => True :=
  fun start now near => framed_embed (respects start now near)

theorem Asks.embed {κ' : Type} {ρ' : κ' → Type} {into : κ → κ'}
    {back : ∀ call, ρ' (into call) → ρ call} {program : Async σ κ ρ ε α} (asks : program.Asks) :
    (program.embed into back).Asks :=
  ⟨respects_embed asks.unchanging⟩

/-- A body that changes nothing respects every preorder. -/
theorem Asks.respects {related : σ → σ → Prop} (refl : ∀ state, related state state)
    {program : Async σ κ ρ ε α} (asks : program.Asks) :
    program.Respects related fun _ => True := by
  intro start now near
  apply framed_weaken _ (fun _ passed => passed) _ (asks.unchanging now now rfl)
  · intro before after same
    exact same ▸ refl before
  · intro after same
    exact same ▸ near

end Async

/-! ## Bodies that report -/

/-- What is done with the value or the failure of a body, and what is returned in the end. -/
structure Reporter (σ κ : Type) (ρ : κ → Type) (ε α γ : Type) where
  rest : α → Async σ κ ρ ε PUnit
  handler : ε → Async σ κ ρ ε PUnit
  value : γ

namespace Reporter

variable (reporter : Reporter σ κ ρ ε α γ)

def around (program : Async σ κ ρ ε α) : Async σ κ ρ ε γ := do
  try
    let value ← program
    reporter.rest value
  catch error => reporter.handler error
  return reporter.value

/-- The report is made at once, and nothing is thrown by it. -/
structure Reports (report : Except ε α → σ → σ) : Prop where
  returned : ∀ value state, (MonadExcept.tryCatch (reporter.rest value) reporter.handler).segment
    state = (report (.ok value) state, .finished (.ok ⟨⟩))
  thrown : ∀ error state, (reporter.handler error).segment state =
    (report (.error error) state, .finished (.ok ⟨⟩))

/-- Where a reporting body stops, given where the body in it does. -/
def stops (report : Except ε α → σ → σ) (state : σ) : Paused σ κ ρ ε α → σ × Paused σ κ ρ ε γ
  | .finished outcome => (report outcome state, .finished (.ok reporter.value))
  | .awaiting call next => (state, .awaiting call fun reply => reporter.around (next reply))

variable {reporter} {report : Except ε α → σ → σ} {program : Async σ κ ρ ε α}

theorem segment_around (reports : reporter.Reports report) (state : σ) :
    (reporter.around program).segment state =
      reporter.stops report (program.segment state).1 (program.segment state).2 := by
  have first : (program >>= reporter.rest).segment state =
      (program.segment state).2.andThen reporter.rest (program.segment state).1 :=
    Async.segment_bind program reporter.rest state
  have returned := reports.returned
  simp only [Async.segment_tryCatch] at returned
  have ended : ∀ (made : σ × Paused σ κ ρ ε PUnit) (last : σ), made = (last, .finished (.ok ⟨⟩)) →
      made.2.andThen (fun _ => (Pure.pure reporter.value : Async σ κ ρ ε γ)) made.1 =
        (last, .finished (.ok reporter.value)) := by
    intro made last settled
    rw [settled]
    rfl
  unfold around
  rw [Async.segment_bind, Async.segment_tryCatch, first]
  generalize (program.segment state).1 = now
  cases (program.segment state).2 with
  | finished result =>
    cases result with
    | ok value => exact ended _ _ (returned value now)
    | error error => exact ended _ _ (reports.thrown error now)
  | awaiting call next => rfl

/-! ## Reports in a pool -/

/-- A task may change what is seen of itself only. -/
def LeavesOthers (seen : Nat → σ → ω) (index : Nat) (before after : σ) : Prop :=
  ∀ other, other ≠ index → seen other after = seen other before

theorem leavesOthers_refl (seen : Nat → σ → ω) (index : Nat) (state : σ) :
    LeavesOthers seen index state state :=
  fun _ _ => rfl

/-- With these answers the body still waits and nothing is seen of the task, or the body has come
to an outcome and this outcome is seen. -/
def Stands (reporter : Reporter σ κ ρ ε α γ) (program : Async σ κ ρ ε α) (nothing : ω)
    (reported : Except ε α → ω) (exchanges : List (Exchange κ ρ ε)) (seen : ω)
    (paused : Paused σ κ ρ ε γ) : Prop :=
  (∃ call next, Course program exchanges (.awaiting call next) ∧
    paused = .awaiting call (fun reply => reporter.around (next reply)) ∧ seen = nothing) ∨
  ∃ outcome, Course program exchanges (.finished outcome) ∧
    paused = .finished (.ok reporter.value) ∧ seen = reported outcome

/-- Neither the body nor the report is seen of the others. -/
theorem around_respects {related : σ → σ → Prop}
    (body : program.Respects related fun _ => True)
    (rest : ∀ value, (reporter.rest value).Respects related fun _ => True)
    (handler : ∀ error, (reporter.handler error).Respects related fun _ => True) :
    (reporter.around program).Respects related fun _ => True := by
  apply Async.respects_bind (Async.respects_tryCatch (Async.respects_bind body rest) handler)
  exact fun _ => Async.respects_pure _

variable {system : System σ κ ρ ε γ μ} {seen : Nat → σ → ω} {nothing : ω}
variable {reported : Except ε α → ω} {index : Nat}

/-- The body leaves alone what is seen of its own task. -/
def Silent (seen : Nat → σ → ω) (index : Nat) (before after : σ) : Prop :=
  seen index after = seen index before

theorem silent_refl (seen : Nat → σ → ω) (index : Nat) (state : σ) :
    Silent seen index state state := rfl

/-- One segment of the body, from a state where nothing is seen of the task. -/
theorem segment_stands (reports : reporter.Reports report) {remaining : Async σ κ ρ ε α} {state : σ}
    (framed : remaining.Framed (Silent seen index) (fun _ => True) state state)
    (silent : seen index state = nothing)
    (made : ∀ outcome now, seen index now = nothing →
      seen index (report outcome now) = reported outcome)
    {exchanges : List (Exchange κ ρ ε)}
    (course : Course program exchanges (remaining.segment state).2) :
    reporter.Stands program nothing reported exchanges
        (seen index ((reporter.around remaining).segment state).1)
        ((reporter.around remaining).segment state).2 := by
  have unchanged : seen index (remaining.segment state).1 = seen index state :=
    (Async.segment_of_frame framed).1
  rw [segment_around reports]
  cases stopped : (remaining.segment state).2 with
  | finished outcome =>
    rw [stopped] at course
    exact .inr ⟨outcome, course, rfl, made outcome _ (unchanged.trans silent)⟩
  | awaiting call next =>
    rw [stopped] at course
    exact .inl ⟨call, next, course, rfl, unchanged.trans silent⟩

/-- The task at `index` reports what its body comes to and leaves no trace before, and every task
leaves alone what is seen of the others. -/
structure ReportsIn (system : System σ κ ρ ε γ μ) (first : Pool σ κ ρ ε γ μ) (seen : Nat → σ → ω)
    (nothing : ω) (reported : Except ε α → ω) (reporter : Reporter σ κ ρ ε α γ)
    (program : Async σ κ ρ ε α) (index : Nat) (task : μ) : Prop where
  unforked : ∀ position call, task ∉ system.forks position call
  respects : ∀ index task, (system.body index task).Respects (LeavesOthers seen index)
    (fun _ => True)
  body : ∀ pool, Runs system.Step anyMove first pool → system.launch pool task →
    (system.body index task).segment pool.shared = (reporter.around program).segment pool.shared
  silent : program.Respects (Silent seen index) fun _ => True
  reports : ∃ report, reporter.Reports report ∧ ∀ outcome now, seen index now = nothing →
    seen index (report outcome now) = reported outcome

/-- What a run keeps: no task that is still to come is seen, every task leaves the others alone,
and the one at `index`, if it is `task`, stands as its answers say. -/
structure Tracks (seen : Nat → σ → ω) (nothing : ω) (reported : Except ε α → ω)
    (reporter : Reporter σ κ ρ ε α γ) (program : Async σ κ ρ ε α) (index : Nat) (task : μ)
    (exchanges : List (Exchange κ ρ ε)) (pool : Pool σ κ ρ ε γ μ) : Prop where
  unseen : ∀ other, pool.tasks.length ≤ other → seen other pool.shared = nothing
  unasked : pool.tasks.length ≤ index → exchanges = []
  leaves : ∀ (other : Nat) (found : μ) (paused : Paused σ κ ρ ε γ),
    pool.tasks[other]? = some (found, paused) →
      paused.Respects (LeavesOthers seen other) (fun _ => True)
  stands : ∀ paused : Paused σ κ ρ ε γ, pool.tasks[index]? = some (task, paused) →
    reporter.Stands program nothing reported exchanges (seen index pool.shared) paused

section Runs

variable {task : μ} {exchanges : List (Exchange κ ρ ε)} {first pool last : Pool σ κ ρ ε γ μ}

theorem Tracks.begin
    (quiet : ReportsIn system first seen nothing reported reporter program index task) (other : μ)
    (fits : other = task → (system.body index task).segment pool.shared =
      (reporter.around program).segment pool.shared)
    (tracks : Tracks seen nothing reported reporter program index task exchanges pool) :
    Tracks seen nothing reported reporter program index task exchanges (system.begin pool other) := by
  have framed := quiet.respects pool.tasks.length other pool.shared pool.shared
    (leavesOthers_refl _ _ _)
  obtain ⟨left, _, later⟩ := Async.segment_of_frame framed
  refine ⟨?_, ?_, ?_, ?_⟩
  · intro further beyond
    rw [system.begin_length] at beyond
    change seen further ((system.body pool.tasks.length other).segment pool.shared).1 = nothing
    rw [left further (by omega)]
    exact tracks.unseen further (by omega)
  · intro beyond
    rw [system.begin_length] at beyond
    exact tracks.unasked (by omega)
  · intro position found paused member
    simp only [System.begin, List.getElem?_append] at member
    split at member
    next old => exact tracks.leaves position found paused member
    next new =>
      have bound := (List.getElem?_eq_some_iff.mp member).1
      simp only [List.length_cons, List.length_nil] at bound
      have same : position = pool.tasks.length := by omega
      subst same
      simp only [Nat.sub_self, List.getElem?_cons_zero, Option.some.injEq, Prod.mk.injEq] at member
      rw [← member.2]
      exact later
  · intro paused member
    simp only [System.begin, List.getElem?_append] at member
    split at member
    next old =>
      change reporter.Stands program nothing reported exchanges
        (seen index ((system.body pool.tasks.length other).segment pool.shared).1) paused
      rw [left index (by omega)]
      exact tracks.stands paused member
    next new =>
      have bound := (List.getElem?_eq_some_iff.mp member).1
      simp only [List.length_cons, List.length_nil] at bound
      have same : index = pool.tasks.length := by omega
      rw [same] at member
      simp only [Nat.sub_self, List.getElem?_cons_zero, Option.some.injEq, Prod.mk.injEq] at member
      rw [← member.2]
      change reporter.Stands program nothing reported exchanges
        (seen index ((system.body pool.tasks.length other).segment pool.shared).1) _
      rw [← same, member.1, fits member.1, tracks.unasked (by omega)]
      obtain ⟨report, reports, made⟩ := quiet.reports
      exact segment_stands reports (quiet.silent _ _ rfl) (tracks.unseen index (by omega)) made
        (.stop program pool.shared)

theorem Tracks.forked
    (quiet : ReportsIn system first seen nothing reported reporter program index task)
    (position : Nat) (paused : Paused σ κ ρ ε γ)
    (tracks : Tracks seen nothing reported reporter program index task exchanges pool) :
    Tracks seen nothing reported reporter program index task exchanges
      ((system.forked position paused).foldl system.begin pool) := by
  have others : ∀ other ∈ system.forked position paused, other ≠ task := by
    intro other member same
    subst same
    cases paused with
    | finished result => cases member
    | awaiting call next => exact quiet.unforked position call member
  generalize system.forked position paused = tasks at others
  induction tasks generalizing pool with
  | nil => exact tracks
  | cons head rest ih =>
    have begun := tracks.begin quiet head fun same =>
      absurd same (others head List.mem_cons_self)
    exact ih begun fun other member => others other (List.mem_cons_of_mem _ member)

theorem Tracks.step
    (quiet : ReportsIn system first seen nothing reported reporter program index task)
    (reached : Runs system.Step anyMove first pool)
    (tracks : Tracks seen nothing reported reporter program index task exchanges pool)
    {move : PoolMove κ ρ ε μ} (step : system.Step pool move last) :
    Tracks seen nothing reported reporter program index task
      (exchanges ++ (move.exchangeOf index).toList) last := by
  cases step with
  | @start other launched =>
    have begun := tracks.begin quiet other fun same => by
      subst same
      exact quiet.body pool reached launched
    have same : exchanges ++ ((PoolMove.start other : PoolMove κ ρ ε μ).exchangeOf index).toList =
        exchanges := List.append_nil exchanges
    rw [same]
    exact begun.forked quiet pool.tasks.length _
  | @resume position found call next reply waiting answered =>
    apply Tracks.forked quiet
    have bound := (List.getElem?_eq_some_iff.mp waiting).1
    have framed : (next reply).Framed (LeavesOthers seen position) (fun _ => True) pool.shared
        pool.shared := tracks.leaves position found _ waiting reply pool.shared
    obtain ⟨left, _, later⟩ := Async.segment_of_frame framed
    refine ⟨?_, ?_, ?_, ?_⟩
    · intro further beyond
      rw [List.length_set] at beyond
      change seen further ((next reply).segment pool.shared).1 = nothing
      rw [left further (by omega)]
      exact tracks.unseen further beyond
    · intro beyond
      rw [List.length_set] at beyond
      rw [exchangeOf_other (by omega), tracks.unasked beyond]
      rfl
    · intro other entry paused member
      simp only [List.getElem?_set] at member
      split at member
      next same =>
        subst same
        simp only [Option.some.injEq, Prod.mk.injEq] at member
        rw [← member.2]
        exact later
      next different => exact tracks.leaves other entry paused member
    · intro paused member
      simp only [List.getElem?_set] at member
      split at member
      next same =>
        subst same
        simp only [Option.some.injEq, Prod.mk.injEq] at member
        rw [← member.2, exchangeOf_same]
        rw [member.1] at waiting
        rcases tracks.stands _ waiting with ⟨asked, further, course, wait, silent⟩ |
          ⟨outcome, _, ended, _⟩
        · injection wait with calls continued
          subst calls
          rw [eq_of_heq continued]
          obtain ⟨report, reports, made⟩ := quiet.reports
          apply segment_stands reports _ silent made (course.further reply pool.shared)
          exact course.respects (fun state => quiet.silent state state rfl) reply pool.shared
        · cases ended
      next different =>
        rw [exchangeOf_other different]
        change reporter.Stands program nothing reported _
          (seen index ((next reply).segment pool.shared).1) paused
        have same : exchanges ++ (none : Option (Exchange κ ρ ε)).toList = exchanges :=
          List.append_nil exchanges
        rw [left index (Ne.symm different), same]
        exact tracks.stands paused member

/-- Along any run, whatever the others do: a task that reports what its body comes to has left no
trace while the body waits, and afterwards just the report of the outcome that the body has with
the answers of this run. -/
theorem reported_of_path {shared : σ}
    (quiet : ReportsIn system ⟨shared, []⟩ seen nothing reported reporter program index task)
    (unseen : ∀ index, seen index shared = nothing) {moves : List (PoolMove κ ρ ε μ)}
    (run : Path system.Step ⟨shared, []⟩ moves last) {paused : Paused σ κ ρ ε γ}
    (found : last.tasks[index]? = some (task, paused)) :
    reporter.Stands program nothing reported (exchangesOf index moves) (seen index last.shared)
      paused := by
  have tracked : ∀ {pool : Pool σ κ ρ ε γ μ} {others : List (PoolMove κ ρ ε μ)}
      (before : List (Exchange κ ρ ε)), Runs system.Step anyMove ⟨shared, []⟩ pool →
      Path system.Step pool others last →
      Tracks seen nothing reported reporter program index task before pool →
      Tracks seen nothing reported reporter program index task (before ++ exchangesOf index others)
        last := by
    intro pool others before reached path tracks
    induction path generalizing before with
    | nil =>
      have none : exchangesOf index ([] : List (PoolMove κ ρ ε μ)) = [] := rfl
      rw [none, List.append_nil]
      exact tracks
    | @cons pool later last move rest step _ ih =>
      have split : exchangesOf index (move :: rest) =
          (move.exchangeOf index).toList ++ exchangesOf index rest := by
        unfold exchangesOf
        rw [List.filterMap_cons]
        cases move.exchangeOf index <;> rfl
      rw [split, ← List.append_assoc]
      exact ih run found _ (reached.extend trivial step) (tracks.step quiet reached step)
  have empty : Tracks seen nothing reported reporter program index task []
      (⟨shared, []⟩ : Pool σ κ ρ ε γ μ) :=
    ⟨fun other _ => unseen other, fun _ => rfl, by simp, by simp⟩
  have whole := tracked [] (.refl _) run empty
  rw [List.nil_append] at whole
  exact whole.stands paused found

end Runs

end Reporter

end NodeRedBull.Library
