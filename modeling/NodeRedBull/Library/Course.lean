import NodeRedBull.Library.Async

/-! The runs of one body: what it called, what it was answered and where it has come to. The
others may do anything while it waits. -/

namespace NodeRedBull.Library

/-- A call and its answer. -/
structure Exchange (κ : Type) (ρ : κ → Type) (ε : Type) where
  call : κ
  reply : Except ε (ρ call)

def Exchange.succeeded {κ : Type} {ρ : κ → Type} {ε : Type} (exchange : Exchange κ ρ ε) : Prop :=
  exchange.reply.isOk = true

/-- The call that a stopped body waits for. -/
def Paused.waitsFor {σ κ : Type} {ρ : κ → Type} {ε α : Type} :
    Paused σ κ ρ ε α → List κ
  | .finished _ => []
  | .awaiting call _ => [call]

variable {σ κ : Type} {ρ : κ → Type} {ε α β : Type}

/-- Where a sequence stops when its first part stops for good or for an answer. -/
inductive Paused.Halts : Paused σ κ ρ ε α → Paused σ κ ρ ε β → Prop where
  | failed (error : ε) : Halts (.finished (.error error)) (.finished (.error error))
  | awaiting (call : κ) (next : Except ε (ρ call) → Async σ κ ρ ε α)
      (then_ : Except ε (ρ call) → Async σ κ ρ ε β) : Halts (.awaiting call next) (.awaiting call then_)

/-- Each segment starts from some state, whatever the earlier ones left. -/
inductive Course : Async σ κ ρ ε α → List (Exchange κ ρ ε) → Paused σ κ ρ ε α → Prop where
  | stop (program : Async σ κ ρ ε α) (state : σ) : Course program [] (program.segment state).2
  | answered {program : Async σ κ ρ ε α} (state : σ) {call : κ}
      {next : Except ε (ρ call) → Async σ κ ρ ε α} {reply : Except ε (ρ call)}
      {rest : List (Exchange κ ρ ε)} {stopped : Paused σ κ ρ ε α}
      (waits : (program.segment state).2 = .awaiting call next)
      (later : Course (next reply) rest stopped) : Course program (⟨call, reply⟩ :: rest) stopped

/-- All calls of a run, the one that is not answered yet included. -/
def callsOf (exchanges : List (Exchange κ ρ ε)) (stopped : Paused σ κ ρ ε α) : List κ :=
  exchanges.map Exchange.call ++ stopped.waitsFor

namespace Async

variable {program : Async σ κ ρ ε α} {rest : α → Async σ κ ρ ε β}
variable {exchanges : List (Exchange κ ρ ε)} {error : ε}

/-- A run of a sequence has come to a stop in its first part, or it is a run of the first part
and one of the second. -/
theorem course_bind {stopped : Paused σ κ ρ ε β}
    (run : Course (program >>= rest) exchanges stopped) :
    (∃ early, Course program exchanges early ∧ early.Halts stopped) ∨
      ∃ first second value, exchanges = first ++ second ∧
        Course program first (.finished (.ok value)) ∧ Course (rest value) second stopped := by
  generalize sequence : program >>= rest = whole at run
  induction run generalizing program with
  | stop whole state =>
    subst sequence
    rw [segment_bind]
    have here := Course.stop program state
    cases ended : (program.segment state).2 with
    | finished result =>
      rw [ended] at here
      cases result with
      | ok value => exact .inr ⟨[], [], value, rfl, here, .stop (rest value) _⟩
      | error thrown => exact .inl ⟨_, here, .failed thrown⟩
    | awaiting call next =>
      rw [ended] at here
      exact .inl ⟨_, here, .awaiting call next _⟩
  | @answered whole state call next reply tail stopped waits later ih =>
    subst sequence
    rw [segment_bind] at waits
    cases ended : (program.segment state).2 with
    | finished result =>
      rw [ended] at waits
      cases result with
      | ok value =>
        have here := Course.stop program state
        rw [ended] at here
        exact .inr ⟨[], ⟨call, reply⟩ :: tail, value, rfl, here, .answered _ waits later⟩
      | error thrown =>
        change Paused.finished (Except.error thrown) = _ at waits
        cases waits
    | awaiting asked then_ =>
      rw [ended] at waits
      change Paused.awaiting asked (fun reply => then_ reply >>= rest) = _ at waits
      injection waits with same continued
      subst same
      have continues := congrFun (eq_of_heq continued) reply
      rcases ih continues with ⟨early, before, halts⟩ | ⟨first, second, value, split, before, after⟩
      · exact .inl ⟨early, .answered state ended before, halts⟩
      · refine .inr ⟨⟨asked, reply⟩ :: first, second, value, ?_, .answered state ended before, after⟩
        rw [split, List.cons_append]

/-- A run of a sequence that has failed did so in its first part or in its second. -/
theorem course_bind_error {stopped : Paused σ κ ρ ε β}
    (run : Course (program >>= rest) exchanges stopped)
    (failed : stopped = .finished (.error error)) :
    Course program exchanges (.finished (.error error)) ∨
      ∃ first second value, exchanges = first ++ second ∧
        Course program first (.finished (.ok value)) ∧
        Course (rest value) second (.finished (.error error)) := by
  rw [failed] at run
  rcases course_bind run with ⟨early, before, halts⟩ | split
  · cases halts
    exact .inl before
  · exact .inr split

theorem course_pure {value : α} {stopped : Paused σ κ ρ ε α}
    (run : Course (Pure.pure value) exchanges stopped) :
    exchanges = [] ∧ stopped = .finished (.ok value) := by
  cases run with
  | stop => exact ⟨rfl, rfl⟩
  | answered _ waits => cases waits

theorem course_throw {thrown : ε} {stopped : Paused σ κ ρ ε α}
    (run : Course (MonadExcept.throw thrown) exchanges stopped) :
    exchanges = [] ∧ stopped = .finished (.error thrown) := by
  cases run with
  | stop => exact ⟨rfl, rfl⟩
  | answered _ waits => cases waits

/-! ### Allowed calls -/

/-- The body makes these calls only, whatever it is answered. -/
structure CallsOnly (calls : κ → Prop) (program : Async σ κ ρ ε α) : Prop where
  respects : program.Respects (fun _ _ => True) calls

variable {calls : κ → Prop}

theorem callsOnly_pure (value : α) : CallsOnly calls (Pure.pure value : Async σ κ ρ ε α) :=
  ⟨respects_pure value⟩

theorem callsOnly_throw (thrown : ε) :
    CallsOnly calls (MonadExcept.throw thrown : Async σ κ ρ ε α) :=
  ⟨respects_throw thrown⟩

theorem callsOnly_get : CallsOnly calls (get : Async σ κ ρ ε σ) := ⟨respects_get⟩

theorem callsOnly_call {request : κ} (member : calls request) :
    CallsOnly calls (call request : Async σ κ ρ ε (ρ request)) :=
  ⟨respects_call (fun _ => trivial) member⟩

theorem callsOnly_bind (first : CallsOnly calls program)
    (second : ∀ value, CallsOnly calls (rest value)) : CallsOnly calls (program >>= rest) :=
  ⟨respects_bind first.respects fun value => (second value).respects⟩

theorem CallsOnly.course (only : CallsOnly calls program) {stopped : Paused σ κ ρ ε α}
    (run : Course program exchanges stopped) : ∀ call ∈ callsOf exchanges stopped, calls call := by
  have framed : ∀ start, program.Framed (fun _ _ => True) calls start start :=
    fun start => only.respects start start trivial
  clear only
  induction run with
  | stop program state =>
    have waits := (segment_of_frame (framed state)).2.1
    intro call member
    unfold callsOf at member
    cases ended : (program.segment state).2 with
    | finished result =>
      rw [ended] at member
      cases member
    | awaiting asked next =>
      rw [ended] at member waits
      cases List.mem_singleton.mp member
      exact waits
  | @answered program state asked next reply rest stopped waits later ih =>
    obtain ⟨_, waiting, continues⟩ := segment_of_frame (framed state)
    rw [waits] at waiting continues
    intro call member
    rcases List.mem_cons.mp member with first | other
    · rw [first]
      exact waiting
    · exact ih (fun start => continues reply start) call other

/-! ### Refusals -/

/-- Without a failing answer the body does not fail in this way. -/
def NeverRefuses (refusal : ε → Prop) (program : Async σ κ ρ ε α) : Prop :=
  ∀ exchanges error, Course program exchanges (.finished (.error error)) →
    (∀ exchange ∈ exchanges, exchange.succeeded) → ¬refusal error

/-- If the body fails in this way by itself, it has made no other calls than these. -/
def RefusesFirst (refusal : ε → Prop) (lookups : κ → Prop) (program : Async σ κ ρ ε α) : Prop :=
  ∀ exchanges error, Course program exchanges (.finished (.error error)) →
    (∀ exchange ∈ exchanges, exchange.succeeded) → refusal error →
      ∀ exchange ∈ exchanges, lookups exchange.call

variable {refusal : ε → Prop} {lookups : κ → Prop}

theorem NeverRefuses.first (never : NeverRefuses refusal program) :
    RefusesFirst refusal lookups program :=
  fun exchanges error run succeeded refused =>
    absurd refused (never exchanges error run succeeded)

theorem CallsOnly.first (only : CallsOnly lookups program) :
    RefusesFirst refusal lookups program := by
  intro exchanges error run _ _ exchange member
  apply only.course run
  exact List.mem_append_left _ (List.mem_map_of_mem member)

theorem neverRefuses_pure (value : α) :
    NeverRefuses refusal (Pure.pure value : Async σ κ ρ ε α) := by
  intro exchanges error run
  cases (course_pure run).2

theorem neverRefuses_throw {thrown : ε} (allowed : ¬refusal thrown) :
    NeverRefuses refusal (MonadExcept.throw thrown : Async σ κ ρ ε α) := by
  intro exchanges error run _
  obtain ⟨_, ended⟩ := course_throw run
  injection ended with same
  injection same with same
  rw [same]
  exact allowed

theorem neverRefuses_get : NeverRefuses refusal (get : Async σ κ ρ ε σ) := by
  intro exchanges error run
  generalize ended : Paused.finished (Except.error error) = stopped at run
  cases run with
  | stop _ state => cases ended
  | answered _ waits => cases waits

theorem neverRefuses_call (request : κ) :
    NeverRefuses refusal (call request : Async σ κ ρ ε (ρ request)) := by
  intro exchanges error run succeeded
  generalize ended : Paused.finished (Except.error error) = stopped at run
  cases run with
  | stop _ state => cases ended
  | @answered _ state asked next reply rest _ waits later =>
    rw [segment_call] at waits
    injection waits with same continued
    subst same
    have answer := succeeded _ (List.mem_cons_self ..)
    rw [← eq_of_heq continued] at later
    cases reply with
    | ok value =>
      rw [(course_pure later).2] at ended
      cases ended
    | error thrown => cases answer

theorem neverRefuses_bind (first : NeverRefuses refusal program)
    (second : ∀ value, NeverRefuses refusal (rest value)) :
    NeverRefuses refusal (program >>= rest) := by
  intro exchanges error run succeeded
  rcases course_bind_error run rfl with failed | ⟨before, after, value, split, _, failed⟩
  · exact first exchanges error failed succeeded
  · apply second value after error failed
    intro exchange member
    apply succeeded
    rw [split]
    exact List.mem_append_right _ member

/-- Check, then look up or act: a refusal of the second part follows no call but the
lookups of the first. -/
theorem refusesFirst_bind (looks : CallsOnly lookups program)
    (second : ∀ value, RefusesFirst refusal lookups (rest value)) :
    RefusesFirst refusal lookups (program >>= rest) := by
  intro exchanges error run succeeded refused
  rcases course_bind_error run rfl with failed | ⟨before, after, value, split, passed, failed⟩
  · exact looks.first exchanges error failed succeeded refused
  · intro exchange member
    rw [split] at member succeeded
    rcases List.mem_append.mp member with early | late
    · apply looks.course passed
      exact List.mem_append_left _ (List.mem_map_of_mem early)
    · exact second value after error failed
        (fun exchange member => succeeded exchange (List.mem_append_right _ member)) refused
        exchange late

end Async

end NodeRedBull.Library
