/-! Bodies of asynchronous functions. Between two awaits a body reads and writes the
shared state without interruption; at an await it stops until its call is answered. -/

namespace NodeRedBull.Library

/-- `σ` is the shared state, `κ` what a body can wait for, `ρ` the reply of a call
and `ε` what is thrown. -/
inductive Async (σ κ : Type) (ρ : κ → Type) (ε α : Type) : Type where
  | pure (value : α)
  | throw (error : ε)
  | read (next : σ → Async σ κ ρ ε α)
  | write (state : σ) (next : Async σ κ ρ ε α)
  | await (call : κ) (next : Except ε (ρ call) → Async σ κ ρ ε α)

/-- Where a body stops: it has settled, or it waits for the answer to a call. -/
inductive Paused (σ κ : Type) (ρ : κ → Type) (ε α : Type) : Type where
  | finished (result : Except ε α)
  | awaiting (call : κ) (next : Except ε (ρ call) → Async σ κ ρ ε α)

namespace Async

variable {σ κ : Type} {ρ : κ → Type} {ε α β : Type}

def bind (program : Async σ κ ρ ε α) (rest : α → Async σ κ ρ ε β) : Async σ κ ρ ε β :=
  match program with
  | .pure value => rest value
  | .throw error => .throw error
  | .read next => .read (fun state => (next state).bind rest)
  | .write state next => .write state (next.bind rest)
  | .await call next => .await call (fun reply => (next reply).bind rest)

def tryCatch (program : Async σ κ ρ ε α) (handler : ε → Async σ κ ρ ε α) : Async σ κ ρ ε α :=
  match program with
  | .pure value => .pure value
  | .throw error => handler error
  | .read next => .read (fun state => (next state).tryCatch handler)
  | .write state next => .write state (next.tryCatch handler)
  | .await call next => .await call (fun reply => (next reply).tryCatch handler)

instance : Monad (Async σ κ ρ ε) where
  pure := .pure
  bind := bind

instance : MonadExceptOf ε (Async σ κ ρ ε) where
  throw := .throw
  tryCatch := tryCatch

instance : MonadStateOf σ (Async σ κ ρ ε) where
  get := .read .pure
  set state := .write state (.pure ())
  modifyGet change := .read fun state => .write (change state).2 (.pure (change state).1)

/-- Wait for an external call; a rejected reply is thrown at the await. -/
def call (request : κ) : Async σ κ ρ ε (ρ request) :=
  .await request fun reply =>
    match reply with
    | .ok value => .pure value
    | .error error => .throw error

/-- Run to the next await, or to the end. -/
def segment : Async σ κ ρ ε α → σ → σ × Paused σ κ ρ ε α
  | .pure value, state => (state, .finished (.ok value))
  | .throw error, state => (state, .finished (.error error))
  | .read next, state => (next state).segment state
  | .write state next, _ => next.segment state
  | .await call next, state => (state, .awaiting call next)

end Async

namespace Paused

variable {σ κ : Type} {ρ : κ → Type} {ε α β : Type}

/-- What a body has come to, once it has settled. -/
def result : Paused σ κ ρ ε α → Option (Except ε α)
  | .finished result => some result
  | .awaiting _ _ => none

/-- Go on with the rest of a body where its first part stopped. -/
def andThen (rest : α → Async σ κ ρ ε β) (state : σ) :
    Paused σ κ ρ ε α → σ × Paused σ κ ρ ε β
  | .finished (.ok value) => (rest value).segment state
  | .finished (.error error) => (state, .finished (.error error))
  | .awaiting call next => (state, .awaiting call fun reply => next reply >>= rest)

def orHandle (handler : ε → Async σ κ ρ ε α) (state : σ) :
    Paused σ κ ρ ε α → σ × Paused σ κ ρ ε α
  | .finished (.ok value) => (state, .finished (.ok value))
  | .finished (.error error) => (handler error).segment state
  | .awaiting call next => (state, .awaiting call fun reply => tryCatch (next reply) handler)

end Paused

namespace Async

variable {σ κ : Type} {ρ : κ → Type} {ε α β : Type}

@[simp] theorem segment_pure (value : α) (state : σ) :
    (Pure.pure value : Async σ κ ρ ε α).segment state = (state, .finished (.ok value)) := rfl

@[simp] theorem segment_throw (error : ε) (state : σ) :
    (MonadExcept.throw error : Async σ κ ρ ε α).segment state = (state, .finished (.error error)) :=
  rfl

@[simp] theorem segment_get (state : σ) :
    (get : Async σ κ ρ ε σ).segment state = (state, .finished (.ok state)) := rfl

@[simp] theorem segment_modify (change : σ → σ) (state : σ) :
    (modify change : Async σ κ ρ ε PUnit).segment state = (change state, .finished (.ok ⟨⟩)) := rfl

@[simp] theorem segment_modifyGet (change : σ → β × σ) (state : σ) :
    (modifyGet change : Async σ κ ρ ε β).segment state =
      ((change state).2, .finished (.ok (change state).1)) := rfl

@[simp] theorem segment_bind (program : Async σ κ ρ ε α) (rest : α → Async σ κ ρ ε β) (state : σ) :
    (program >>= rest).segment state =
      (program.segment state).2.andThen rest (program.segment state).1 := by
  change (program.bind rest).segment state = _
  induction program generalizing state with
  | pure value => rfl
  | throw error => rfl
  | read next ih => exact ih state state
  | write stored next ih => exact ih stored
  | await call next _ => rfl

@[simp] theorem segment_map (change : α → β) (program : Async σ κ ρ ε α) (state : σ) :
    (change <$> program).segment state =
      (program.segment state).2.andThen (fun value => Pure.pure (change value))
        (program.segment state).1 :=
  segment_bind program (fun value => Pure.pure (change value)) state

@[simp] theorem segment_tryCatch (program : Async σ κ ρ ε α) (handler : ε → Async σ κ ρ ε α)
    (state : σ) :
    (MonadExcept.tryCatch program handler).segment state =
      (program.segment state).2.orHandle handler (program.segment state).1 := by
  change (program.tryCatch handler).segment state = _
  induction program generalizing state with
  | pure value => rfl
  | throw error => rfl
  | read next ih => exact ih state state
  | write stored next ih => exact ih stored
  | await call next _ => rfl

@[simp] theorem segment_call (request : κ) (state : σ) :
    (call request : Async σ κ ρ ε (ρ request)).segment state = (state, .awaiting request
      fun reply => match reply with
        | .ok value => .pure value
        | .error error => .throw error) := rfl

end Async

/-- What a body may rely on while it waits, what it must guarantee in each segment, what
it knows where it waits and the answers it can get. `invariant` holds whenever no segment
is running. -/
structure Contract (σ κ : Type) (ρ : κ → Type) (ε : Type) where
  invariant : σ → Prop
  rely : σ → σ → Prop
  guarantee : σ → σ → Prop
  waiting : σ → κ → Prop
  answers : σ → (call : κ) → Except ε (ρ call) → Prop

namespace Async

variable {σ κ : Type} {ρ : κ → Type} {ε α β : Type}

/-- The weakest condition on the start of the current segment and the state now under
which every segment of the body keeps the contract and it settles as `post` says. -/
def wp (contract : Contract σ κ ρ ε) (program : Async σ κ ρ ε α)
    (post : σ → Except ε α → σ → Prop) (start now : σ) : Prop :=
  match program with
  | .pure value => post start (.ok value) now
  | .throw error => post start (.error error) now
  | .read next => (next now).wp contract post start now
  | .write state next => next.wp contract post start state
  | .await call next =>
    contract.invariant now ∧ contract.guarantee start now ∧ contract.waiting now call ∧
      ∀ later, contract.invariant later → contract.rely now later →
        ∀ reply, contract.answers later call reply → (next reply).wp contract post later later

end Async

/-- The condition on a body that is stopped: whatever the others do until its call is
answered, the rest of it keeps the contract. -/
def Paused.Meets {σ κ : Type} {ρ : κ → Type} {ε α : Type} (contract : Contract σ κ ρ ε)
    (post : σ → Except ε α → σ → Prop) (start now : σ) : Paused σ κ ρ ε α → Prop
  | .finished result => post start result now
  | .awaiting call next =>
    contract.invariant now ∧ contract.guarantee start now ∧ contract.waiting now call ∧
      ∀ later, contract.invariant later → contract.rely now later →
        ∀ reply, contract.answers later call reply → (next reply).wp contract post later later

namespace Async

variable {σ κ : Type} {ρ : κ → Type} {ε α β : Type}
variable {contract : Contract σ κ ρ ε} {start now : σ}

theorem wp_iff_segment (program : Async σ κ ρ ε α) (post : σ → Except ε α → σ → Prop) :
    program.wp contract post start now ↔
      (program.segment now).2.Meets contract post start (program.segment now).1 := by
  induction program generalizing now with
  | pure value => rfl
  | throw error => rfl
  | read next ih => exact ih now
  | write state next ih => exact ih
  | await call next _ => rfl

theorem wp_mono (program : Async σ κ ρ ε α) {post wider : σ → Except ε α → σ → Prop}
    (implies : ∀ start result now, post start result now → wider start result now)
    (met : program.wp contract post start now) : program.wp contract wider start now := by
  induction program generalizing start now with
  | pure value => exact implies _ _ _ met
  | throw error => exact implies _ _ _ met
  | read next ih => exact ih now met
  | write state next ih => exact ih met
  | await call next ih =>
    exact ⟨met.1, met.2.1, met.2.2.1, fun later kept grown reply answered =>
      ih reply (met.2.2.2 later kept grown reply answered)⟩

@[simp] theorem wp_pure (value : α) (post : σ → Except ε α → σ → Prop) :
    (Pure.pure value : Async σ κ ρ ε α).wp contract post start now ↔ post start (.ok value) now :=
  Iff.rfl

@[simp] theorem wp_throw (error : ε) (post : σ → Except ε α → σ → Prop) :
    (MonadExcept.throw error : Async σ κ ρ ε α).wp contract post start now ↔
      post start (.error error) now :=
  Iff.rfl

@[simp] theorem wp_get (post : σ → Except ε σ → σ → Prop) :
    (get : Async σ κ ρ ε σ).wp contract post start now ↔ post start (.ok now) now :=
  Iff.rfl

@[simp] theorem wp_modify (change : σ → σ) (post : σ → Except ε PUnit → σ → Prop) :
    (modify change : Async σ κ ρ ε PUnit).wp contract post start now ↔
      post start (.ok ⟨⟩) (change now) :=
  Iff.rfl

@[simp] theorem wp_modifyGet (change : σ → β × σ) (post : σ → Except ε β → σ → Prop) :
    (modifyGet change : Async σ κ ρ ε β).wp contract post start now ↔
      post start (.ok (change now).1) (change now).2 :=
  Iff.rfl

@[simp] theorem wp_bind (program : Async σ κ ρ ε α) (rest : α → Async σ κ ρ ε β)
    (post : σ → Except ε β → σ → Prop) :
    (program >>= rest).wp contract post start now ↔
      program.wp contract (fun start result now =>
        match result with
        | .ok value => (rest value).wp contract post start now
        | .error error => post start (.error error) now) start now := by
  change (program.bind rest).wp contract post start now ↔ _
  induction program generalizing start now with
  | pure value => rfl
  | throw error => rfl
  | read next ih => exact ih now
  | write state next ih => exact ih
  | await call next ih => simp only [bind, wp, ih]

@[simp] theorem wp_map (change : α → β) (program : Async σ κ ρ ε α)
    (post : σ → Except ε β → σ → Prop) :
    (change <$> program).wp contract post start now ↔
      program.wp contract (fun start result now => post start (result.map change) now) start now := by
  change (program >>= fun value => Pure.pure (change value)).wp contract post start now ↔ _
  rw [wp_bind]
  apply iff_of_eq
  congr 1
  funext start result now
  cases result with
  | ok value => rfl
  | error error => rfl

@[simp] theorem wp_tryCatch (program : Async σ κ ρ ε α) (handler : ε → Async σ κ ρ ε α)
    (post : σ → Except ε α → σ → Prop) :
    (MonadExcept.tryCatch program handler).wp contract post start now ↔
      program.wp contract (fun start result now =>
        match result with
        | .ok value => post start (.ok value) now
        | .error error => (handler error).wp contract post start now) start now := by
  change (program.tryCatch handler).wp contract post start now ↔ _
  induction program generalizing start now with
  | pure value => rfl
  | throw error => rfl
  | read next ih => exact ih now
  | write state next ih => exact ih
  | await call next ih => simp only [tryCatch, wp, ih]

theorem wp_call (request : κ) (post : σ → Except ε (ρ request) → σ → Prop) :
    (call request : Async σ κ ρ ε (ρ request)).wp contract post start now ↔
      contract.invariant now ∧ contract.guarantee start now ∧ contract.waiting now request ∧
        ∀ later, contract.invariant later → contract.rely now later →
          ∀ reply, contract.answers later request reply → post later reply later := by
  simp only [call, wp]
  refine and_congr_right fun _ => and_congr_right fun _ => and_congr_right fun _ => ?_
  refine forall_congr' fun later => forall_congr' fun _ => forall_congr' fun _ => ?_
  refine forall_congr' fun reply => forall_congr' fun _ => ?_
  cases reply <;> rfl

/-! ### Bodies that leave something alone -/

/-- The contract of a body that may be answered anything at any time. -/
def frame (related : σ → σ → Prop) (calls : κ → Prop) : Contract σ κ ρ ε where
  invariant _ := True
  rely _ _ := True
  guarantee := related
  waiting _ := calls
  answers _ _ _ := True

/-- The segments of the body lead to states related to `start`, which the present segment began
from, or to where a later one began, and it waits at these calls only. -/
def Framed (related : σ → σ → Prop) (calls : κ → Prop) (program : Async σ κ ρ ε α)
    (start now : σ) : Prop :=
  program.wp (frame related calls) (fun start _ now => related start now) start now

def Respects (related : σ → σ → Prop) (calls : κ → Prop) (program : Async σ κ ρ ε α) : Prop :=
  ∀ start now, related start now → program.Framed related calls start now

variable {related : σ → σ → Prop} {calls : κ → Prop}

theorem framed_bind {program : Async σ κ ρ ε α} {rest : α → Async σ κ ρ ε β}
    (first : program.Framed related calls start now)
    (second : ∀ value, (rest value).Respects related calls) :
    (program >>= rest).Framed related calls start now := by
  unfold Framed
  rw [wp_bind]
  apply wp_mono _ _ first
  intro start result now near
  cases result with
  | ok value => exact second value start now near
  | error error => exact near

theorem framed_map {program : Async σ κ ρ ε α} (change : α → β)
    (kept : program.Framed related calls start now) :
    (change <$> program).Framed related calls start now := by
  unfold Framed
  rw [wp_map]
  exact kept

theorem framed_tryCatch {program : Async σ κ ρ ε α} {handler : ε → Async σ κ ρ ε α}
    (first : program.Framed related calls start now)
    (second : ∀ error, (handler error).Respects related calls) :
    (MonadExcept.tryCatch program handler).Framed related calls start now := by
  unfold Framed
  rw [wp_tryCatch]
  apply wp_mono _ _ first
  intro start result now near
  cases result with
  | ok value => exact near
  | error error => exact second error start now near

theorem respects_pure (value : α) :
    (Pure.pure value : Async σ κ ρ ε α).Respects related calls :=
  fun _ _ near => near

theorem respects_throw (error : ε) :
    (MonadExcept.throw error : Async σ κ ρ ε α).Respects related calls :=
  fun _ _ near => near

theorem respects_get : (get : Async σ κ ρ ε σ).Respects related calls :=
  fun _ _ near => near

theorem respects_modify
    (trans : ∀ first second third, related first second → related second third →
      related first third)
    {change : σ → σ} (kept : ∀ state, related state (change state)) :
    (modify change : Async σ κ ρ ε PUnit).Respects related calls :=
  fun _ _ near => trans _ _ _ near (kept _)

theorem respects_call (refl : ∀ state, related state state) {request : κ} (member : calls request) :
    (call request : Async σ κ ρ ε (ρ request)).Respects related calls := by
  intro start now near
  unfold Framed
  rw [wp_call]
  exact ⟨trivial, near, member, fun later _ _ _ _ => refl later⟩

theorem respects_bind {program : Async σ κ ρ ε α} {rest : α → Async σ κ ρ ε β}
    (first : program.Respects related calls) (second : ∀ value, (rest value).Respects related calls) :
    (program >>= rest).Respects related calls :=
  fun start now near => framed_bind (first start now near) second

theorem respects_map {program : Async σ κ ρ ε α} (change : α → β)
    (kept : program.Respects related calls) : (change <$> program).Respects related calls :=
  fun start now near => framed_map change (kept start now near)

theorem respects_tryCatch {program : Async σ κ ρ ε α} {handler : ε → Async σ κ ρ ε α}
    (first : program.Respects related calls)
    (second : ∀ error, (handler error).Respects related calls) :
    (MonadExcept.tryCatch program handler).Respects related calls :=
  fun start now near => framed_tryCatch (first start now near) second

end Async

/-- Whatever the answer, every later segment leads to a related state. -/
def Paused.Respects {σ κ : Type} {ρ : κ → Type} {ε α : Type} (related : σ → σ → Prop)
    (calls : κ → Prop) : Paused σ κ ρ ε α → Prop
  | .finished _ => True
  | .awaiting _ next => ∀ reply later, (next reply).Framed related calls later later

/-- Where a segment of such a body ends. -/
def Paused.WaitsAt {σ κ : Type} {ρ : κ → Type} {ε α : Type} (calls : κ → Prop) :
    Paused σ κ ρ ε α → Prop
  | .finished _ => True
  | .awaiting call _ => calls call

namespace Async

variable {σ κ : Type} {ρ : κ → Type} {ε α β : Type}
variable {related : σ → σ → Prop} {calls : κ → Prop} {start now : σ}

theorem segment_of_frame {program : Async σ κ ρ ε α}
    (met : program.Framed related calls start now) :
    related start (program.segment now).1 ∧ (program.segment now).2.WaitsAt calls ∧
      (program.segment now).2.Respects related calls := by
  unfold Framed at met
  rw [wp_iff_segment] at met
  cases stopped : (program.segment now).2 with
  | finished result =>
    rw [stopped] at met
    exact ⟨met, trivial, trivial⟩
  | awaiting call next =>
    rw [stopped] at met
    obtain ⟨_, near, waits, rest⟩ := met
    exact ⟨near, waits, fun reply later => rest later trivial trivial reply trivial⟩

/-- What lets a body that respects `related` keep a contract, and keep what is `known`. -/
structure Tolerates (contract : Contract σ κ ρ ε) (related : σ → σ → Prop) (calls : κ → Prop)
    (known : σ → Prop) : Prop where
  invariant : ∀ state, known state → contract.invariant state
  refl : ∀ state, contract.guarantee state state
  guarantee : ∀ first second third, contract.guarantee first second → related second third →
    contract.guarantee first third
  waits : ∀ state call, calls call → contract.waiting state call
  kept : ∀ before after, related before after → known before → known after
  stable : ∀ before after, contract.invariant after → contract.rely before after → known before →
    known after

theorem wp_of_framed {contract : Contract σ κ ρ ε} {known : σ → Prop}
    (tolerates : Tolerates contract related calls known) (program : Async σ κ ρ ε α) {base : σ}
    (framed : program.Framed related calls base now) (near : contract.guarantee start base)
    (holds : known base) :
    program.wp contract (fun start _ now => contract.guarantee start now ∧ known now) start now := by
  induction program generalizing base start now with
  | pure value => exact ⟨tolerates.guarantee _ _ _ near framed, tolerates.kept _ _ framed holds⟩
  | throw error => exact ⟨tolerates.guarantee _ _ _ near framed, tolerates.kept _ _ framed holds⟩
  | read next ih => exact ih now framed near holds
  | write state next ih => exact ih framed near holds
  | await call next ih =>
    obtain ⟨_, moved, member, rest⟩ := framed
    have here := tolerates.kept _ _ moved holds
    refine ⟨tolerates.invariant _ here, tolerates.guarantee _ _ _ near moved,
      tolerates.waits _ _ member, ?_⟩
    intro later invariant relied reply _
    exact ih reply (rest later trivial trivial reply trivial) (tolerates.refl later)
      (tolerates.stable _ _ invariant relied here)

end Async

end NodeRedBull.Library
