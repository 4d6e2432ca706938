import Mathlib.Data.List.Forall2
import NodeRedBull.Library.Pool

/-! Two programs side by side. From states that are alike they read, write and call in the same
places, and replies that are alike keep them together, so that what is alike about two starts
is alike about two runs. -/

namespace NodeRedBull.Library

/-- Which states, calls and values of replies are alike. -/
structure Likeness (σ κ : Type) (ρ : κ → Type) where
  states : σ → σ → Prop
  calls : κ → κ → Prop
  replies : (one other : κ) → ρ one → ρ other → Prop

variable {σ κ : Type} {ρ : κ → Type} {ε α β γ δ : Type}

/-- Replies are alike when they are the same. -/
def Likeness.sameReplies (states : σ → σ → Prop) (calls : κ → κ → Prop) : Likeness σ κ ρ :=
  ⟨states, calls, fun _ _ left right => HEq left right⟩

/-- Both calls fail with one error, or succeed with values that are alike. -/
inductive Likeness.Answers (like : Likeness σ κ ρ) (one other : κ) :
    Except ε (ρ one) → Except ε (ρ other) → Prop where
  | succeeds {left : ρ one} {right : ρ other} (replied : like.replies one other left right) :
      Answers like one other (.ok left) (.ok right)
  | fails (thrown : ε) : Answers like one other (.error thrown) (.error thrown)

/-- The programs go the same way, from states that are alike, and end with related results or
with one error. -/
inductive Async.Twins (like : Likeness σ κ ρ) (results : α → β → Prop) :
    Async σ κ ρ ε α → Async σ κ ρ ε β → Prop where
  | pure {left : α} {right : β} (related : results left right) :
      Twins like results (.pure left) (.pure right)
  | throw (error : ε) : Twins like results (.throw error) (.throw error)
  | read {left : σ → Async σ κ ρ ε α} {right : σ → Async σ κ ρ ε β}
      (next : ∀ one other, like.states one other → Twins like results (left one) (right other)) :
      Twins like results (.read left) (.read right)
  | write {one other : σ} {left : Async σ κ ρ ε α} {right : Async σ κ ρ ε β}
      (alike : like.states one other) (next : Twins like results left right) :
      Twins like results (.write one left) (.write other right)
  | await {one other : κ} {left : Except ε (ρ one) → Async σ κ ρ ε α}
      {right : Except ε (ρ other) → Async σ κ ρ ε β} (same : like.calls one other)
      (next : ∀ reply answer, like.Answers one other reply answer →
        Twins like results (left reply) (right answer)) :
      Twins like results (.await one left) (.await other right)

/-- Two bodies that have stopped side by side. -/
inductive Paused.Twins (like : Likeness σ κ ρ) (results : α → β → Prop) :
    Paused σ κ ρ ε α → Paused σ κ ρ ε β → Prop where
  | returned {left : α} {right : β} (related : results left right) :
      Twins like results (.finished (.ok left)) (.finished (.ok right))
  | thrown (error : ε) : Twins like results (.finished (.error error)) (.finished (.error error))
  | awaiting {one other : κ} {left : Except ε (ρ one) → Async σ κ ρ ε α}
      {right : Except ε (ρ other) → Async σ κ ρ ε β} (same : like.calls one other)
      (next : ∀ reply answer, like.Answers one other reply answer →
        (left reply).Twins like results (right answer)) :
      Twins like results (.awaiting one left) (.awaiting other right)

namespace Async

variable {like : Likeness σ κ ρ}

theorem twins_segment {results : α → β → Prop} {left : Async σ κ ρ ε α} {right : Async σ κ ρ ε β}
    (twins : left.Twins like results right) {one other : σ} (alike : like.states one other) :
    like.states (left.segment one).1 (right.segment other).1 ∧
      (left.segment one).2.Twins like results (right.segment other).2 := by
  induction twins generalizing one other with
  | pure related => exact ⟨alike, .returned related⟩
  | throw error => exact ⟨alike, .thrown error⟩
  | read _ ih => exact ih one other alike alike
  | write stored _ ih => exact ih stored
  | await same next _ => exact ⟨alike, .awaiting same next⟩

/-! ### Rules -/

theorem twins_pure {results : α → β → Prop} {left : α} {right : β} (related : results left right) :
    Twins like results (Pure.pure left : Async σ κ ρ ε α) (Pure.pure right : Async σ κ ρ ε β) :=
  .pure related

theorem twins_throw {results : α → β → Prop} (error : ε) :
    Twins like results (MonadExcept.throw error : Async σ κ ρ ε α)
      (MonadExcept.throw error : Async σ κ ρ ε β) :=
  .throw error

/-- What two programs come to decides how they go on. -/
theorem twins_bind {between : α → β → Prop} {results : γ → δ → Prop} {left : Async σ κ ρ ε α}
    {right : Async σ κ ρ ε β} {left_rest : α → Async σ κ ρ ε γ} {right_rest : β → Async σ κ ρ ε δ}
    (first : left.Twins like between right)
    (rest : ∀ one other, between one other → (left_rest one).Twins like results (right_rest other)) :
    Twins like results (left >>= left_rest) (right >>= right_rest) := by
  change Twins like results (left.bind left_rest) (right.bind right_rest)
  induction first with
  | pure related => exact rest _ _ related
  | throw error => exact .throw error
  | read _ ih => exact .read ih
  | write stored _ ih => exact .write stored ih
  | await same _ ih => exact .await same ih

/-- Two programs that come to the same go on from there. -/
theorem twins_seq {results : γ → δ → Prop} {left right : Async σ κ ρ ε α}
    {left_rest : α → Async σ κ ρ ε γ} {right_rest : α → Async σ κ ρ ε δ}
    (first : left.Twins like Eq right)
    (rest : ∀ value, (left_rest value).Twins like results (right_rest value)) :
    Twins like results (left >>= left_rest) (right >>= right_rest) :=
  twins_bind first fun one _ same => same ▸ rest one

theorem twins_map {between : α → β → Prop} {results : γ → δ → Prop} {left : Async σ κ ρ ε α}
    {right : Async σ κ ρ ε β} {change : α → γ} {other_change : β → δ}
    (twins : left.Twins like between right)
    (related : ∀ one other, between one other → results (change one) (other_change other)) :
    Twins like results (change <$> left) (other_change <$> right) :=
  twins_bind twins fun one other same => twins_pure (related one other same)

theorem twins_tryCatch {results : α → β → Prop} {left : Async σ κ ρ ε α} {right : Async σ κ ρ ε β}
    {left_handler : ε → Async σ κ ρ ε α} {right_handler : ε → Async σ κ ρ ε β}
    (twins : left.Twins like results right)
    (handled : ∀ error, (left_handler error).Twins like results (right_handler error)) :
    Twins like results (MonadExcept.tryCatch left left_handler)
      (MonadExcept.tryCatch right right_handler) := by
  change Twins like results (left.tryCatch left_handler) (right.tryCatch right_handler)
  induction twins with
  | pure related => exact .pure related
  | throw error => exact handled error
  | read _ ih => exact .read ih
  | write stored _ ih => exact .write stored ih
  | await same _ ih => exact .await same ih

theorem twins_get {results : σ → σ → Prop}
    (related : ∀ one other, like.states one other → results one other) :
    Twins like results (MonadState.get : Async σ κ ρ ε σ) MonadState.get :=
  .read fun one other alike => .pure (related one other alike)

theorem twins_modifyGet {change : σ → α × σ} {other_change : σ → β × σ} {results : α → β → Prop}
    (kept : ∀ one other, like.states one other →
      like.states (change one).2 (other_change other).2 ∧
        results (change one).1 (other_change other).1) :
    Twins like results (modifyGet change : Async σ κ ρ ε α) (modifyGet other_change) :=
  .read fun one other alike => .write (kept one other alike).1 (.pure (kept one other alike).2)

theorem twins_modify {change other_change : σ → σ} {results : PUnit → PUnit → Prop}
    (kept : ∀ one other, like.states one other → like.states (change one) (other_change other))
    (related : results ⟨⟩ ⟨⟩) :
    Twins like results (modify change : Async σ κ ρ ε PUnit) (modify other_change) :=
  twins_modifyGet fun one other alike => ⟨kept one other alike, related⟩

theorem twins_call {one other : κ} {results : ρ one → ρ other → Prop}
    (same : like.calls one other)
    (related : ∀ left right, like.replies one other left right → results left right) :
    Twins like results (call one : Async σ κ ρ ε (ρ one)) (call other) := by
  apply Twins.await same
  intro reply answer alike
  cases alike with
  | succeeds replied => exact .pure (related _ _ replied)
  | fails thrown => exact .throw thrown

theorem twins_sameCall {states : σ → σ → Prop} {calls : κ → κ → Prop} {request : κ}
    (same : calls request request) :
    Twins (Likeness.sameReplies states calls) Eq (call request : Async σ κ ρ ε (ρ request)) (call request) :=
  twins_call same fun _ _ replied => eq_of_heq replied

/-! ### Calls as a part of more calls -/

/-- The same body where there is more to wait for. -/
def embed {κ' : Type} {ρ' : κ' → Type} (into : κ → κ') (back : ∀ call, ρ' (into call) → ρ call) :
    Async σ κ ρ ε α → Async σ κ' ρ' ε α
  | .pure value => .pure value
  | .throw error => .throw error
  | .read next => .read fun state => (next state).embed into back
  | .write state next => .write state (next.embed into back)
  | .await call next =>
    .await (into call) fun reply => (next (reply.map (back call))).embed into back

theorem twins_embed {κ' : Type} {ρ' : κ' → Type} {into : κ → κ'}
    {back : ∀ call, ρ' (into call) → ρ call} {whole : Likeness σ κ' ρ'}
    (states : ∀ one other, whole.states one other ↔ like.states one other)
    (calls : ∀ one other, like.calls one other → whole.calls (into one) (into other))
    (replies : ∀ one other left right, whole.replies (into one) (into other) left right →
      like.replies one other (back one left) (back other right))
    {results : α → β → Prop} {left : Async σ κ ρ ε α} {right : Async σ κ ρ ε β}
    (twins : left.Twins like results right) :
    (left.embed into back).Twins whole results (right.embed into back) := by
  induction twins with
  | pure related => exact .pure related
  | throw error => exact .throw error
  | read _ ih => exact .read fun one other alike => ih one other ((states one other).mp alike)
  | write stored _ ih => exact .write ((states _ _).mpr stored) ih
  | await same _ ih =>
    apply Twins.await (calls _ _ same)
    intro reply answer alike
    apply ih
    cases alike with
    | succeeds replied => exact .succeeds (replies _ _ _ _ replied)
    | fails thrown => exact .fails thrown

end Async

/-! ### Pools -/

variable {μ : Type}

/-- Which tasks are alike as well, which results, and what is assumed of two replies. -/
structure PoolLikeness (σ κ : Type) (ρ : κ → Type) (ε α μ : Type) extends Likeness σ κ ρ where
  tasks : μ → μ → Prop
  results : α → α → Prop
  assumed : (one other : κ) → Except ε (ρ one) → Except ε (ρ other) → Prop

namespace PoolLikeness

variable (like : PoolLikeness σ κ ρ ε α μ)

def Stopped (one other : μ × Paused σ κ ρ ε α) : Prop :=
  like.tasks one.1 other.1 ∧ one.2.Twins like.toLikeness like.results other.2

def Alike (left right : Pool σ κ ρ ε α μ) : Prop :=
  like.states left.shared right.shared ∧ List.Forall₂ like.Stopped left.tasks right.tasks

/-- Tasks that are alike are started, or one task is answered. -/
inductive SameMove : PoolMove κ ρ ε μ → PoolMove κ ρ ε μ → Prop where
  | start {one other : μ} (same : like.tasks one other) : SameMove (.start one) (.start other)
  | resume {index : Nat} {one other : κ} {reply : Except ε (ρ one)} {answer : Except ε (ρ other)}
      (given : like.assumed one other reply answer) :
      SameMove (.resume index one reply) (.resume index other answer)

/-- Tasks that are alike have twin bodies, and calls that are alike fork the same. What the
system may answer, with what is assumed, makes replies alike. -/
structure Respected (system : System σ κ ρ ε α μ) : Prop where
  bodies : ∀ index one other, like.tasks one other →
    (system.body index one).Twins like.toLikeness like.results (system.body index other)
  forks : ∀ index one other, like.calls one other →
    List.Forall₂ like.tasks (system.forks index one) (system.forks index other)
  answers : ∀ left right index one other reply answer, like.Alike left right →
    like.calls one other → like.assumed one other reply answer →
    system.answers left index one reply → system.answers right index other answer →
    like.Answers one other reply answer

variable {like} {system : System σ κ ρ ε α μ} {left right : Pool σ κ ρ ε α μ}

theorem Alike.begin (respected : like.Respected system) (alike : like.Alike left right)
    {one other : μ} (same : like.tasks one other) :
    like.Alike (system.begin left one) (system.begin right other) := by
  have twins := respected.bodies left.tasks.length one other same
  have stopped := Async.twins_segment twins alike.1
  rw [alike.2.length_eq] at stopped
  unfold System.begin
  rw [alike.2.length_eq]
  exact ⟨stopped.1, List.rel_append alike.2 (.cons ⟨same, stopped.2⟩ .nil)⟩

theorem Alike.begins (respected : like.Respected system) {tasks others : List μ}
    (same : List.Forall₂ like.tasks tasks others) {left right : Pool σ κ ρ ε α μ}
    (alike : like.Alike left right) :
    like.Alike (tasks.foldl system.begin left) (others.foldl system.begin right) := by
  induction same generalizing left right with
  | nil => exact alike
  | cons first _ ih => exact ih (alike.begin respected first)

theorem forked_alike (respected : like.Respected system) (index : Nat)
    {one other : Paused σ κ ρ ε α} (twins : one.Twins like.toLikeness like.results other) :
    List.Forall₂ like.tasks (system.forked index one) (system.forked index other) := by
  cases twins with
  | returned _ => exact .nil
  | thrown _ => exact .nil
  | awaiting same _ => exact respected.forks index _ _ same

theorem Alike.start (respected : like.Respected system) (alike : like.Alike left right)
    {one other : μ} (same : like.tasks one other) :
    like.Alike (system.start left one) (system.start right other) := by
  have begun := alike.begin respected same
  have twins := respected.bodies left.tasks.length one other same
  have stopped := (Async.twins_segment twins alike.1).2
  rw [alike.2.length_eq] at stopped
  have forked := forked_alike respected right.tasks.length stopped
  unfold System.start
  unfold System.begin at begun
  rw [alike.2.length_eq] at begun ⊢
  exact begun.begins respected forked

theorem Alike.stopped {index : Nat} {one other : μ × Paused σ κ ρ ε α}
    (alike : like.Alike left right) (found : left.tasks[index]? = some one)
    (other_found : right.tasks[index]? = some other) : like.Stopped one other := by
  have bound := (List.getElem?_eq_some_iff.mp found).1
  have other_bound := (List.getElem?_eq_some_iff.mp other_found).1
  have same := alike.2.get bound other_bound
  simp only [List.get_eq_getElem] at same
  rw [(List.getElem?_eq_some_iff.mp found).2, (List.getElem?_eq_some_iff.mp other_found).2] at same
  exact same

theorem forall₂_set {related : α → β → Prop} {left : List α} {right : List β}
    (pairs : List.Forall₂ related left right) {one : α} {other : β} (same : related one other)
    (index : Nat) : List.Forall₂ related (left.set index one) (right.set index other) := by
  induction pairs generalizing index with
  | nil => exact .nil
  | cons first rest ih =>
    cases index with
    | zero => exact .cons same rest
    | succ index => exact .cons first (ih index)

theorem Alike.resume (respected : like.Respected system) (alike : like.Alike left right)
    (index : Nat) {one other : μ} (same : like.tasks one other) {rest other_rest : Async σ κ ρ ε α}
    (twins : rest.Twins like.toLikeness like.results other_rest) :
    like.Alike (system.resume left index one rest) (system.resume right index other other_rest) := by
  have stopped := Async.twins_segment twins alike.1
  have resumed : like.Alike
      (⟨(rest.segment left.shared).1, left.tasks.set index (one, (rest.segment left.shared).2)⟩)
      (⟨(other_rest.segment right.shared).1,
        right.tasks.set index (other, (other_rest.segment right.shared).2)⟩) :=
    ⟨stopped.1, forall₂_set alike.2 ⟨same, stopped.2⟩ index⟩
  exact resumed.begins respected (forked_alike respected index stopped.2)

/-- Moves that are alike keep two pools alike. -/
theorem Alike.step (respected : like.Respected system) {left_after right_after : Pool σ κ ρ ε α μ}
    {move other : PoolMove κ ρ ε μ} (alike : like.Alike left right) (same : like.SameMove move other)
    (made : system.Step left move left_after) (other_made : system.Step right other right_after) :
    like.Alike left_after right_after := by
  cases same with
  | start same =>
    cases made
    cases other_made
    exact alike.start respected same
  | @resume index call other_call reply answer given =>
    cases made with
    | resume waiting answered =>
      cases other_made with
      | resume other_waiting other_answered =>
        obtain ⟨same_task, stopped⟩ := alike.stopped waiting other_waiting
        cases stopped with
        | awaiting same_call next =>
          have answers := respected.answers left right index call other_call reply answer alike
            same_call given answered other_answered
          exact alike.resume respected index same_task (next reply answer answers)

/-- Two runs whose moves are alike stay alike. -/
theorem Alike.run (respected : like.Respected system) {left_last right_last : Pool σ κ ρ ε α μ}
    {moves others : List (PoolMove κ ρ ε μ)} (run : Path system.Step left moves left_last)
    (other_run : Path system.Step right others right_last)
    (same : List.Forall₂ like.SameMove moves others) (alike : like.Alike left right) :
    like.Alike left_last right_last :=
  Path.related (fun _ _ _ _ _ _ held made_alike made other_made =>
    held.step respected made_alike made other_made) run other_run same alike

end PoolLikeness

end NodeRedBull.Library
