import NodeRedBull.Library.Part
import NodeRedBull.Library.Twins

/-! Runs that are mirrored: what can happen to one pool can happen to every pool that is alike. -/

namespace NodeRedBull.Library

variable {σ κ : Type} {ρ : κ → Type} {ε α β : Type}

/-! ## The other way round -/

/-- Likeness seen from the other side. -/
def Likeness.flip (like : Likeness σ κ ρ) : Likeness σ κ ρ where
  states one other := like.states other one
  calls one other := like.calls other one
  replies one other left right := like.replies other one right left

theorem Likeness.Answers.flip {like : Likeness σ κ ρ} {one other : κ} {reply : Except ε (ρ one)}
    {answer : Except ε (ρ other)} (answers : like.Answers one other reply answer) :
    like.flip.Answers other one answer reply := by
  cases answers with
  | succeeds replied => exact .succeeds replied
  | fails thrown => exact .fails thrown

theorem Async.Twins.flip {like : Likeness σ κ ρ} {results : α → β → Prop} {left : Async σ κ ρ ε α}
    {right : Async σ κ ρ ε β} (twins : left.Twins like results right) :
    right.Twins like.flip (fun other one => results one other) left := by
  induction twins with
  | pure related => exact .pure related
  | throw error => exact .throw error
  | read _ ih => exact .read fun other one alike => ih one other alike
  | write stored _ ih => exact .write stored ih
  | @await one other _ _ same _ ih =>
    have back : like.flip.calls other one := same
    apply Async.Twins.await back
    intro answer reply alike
    exact ih reply answer alike.flip

theorem Paused.Twins.flip {like : Likeness σ κ ρ} {results : α → β → Prop}
    {left : Paused σ κ ρ ε α} {right : Paused σ κ ρ ε β} (twins : left.Twins like results right) :
    right.Twins like.flip (fun other one => results one other) left := by
  cases twins with
  | returned related => exact .returned related
  | thrown error => exact .thrown error
  | @awaiting one other _ _ same next =>
    have back : like.flip.calls other one := same
    apply Paused.Twins.awaiting back
    intro answer reply alike
    exact (next reply answer alike.flip).flip

theorem Paused.Twins.result_eq {like : Likeness σ κ ρ} {left right : Paused σ κ ρ ε α}
    (twins : left.Twins like Eq right) : left.result = right.result := by
  cases twins with
  | returned related =>
    rw [related]
  | thrown error => rfl
  | awaiting _ _ => rfl

/-! ## Bodies on a part of the state -/

/-- Bodies that go the same way on a part of the state do so on the whole. -/
theorem Async.twins_onPart {τ : Type} {part : Part τ σ} {like : Likeness σ κ ρ}
    {whole : Likeness τ κ ρ} {results : α → β → Prop}
    (parts : ∀ one other, whole.states one other → like.states (part.get one) (part.get other))
    (puts : ∀ one other left right, whole.states one other → like.states left right →
      whole.states (part.put left one) (part.put right other))
    (calls : ∀ one other, like.calls one other → whole.calls one other)
    (replies : ∀ one other left right, whole.replies one other left right →
      like.replies one other left right)
    {left : Async σ κ ρ ε α} {right : Async σ κ ρ ε β} (twins : left.Twins like results right) :
    (left.onPart part).Twins whole results (right.onPart part) := by
  induction twins with
  | pure related => exact .pure related
  | throw error => exact .throw error
  | read _ ih => exact .read fun one other alike => ih _ _ (parts one other alike)
  | write stored _ ih => exact .read fun one other alike => .write (puts one other _ _ alike stored) ih
  | await same _ ih =>
    apply Async.Twins.await (calls _ _ same)
    intro reply answer alike
    apply ih
    cases alike with
    | succeeds replied => exact .succeeds (replies _ _ _ _ replied)
    | fails thrown => exact .fails thrown

/-! ## Pools -/

namespace PoolLikeness

variable {μ : Type}

def flip (like : PoolLikeness σ κ ρ ε α μ) : PoolLikeness σ κ ρ ε α μ where
  toLikeness := like.toLikeness.flip
  tasks one other := like.tasks other one
  results one other := like.results other one
  assumed one other reply answer := like.assumed other one answer reply

variable {like : PoolLikeness σ κ ρ ε α μ} {system : System σ κ ρ ε α μ}
variable {left right : Pool σ κ ρ ε α μ}

theorem Alike.flip (alike : like.Alike left right) : like.flip.Alike right left :=
  ⟨alike.1, (alike.2.imp fun _ _ stopped => ⟨stopped.1, stopped.2.flip⟩).flip⟩

theorem Respected.flip (respected : like.Respected system) : like.flip.Respected system where
  bodies := fun index one other same => (respected.bodies index other one same).flip
  forks := fun index one other same => (respected.forks index other one same).flip
  answers := fun left right index one other reply answer alike same given answered also =>
    (respected.answers right left index other one answer reply alike.flip same given also
      answered).flip

/-- A pool can start and be answered whatever one that is alike can. -/
structure Mirrors (like : PoolLikeness σ κ ρ ε α μ) (system : System σ κ ρ ε α μ) : Prop where
  launches : ∀ left right task, like.Alike left right → system.launch left task →
    ∃ other, like.tasks task other ∧ system.launch right other
  answers : ∀ left right index one other reply, like.Alike left right → like.calls one other →
    system.answers left index one reply →
      ∃ answer, like.assumed one other reply answer ∧ system.answers right index other answer

theorem Alike.waiting (alike : like.Alike left right) {index : Nat} {task : μ} {call : κ}
    {next : Except ε (ρ call) → Async σ κ ρ ε α}
    (waiting : left.tasks[index]? = some (task, .awaiting call next)) :
    ∃ other asked further, right.tasks[index]? = some (other, .awaiting asked further) ∧
      like.calls call asked := by
  have bound := (List.getElem?_eq_some_iff.mp waiting).1
  rw [alike.2.length_eq] at bound
  have found : right.tasks[index]? = some right.tasks[index] := List.getElem?_eq_getElem bound
  generalize right.tasks[index] = entry at found
  obtain ⟨other, paused⟩ := entry
  obtain ⟨_, stopped⟩ := alike.stopped waiting found
  cases stopped with
  | awaiting same _ => exact ⟨other, _, _, found, same⟩

/-- What one pool comes to, every pool that is alike can come to by moves that are alike. -/
theorem Alike.mirror (respected : like.Respected system) (mirrors : like.Mirrors system)
    {moves : List (PoolMove κ ρ ε μ)} {left_last : Pool σ κ ρ ε α μ}
    (run : Path system.Step left moves left_last) (alike : like.Alike left right) :
    ∃ others right_last, Path system.Step right others right_last ∧
      List.Forall₂ like.SameMove moves others ∧ like.Alike left_last right_last := by
  induction run generalizing right with
  | nil left => exact ⟨[], right, .nil right, .nil, alike⟩
  | cons made _ ih =>
    cases made with
    | @start task launched =>
      obtain ⟨other, same, also⟩ := mirrors.launches _ right task alike launched
      obtain ⟨others, last, further, moved, ended⟩ := ih (alike.start respected same)
      exact ⟨.start other :: others, last, .cons (.start also) further, .cons (.start same) moved,
        ended⟩
    | @resume index task call next reply waiting answered =>
      obtain ⟨other, asked, further, found, same⟩ := alike.waiting waiting
      obtain ⟨answer, given, also⟩ := mirrors.answers _ right index call asked reply alike same
        answered
      have move : like.SameMove (.resume index call reply) (.resume index asked answer) :=
        .resume given
      have stepped := alike.step respected move (.resume waiting answered) (.resume found also)
      obtain ⟨others, last, later, moved, ended⟩ := ih stepped
      exact ⟨.resume index asked answer :: others, last, .cons (.resume found also) later,
        .cons move moved, ended⟩

end PoolLikeness

end NodeRedBull.Library
