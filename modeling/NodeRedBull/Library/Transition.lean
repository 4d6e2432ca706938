import Mathlib.Logic.Relation
import Mathlib.Data.List.Forall2

/-! Runs of a labelled transition relation, optionally restricted to the moves a
condition allows, and the rule that turns a step lemma into a run lemma. -/

namespace NodeRedBull.Library

variable {State Move : Type} {step : State → Move → State → Prop}

/-- One move that the condition allows in the state before it. -/
def AllowedStep (step : State → Move → State → Prop) (allowed : State → Move → Prop)
    (before after : State) : Prop :=
  ∃ move, allowed before move ∧ step before move after

/-- Any number of moves, each one allowed where it is made. -/
def Runs (step : State → Move → State → Prop) (allowed : State → Move → Prop) :
    State → State → Prop :=
  Relation.ReflTransGen (AllowedStep step allowed)

def anyMove (_ : State) (_ : Move) : Prop := True

theorem Runs.refl {allowed : State → Move → Prop} (state : State) :
    Runs step allowed state state :=
  Relation.ReflTransGen.refl

theorem Runs.trans {allowed : State → Move → Prop} {first second third : State}
    (left : Runs step allowed first second) (right : Runs step allowed second third) :
    Runs step allowed first third :=
  Relation.ReflTransGen.trans left right

theorem Runs.extend {allowed : State → Move → Prop} {first second third : State} {move : Move}
    (run : Runs step allowed first second) (permitted : allowed second move)
    (made : step second move third) : Runs step allowed first third :=
  Relation.ReflTransGen.tail run ⟨move, permitted, made⟩

/-- What holds first and is kept by every allowed move holds of every state reached. -/
theorem Runs.invariant {allowed : State → Move → Prop} {holds : State → Prop}
    {first last : State} (run : Runs step allowed first last) (initial : holds first)
    (kept : ∀ before move after, holds before → allowed before move → step before move after →
      holds after) : holds last := by
  induction run with
  | refl => exact initial
  | tail _ last ih =>
    obtain ⟨move, permitted, made⟩ := last
    exact kept _ move _ ih permitted made

/-- A preorder that every allowed move respects relates the two ends of a run, as
long as the invariant that justifies it holds along the way. -/
theorem Runs.relates {allowed : State → Move → Prop} {holds : State → Prop}
    {grows : State → State → Prop} {first last : State} (run : Runs step allowed first last)
    (initial : holds first)
    (kept : ∀ before move after, holds before → allowed before move → step before move after →
      holds after)
    (refl : ∀ state, grows state state)
    (trans : ∀ left middle right, grows left middle → grows middle right → grows left right)
    (respected : ∀ before move after, holds before → allowed before move →
      step before move after → grows before after) : grows first last := by
  have both : holds last ∧ grows first last := by
    induction run with
    | refl => exact ⟨initial, refl _⟩
    | tail _ last ih =>
      obtain ⟨move, permitted, made⟩ := last
      exact ⟨kept _ move _ ih.1 permitted made,
        trans _ _ _ ih.2 (respected _ move _ ih.1 permitted made)⟩
  exact both.2

theorem Runs.weaken {allowed wider : State → Move → Prop} {first last : State}
    (run : Runs step allowed first last)
    (implies : ∀ state move, allowed state move → wider state move) :
    Runs step wider first last := by
  apply Relation.ReflTransGen.mono _ _ _ run
  intro before after given
  obtain ⟨move, permitted, made⟩ := given
  exact ⟨move, implies _ _ permitted, made⟩

/-- A run with the list of its moves. -/
inductive Path (step : State → Move → State → Prop) : State → List Move → State → Prop where
  | nil (state : State) : Path step state [] state
  | cons {first second third : State} {move : Move} {rest : List Move}
      (made : step first move second) (run : Path step second rest third) :
      Path step first (move :: rest) third

theorem Path.extend {first second third : State} {moves : List Move} {move : Move}
    (run : Path step first moves second) (made : step second move third) :
    Path step first (moves ++ [move]) third := by
  induction run with
  | nil => exact .cons made (.nil _)
  | cons earlier _ ih => exact .cons earlier (ih made)

theorem Runs.path {allowed : State → Move → Prop} {first last : State}
    (run : Runs step allowed first last) : ∃ moves, Path step first moves last := by
  induction run with
  | refl => exact ⟨[], .nil _⟩
  | tail _ last ih =>
    obtain ⟨moves, path⟩ := ih
    obtain ⟨move, _, made⟩ := last
    exact ⟨moves ++ [move], path.extend made⟩

/-- Two runs whose moves are alike stay alike, when each pair of steps does. -/
theorem Path.related {alike : State → State → Prop} {sameMove : Move → Move → Prop}
    (kept : ∀ left right move other left_after right_after, alike left right → sameMove move other →
      step left move left_after → step right other right_after → alike left_after right_after)
    {left right left_last right_last : State} {moves others : List Move}
    (run : Path step left moves left_last) (other_run : Path step right others right_last)
    (same : List.Forall₂ sameMove moves others) (initial : alike left right) :
    alike left_last right_last := by
  induction run generalizing right others with
  | nil =>
    cases same
    cases other_run
    exact initial
  | cons made _ ih =>
    cases same with
    | cons first rest =>
      cases other_run with
      | cons other_made other_rest =>
        exact ih other_rest rest (kept _ _ _ _ _ _ initial first made other_made)

end NodeRedBull.Library
