import Mathlib.Data.Fintype.Card
import Mathlib.Data.Set.Finite.Basic
import Mathlib.Logic.Relation

/-! A stack of pending items that keeps no record of what it has seen. It runs empty exactly
when nothing pending is above an endless descent, and has then visited all that is below. -/

namespace NodeRedBull.Library

/-- A visit changes the state and yields the items that go on the stack. -/
def worklist {σ α : Type} (visit : σ → α → σ × List α) : Nat → List α → σ → Option σ
  | _, [], state => some state
  | 0, _ :: _, _ => none
  | fuel + 1, item :: pending, state =>
    worklist visit fuel ((visit state item).2 ++ pending) (visit state item).1

namespace Worklist

variable {σ α : Type} {visit : σ → α → σ × List α}

theorem worklist_nil (fuel : Nat) (state : σ) : worklist visit fuel [] state = some state := by
  cases fuel <;> rfl

theorem worklist_mono {fuel more : Nat} {pending : List α} {state last : σ}
    (ended : worklist visit fuel pending state = some last) (enough : fuel ≤ more) :
    worklist visit more pending state = some last := by
  induction fuel generalizing more pending state with
  | zero =>
    cases pending with
    | nil =>
      rw [worklist_nil] at ended ⊢
      exact ended
    | cons item pending => cases ended
  | succ fuel ih =>
    cases pending with
    | nil =>
      rw [worklist_nil] at ended ⊢
      exact ended
    | cons item pending =>
      cases more with
      | zero => omega
      | succ more =>
        unfold worklist at ended ⊢
        exact ih ended (by omega)

/-- What a visit does when the items of `met` have been visited: it pushes the children of a
good item, which are good. -/
structure Visits (visit : σ → α → σ × List α) (child : α → α → Prop) (good : α → Prop)
    (holds : Set α → σ → Prop) : Prop where
  kept : ∀ met state item, holds met state → good item →
    holds (insert item met) (visit state item).1
  pushed : ∀ met state item, holds met state → good item →
    ∀ below, below ∈ (visit state item).2 ↔ child item below
  goodChild : ∀ item below, good item → child item below → good below

variable {child : α → α → Prop} {good : α → Prop} {holds : Set α → σ → Prop}

/-- What is at or below one of the items. -/
def below (child : α → α → Prop) (items : List α) : Set α :=
  {reached | ∃ item ∈ items, Relation.ReflTransGen child item reached}

theorem below_nil : below child ([] : List α) = ∅ := by simp [below]

theorem below_cons (item : α) (rest : List α) :
    below child (item :: rest) =
      {reached | Relation.ReflTransGen child item reached} ∪ below child rest := by
  ext reached
  simp [below]

/-- An item, its children and what is below them. -/
theorem below_visited {item : α} {children : List α} (rest : List α) (met : Set α)
    (all : ∀ below, below ∈ children ↔ child item below) :
    insert item met ∪ below child (children ++ rest) = met ∪ below child (item :: rest) := by
  ext reached
  simp only [below, List.mem_append, List.mem_cons, Set.mem_union, Set.mem_insert_iff,
    Set.mem_ofPred_eq, all]
  constructor
  · intro member
    rcases member with (same | old) | ⟨top, pushed | waiting, path⟩
    · exact .inr ⟨item, .inl rfl, same ▸ .refl⟩
    · exact .inl old
    · exact .inr ⟨item, .inl rfl, .head pushed path⟩
    · exact .inr ⟨top, .inr waiting, path⟩
  · intro member
    rcases member with old | ⟨top, same | waiting, path⟩
    · exact .inl (.inr old)
    · subst same
      rcases Relation.ReflTransGen.cases_head path with same | ⟨next, first, path⟩
      · exact .inl (.inl same.symm)
      · exact .inr ⟨next, .inl first, path⟩
    · exact .inr ⟨top, .inr waiting, path⟩

theorem good_pushed (visits : Visits visit child good holds) {met : Set α} {state : σ}
    {item : α} {pending : List α} (held : holds met state)
    (fine : ∀ other ∈ item :: pending, good other) :
    ∀ other ∈ (visit state item).2 ++ pending, good other := by
  intro other member
  have here := fine item List.mem_cons_self
  rcases List.mem_append.mp member with pushed | waiting
  · exact visits.goodChild item other here ((visits.pushed met state item held here other).mp pushed)
  · exact fine other (List.mem_cons_of_mem _ waiting)

/-- When the stack is empty, everything below has been visited. -/
theorem worklist_covers (visits : Visits visit child good holds) {fuel : Nat} {pending : List α}
    {met : Set α} {state last : σ} (held : holds met state) (fine : ∀ item ∈ pending, good item)
    (ended : worklist visit fuel pending state = some last) :
    holds (met ∪ below child pending) last := by
  induction fuel generalizing pending met state with
  | zero =>
    cases pending with
    | nil =>
      cases ended
      rw [below_nil, Set.union_empty]
      exact held
    | cons item pending => cases ended
  | succ fuel ih =>
    cases pending with
    | nil =>
      cases ended
      rw [below_nil, Set.union_empty]
      exact held
    | cons item pending =>
      have here := fine item List.mem_cons_self
      have last := ih (visits.kept met state item held here) (good_pushed visits held fine) ended
      rw [below_visited pending met (visits.pushed met state item held here)] at last
      exact last

/-- A stack that runs empty was above no endless descent. -/
theorem accessible_of_worklist (visits : Visits visit child good holds) {fuel : Nat}
    {pending : List α} {met : Set α} {state last : σ} (held : holds met state)
    (fine : ∀ item ∈ pending, good item)
    (ended : worklist visit fuel pending state = some last) :
    ∀ item ∈ pending, Acc (fun below item => child item below) item := by
  induction fuel generalizing pending met state with
  | zero =>
    cases pending with
    | nil => simp
    | cons item pending => cases ended
  | succ fuel ih =>
    cases pending with
    | nil => simp
    | cons item pending =>
      have here := fine item List.mem_cons_self
      have others := ih (visits.kept met state item held here) (good_pushed visits held fine) ended
      intro other member
      rcases List.mem_cons.mp member with same | waiting
      · subst same
        refine ⟨other, fun below down => others below (List.mem_append_left _ ?_)⟩
        exact (visits.pushed met state other held here below).mpr down
      · exact others other (List.mem_append_right _ waiting)

/-- From every state that the invariant allows, the stack runs empty. -/
def Ends (visit : σ → α → σ × List α) (holds : Set α → σ → Prop) (pending : List α) : Prop :=
  ∀ met state, holds met state → ∃ fuel last, worklist visit fuel pending state = some last

/-- Visits of accessible items end, whatever waits below them. -/
theorem ends_cons (visits : Visits visit child good holds) {item : α}
    (accessible : Acc (fun below item => child item below) item) :
    good item → ∀ rest, Ends visit holds rest → Ends visit holds (item :: rest) := by
  induction accessible with
  | intro item _ ih =>
    intro fine rest ends met state held
    have children : ∀ items : List α, (∀ below ∈ items, child item below) →
        Ends visit holds (items ++ rest) := by
      intro items
      induction items with
      | nil => exact fun _ => ends
      | cons first others further =>
        intro all
        have down := all first List.mem_cons_self
        exact ih first down (visits.goodChild item first fine down) _
          (further fun below member => all below (List.mem_cons_of_mem _ member))
    have pushed := children (visit state item).2
      fun below member => (visits.pushed met state item held fine below).mp member
    obtain ⟨fuel, last, ended⟩ := pushed _ _ (visits.kept met state item held fine)
    exact ⟨fuel + 1, last, ended⟩

theorem worklist_ends (visits : Visits visit child good holds) {pending : List α}
    (fine : ∀ item ∈ pending, good item)
    (accessible : ∀ item ∈ pending, Acc (fun below item => child item below) item) :
    Ends visit holds pending := by
  induction pending with
  | nil => exact fun _ state _ => ⟨0, state, rfl⟩
  | cons item pending ih =>
    apply ends_cons visits (accessible item List.mem_cons_self) (fine item List.mem_cons_self)
    exact ih (fun other member => fine other (List.mem_cons_of_mem _ member))
      fun other member => accessible other (List.mem_cons_of_mem _ member)

/-! ### Cycles -/

/-- Nothing at or below the item is below itself. -/
def Acyclic (child : α → α → Prop) (item : α) : Prop :=
  ∀ reached, Relation.ReflTransGen child item reached → ¬ Relation.TransGen child reached reached

theorem not_self_of_acc {related : α → α → Prop} {item : α} (accessible : Acc related item) :
    ¬ related item item := by
  induction accessible with
  | intro item _ ih => exact fun self => ih item self self

theorem acyclic_of_acc {item : α} (accessible : Acc (fun below item => child item below) item) :
    Acyclic child item := by
  intro reached path
  have here : Acc (fun below item => child item below) reached := by
    induction path with
    | refl => exact accessible
    | tail _ down ih => exact ih.inv down
  intro cycle
  exact not_self_of_acc here.transGen (Relation.transGen_swap.mp cycle)

theorem acc_of_acyclic {item : α} (acyclic : Acyclic child item)
    (finite : {reached | Relation.ReflTransGen child item reached}.Finite) :
    Acc (fun below item => child item below) item := by
  let Reached := {reached // Relation.ReflTransGen child item reached}
  have finite : Finite Reached := finite.to_subtype
  let descends : Reached → Reached → Prop := fun low high => Relation.TransGen child high.1 low.1
  have transitive : IsTrans Reached descends := ⟨fun _ _ _ first second => second.trans first⟩
  have irreflexive : Std.Irrefl descends := ⟨fun reached => acyclic reached.1 reached.2⟩
  have wellFounded : WellFounded descends := Finite.wellFounded_of_trans_of_irrefl descends
  have all : ∀ reached : Reached, Acc (fun below item => child item below) reached.1 := by
    intro reached
    induction reached using wellFounded.induction with
    | _ reached ih =>
      refine ⟨_, fun below down => ?_⟩
      exact ih ⟨below, reached.2.tail down⟩ (.single down)
  exact all ⟨item, .refl⟩

end Worklist

end NodeRedBull.Library
