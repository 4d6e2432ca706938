import NodeRedBull.Library.Course

/-! What a body calls and what it returns, given what is known of the answers: one rule for each
way to write a body. -/

namespace NodeRedBull.Library

variable {σ κ : Type} {ρ : κ → Type} {ε α β : Type}

/-- Only allowed calls are made, a failure is the failure of a call, and what is returned is as
it should be after these exchanges. -/
structure Outcome (calls : κ → Prop) (post : List (Exchange κ ρ ε) → α → Prop)
    (exchanges : List (Exchange κ ρ ε)) (stopped : Paused σ κ ρ ε α) : Prop where
  only : ∀ call ∈ callsOf exchanges stopped, calls call
  failed : ∀ error, stopped = .finished (.error error) →
    ∃ exchange ∈ exchanges, ¬ exchange.succeeded
  returned : ∀ value, stopped = .finished (.ok value) → post exchanges value

/-- A first part that has not returned is all there is to the run. -/
theorem Outcome.halts {calls : κ → Prop} {middle : List (Exchange κ ρ ε) → α → Prop}
    {post : List (Exchange κ ρ ε) → β → Prop} {exchanges : List (Exchange κ ρ ε)}
    {early : Paused σ κ ρ ε α} {stopped : Paused σ κ ρ ε β}
    (outcome : Outcome calls middle exchanges early) (halts : early.Halts stopped) :
    Outcome calls post exchanges stopped := by
  cases halts with
  | failed error =>
    refine ⟨outcome.only, ?_, ?_⟩
    · intro thrown failed
      exact outcome.failed error rfl
    · intro value returned
      cases returned
  | awaiting call next then_ =>
    refine ⟨outcome.only, ?_, ?_⟩
    · intro error failed
      cases failed
    · intro value returned
      cases returned

namespace Async

variable {answers : Exchange κ ρ ε → Prop} {calls : κ → Prop}
variable {program : Async σ κ ρ ε α} {rest : α → Async σ κ ρ ε β}

/-- Every run with such answers has this outcome. -/
def Meets (answers : Exchange κ ρ ε → Prop) (calls : κ → Prop)
    (post : List (Exchange κ ρ ε) → α → Prop) (program : Async σ κ ρ ε α) : Prop :=
  ∀ exchanges stopped, Course program exchanges stopped →
    (∀ exchange ∈ exchanges, answers exchange) → Outcome calls post exchanges stopped

section
variable {post : List (Exchange κ ρ ε) → α → Prop}

/-- A body without calls, which has returned. -/
theorem outcome_returned {value : α} (holds : post [] value) :
    Outcome calls post [] (.finished (.ok value) : Paused σ κ ρ ε α) := by
  constructor
  · intro call member
    cases member
  · intro error failed
    cases failed
  · intro result same
    cases same
    exact holds

theorem meets_pure {value : α} (holds : post [] value) :
    Meets answers calls post (Pure.pure value : Async σ κ ρ ε α) := by
  intro exchanges stopped run _
  obtain ⟨none, ended⟩ := course_pure run
  rw [none, ended]
  exact outcome_returned holds

theorem meets_get {post : List (Exchange κ ρ ε) → σ → Prop} (holds : ∀ state, post [] state) :
    Meets answers calls post (get : Async σ κ ρ ε σ) := by
  intro exchanges stopped run _
  cases run with
  | stop _ state => exact outcome_returned (holds state)
  | answered _ waits => cases waits

theorem meets_call {request : κ} {post : List (Exchange κ ρ ε) → ρ request → Prop}
    (allowed : calls request)
    (holds : ∀ reply, answers ⟨request, .ok reply⟩ → post [⟨request, .ok reply⟩] reply) :
    Meets answers calls post (call request : Async σ κ ρ ε (ρ request)) := by
  intro exchanges stopped run answered
  cases run with
  | stop _ state =>
    rw [segment_call]
    constructor
    · intro asked member
      rw [List.mem_singleton.mp member]
      exact allowed
    · intro error failed
      cases failed
    · intro value returned
      cases returned
  | @answered _ state asked next reply others _ waits later =>
    rw [segment_call] at waits
    injection waits with same continued
    subst same
    rw [← eq_of_heq continued] at later
    have known := answered _ List.mem_cons_self
    cases reply with
    | ok value =>
      obtain ⟨none, ended⟩ := course_pure later
      rw [none, ended]
      constructor
      · intro asked member
        rw [List.mem_singleton.mp member]
        exact allowed
      · intro error failed
        cases failed
      · intro result returned
        cases returned
        exact holds value known
    | error thrown =>
      obtain ⟨none, ended⟩ := course_throw later
      rw [none, ended]
      constructor
      · intro asked member
        rw [List.mem_singleton.mp member]
        exact allowed
      · intro error failed
        refine ⟨_, List.mem_singleton_self _, ?_⟩
        intro succeeded
        cases succeeded
      · intro result returned
        cases returned

/-- The second part starts from what the first part has returned and from its exchanges. -/
theorem meets_bind {middle : List (Exchange κ ρ ε) → α → Prop}
    {post : List (Exchange κ ρ ε) → β → Prop} (first : Meets answers calls middle program)
    (second : ∀ before value, middle before value →
      Meets answers calls (fun after result => post (before ++ after) result) (rest value)) :
    Meets answers calls post (program >>= rest) := by
  intro exchanges stopped run answered
  rcases course_bind run with ⟨early, course, halts⟩ | ⟨before, after, value, split, course, later⟩
  · exact (first exchanges early course answered).halts halts
  · rw [split] at answered ⊢
    have answered_before := fun exchange member => answered exchange (List.mem_append_left _ member)
    have answered_after := fun exchange member => answered exchange (List.mem_append_right _ member)
    have passed := first before _ course answered_before
    have ended := second before value (passed.returned value rfl) after stopped later answered_after
    constructor
    · intro call member
      unfold callsOf at member
      rw [List.map_append, List.append_assoc] at member
      rcases List.mem_append.mp member with early | late
      · exact passed.only call (List.mem_append_left _ early)
      · exact ended.only call late
    · intro error failed
      obtain ⟨exchange, member, refused⟩ := ended.failed error failed
      exact ⟨exchange, List.mem_append_right _ member, refused⟩
    · exact ended.returned

theorem Meets.mono {post weaker : List (Exchange κ ρ ε) → α → Prop}
    (meets : Meets answers calls post program)
    (weakens : ∀ exchanges value, post exchanges value → weaker exchanges value) :
    Meets answers calls weaker program := by
  intro exchanges stopped run answered
  have outcome := meets exchanges stopped run answered
  exact ⟨outcome.only, outcome.failed,
    fun value returned => weakens exchanges value (outcome.returned value returned)⟩

/-! ### Bodies that call nothing -/

/-- The body returns at once. -/
def Quiet (program : Async σ κ ρ ε α) : Prop :=
  ∀ (answers : Exchange κ ρ ε → Prop) (calls : κ → Prop) (post : List (Exchange κ ρ ε) → α → Prop),
    (∀ value, post [] value) → Meets answers calls post program

theorem quiet_pure (value : α) : Quiet (Pure.pure value : Async σ κ ρ ε α) :=
  fun _ _ _ holds => meets_pure (holds value)

theorem quiet_get : Quiet (get : Async σ κ ρ ε σ) := fun _ _ _ holds => meets_get holds

theorem quiet_bind (first : Quiet program) (second : ∀ value, Quiet (rest value)) :
    Quiet (program >>= rest) := by
  intro answers calls post holds
  have silent := first answers calls (fun exchanges _ => exchanges = []) fun _ => rfl
  apply meets_bind silent
  intro before value none
  rw [none]
  exact second value answers calls _ holds

/-- What the exchanges have established, a quiet rest leaves as it is. -/
theorem meets_quiet {done : List (Exchange κ ρ ε) → Prop}
    (first : Meets answers calls (fun exchanges _ => done exchanges) program)
    (quiet : ∀ value, Quiet (rest value)) :
    Meets answers calls (fun exchanges _ => done exchanges) (program >>= rest) := by
  apply meets_bind first
  intro before value holds
  apply quiet value
  intro _
  rw [List.append_nil]
  exact holds

end

end Async

end NodeRedBull.Library
