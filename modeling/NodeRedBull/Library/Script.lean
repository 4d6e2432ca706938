import NodeRedBull.Library.Outcome
import NodeRedBull.Library.Twins

/-! Bodies known by what they call: those that stop at the first failing answer, those whose last
call is the only one that counts, and those that call from a script. -/

namespace NodeRedBull.Library

variable {σ κ : Type} {ρ : κ → Type} {ε α β : Type}

namespace Async

variable {program : Async σ κ ρ ε α} {rest : α → Async σ κ ρ ε β}

/-- A single call is not answered yet, or it has settled as its answer says. -/
theorem course_call {request : κ} {exchanges : List (Exchange κ ρ ε)}
    {stopped : Paused σ κ ρ ε (ρ request)}
    (run : Course (call request : Async σ κ ρ ε (ρ request)) exchanges stopped) :
    (exchanges = [] ∧ stopped.waitsFor = [request] ∧ ∀ result, stopped ≠ .finished result) ∨
      ∃ reply, exchanges = [⟨request, reply⟩] ∧ stopped = .finished reply := by
  cases run with
  | stop _ state =>
    left
    rw [segment_call]
    exact ⟨rfl, rfl, fun _ => nofun⟩
  | @answered _ state asked next reply others _ waits later =>
    right
    rw [segment_call] at waits
    injection waits with same continued
    subst same
    rw [← eq_of_heq continued] at later
    cases reply with
    | ok value =>
      obtain ⟨none, ended⟩ := course_pure later
      exact ⟨.ok value, by rw [none], ended⟩
    | error thrown =>
      obtain ⟨none, ended⟩ := course_throw later
      exact ⟨.error thrown, by rw [none], ended⟩

theorem Quiet.course (quiet : program.Quiet) {exchanges : List (Exchange κ ρ ε)}
    {stopped : Paused σ κ ρ ε α} (run : Course program exchanges stopped) :
    exchanges = [] ∧ ∃ value, stopped = .finished (.ok value) := by
  have outcome := quiet (fun _ => True) (fun _ => False) (fun _ _ => True) (fun _ => trivial)
    exchanges stopped run fun _ _ => trivial
  have silent : callsOf exchanges stopped = [] :=
    List.eq_nil_iff_forall_not_mem.mpr outcome.only
  obtain ⟨none, settled⟩ := List.append_eq_nil_iff.mp silent
  have empty : exchanges = [] := List.map_eq_nil_iff.mp none
  refine ⟨empty, ?_⟩
  cases stopped with
  | awaiting call next => cases settled
  | finished result =>
    cases result with
    | ok value => exact ⟨value, rfl⟩
    | error thrown =>
      obtain ⟨exchange, member, _⟩ := outcome.failed thrown rfl
      rw [empty] at member
      cases member

/-! ### Stopping at the first failure -/

/-- A failing answer ends the body with this failure. -/
def FailsFast (program : Async σ κ ρ ε α) : Prop :=
  ∀ exchanges stopped, Course program exchanges stopped → ∀ exchange ∈ exchanges, ∀ error,
    exchange.reply = .error error → stopped = .finished (.error error)

theorem Quiet.failsFast (quiet : program.Quiet) : FailsFast program := by
  intro exchanges stopped run exchange member
  rw [(quiet.course run).1] at member
  cases member

theorem failsFast_throw (thrown : ε) :
    FailsFast (MonadExcept.throw thrown : Async σ κ ρ ε α) := by
  intro exchanges stopped run exchange member
  rw [(course_throw run).1] at member
  cases member

theorem failsFast_call (request : κ) :
    FailsFast (call request : Async σ κ ρ ε (ρ request)) := by
  intro exchanges stopped run exchange member error failed
  rcases course_call run with ⟨none, _⟩ | ⟨reply, single, ended⟩
  · rw [none] at member
    cases member
  · rw [single] at member
    cases List.mem_singleton.mp member
    rw [ended]
    exact congrArg Paused.finished failed

theorem failsFast_bind (first : FailsFast program) (second : ∀ value, FailsFast (rest value)) :
    FailsFast (program >>= rest) := by
  intro exchanges stopped run exchange member error failed
  rcases course_bind run with ⟨early, before, halts⟩ | ⟨one, two, value, split, before, after⟩
  · have ended := first exchanges early before exchange member error failed
    rw [ended] at halts
    cases halts
    rfl
  · rw [split] at member
    rcases List.mem_append.mp member with former | latter
    · cases first one _ before exchange former error failed
    · exact second value two stopped after exchange latter error failed

/-- What has returned got no failing answer. -/
theorem FailsFast.succeeded (fast : FailsFast program) {exchanges : List (Exchange κ ρ ε)}
    {value : α} (run : Course program exchanges (.finished (.ok value))) :
    ∀ exchange ∈ exchanges, exchange.succeeded := by
  intro exchange member
  unfold Exchange.succeeded
  cases answer : exchange.reply with
  | ok reply => rfl
  | error error => cases fast exchanges _ run exchange member error answer

/-! ### One call that counts -/

/-- A failing answer ends the body, and so does the first call that counts: with its failure, or
else the body returns. -/
structure Commits (counts : κ → Prop) (program : Async σ κ ρ ε α) : Prop where
  fast : FailsFast program
  last : ∀ exchanges stopped, Course program exchanges stopped → ∀ before exchange after,
    exchanges = before ++ exchange :: after → counts exchange.call →
      after = [] ∧ (exchange.succeeded → ∃ value, stopped = .finished (.ok value))

variable {counts : κ → Prop}

/-- No call counts. -/
theorem commits_of_only (fast : FailsFast program)
    (only : CallsOnly (fun call => ¬counts call) program) : Commits counts program := by
  refine ⟨fast, ?_⟩
  intro exchanges stopped run before exchange after split important
  have member : exchange.call ∈ callsOf exchanges stopped := by
    apply List.mem_append_left
    rw [split]
    exact List.mem_map_of_mem (List.mem_append_right _ List.mem_cons_self)
  exact absurd important (only.course run _ member)

theorem commits_throw (thrown : ε) :
    Commits counts (MonadExcept.throw thrown : Async σ κ ρ ε α) :=
  commits_of_only (failsFast_throw thrown) (callsOnly_throw thrown)

theorem commits_call (request : κ) :
    Commits counts (call request : Async σ κ ρ ε (ρ request)) := by
  refine ⟨failsFast_call request, ?_⟩
  intro exchanges stopped run before exchange after split _
  rcases course_call run with ⟨none, _⟩ | ⟨reply, single, ended⟩
  · rw [none] at split
    simp at split
  · rw [single] at split
    obtain ⟨rfl, same, rfl⟩ : before = [] ∧ exchange = ⟨request, reply⟩ ∧ after = [] := by
      cases before with
      | nil =>
        injection split with head tail
        exact ⟨rfl, head.symm, tail.symm⟩
      | cons _ tail => simp at split
    refine ⟨rfl, ?_⟩
    intro succeeded
    rw [same] at succeeded
    rw [ended]
    cases reply with
    | ok value => exact ⟨value, rfl⟩
    | error thrown => cases succeeded

/-- Nothing counts in the first part. -/
theorem commits_after (fast : FailsFast program)
    (only : CallsOnly (fun call => ¬counts call) program)
    (second : ∀ value, Commits counts (rest value)) : Commits counts (program >>= rest) := by
  refine ⟨failsFast_bind fast fun value => (second value).fast, ?_⟩
  intro exchanges stopped run before exchange after split important
  have elsewhere : ∀ {early : Paused σ κ ρ ε α} {others : List (Exchange κ ρ ε)},
      Course program others early → exchange ∉ others := by
    intro early others course member
    exact only.course course _ (List.mem_append_left _ (List.mem_map_of_mem member)) important
  rcases course_bind run with ⟨early, course, _⟩ | ⟨one, two, value, parts, course, later⟩
  · apply absurd _ (elsewhere course)
    rw [split]
    exact List.mem_append_right _ List.mem_cons_self
  · rw [parts] at split
    rcases List.append_eq_append_iff.mp split with ⟨between, _, found⟩ | ⟨between, found, tail⟩
    · exact (second value).last two stopped later between exchange after found important
    · cases between with
      | nil => exact (second value).last two stopped later [] exchange after tail.symm important
      | cons head others =>
        injection tail with same
        apply absurd _ (elsewhere course)
        rw [found, same]
        exact List.mem_append_right _ List.mem_cons_self

/-- Nothing is called in the second part. -/
theorem commits_quiet (first : Commits counts program) (second : ∀ value, (rest value).Quiet) :
    Commits counts (program >>= rest) := by
  refine ⟨failsFast_bind first.fast fun value => (second value).failsFast, ?_⟩
  intro exchanges stopped run before exchange after split important
  rcases course_bind run with ⟨early, course, halts⟩ | ⟨one, two, value, parts, course, later⟩
  · obtain ⟨nothing, returns⟩ := first.last exchanges early course before exchange after split important
    refine ⟨nothing, ?_⟩
    intro succeeded
    obtain ⟨value, ended⟩ := returns succeeded
    rw [ended] at halts
    cases halts
  · obtain ⟨none, result, ended⟩ := (second value).course later
    rw [none, List.append_nil] at parts
    rw [parts] at split
    exact ⟨(first.last one _ course before exchange after split important).1,
      fun _ => ⟨result, ended⟩⟩

/-! ### Calls from a script -/

/-- The calls are those of the script, in order: all of them where the body returns, and then what
it returns is as it should be after these exchanges. Where the body fails, one of them was answered
with this error, or the body may throw it itself after these exchanges. -/
structure Scripted (script : List κ) (post : List (Exchange κ ρ ε) → α → Prop)
    (own : List (Exchange κ ρ ε) → ε → Prop) (program : Async σ κ ρ ε α) : Prop where
  fast : FailsFast program
  follows : ∀ exchanges stopped, Course program exchanges stopped →
    callsOf exchanges stopped <+: script
  returned : ∀ exchanges value, Course program exchanges (.finished (.ok value)) →
    exchanges.map Exchange.call = script ∧ post exchanges value
  failed : ∀ exchanges error, Course program exchanges (.finished (.error error)) →
    (∃ exchange ∈ exchanges, exchange.reply = .error error) ∨ own exchanges error

variable {own : List (Exchange κ ρ ε) → ε → Prop}

theorem scripted_pure {post : List (Exchange κ ρ ε) → α → Prop} {value : α} (holds : post [] value) :
    Scripted [] post own (Pure.pure value : Async σ κ ρ ε α) := by
  refine ⟨(quiet_pure value).failsFast, ?_, ?_, ?_⟩
  · intro exchanges stopped run
    obtain ⟨none, ended⟩ := course_pure run
    rw [none, ended]
    exact List.prefix_refl _
  · intro exchanges result run
    obtain ⟨none, ended⟩ := course_pure run
    cases ended
    rw [none]
    exact ⟨rfl, holds⟩
  · intro exchanges error run
    cases (course_pure run).2

/-- A body that fails at once follows every script. -/
theorem scripted_throw {script : List κ} {post : List (Exchange κ ρ ε) → α → Prop} {thrown : ε}
    (owned : own [] thrown) :
    Scripted script post own (MonadExcept.throw thrown : Async σ κ ρ ε α) := by
  refine ⟨failsFast_throw thrown, ?_, ?_, ?_⟩
  · intro exchanges stopped run
    obtain ⟨none, ended⟩ := course_throw run
    rw [none, ended]
    exact List.nil_prefix
  · intro exchanges result run
    cases (course_throw run).2
  · intro exchanges error run
    obtain ⟨none, ended⟩ := course_throw run
    cases ended
    rw [none]
    exact .inr owned

theorem scripted_call {request : κ} {post : List (Exchange κ ρ ε) → ρ request → Prop}
    (holds : ∀ reply, post [⟨request, .ok reply⟩] reply) :
    Scripted [request] post own (call request : Async σ κ ρ ε (ρ request)) := by
  refine ⟨failsFast_call request, ?_, ?_, ?_⟩
  · intro exchanges stopped run
    unfold callsOf
    rcases course_call run with ⟨none, waits, _⟩ | ⟨reply, single, ended⟩
    · rw [none, waits]
      exact List.prefix_refl _
    · rw [single, ended]
      exact List.prefix_refl _
  · intro exchanges result run
    rcases course_call run with ⟨_, _, open_⟩ | ⟨reply, single, ended⟩
    · exact absurd rfl (open_ (.ok result))
    · cases ended
      rw [single]
      exact ⟨rfl, holds result⟩
  · intro exchanges error run
    rcases course_call run with ⟨_, _, open_⟩ | ⟨reply, single, ended⟩
    · exact absurd rfl (open_ (.error error))
    · cases ended
      rw [single]
      exact .inl ⟨_, List.mem_singleton_self _, rfl⟩

/-- Where the errors that a body may throw itself are among more of them. -/
theorem Scripted.weaken {script : List κ} {post : List (Exchange κ ρ ε) → α → Prop}
    {wider : List (Exchange κ ρ ε) → ε → Prop} (scripted : Scripted script post own program)
    (implies : ∀ exchanges error, own exchanges error → wider exchanges error) :
    Scripted script post wider program where
  fast := scripted.fast
  follows := scripted.follows
  returned := scripted.returned
  failed := by
    intro exchanges error run
    exact (scripted.failed exchanges error run).imp_right (implies exchanges error)

theorem callsOf_halts {exchanges : List (Exchange κ ρ ε)} {early : Paused σ κ ρ ε α}
    {stopped : Paused σ κ ρ ε β} (halts : early.Halts stopped) :
    callsOf exchanges stopped = callsOf exchanges early := by
  cases halts with
  | failed error => rfl
  | awaiting call next then_ => rfl

theorem scripted_bind {first second : List κ} {middle : List (Exchange κ ρ ε) → α → Prop}
    {post : List (Exchange κ ρ ε) → β → Prop} (one : Scripted first middle own program)
    (two : ∀ before value, middle before value →
      Scripted second (fun after result => post (before ++ after) result)
        (fun after error => own (before ++ after) error) (rest value)) :
    Scripted (first ++ second) post own (program >>= rest) := by
  have fast : FailsFast (program >>= rest) := by
    intro exchanges stopped run exchange member error failed
    rcases course_bind run with ⟨early, before, halts⟩ | ⟨former, latter, value, split, before, after⟩
    · have ended := one.fast exchanges early before exchange member error failed
      rw [ended] at halts
      cases halts
      rfl
    · rw [split] at member
      rcases List.mem_append.mp member with here | there
      · cases one.fast former _ before exchange here error failed
      · exact (two former value (one.returned former value before).2).fast latter stopped after
          exchange there error failed
  refine ⟨fast, ?_, ?_, ?_⟩
  · intro exchanges stopped run
    rcases course_bind run with ⟨early, before, halts⟩ | ⟨former, latter, value, split, before, after⟩
    · rw [callsOf_halts halts]
      exact (one.follows exchanges early before).trans (List.prefix_append _ _)
    · obtain ⟨calls, holds⟩ := one.returned former value before
      have later := (two former value holds).follows latter stopped after
      unfold callsOf at later ⊢
      rw [split, List.map_append, calls, List.append_assoc]
      exact (List.prefix_append_right_inj first).mpr later
  · intro exchanges result run
    rcases course_bind run with ⟨early, before, halts⟩ | ⟨former, latter, value, split, before, after⟩
    · cases halts
    · obtain ⟨calls, holds⟩ := one.returned former value before
      obtain ⟨further, met⟩ := (two former value holds).returned latter result after
      rw [split, List.map_append, calls, further]
      exact ⟨rfl, met⟩
  · intro exchanges error run
    rcases course_bind run with ⟨early, before, halts⟩ | ⟨former, latter, value, split, before, after⟩
    · cases halts
      exact one.failed exchanges error before
    · have holds := (one.returned former value before).2
      rw [split]
      rcases (two former value holds).failed latter error after with ⟨exchange, member, thrown⟩ | owned
      · exact .inl ⟨exchange, List.mem_append_right former member, thrown⟩
      · exact .inr owned

/-- What is returned is computed from what the first part returned. -/
theorem scripted_return {script : List κ} {middle : List (Exchange κ ρ ε) → α → Prop}
    {post : List (Exchange κ ρ ε) → β → Prop} (one : Scripted script middle own program)
    (change : α → β) (holds : ∀ exchanges value, middle exchanges value →
      post exchanges (change value)) :
    Scripted script post own (program >>= fun value => Pure.pure (change value)) := by
  have last : ∀ before value, middle before value → Scripted []
      (fun after result => post (before ++ after) result)
      (fun after error => own (before ++ after) error)
      (Pure.pure (change value) : Async σ κ ρ ε β) := by
    intro before value known
    apply scripted_pure
    rw [List.append_nil]
    exact holds before value known
  have both := scripted_bind one last
  rwa [List.append_nil] at both

/-- A first part that calls nothing. -/
theorem scripted_after {script : List κ} {known : α → Prop}
    {post : List (Exchange κ ρ ε) → β → Prop}
    (one : Scripted [] (fun exchanges value => exchanges = [] ∧ known value) own program)
    (two : ∀ value, known value → Scripted script post own (rest value)) :
    Scripted script post own (program >>= rest) := by
  apply scripted_bind one
  intro before value holds
  rw [holds.1]
  exact two value holds.2

end Async

/-! ### Where there is more to wait for -/

section Embedded

variable {κ' : Type} {ρ' : κ' → Type} {into : κ → κ'} {back : ∀ call, ρ' (into call) → ρ call}

def Paused.embed (into : κ → κ') (back : ∀ call, ρ' (into call) → ρ call) :
    Paused σ κ ρ ε α → Paused σ κ' ρ' ε α
  | .finished result => .finished result
  | .awaiting call next => .awaiting (into call) fun reply =>
    (next (reply.map (back call))).embed into back

/-- An exchange, and what the embedded body sees of it. -/
inductive Exchange.Embeds (into : κ → κ') (back : ∀ call, ρ' (into call) → ρ call) :
    Exchange κ' ρ' ε → Exchange κ ρ ε → Prop where
  | same (call : κ) (reply : Except ε (ρ' (into call))) :
    Embeds into back ⟨into call, reply⟩ ⟨call, reply.map (back call)⟩

/-- What comes before and after one of two related elements is related. -/
theorem forall₂_split {related : α → β → Prop} {before after : List α} {one : α} {others : List β}
    (pairs : List.Forall₂ related (before ++ one :: after) others) :
    ∃ first other rest, others = first ++ other :: rest ∧ related one other ∧
      List.Forall₂ related before first ∧ List.Forall₂ related after rest := by
  induction before generalizing others with
  | nil =>
    cases pairs with
    | cons same rest => exact ⟨[], _, _, rfl, same, .nil, rest⟩
  | cons head tail ih =>
    cases pairs with
    | cons same rest =>
      obtain ⟨first, other, last, split, matched, left, right⟩ := ih rest
      exact ⟨_ :: first, other, last, by rw [split, List.cons_append], matched, .cons same left, right⟩

namespace Async

variable {program : Async σ κ ρ ε α}

theorem segment_embed (state : σ) : (program.embed into back).segment state =
    ((program.segment state).1, (program.segment state).2.embed into back) := by
  induction program generalizing state with
  | pure value => rfl
  | throw error => rfl
  | read next ih => exact ih state state
  | write stored next ih => exact ih stored
  | await call next _ => rfl

/-- A run of an embedded body is one of the body itself. -/
theorem course_embed {exchanges : List (Exchange κ' ρ' ε)} {stopped : Paused σ κ' ρ' ε α}
    (run : Course (program.embed into back) exchanges stopped) :
    ∃ others inner, Course program others inner ∧
      List.Forall₂ (Exchange.Embeds into back) exchanges others ∧
      stopped = inner.embed into back := by
  generalize embedded : program.embed into back = whole at run
  induction run generalizing program with
  | stop whole state =>
    subst embedded
    rw [segment_embed]
    exact ⟨[], _, .stop program state, .nil, rfl⟩
  | @answered whole state asked next reply rest stopped waits _ ih =>
    subst embedded
    rw [segment_embed] at waits
    cases halted : (program.segment state).2 with
    | finished result =>
      rw [halted] at waits
      cases waits
    | awaiting call further =>
      rw [halted] at waits
      injection waits with same continued
      subst same
      obtain ⟨others, inner, course, pairs, ended⟩ := ih (congrFun (eq_of_heq continued) reply)
      exact ⟨_ :: others, inner, .answered state halted course, .cons (.same call reply) pairs, ended⟩

theorem FailsFast.embed (fast : FailsFast program) : FailsFast (program.embed into back) := by
  intro exchanges stopped run exchange member error failed
  obtain ⟨others, inner, course, pairs, ended⟩ := course_embed run
  obtain ⟨before, after, split⟩ := List.append_of_mem member
  rw [split] at pairs
  obtain ⟨first, other, rest, parts, same, _, _⟩ := forall₂_split pairs
  cases same with
  | same call reply =>
    have thrown : reply.map (back call) = .error error := by
      change reply = .error error at failed
      rw [failed]
      rfl
    have found : (⟨call, reply.map (back call)⟩ : Exchange κ ρ ε) ∈ others := by
      rw [parts]
      exact List.mem_append_right _ List.mem_cons_self
    rw [ended, fast others inner course _ found error thrown]
    rfl

theorem Commits.embed {counts : κ → Prop} {important : κ' → Prop}
    (implies : ∀ call, important (into call) → counts call) (commits : Commits counts program) :
    Commits important (program.embed into back) := by
  refine ⟨commits.fast.embed, ?_⟩
  intro exchanges stopped run before exchange after split matters
  obtain ⟨others, inner, course, pairs, ended⟩ := course_embed run
  rw [split] at pairs
  obtain ⟨first, other, rest, parts, same, _, later⟩ := forall₂_split pairs
  cases same with
  | same call reply =>
    obtain ⟨nothing, returns⟩ := commits.last others inner course first _ rest parts
      (implies call matters)
    rw [nothing] at later
    cases later
    refine ⟨rfl, ?_⟩
    intro succeeded
    have received : (⟨call, reply.map (back call)⟩ : Exchange κ ρ ε).succeeded := by
      cases reply with
      | ok value => rfl
      | error error => cases succeeded
    obtain ⟨value, returned⟩ := returns received
    rw [ended, returned]
    exact ⟨value, rfl⟩

end Async

end Embedded

end NodeRedBull.Library
