import NodeRedBull.AcknowledgementRun

/-! The registry with the clock of the runtime: when the timer of an acknowledgement rejects it. -/

namespace NodeRedBull.AcknowledgementTimers
open Js Library Acknowledgements AcknowledgementInvariant AcknowledgementCreation
open AcknowledgementEffect AcknowledgementRun

/-- The largest delay of `setTimeout`, in milliseconds. -/
def timeoutMax : Nat := 2147483647

/-- The delay that `setTimeout` uses: 1 for one that is out of its range, and no fractions. -/
def timerDelay : JsNumber → Nat
  | .finite delay => if 1 ≤ delay ∧ delay ≤ timeoutMax then delay.floor.toNat else 1
  | _ => 1

/-- The clock is in milliseconds; `created` and `due` say when an entry was created and from when
on its timer may fire. -/
structure TimedRegistry where
  pool : RegistryPool
  clock : ℚ
  created : OrderedMap Nat ℚ
  due : OrderedMap Nat ℚ

def TimedRegistry.initial : TimedRegistry := ⟨AcknowledgementRun.initial, 0, .empty, .empty⟩

inductive TimedMove where
  | act (move : PoolMove Nat (fun _ => Settlement) JsError Operation)
  | pass (milliseconds : ℚ)
  | fire (ref : Nat)

/-- A `create` takes the time and sets the timer of its entry. -/
def stamp (move : PoolMove Nat (fun _ => Settlement) JsError Operation) (timed : TimedRegistry) :
    TimedRegistry :=
  match move with
  | .start (.create _ timeoutMs _ _) =>
    let ref := timed.pool.shared.objects.size
    { timed with
      created := timed.created.set ref timed.clock
      due :=
        if timeoutMs.positive then timed.due.set ref (timed.clock + timerDelay timeoutMs)
        else timed.due }
  | _ => timed

def firesTimer : PoolMove Nat (fun _ => Settlement) JsError Operation → Bool
  | .start (.timerFires _) => true
  | _ => false

/-- Anything may happen at any time, but a timer fires only when it is due. -/
inductive TimedStep : TimedRegistry → TimedMove → TimedRegistry → Prop where
  | act {timed : TimedRegistry} {move : PoolMove Nat (fun _ => Settlement) JsError Operation}
      {pool : RegistryPool} (made : registry.Step timed.pool move pool)
      (other : firesTimer move = false) :
      TimedStep timed (.act move) { stamp move timed with pool }
  | pass {timed : TimedRegistry} {milliseconds : ℚ} (forward : 0 ≤ milliseconds) :
      TimedStep timed (.pass milliseconds) { timed with clock := timed.clock + milliseconds }
  | fire {timed : TimedRegistry} {ref : Nat} {due : ℚ} {pool : RegistryPool}
      (set : timed.due.get ref = some due) (reached : due ≤ timed.clock)
      (made : registry.Step timed.pool (.start (.timerFires ref)) pool) :
      TimedStep timed (.fire ref) { timed with pool }

/-- The timer of a pending entry fires now and rejects it. -/
def TimerRejects (timed : TimedRegistry) (ref : Nat) : Prop :=
  settlementOf ref timed.pool.shared = none ∧
    ∃ later error, TimedStep timed (.fire ref) later ∧
      settlementOf ref later.pool.shared = some (.reject error)

/-- In every run, an acknowledgement that was created with `timeoutMs` is not rejected by its
timer before that time, and with 0 not at all. -/
def Honoured (timeoutMs : JsNumber) : Prop :=
  ∀ timed ref entry created, Runs TimedStep anyMove .initial timed →
    timed.pool.shared.objects.read ref = some entry → entry.timeoutMs = timeoutMs →
    timed.created.get ref = some created → TimerRejects timed ref →
      timeoutMs ≠ JsNumber.ofNat 0 ∧
        ∀ t : Nat, 0 < t → timeoutMs = JsNumber.ofNat t → created + t ≤ timed.clock

/-! ## Entries keep the timeout they were created with -/

/-- Only a `create` makes a new entry. -/
def creates : PoolMove Nat (fun _ => Settlement) JsError Operation → Bool
  | .start (.create _ _ _ _) => true
  | _ => false

theorem start_shared (pool : RegistryPool) (operation : Operation) :
    (registry.start pool operation).shared = ((perform operation).segment pool.shared).1 := by
  rw [registry.start_eq_begin]
  · rfl
  · cases ((registry.body pool.tasks.length operation).segment pool.shared).2 with
    | finished result => rfl
    | awaiting promise next => rfl

theorem resume_shared {pool : RegistryPool} {index promise : Nat} {operation : Operation}
    {next : Except JsError Settlement → RegistryBody Returned} {reply : Except JsError Settlement}
    (reached : Runs registry.Step anyMove initial pool)
    (waiting : pool.tasks[index]? = some (operation, .awaiting promise next)) :
    (registry.resume pool index operation (next reply)).shared = pool.shared := by
  have wakes := wakes_shape.run reached waiting
  cases operation with
  | wait ref =>
    have woken := wakes reply pool.shared
    rw [registry.resume_eq_set]
    · rw [woken]
    · rw [woken]
      rfl
  | _ => exact False.elim wakes

/-- Every operation but a creation works on the entries that are there. -/
theorem perform_entries {operation : Operation} (old : creates (.start operation) = false)
    (state : AckState) {ref : Nat} {later : AcknowledgementEntry}
    (stored : ((perform operation).segment state).1.objects.read ref = some later) :
    ∃ entry, state.objects.read ref = some entry := by
  have steady : ∀ after, Steady state after → ((perform operation).segment state).1 = after →
      ∃ entry, state.objects.read ref = some entry := by
    intro after steady same
    rw [same] at stored
    obtain ⟨entry, found, _⟩ := steady.entries ref later stored
    exact ⟨entry, found⟩
  cases operation with
  | newSignal => exact ⟨later, stored⟩
  | newJob job => exact ⟨later, stored⟩
  | changeJob job value => exact ⟨later, stored⟩
  | create context timeoutMs now random => cases old
  | complete other value => exact steady _ (steady_settle other (.resolve value) state) rfl
  | fail other error => exact steady _ (steady_settle other (.reject error) state) rfl
  | timerFires other => exact steady _ (steady_timerFires other state) rfl
  | abort signal reason =>
    obtain ⟨entry, found, _⟩ := abort_entries signal reason state ref later stored
    exact ⟨entry, found⟩
  | get ackId =>
    apply steady state (.refl state)
    simp only [perform, Async.segment_bind, Async.segment_get, Paused.andThen]
    cases Acknowledgements.get ackId state with
    | ok found => rfl
    | error error => rfl
  | rejectByRunNode runNodeId error => exact steady _ (steady_rejectByRunNode runNodeId error state) rfl
  | wait other =>
    cases settled : settlementOf other state with
    | none =>
      apply steady _ (steady_onceSettled other state)
      simp only [perform, waitBody, wait, Async.segment_bind, Async.segment_modifyGet,
        Paused.andThen, settled]
      rfl
    | some settlement =>
      apply steady state (.refl state)
      simp only [perform, waitBody, wait, Async.segment_bind, Async.segment_modifyGet,
        Paused.andThen, settled]
      cases settlement with
      | resolve value => rfl
      | reject error => rfl

theorem created_from {before after : RegistryPool}
    {move : PoolMove Nat (fun _ => Settlement) JsError Operation}
    (reached : Runs registry.Step anyMove initial before) (made : registry.Step before move after)
    (old : creates move = false) {ref : Nat} {later : AcknowledgementEntry}
    (stored : after.shared.objects.read ref = some later) :
    ∃ entry, before.shared.objects.read ref = some entry := by
  cases made with
  | @start operation launched =>
    rw [start_shared] at stored
    exact perform_entries old before.shared stored
  | @resume index operation promise next reply waiting answered =>
    rw [resume_shared reached waiting] at stored
    exact ⟨later, stored⟩

/-! ## Every timer is set when its entry is created -/

/-- A run of the registry with a clock is a run of the registry, and every entry has the time of
its creation and, if it has a timeout, a timer that is due that much later. -/
structure Timed (timed : TimedRegistry) : Prop where
  reached : Runs registry.Step anyMove initial timed.pool
  set : ∀ ref entry, timed.pool.shared.objects.read ref = some entry →
    ∃ created, timed.created.get ref = some created ∧ (entry.timeoutMs.positive = true →
      timed.due.get ref = some (created + timerDelay entry.timeoutMs))

/-- A move that creates no entry leaves every time and every timeout as it was. -/
theorem Timed.continues {timed : TimedRegistry} (held : Timed timed) {pool : RegistryPool}
    {move : PoolMove Nat (fun _ => Settlement) JsError Operation}
    (made : registry.Step timed.pool move pool) (old : creates move = false) :
    Timed { timed with pool } where
  reached := held.reached.extend trivial made
  set := by
    intro ref later stored
    obtain ⟨entry, found⟩ := created_from held.reached made old stored
    have grows : Grows timed.pool.shared pool.shared :=
      (PoolInvariant.step_spec (Outline.kept outline_sound) grows_respected
        (covers_reached held.reached) trivial made).2
    obtain ⟨same, read, _, timeout, _⟩ := grows.entries ref entry found
    have equal : same = later := Option.some.inj (read.symm.trans stored)
    subst equal
    rw [timeout]
    exact held.set ref entry found

theorem Timed.creates {timed : TimedRegistry} (held : Timed timed) {context : Context}
    {timeoutMs now : JsNumber} {random : String} {pool : RegistryPool}
    (made : registry.Step timed.pool (.start (.create context timeoutMs now random)) pool) :
    Timed { stamp (.start (.create context timeoutMs now random)) timed with pool } := by
  have reached := held.reached.extend trivial made
  cases made with
  | start launched =>
    refine ⟨reached, ?_⟩
    intro ref entry stored
    have constructed : (create context timeoutMs now random timed.pool.shared).2.objects.read ref =
        some entry := stored
    rw [create_objects] at constructed
    by_cases fresh : ref = timed.pool.shared.objects.size
    · rw [if_pos fresh] at constructed
      cases constructed
      subst fresh
      refine ⟨timed.clock, (OrderedMap.get_set _ _ _ _).trans (if_pos rfl), ?_⟩
      intro positive
      have set : timeoutMs.positive = true := positive
      simp only [stamp, set, ↓reduceIte]
      exact (OrderedMap.get_set _ _ _ _).trans (if_pos rfl)
    · rw [if_neg fresh] at constructed
      obtain ⟨created, kept, due⟩ := held.set ref entry constructed
      refine ⟨created, ?_, ?_⟩
      · exact ((OrderedMap.get_set _ _ _ _).trans (if_neg fresh)).trans kept
      · intro positive
        simp only [stamp]
        split
        · exact ((OrderedMap.get_set _ _ _ _).trans (if_neg fresh)).trans (due positive)
        · exact due positive

theorem timed_step {before after : TimedRegistry} {move : TimedMove} (held : Timed before)
    (made : TimedStep before move after) : Timed after := by
  cases made with
  | @act move pool stepped other =>
    cases move with
    | start operation =>
      cases operation with
      | create context timeoutMs now random => exact held.creates stepped
      | _ => exact held.continues stepped rfl
    | resume index promise reply => exact held.continues stepped rfl
  | pass forward => exact ⟨held.reached, held.set⟩
  | fire set reached stepped => exact held.continues stepped rfl

theorem timed_reached {timed : TimedRegistry} (reached : Runs TimedStep anyMove .initial timed) :
    Timed timed := by
  apply reached.invariant
  · refine ⟨.refl _, ?_⟩
    intro ref entry stored
    cases stored
  · exact fun before move after held _ made => timed_step held made

/-! ## When the timeout is honoured -/

theorem ofNat_positive (t : Nat) : (JsNumber.ofNat t).positive = true ↔ 0 < t := by
  simp [JsNumber.positive, JsNumber.ofNat, JsNumber.lt]

theorem timerDelay_finite (delay : ℚ) : timerDelay (.finite delay) =
    if 1 ≤ delay ∧ delay ≤ timeoutMax then delay.floor.toNat else 1 := rfl

theorem timerDelay_ofNat {t : Nat} (positive : 0 < t) (small : t ≤ timeoutMax) :
    timerDelay (JsNumber.ofNat t) = t := by
  have least : (1 : ℚ) ≤ t := by exact_mod_cast positive
  have most : (t : ℚ) ≤ timeoutMax := by exact_mod_cast small
  unfold JsNumber.ofNat
  have floored : (t : ℚ).floor = t := Rat.floor_intCast t
  rw [timerDelay_finite, if_pos ⟨least, most⟩, floored]
  exact Int.toNat_natCast t

theorem timerDelay_large {t : Nat} (large : timeoutMax < t) : timerDelay (JsNumber.ofNat t) = 1 := by
  have beyond : ¬ (t : ℚ) ≤ timeoutMax := by exact_mod_cast not_le.mpr large
  unfold JsNumber.ofNat
  rw [timerDelay_finite, if_neg fun within => beyond within.2]

/-- A timer that fires was set, for a timeout that is not 0, when its entry was created. -/
theorem rejected_late {timed : TimedRegistry} {ref : Nat} {entry : AcknowledgementEntry} {created : ℚ}
    (reached : Runs TimedStep anyMove .initial timed)
    (stored : timed.pool.shared.objects.read ref = some entry)
    (since : timed.created.get ref = some created) (rejects : TimerRejects timed ref) :
    entry.timeoutMs.positive = true ∧ created + timerDelay entry.timeoutMs ≤ timed.clock := by
  have held := timed_reached reached
  obtain ⟨_, later, error, made, _⟩ := rejects
  cases made with
  | @fire _ due pool set passed stepped =>
    cases stepped with
    | start launched =>
      have consistent : Consistent timed.pool.shared := (covers_reached held.reached).1
      obtain ⟨armed, unsettled, positive⟩ := (consistent.armed ref).mp launched
      have same : armed = entry := Option.some.inj (unsettled.1.symm.trans stored)
      subst same
      obtain ⟨start, start_since, start_due⟩ := held.set ref armed stored
      have equal : start = created := Option.some.inj (start_since.symm.trans since)
      have due_at : due = start + timerDelay armed.timeoutMs :=
        Option.some.inj (set.symm.trans (start_due positive))
      rw [← equal, ← due_at]
      exact ⟨positive, passed⟩

/-! One acknowledgement, created at time 0, and a millisecond later its timer. -/

def loneContext : Context := ⟨0, none, "q", "run", 0, none, .undefined⟩

def loneCreated (timeoutMs : JsNumber) : TimedRegistry :=
  let created := .start (.create loneContext timeoutMs (JsNumber.ofNat 0) "r")
  { stamp created .initial with
    pool := registry.start initial (.create loneContext timeoutMs (JsNumber.ofNat 0) "r")
    clock := 0 + 1 }

theorem loneCreated_reached (timeoutMs : JsNumber) :
    Runs TimedStep anyMove .initial (loneCreated timeoutMs) := by
  have callable : Callable initial.shared
      (.create loneContext timeoutMs (JsNumber.ofNat 0) "r") := by
    refine ⟨?_, ?_⟩
    · intro ref entry unsettled
      cases unsettled.1
    · intro signal listens
      cases listens
  have created : TimedStep .initial
      (.act (.start (.create loneContext timeoutMs (JsNumber.ofNat 0) "r")))
      { stamp (.start (.create loneContext timeoutMs (JsNumber.ofNat 0) "r")) .initial with
        pool := registry.start initial (.create loneContext timeoutMs (JsNumber.ofNat 0) "r") } :=
    .act (.start callable) rfl
  have begun : Runs TimedStep anyMove .initial .initial := .refl _
  exact (begun.extend trivial created).extend trivial (.pass (by decide : (0 : ℚ) ≤ 1))

/-- The timer fires as soon as its delay is over, whatever the timeout that it stands for. -/
theorem loneCreated_rejects {timeoutMs : JsNumber} (positive : timeoutMs.positive = true)
    (short : timerDelay timeoutMs = 1) : TimerRejects (loneCreated timeoutMs) 0 := by
  let timed := loneCreated timeoutMs
  have stored : timed.pool.shared.objects.read 0 = some (createdEntry loneContext timeoutMs _) := rfl
  have due : timed.due.get 0 = some (0 + (timerDelay timeoutMs : ℚ)) := by
    simp only [timed, loneCreated, stamp, positive, ↓reduceIte]
    rfl
  have reached : 0 + (timerDelay timeoutMs : ℚ) ≤ timed.clock := by
    rw [short]
    exact le_rfl
  have armed : 0 ∈ timed.pool.shared.timers := by
    change 0 ∈ (create loneContext timeoutMs (JsNumber.ofNat 0) "r" .initial).2.timers
    rw [create_timers]
    exact .inr ⟨rfl, positive⟩
  have rejected : settlementOf 0 (timerFires 0 timed.pool.shared) =
      some (.reject (timeoutError timeoutMs)) := by
    unfold timerFires settlementOf fail
    rw [stored]
    dsimp only
    rw [read_settle, if_pos rfl]
    rfl
  have fires : TimedStep timed (.fire 0) _ := .fire due reached (System.Step.start armed)
  refine ⟨rfl, _, timeoutError timeoutMs, fires, ?_⟩
  rw [← rejected]
  exact congrArg (settlementOf 0) (start_shared timed.pool (.timerFires 0))

/-- The timeout of an acknowledgement is honoured unless `setTimeout` cannot wait that long. -/
theorem timeout_honoured_iff (ackTimeout : JsValue) :
    Honoured (parseAckTimeoutMs ackTimeout) ↔
      ∀ t : Nat, parseAckTimeoutMs ackTimeout = JsNumber.ofNat t → t ≤ timeoutMax := by
  constructor
  · intro honoured t whole
    by_contra large
    have exceeds : timeoutMax < t := not_le.mp large
    have positive : 0 < t := by omega
    rw [whole] at honoured
    have waited := honoured (loneCreated (JsNumber.ofNat t)) 0 _ 0 (loneCreated_reached _) rfl rfl rfl
      (loneCreated_rejects ((ofNat_positive t).mpr positive) (timerDelay_large exceeds))
    have soon : (0 : ℚ) + t ≤ 0 + 1 := waited.2 t positive rfl
    have least : (timeoutMax : ℚ) < t := by exact_mod_cast exceeds
    have large_enough : (1 : ℚ) < timeoutMax := by decide
    linarith
  · intro small timed ref entry created reached stored configured since rejects
    obtain ⟨positive, late⟩ := rejected_late reached stored since rejects
    rw [configured] at positive late
    refine ⟨?_, ?_⟩
    · intro zero
      rw [zero, ofNat_positive] at positive
      omega
    · intro t some_time whole
      rw [whole, timerDelay_ofNat some_time (small t whole)] at late
      exact late

/-- A timeout of a little more than 24 days fails the job after a millisecond. -/
theorem month_not_honoured : ¬ Honoured (parseAckTimeoutMs (.string "2592000000")) := by
  have parsed : parseAckTimeoutMs (.string "2592000000") = JsNumber.ofNat 2592000000 := by
    decide +kernel
  rw [parsed]
  intro honoured
  have waited := honoured (loneCreated (JsNumber.ofNat 2592000000)) 0 _ 0 (loneCreated_reached _)
    rfl rfl rfl (loneCreated_rejects ((ofNat_positive _).mpr (by decide))
      (timerDelay_large (by decide)))
  have soon : (0 : ℚ) + (2592000000 : Nat) ≤ 0 + 1 := waited.2 2592000000 (by decide) rfl
  exact absurd soon (by norm_num)

end NodeRedBull.AcknowledgementTimers
