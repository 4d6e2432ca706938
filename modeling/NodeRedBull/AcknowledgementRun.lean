import NodeRedBull.AcknowledgementCreation
import NodeRedBull.AcknowledgementEffect
import NodeRedBull.Library.Pool

/-! Every run of the acknowledgement registry: its operations in any order, with any number
of callers suspended in `wait`. -/

namespace NodeRedBull.AcknowledgementRun
open Js Library Acknowledgements AcknowledgementInvariant AcknowledgementCreation
open AcknowledgementEffect

/-- One call on the registry, on one of its entries, or from the runtime. -/
inductive Operation where
  | newSignal
  | newJob (job : JsValue)
  | changeJob (ref : Nat) (job : JsValue)
  | create (context : Context) (timeoutMs now : JsNumber) (random : String)
  | complete (ref : Nat) (value : JsValue)
  | fail (ref : Nat) (error : JsError)
  | timerFires (ref : Nat)
  | abort (signal : Nat) (reason : JsValue)
  | get (ackId : JsValue)
  | rejectByRunNode (runNodeId : String) (error : JsError)
  | wait (ref : Nat)

inductive Returned where
  | nothing
  | signal (signal : Nat)
  | job (ref : Nat)
  | created (ackId : String) (ref : Nat)
  | entry (ref : Nat)
  | value (value : JsValue)

/-- A body on the registry; the only thing it can await is an event promise. -/
abbrev RegistryBody := Async AckState Nat (fun _ => Settlement) JsError

def waitBody (ref : Nat) : RegistryBody JsValue :=
  wait (fun change => modifyGet change) (fun promise => Async.call promise) ref

def perform : Operation → RegistryBody Returned
  | .newSignal => return .signal (← modifyGet newSignal)
  | .newJob job => return .job (← modifyGet (newJob job))
  | .changeJob ref job => do
    modify (changeJob ref job)
    return .nothing
  | .create context timeoutMs now random => do
    let (ackId, ref) ← modifyGet (create context timeoutMs now random)
    return .created ackId ref
  | .complete ref value => do
    modify (complete ref value)
    return .nothing
  | .fail ref error => do
    modify (fail ref error)
    return .nothing
  | .timerFires ref => do
    modify (timerFires ref)
    return .nothing
  | .abort signal reason => do
    modify (abort signal reason)
    return .nothing
  | .get ackId => do
    match Acknowledgements.get ackId (← MonadState.get) with
    | .ok ref => return .entry ref
    | .error error => throw error
  | .rejectByRunNode runNodeId error => do
    modify (rejectByRunNode runNodeId error)
    return .nothing
  | .wait ref => do
    let value ← waitBody ref
    return .value value

/-- What may be called when. Callers of `complete`, `fail` and `wait` have an entry, a
timer fires when it is armed, and `create` gets an ackId that no pending entry has and a
signal that was not aborted. -/
def Callable (state : AckState) : Operation → Prop
  | .create context _ now random =>
    Free (ackIdOf context.runNodeId context.job now random state) state ∧
      ∀ signal, context.signal = some signal → ∃ found, state.signals.read signal = some found ∧ found.reason = none
  | .complete ref _ | .fail ref _ | .wait ref => ref < state.objects.size
  | .timerFires ref => ref ∈ state.timers
  | .newSignal | .newJob _ | .changeJob _ _ | .abort _ _ | .get _ | .rejectByRunNode _ _ => True

def registry : System AckState Nat (fun _ => Settlement) JsError Returned Operation where
  body := fun _ => perform
  launch := fun pool operation => Callable pool.shared operation
  answers := fun pool _ promise reply => ∃ found settlement,
    pool.shared.promises.read promise = some found ∧ found.settlement = some settlement ∧
      reply = .ok settlement
  forks := fun _ _ => []

abbrev RegistryPool := Pool AckState Nat (fun _ => Settlement) JsError Returned Operation

def initial : RegistryPool := ⟨.initial, []⟩

/-- An ended `wait` has delivered the settlement of its entry. -/
def Delivered (operation : Operation) (result : Except JsError Returned) (state : AckState) :
    Prop :=
  match operation with
  | .wait ref => ∃ settlement, settlementOf ref state = some settlement ∧
      result = settlement.deliver.map Returned.value
  | _ => True

/-- A suspended `wait` is suspended on an event promise of its own entry. -/
def AwaitsOwn (operation : Operation) (state : AckState) (promise : Nat) : Prop :=
  match operation with
  | .wait ref => ∃ found, state.promises.read promise = some found ∧ found.entry = ref
  | _ => True

def outline : Outline AckState Nat (fun _ => Settlement) JsError Returned Operation where
  invariant := Consistent
  scope := fun _ _ => True
  rely := fun _ => Grows
  guarantee := fun _ => Grows
  waiting := fun _ => AwaitsOwn
  answers := fun _ _ state promise reply => ∃ found settlement,
    state.promises.read promise = some found ∧ found.settlement = some settlement ∧
      reply = .ok settlement
  post := fun _ => Delivered

theorem delivered_grows {operation : Operation} {result : Except JsError Returned}
    {before after : AckState} (grows : Grows before after)
    (delivered : Delivered operation result before) : Delivered operation result after := by
  cases operation with
  | wait ref =>
    obtain ⟨settlement, recorded, equal⟩ := delivered
    exact ⟨settlement, grows.settled ref settlement recorded, equal⟩
  | _ => trivial

theorem awaitsOwn_grows {operation : Operation} {promise : Nat} {before after : AckState}
    (grows : Grows before after) (awaits : AwaitsOwn operation before promise) :
    AwaitsOwn operation after promise := by
  cases operation with
  | wait ref =>
    obtain ⟨found, stored, owner⟩ := awaits
    obtain ⟨later, kept, same⟩ := grows.promises promise found stored
    exact ⟨later, kept, same.trans owner⟩
  | _ => trivial

/-- The two paths of `wait`: a recorded settlement, or the event that records it. -/
theorem wait_meets {index ref : Nat} {state : AckState} (consistent : Consistent state)
    (known : ref < state.objects.size) :
    (perform (.wait ref)).wp (outline.contract index (.wait ref))
      (outline.settles index (.wait ref)) state state := by
  obtain ⟨entry, stored⟩ := Store.exists_read known
  have recorded : settlementOf ref state = entry.settlement := by
    simp [settlementOf, stored]
  simp only [perform, waitBody, wait, Async.wp_bind, Async.wp_modifyGet, recorded]
  cases pending : entry.settlement with
  | some settlement =>
    rw [pending] at recorded
    cases settlement with
    | resolve value =>
      simp only [Async.wp_pure]
      exact ⟨consistent, Grows.refl state, _, recorded, rfl⟩
    | reject error =>
      exact ⟨consistent, Grows.refl state, _, recorded, rfl⟩
  | none =>
    have registered := consistent_onceSettled consistent ⟨stored, pending⟩
    simp only [Async.wp_bind, Async.wp_modifyGet, Async.wp_call]
    refine ⟨registered, grows_onceSettled ref state, ?_, ?_⟩
    · refine ⟨⟨ref, none⟩, ?_, rfl⟩
      simp [onceSettled, Store.read_alloc]
    · intro later kept grown reply given
      obtain ⟨found, settlement, resolved, settled, equal⟩ := given
      obtain ⟨same, promised, owner⟩ := grown.promises state.promises.size ⟨ref, none⟩
        (by simp [onceSettled, Store.read_alloc])
      have held : later.promises.read (onceSettled ref state).1 = some same := promised
      rw [held] at resolved
      cases resolved
      obtain ⟨owned, read, agrees, _⟩ := kept.promised _ found held
      have first : settlementOf ref later = some settlement := by
        have owner' : found.entry = ref := owner
        rw [owner'] at read
        simp only [settlementOf, read, Option.bind_some]
        rw [← agrees]
        exact settled
      subst equal
      cases settlement with
      | resolve value =>
        simp only [Async.wp_pure]
        exact ⟨kept, Grows.refl later, _, first, rfl⟩
      | reject error =>
        simp only [Async.wp_throw]
        exact ⟨kept, Grows.refl later, _, first, rfl⟩

/-- What the invariant needs of a call, whether or not a signal was aborted before. -/
def Admissible (state : AckState) : Operation → Prop
  | .create context _ now random =>
    Free (ackIdOf context.runNodeId context.job now random state) state ∧
      ∀ signal, context.signal = some signal → signal < state.signals.size
  | .wait ref => ref < state.objects.size
  | _ => True

theorem Callable.admissible {state : AckState} {operation : Operation}
    (callable : Callable state operation) : Admissible state operation := by
  cases operation with
  | create context timeoutMs now random =>
    refine ⟨callable.1, ?_⟩
    intro signal listens
    obtain ⟨found, stored, _⟩ := callable.2 signal listens
    exact Store.lt_size_of_read stored
  | wait ref => exact callable
  | _ => trivial

/-- Every other operation is one segment that keeps the invariant. -/
theorem perform_meets {index : Nat} {operation : Operation} {state : AckState}
    (consistent : Consistent state) (admissible : Admissible state operation) :
    (perform operation).wp (outline.contract index operation)
      (outline.settles index operation) state state := by
  have segment : ∀ (result : Except JsError Returned) (after : AckState),
      (∀ ref, operation ≠ .wait ref) → Consistent after ∧ Grows state after →
        outline.settles index operation state result after := by
    intro result after other both
    refine ⟨both.1, both.2, ?_⟩
    cases operation with
    | wait ref => exact absurd rfl (other ref)
    | _ => trivial
  cases operation with
  | newSignal =>
    exact segment _ _ (by simp) ⟨consistent_newSignal consistent, grows_newSignal state⟩
  | newJob job => exact segment _ _ (by simp) ⟨consistent_jobs consistent _, grows_jobs state _⟩
  | changeJob ref job =>
    exact segment _ _ (by simp) ⟨consistent_jobs consistent _, grows_jobs state _⟩
  | create context timeoutMs now random =>
    obtain ⟨free, known⟩ := admissible
    exact segment _ _ (by simp)
      ⟨consistent_create consistent free known, grows_create context timeoutMs now random state⟩
  | complete ref value => exact segment _ _ (by simp) (keeps_settle ref _ state consistent)
  | fail ref error => exact segment _ _ (by simp) (keeps_settle ref _ state consistent)
  | timerFires ref => exact segment _ _ (by simp) (keeps_timerFires ref state consistent)
  | abort signal reason => exact segment _ _ (by simp) (keeps_abort signal reason state consistent)
  | get ackId =>
    have same : Consistent state ∧ Grows state state := ⟨consistent, .refl state⟩
    simp only [perform, Async.wp_bind, Async.wp_get]
    cases Acknowledgements.get ackId state with
    | ok ref => exact segment _ _ (by simp) same
    | error error => exact segment _ _ (by simp) same
  | rejectByRunNode runNodeId error =>
    exact segment _ _ (by simp) (keeps_rejectByRunNode runNodeId error state consistent)
  | wait ref => exact wait_meets consistent admissible

theorem sound_of_admissible {launch : RegistryPool → Operation → Prop}
    (admits : ∀ pool operation, launch pool operation → Admissible pool.shared operation) :
    outline.Sound { registry with launch } anyMove where
  rely_refl := fun _ => .refl
  rely_trans := fun _ _ _ _ => .trans
  widened := fun _ _ _ => trivial
  inScope := fun _ _ _ _ _ _ _ => trivial
  interferes := fun _ _ _ _ _ grows => grows
  waiting_stable := fun _ _ _ _ _ => awaitsOwn_grows
  post_stable := fun _ _ _ _ _ => delivered_grows
  answered := fun _ _ _ _ _ _ _ _ answered _ => answered
  launched := fun pool operation covers launched _ =>
    perform_meets covers.1 (admits pool operation launched)
  forked := by
    intro pool index promise task member
    cases member

theorem outline_sound : outline.Sound registry anyMove :=
  sound_of_admissible fun _ _ => Callable.admissible

theorem covers_reached {pool : RegistryPool} (reached : Runs registry.Step anyMove initial pool) :
    outline.Covers pool :=
  Outline.covers_run outline_sound reached (Outline.covers_initial consistent_initial trivial)

theorem grows_respected : outline.poolInvariant.Respected Grows where
  refl := .refl
  trans := fun _ _ _ => .trans
  guaranteed := fun _ _ _ grows => grows

/-- Answered, a suspended `wait` delivers at once. -/
def Wakes (operation : Operation) :
    Paused AckState Nat (fun _ => Settlement) JsError Returned → Prop
  | .finished _ => True
  | .awaiting _ next =>
    match operation with
    | .wait _ => ∀ reply state, (next reply).segment state =
        (state, .finished ((reply.bind Settlement.deliver).map Returned.value))
    | _ => False

theorem wakes_shape : Shape registry (fun _ => Wakes) where
  begun := by
    intro index operation state
    cases operation with
    | get ackId =>
      simp only [registry, perform, Async.segment_bind, Async.segment_get, Paused.andThen]
      cases Acknowledgements.get ackId state with
      | ok ref => trivial
      | error error => trivial
    | wait ref =>
      simp only [registry, perform, waitBody, wait, Async.segment_bind, Async.segment_modifyGet,
        Paused.andThen]
      cases settlementOf ref state with
      | none =>
        intro reply later
        rcases reply with error | settlement
        · rfl
        · cases settlement with
          | resolve value => rfl
          | reject error => rfl
      | some settlement =>
        cases settlement with
        | resolve value => trivial
        | reject error => trivial
    | _ => trivial
  resumed := by
    intro index operation promise next reply state wakes
    cases operation with
    | wait ref =>
      rw [wakes reply state]
      trivial
    | _ => exact False.elim wakes

theorem get_ok_iff {state : AckState} (consistent : Consistent state) {ref : Nat}
    {entry : AcknowledgementEntry} (stored : state.objects.read ref = some entry) :
    Acknowledgements.get (.string entry.ackId) state = .ok ref ↔ entry.settlement = none := by
  have mapped := consistent.mapped entry.ackId ref
  constructor
  · intro found
    have present : state.entries.get entry.ackId = some ref := by
      cases held : state.entries.get entry.ackId with
      | none => simp [Acknowledgements.get, held] at found
      | some other =>
        simp only [Acknowledgements.get, held, Except.ok.injEq] at found
        rw [found]
    obtain ⟨same, unsettled, _⟩ := mapped.mp present
    rw [unsettled.1] at stored
    cases stored
    exact unsettled.2
  · intro pending
    simp only [Acknowledgements.get, mapped.mpr ⟨entry, ⟨stored, pending⟩, rfl⟩]

/-- What a caller of `wait` on an entry got, or is about to get. -/
def Delivers (ref : Nat) (state : AckState) :
    Paused AckState Nat (fun _ => Settlement) JsError Returned → Prop
  | .finished result => ∃ settlement, settlementOf ref state = some settlement ∧
      result = settlement.deliver.map Returned.value
  | .awaiting promise next => ∃ found, state.promises.read promise = some found ∧
      found.settlement = settlementOf ref state ∧
        ∀ settlement later, (next (.ok settlement)).segment later =
          (later, .finished (settlement.deliver.map Returned.value))

/-- In every run a settlement is final, the map, the timers and the abort listeners are those of
the unsettled entries, and every `wait` delivers the settlement of its entry. -/
theorem registry_invariant {pool last : RegistryPool}
    (reached : Runs registry.Step anyMove initial pool)
    (further : Runs registry.Step anyMove pool last) :
    (∀ ref settlement, settlementOf ref pool.shared = some settlement →
      settlementOf ref last.shared = some settlement) ∧
    (∀ ackId ref, pool.shared.entries.get ackId = some ref ↔
      ∃ entry, Unsettled pool.shared ref entry ∧ entry.ackId = ackId) ∧
    (∀ ref entry, pool.shared.objects.read ref = some entry →
      (Acknowledgements.get (.string entry.ackId) pool.shared = .ok ref ↔
        entry.settlement = none)) ∧
    (∀ ref entry, pool.shared.objects.read ref = some entry →
      (ref ∈ pool.shared.timers ↔ entry.settlement = none ∧ entry.timeoutMs.positive = true)) ∧
    (∀ ref entry, pool.shared.objects.read ref = some entry →
      (∀ signal, entry.context.signal = some signal →
        ∃ found, pool.shared.signals.read signal = some found) ∧
      ∀ signal found, pool.shared.signals.read signal = some found →
        (ref ∈ found.listeners ↔ entry.settlement = none ∧ entry.context.signal = some signal)) ∧
    (∀ (index ref : Nat) paused, pool.tasks[index]? = some (Operation.wait ref, paused) →
      Delivers ref pool.shared paused) ∧
    (∀ runNodeId error ref entry, pool.shared.objects.read ref = some entry →
      (rejectByRunNode runNodeId error pool.shared).objects.read ref =
        some (if entry.context.runNodeId = runNodeId ∧ entry.settlement = none then
          { entry with settlement := some (.reject error), events := [] } else entry)) := by
  have covers := covers_reached reached
  have consistent : Consistent pool.shared := covers.1
  have same : ∀ {ref entry other}, pool.shared.objects.read ref = some entry →
      Unsettled pool.shared ref other → other = entry ∧ entry.settlement = none := by
    intro ref entry other stored unsettled
    have equal := unsettled.1.symm.trans stored
    cases equal
    exact ⟨rfl, unsettled.2⟩
  refine ⟨?_, consistent.mapped, fun _ _ stored => get_ok_iff consistent stored, ?_, ?_, ?_, ?_⟩
  · intro ref settlement recorded
    have grows : Grows pool.shared last.shared :=
      PoolInvariant.grows_run (Outline.kept outline_sound) grows_respected further covers
    exact grows.settled ref settlement recorded
  · intro ref entry stored
    rw [consistent.armed ref]
    constructor
    · intro given
      obtain ⟨other, unsettled, positive⟩ := given
      obtain ⟨equal, pending⟩ := same stored unsettled
      exact ⟨pending, equal ▸ positive⟩
    · intro given
      obtain ⟨pending, positive⟩ := given
      exact ⟨entry, ⟨stored, pending⟩, positive⟩
  · intro ref entry stored
    constructor
    · intro signal listens
      exact Store.exists_read (consistent.signalled ref entry signal stored listens)
    · intro signal found read
      rw [consistent.listening signal found ref read]
      constructor
      · intro given
        obtain ⟨other, unsettled, listens⟩ := given
        obtain ⟨equal, pending⟩ := same stored unsettled
        exact ⟨pending, equal ▸ listens⟩
      · intro given
        obtain ⟨pending, listens⟩ := given
        exact ⟨entry, ⟨stored, pending⟩, listens⟩
  · intro index ref paused found
    have held := covers.2.2 index (.wait ref) paused found
    have wakes := wakes_shape.run reached found
    cases paused with
    | finished result => exact held
    | awaiting promise next =>
      obtain ⟨promised, read, owner⟩ := held.1
      obtain ⟨entry, stored, agrees, _⟩ := consistent.promised promise promised read
      refine ⟨promised, read, ?_, fun settlement state => wakes (.ok settlement) state⟩
      rw [owner] at stored
      simp only [settlementOf, stored, Option.bind_some]
      exact agrees
  · intro runNodeId error ref entry stored
    rw [read_rejectByRunNode consistent, stored]
    simp only [Option.map_some, Option.some.injEq, settledBy]
    by_cases own : entry.context.runNodeId = runNodeId
    · cases pending : entry.settlement with
      | none => simp [own]
      | some first => simp [own]
    · simp [own]

/-- One job of run node "run" with a signal and a timeout, awaited before it is completed. -/
def awaited : RegistryPool :=
  registry.start (registry.start (registry.start (registry.start initial .newSignal)
    (.newJob (.object [("id", .string "1")])))
    (.create ⟨0, none, "q", "run", 0, some 0, .string "token"⟩
      (JsNumber.ofNat 5) (JsNumber.ofNat 0) "r")) (.wait 0)

theorem awaited_reached : Runs registry.Step anyMove initial awaited := by
  refine Runs.extend (Runs.extend (Runs.extend (Runs.extend (Runs.refl initial) trivial
    (System.Step.start ?_)) trivial (System.Step.start ?_)) trivial (System.Step.start ?_))
    trivial (System.Step.start ?_)
  · trivial
  · trivial
  · refine ⟨?_, ?_⟩
    · intro ref entry unsettled
      have empty : (registry.start (registry.start initial .newSignal)
        (.newJob (.object [("id", .string "1")]))).shared.objects.read ref = none := rfl
      cases empty.symm.trans unsettled.1
    · intro signal listens
      cases listens
      exact ⟨⟨none, []⟩, rfl, rfl⟩
  · exact Nat.one_pos

theorem registry_invariant_awaited :
    settlementOf 0 (registry.start (registry.start awaited (.complete 0 (.bool true)))
      (.rejectByRunNode "run" (newError "closed"))).shared = some (.resolve (.bool true)) := by
  have completed : Runs registry.Step anyMove initial
      (registry.start awaited (.complete 0 (.bool true))) :=
    awaited_reached.extend trivial (System.Step.start Nat.one_pos)
  have closed : Runs registry.Step anyMove (registry.start awaited (.complete 0 (.bool true)))
      (registry.start (registry.start awaited (.complete 0 (.bool true)))
        (.rejectByRunNode "run" (newError "closed"))) :=
    (Runs.refl _).extend trivial (System.Step.start trivial)
  exact (registry_invariant completed closed).1 0 _ rfl

end NodeRedBull.AcknowledgementRun
