import NodeRedBull.CloseReports
import NodeRedBull.Library.Course
import NodeRedBull.Library.Timed

/-! How long the queue configuration node takes to close: every closing ends within its budget,
whatever BullMQ and ioredis do, because each wait of it has a timer. -/

namespace NodeRedBull.CloseTimes
open Js Library Connections ConfigNode ConfigBooks ConfigStep
open ConfigPairs (plainRedis plainPackages plainConstruction)

/-! ## The budget of a closing -/

/-- How long a wait may last: `settleWithin` has a timer, the end of a function is seen at once, and
the lock manager of a worker is given `lockTime`. A close handler waits for its closings. -/
def closeLimit (lockTime : Nat) : ConfigCall → Option Nat
  | .close _ budget => some budget
  | .quit _ budget => some budget
  | .lockManager _ => some lockTime
  | .all _ => none
  | .ended => some 0

/-- The longest a closing may take: a graceful close, and the connection after it. -/
def closingMs : Nat := gracefulCloseMs + closeGraceMs

/-- The longest budget that `closeBudgetFor` gives. -/
def longestBudget : Option Nat → Nat
  | none => postgresCloseMs
  | some _ => gracefulCloseMs

/-- What the companion connection of an owner may take. -/
def companionBudget : Option Nat → Nat
  | none => 0
  | some _ => closeGraceMs

theorem closeBudgetFor_le (connection : Option Nat) (state : ConfigState) :
    closeBudgetFor connection state ≤ longestBudget connection := by
  cases connection with
  | none => exact Nat.le_refl _
  | some ref =>
    unfold closeBudgetFor longestBudget
    dsimp only
    split
    · split
      · exact Nat.le_refl _
      · decide
    · decide

/-- With its companion an owner has the same budget on both backends. -/
theorem pair_budget (connection : Option Nat) :
    longestBudget connection + companionBudget connection = closingMs := by
  cases connection <;> rfl

section Costs
variable {lockTime : Nat}

theorem record_costs (effect : Effect) : (record effect).CostsAtMost (closeLimit lockTime) 0 :=
  Async.costs_modify _

theorem caught_costs {body : ConfigBody Unit} {budget : Nat}
    (costs : body.CostsAtMost (closeLimit lockTime) budget) :
    (tryCatch (Except.ok <$> body) fun err => pure (.error err) :
      ConfigBody (Except JsError Unit)).CostsAtMost (closeLimit lockTime) budget :=
  Async.costs_caught (Async.costs_map _ costs) fun _ => Async.costs_pure _

/-- The end of an asynchronous function is seen in a later turn, at no cost. -/
theorem awaitEnd_costs {body : ConfigBody Unit} {budget : Nat}
    (costs : body.CostsAtMost (closeLimit lockTime) budget) :
    (awaitEnd body).CostsAtMost (closeLimit lockTime) budget := by
  have turn : (await .ended).CostsAtMost (closeLimit lockTime) 0 := Async.costs_call rfl
  refine Async.costs_before (caught_costs costs) (fun result => ?_)
  refine Async.costs_after turn (fun _ => ?_)
  cases result with
  | ok _ => exact Async.costs_pure _
  | error err => exact Async.costs_throw err

theorem throwIfAny_costs (err : Option JsError) :
    (throwIfAny err).CostsAtMost (closeLimit lockTime) 0 := by
  cases err with
  | none => exact Async.costs_pure _
  | some err => exact Async.costs_throw err

theorem callDisconnect_costs (client : Client) (throws : Option JsError) :
    (callDisconnect client throws).CostsAtMost (closeLimit lockTime) 0 := by
  have last : (throwIfAny throws).CostsAtMost (closeLimit lockTime) 0 := throwIfAny_costs throws
  unfold callDisconnect
  refine Async.costs_after (record_costs _) (fun _ => ?_)
  cases client with
  | connection ref => exact Async.costs_after (Async.costs_modify _) fun _ => last
  | _ => exact Async.costs_after (Async.costs_pure ()) fun _ => last

theorem disconnectClient_costs (client : Client) (disconnect : Method) :
    (disconnectClient client disconnect).CostsAtMost (closeLimit lockTime) 0 := by
  cases disconnect with
  | none => exact Async.costs_pure _
  | some throws =>
    exact Async.costs_caught (callDisconnect_costs client throws) fun _ => Async.costs_pure _

theorem disconnectBackend_costs (owner : Nat) (backend : Option BackendShape) :
    (disconnectBackend owner backend).CostsAtMost (closeLimit lockTime) 0 := by
  unfold disconnectBackend
  split
  · exact Async.costs_after (disconnectClient_costs _ _) fun _ => disconnectClient_costs _ _
  · exact Async.costs_pure _

theorem stopStalledCheck_costs (owner : Nat) (stopper : Method) :
    (stopStalledCheck owner stopper).CostsAtMost (closeLimit lockTime) 0 := by
  cases stopper with
  | none => exact Async.costs_pure _
  | some throws => exact Async.costs_after (record_costs _) fun _ => throwIfAny_costs throws

/-- A forced close waits for the lock manager only. -/
theorem forceDisconnectOwner_costs (owner : Nat) (shape : OwnerShape) :
    (forceDisconnectOwner owner shape).CostsAtMost (closeLimit lockTime) lockTime := by
  have stopper : (stopStalledCheck owner shape.stalledCheckStopper).CostsAtMost
      (closeLimit lockTime) 0 := stopStalledCheck_costs owner shape.stalledCheckStopper
  unfold forceDisconnectOwner
  split
  · exact Async.costs_mono (Async.costs_pure _) (Nat.zero_le _)
  · exact Async.costs_mono (Async.costs_throw _) (Nat.zero_le _)
  · refine Async.costs_after (disconnectBackend_costs owner _) (fun _ => ?_)
    cases shape.lockManager with
    | false => exact Async.costs_mono stopper (Nat.zero_le _)
    | true =>
      have locked : (await (.lockManager owner)).CostsAtMost (closeLimit lockTime) lockTime :=
        Async.costs_call rfl
      refine Async.costs_after (record_costs _) (fun _ => ?_)
      exact Async.costs_before locked fun _ => stopper

theorem closeConnection_costs (ref : Nat) :
    (closeConnection ref).CostsAtMost (closeLimit lockTime) closeGraceMs := by
  refine Async.costs_after (record_costs _) (fun _ => ?_)
  refine Async.costs_after Async.costs_get (fun state => ?_)
  cases state.connections.read ref with
  | none => exact Async.costs_mono (Async.costs_pure _) (Nat.zero_le _)
  | some connection =>
    have forced : (awaitEnd (forceDisconnectConnection ref connection.shape)).CostsAtMost
        (closeLimit lockTime) 0 := awaitEnd_costs (disconnectClient_costs _ _)
    dsimp only
    cases connection.shape.quit with
    | none => exact Async.costs_mono forced (Nat.zero_le _)
    | some throws =>
      dsimp only
      split
      · have quits : (await (.quit ref closeGraceMs)).CostsAtMost (closeLimit lockTime)
            closeGraceMs := Async.costs_call rfl
        refine Async.costs_after (record_costs _) (fun _ => ?_)
        refine Async.costs_after (Async.costs_modify _) (fun _ => ?_)
        refine Async.costs_after (throwIfAny_costs throws) (fun _ => ?_)
        refine Async.costs_before quits (fun settlement => ?_)
        split
        · exact forced
        · exact Async.costs_pure _
      · exact Async.costs_mono forced (Nat.zero_le _)

theorem closeOwner_costs (owner : Nat) (connection : Option Nat) :
    (closeOwner owner connection).CostsAtMost (closeLimit lockTime)
      (longestBudget connection + lockTime) := by
  refine Async.costs_after (record_costs _) (fun _ => ?_)
  refine Async.costs_after Async.costs_get (fun state => ?_)
  cases state.owners.read owner with
  | none => exact Async.costs_mono (Async.costs_pure _) (Nat.zero_le _)
  | some found =>
    refine Async.costs_after (record_costs _) (fun _ => ?_)
    refine Async.costs_after (throwIfAny_costs found.shape.close) (fun _ => ?_)
    refine Async.costs_after Async.costs_get (fun later => ?_)
    have awaited : (await (.close owner (closeBudgetFor connection later))).CostsAtMost
        (closeLimit lockTime) (longestBudget connection) :=
      Async.costs_mono (Async.costs_call rfl) (closeBudgetFor_le connection later)
    refine Async.costs_bind awaited (fun settlement => ?_)
    cases settlement with
    | settled => exact Async.costs_mono (record_costs _) (Nat.zero_le _)
    | timeout => exact awaitEnd_costs (forceDisconnectOwner_costs owner found.shape)

theorem closeCompanion_costs (connection : Option Nat) :
    (closeCompanion connection).CostsAtMost (closeLimit lockTime) (companionBudget connection) := by
  cases connection with
  | none => exact Async.costs_pure _
  | some ref => exact closeConnection_costs ref

theorem throwFirst_costs (first second : Except JsError Unit) :
    (throwFirst first second).CostsAtMost (closeLimit lockTime) 0 := by
  cases first with
  | error err => exact Async.costs_throw err
  | ok _ =>
    cases second with
    | error err => exact Async.costs_throw err
    | ok _ => exact Async.costs_pure _

theorem closeResourcePair_costs (handler owner : Nat) (connection : Option Nat) :
    (closeResourcePair handler owner connection).CostsAtMost (closeLimit lockTime)
      (closingMs + lockTime) := by
  have owner_costs : (awaitEnd (closeOwner owner connection)).CostsAtMost (closeLimit lockTime)
      (longestBudget connection + lockTime) := awaitEnd_costs (closeOwner_costs owner connection)
  have companion_costs : (awaitEnd (closeCompanion connection)).CostsAtMost (closeLimit lockTime)
      (companionBudget connection) := awaitEnd_costs (closeCompanion_costs connection)
  have total : longestBudget connection + lockTime + companionBudget connection =
      closingMs + lockTime := by
    have sum := pair_budget connection
    omega
  rw [← total]
  refine Async.costs_after (record_costs _) (fun _ => ?_)
  refine Async.costs_bind (caught_costs owner_costs) (fun first => ?_)
  refine Async.costs_before (caught_costs companion_costs) (fun second => ?_)
  exact throwFirst_costs first second

theorem releaseResource_costs (handler owner : Nat) :
    (releaseResource handler owner).CostsAtMost (closeLimit lockTime) (closingMs + lockTime) := by
  refine Async.costs_after Async.costs_get (fun state => ?_)
  cases state.resources.get owner with
  | none => exact Async.costs_mono (Async.costs_pure _) (Nat.zero_le _)
  | some connection =>
    refine Async.costs_after (Async.costs_modify _) (fun _ => ?_)
    exact awaitEnd_costs (closeResourcePair_costs handler owner connection)

end Costs

/-! ## The node with a clock -/

def isClosing : ConfigTask → Bool
  | .releaseResource _ | .pair _ _ _ => true
  | _ => false

def closingBudget (lockTime : Nat) (task : ConfigTask) : Option Nat :=
  if isClosing task then some (closingMs + lockTime) else none

theorem closings_affordable (packages : Packages) (lockTime : Nat) :
    Affordable (configSystem packages) (closeLimit lockTime) (closingBudget lockTime) := by
  intro index task total paid
  cases task with
  | releaseResource owner =>
    cases paid
    exact releaseResource_costs index owner
  | pair handler owner connection =>
    cases paid
    exact closeResourcePair_costs index owner connection
  | _ => cases paid

/-- The close handler that started the closing of a pair. -/
def handlerOf : ConfigTask → Option Nat
  | .pair handler _ _ => some handler
  | _ => none

theorem pairs_parented (packages : Packages) : Parented (configSystem packages) handlerOf where
  forked := by
    intro index call task member
    cases call with
    | all pairs =>
      obtain ⟨pair, _, rfl⟩ := List.mem_map.mp member
      rfl
    | _ => cases member
  launched := by
    intro pool task launched
    cases task with
    | pair handler owner connection => exact absurd launched id
    | _ => rfl

theorem resume_alone {packages : Packages} {first : ConfigState} {pool : ConfigPool} {index : Nat}
    {task : ConfigTask} {call : ConfigCall}
    {next : Except JsError (ConfigReply call) → ConfigBody Unit}
    {reply : Except JsError (ConfigReply call)}
    (run : Runs (configSystem packages).Step anyMove ⟨first, []⟩ pool)
    (waiting : pool.tasks[index]? = some (task, .awaiting call next)) :
    ∃ stopped, ((configSystem packages).resume pool index task (next reply)).tasks =
      pool.tasks.set index (task, stopped) := by
  by_cases closing : task = .close
  · subst closing
    have shape := (closing_shape packages).run run waiting rfl
    cases shape with
    | waits rest => exact ⟨_, congrArg Pool.tasks (resume_close packages (.waits rest) reply)⟩
  · obtain ⟨paused, _, resumed, _⟩ := resume_framed sameBooks_frame run waiting closing reply
    exact ⟨paused, congrArg Pool.tasks resumed⟩

abbrev TimedConfig := TimedPool ConfigState ConfigCall ConfigReply JsError Unit ConfigTask

/-- Task `index` was started that long ago. -/
def StartedBefore (timed : TimedConfig) (index time : Nat) : Prop :=
  ∃ stamp : Stamp, timed.stamps[index]? = some stamp ∧ stamp.started + time < timed.clock

section Runs
variable {packages : Packages} {lockTime : Nat} {config : QueueConfig} {timed : TimedConfig}
variable (run : Runs (TimedStep (configSystem packages) (closeLimit lockTime)) anyMove
  (emptyTimed (.initial config)) timed)
include run

theorem closing_ends {index : Nat} {task : ConfigTask}
    {paused : Paused ConfigState ConfigCall ConfigReply JsError Unit}
    (found : timed.pool.tasks[index]? = some (task, paused)) (closing : isClosing task = true)
    (late : StartedBefore timed index (closingMs + lockTime)) :
    ∃ result, paused = .finished result := by
  have punctual := punctual_run (closings_affordable packages lockTime) run
  obtain ⟨stamp, stamped, passed⟩ := late
  have paid : closingBudget lockTime task = some (closingMs + lockTime) := if_pos closing
  rcases punctual.ends found stamped paid with ended | early
  · exact ended
  · omega

/-- All closings of a handler have ended, so what it waits for settles. -/
theorem handler_settles {handler : Nat} (late : StartedBefore timed handler (closingMs + lockTime)) :
    ∃ reply, allSettles (promises timed.pool handler) reply := by
  have siblings := siblings_run (pairs_parented packages)
    (fun reached waiting _ => resume_alone reached waiting) run
  have ended : ∀ paused ∈ promises timed.pool handler, ∃ result, paused = .finished result := by
    intro paused member
    obtain ⟨index, owner, connection, found⟩ := CloseReports.mem_promises.mp member
    obtain ⟨_, together⟩ := siblings.together index _ paused handler found rfl
    obtain ⟨stamp, stamped, passed⟩ := late
    rw [stamped] at together
    obtain ⟨own, own_stamped, same⟩ := Option.map_eq_some_iff.mp together
    exact closing_ends run found rfl ⟨own, own_stamped, by omega⟩
  by_cases failed : ∃ paused ∈ promises timed.pool handler, ∃ err, paused.result = some (.error err)
  · obtain ⟨paused, member, err, failure⟩ := failed
    exact ⟨.error err, paused, member, failure⟩
  · refine ⟨.ok (), ?_⟩
    intro paused member
    obtain ⟨result, same⟩ := ended paused member
    cases result with
    | ok value =>
      rw [same]
      rfl
    | error err => exact absurd ⟨paused, member, err, by rw [same]; rfl⟩ failed

/-- What is not a close handler waits only where it can be answered. -/
theorem answerable_now {index : Nat} {task : ConfigTask} {call : ConfigCall}
    {next : Except JsError (ConfigReply call) → ConfigBody Unit}
    (found : timed.pool.tasks[index]? = some (task, .awaiting call next)) (other : task ≠ .close) :
    ∃ reply, (configSystem packages).answers timed.pool index call reply := by
  have reached : Runs (configSystem packages).Step anyMove (emptyConfigPool config) timed.pool :=
    untimed_run run
  have waits := ((later_respects sameBooks_frame packages).run reached found other).1
  obtain ⟨reply, answer, _⟩ := CloseReports.answerable index timed.pool call waits
  exact ⟨reply, answer⟩

/-- Whatever BullMQ and ioredis do, a closing has ended eleven seconds after it was started, not
counting the lock manager, and until then it can be answered. By then a close handler of the node
need not wait any longer either: all closings it started have ended. -/
theorem closings_in_time :
    (∀ (index : Nat) task paused, timed.pool.tasks[index]? = some (task, paused) →
      isClosing task = true → StartedBefore timed index (11000 + lockTime) →
      ∃ result, paused = .finished result) ∧
    (∀ (index : Nat) task call next,
      timed.pool.tasks[index]? = some (task, Paused.awaiting call next) → isClosing task = true →
      ∃ reply, (configSystem packages).answers timed.pool index call reply) ∧
    ∀ (handler : Nat) call next,
      timed.pool.tasks[handler]? = some (ConfigTask.close, Paused.awaiting call next) →
      StartedBefore timed handler (11000 + lockTime) →
      ∃ reply, (configSystem packages).answers timed.pool handler call reply := by
  refine ⟨?_, ?_, ?_⟩
  · exact fun index task paused found closing late => closing_ends run found closing late
  · intro index task call next found closing
    apply answerable_now run found
    intro same
    rw [same] at closing
    cases closing
  · intro handler call next found late
    have reached : Runs (configSystem packages).Step anyMove (emptyConfigPool config) timed.pool :=
      untimed_run run
    have shape := (closing_shape packages).run reached found rfl
    cases shape with
    | waits rest => exact handler_settles run late

end Runs

/-! A worker whose connection never becomes ready is released: its close times out after a second
and is then forced. -/

def releasing : TimedConfig :=
  let system := configSystem plainPackages
  ⟨system.start (system.start (emptyConfigPool plainRedis)
    (.createWorker (.runtime 1) plainConstruction)) (.releaseResource 0), 0, [⟨0, 0⟩, ⟨0, 0⟩]⟩

def timedOut : TimedConfig := { releasing with clock := 1000 }

/-- Task `index` is answered without delay. -/
def answerNow (index : Nat) (timed : TimedConfig) : TimedConfig :=
  match timed.pool.tasks[index]? with
  | some (task, .awaiting call next) =>
    let after := (configSystem plainPackages).resume timed.pool index task
      (next (CloseReports.forced (.ok ()) call))
    ⟨after, timed.clock, (PoolMove.resume index call (CloseReports.forced (.ok ()) call) :
      ConfigMove).restamp timed.clock after.tasks.length timed.stamps⟩
  | _ => timed

def answerTimes (index : Nat) : Nat → TimedConfig → TimedConfig
  | 0, timed => timed
  | count + 1, timed => answerTimes index count (answerNow index timed)

/-- A run in which lock managers close at once. -/
abbrev ReachedInTime (timed : TimedConfig) : Prop :=
  Runs (TimedStep (configSystem plainPackages) (closeLimit 0)) anyMove
    (emptyTimed (.initial plainRedis)) timed

theorem answerNow_reached {timed : TimedConfig} (reached : ReachedInTime timed) {index : Nat}
    {task : ConfigTask} (kind : timed.pool.tasks[index]?.map Prod.fst = some task)
    (other : task ≠ .close) : ReachedInTime (answerNow index timed) ∧
      (answerNow index timed).pool.tasks[index]?.map Prod.fst = some task := by
  have run : Runs (configSystem plainPackages).Step anyMove (emptyConfigPool plainRedis)
    timed.pool := untimed_run reached
  unfold answerNow
  split
  next found call next waiting =>
    rw [waiting] at kind
    cases kind
    have alone := ((later_respects sameBooks_frame plainPackages).run run waiting other).1
    have answer : answered timed.pool index call (CloseReports.forced (.ok ()) call) := by
      cases call with
      | close owner budget => exact ⟨.timeout, rfl⟩
      | quit connection budget => exact ⟨.timeout, rfl⟩
      | lockManager owner => exact trivial
      | all pairs => exact absurd alone id
      | ended => exact rfl
    constructor
    · exact Runs.extend reached trivial (.move (.resume waiting answer))
    · obtain ⟨stopped, tasks⟩ := resume_alone run waiting
      have bound := (List.getElem?_eq_some_iff.mp waiting).1
      dsimp only
      rw [tasks, List.getElem?_set_self bound]
      rfl
  next => exact ⟨reached, kind⟩

theorem answerTimes_reached {index : Nat} {task : ConfigTask} (other : task ≠ .close) (count : Nat)
    {timed : TimedConfig} (reached : ReachedInTime timed)
    (kind : timed.pool.tasks[index]?.map Prod.fst = some task) :
    ReachedInTime (answerTimes index count timed) := by
  induction count generalizing timed with
  | zero => exact reached
  | succ count ih =>
    have answered := answerNow_reached reached kind other
    exact ih answered.1 answered.2

theorem releasing_reached : ReachedInTime releasing := by
  have created : ReachedInTime ⟨(configSystem plainPackages).start (emptyConfigPool plainRedis)
      (.createWorker (.runtime 1) plainConstruction), 0, [⟨0, 0⟩]⟩ :=
    Runs.extend (Runs.refl _) trivial (.move (.start trivial))
  exact Runs.extend created trivial (.move (.start trivial))

/-- Where the tasks of a pool wait, by their positions. -/
def waits (timed : TimedConfig) : List (List ConfigCall) :=
  timed.pool.tasks.map fun entry => entry.2.waitsFor

theorem waits_at {timed : TimedConfig} {index : Nat} {task : ConfigTask} {call : ConfigCall}
    {next : Except JsError (ConfigReply call) → ConfigBody Unit}
    (waiting : timed.pool.tasks[index]? = some (task, .awaiting call next)) :
    (waits timed)[index]? = some [call] := by
  unfold waits
  rw [List.getElem?_map, waiting]
  rfl

theorem timedOut_reached : ReachedInTime timedOut := by
  apply Runs.extend releasing_reached trivial (TimedStep.wait 1000 _)
  intro index task call next stamp time waiting stamped limited
  have asked := waits_at waiting
  rw [show waits releasing = [[], [.close 0 1000]] from rfl] at asked
  rw [show releasing.stamps = [⟨0, 0⟩, ⟨0, 0⟩] from rfl] at stamped
  rcases index with _ | _ | index
  · cases asked
  · cases asked
    cases stamped
    cases limited
    exact Nat.le_refl _
  · cases asked

def released : TimedConfig := { answerTimes 1 8 timedOut with clock := 16000 }

theorem released_reached : ReachedInTime released := by
  have answered : ReachedInTime (answerTimes 1 8 timedOut) :=
    answerTimes_reached (show ConfigTask.releaseResource 0 ≠ .close by simp) 8 timedOut_reached rfl
  apply Runs.extend answered trivial (TimedStep.wait 15000 _)
  intro index task call next stamp time waiting
  have asked := waits_at waiting
  rw [show waits (answerTimes 1 8 timedOut) = [[], []] from rfl] at asked
  rcases index with _ | _ | index
  · cases asked
  · cases asked
  · cases asked

theorem closings_in_time_released : ∃ result,
    released.pool.tasks[1]? = some (.releaseResource 0, .finished result) := by
  have known : ∃ paused, released.pool.tasks[1]? = some (.releaseResource 0, paused) := ⟨_, rfl⟩
  obtain ⟨paused, found⟩ := known
  have late : StartedBefore released 1 (11000 + 0) := ⟨⟨0, 1000⟩, rfl, by decide⟩
  obtain ⟨result, ended⟩ := (closings_in_time released_reached).1 1 _ paused found rfl late
  exact ⟨result, ended ▸ found⟩

end NodeRedBull.CloseTimes
