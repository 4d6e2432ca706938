import NodeRedBull.ConfigBooks

/-! The one lemma about steps of the queue configuration node: what a step leaves in its books. -/

namespace NodeRedBull.ConfigStep
open Js Library Connections ConfigNode ConfigBooks

/-! ## The first segment of a task -/

/-- The closings of `pairs` start, as the tasks from `position` on. -/
def startAll (position : Nat) : List (Nat × Option Nat) → ConfigState → ConfigState
  | [], state => state
  | pair :: rest, state =>
    startAll (position + 1) rest (state.record (.closesPair position pair.1 pair.2))

/-- What the start of a task does to the books. -/
def effect (packages : Packages) (index : Nat) (task : ConfigTask) (state : ConfigState) :
    ConfigState :=
  match task with
  | .getQueue construction => (getQueue packages construction state).2
  | .createWorker node construction => (createWorker packages node construction state).2
  | .createQueueEvents node construction => (createQueueEvents packages node construction state).2
  | .createFlowProducer node construction =>
    (createFlowProducer packages node construction state).2
  | .processor _ construction => (getQueue packages construction state).2
  | .releaseResource owner =>
    match state.resources.get owner with
    | none => state
    | some connection =>
      (take index owner connection state).record (.closesPair index owner connection)
  | .close => startAll (index + 1) (takeAll index state).1 (takeAll index state).2
  | .pair _ owner connection => state.record (.closesPair index owner connection)
  | .emitError emitter err => emitError packages emitter err state
  | .backendEvent queue event =>
    if state.watched.contains queue then onBackendEvent event state else state
  | .readiness queue failure => onReadiness packages queue failure state
  | .readBackendStatus reader => readBackendStatus reader state
  | .stopReading reader => stopReading reader state
  | .connectionStatus connection status => setStatus connection status state

section Frames
variable {related : ConfigState → ConfigState → Prop} (frame : ClosingFrame related)
include frame

theorem sync_framed {α : Type} (operation : Sync α) (state : ConfigState) :
    (sync operation).Framed related single (operation state).2 state := by
  unfold sync Async.Framed
  rw [Async.wp_bind, Async.wp_modifyGet]
  dsimp only
  cases (operation state).1 with
  | ok value => exact frame.refl _
  | error err => exact frame.refl _

theorem releaseResource_framed (packages : Packages) (index owner : Nat) (state : ConfigState) :
    (releaseResource index owner).Framed related single
      (effect packages index (.releaseResource owner) state) state := by
  unfold releaseResource Async.Framed
  rw [Async.wp_bind, Async.wp_get]
  dsimp only
  cases tracked : state.resources.get owner with
  | none =>
    simp only [effect, tracked]
    exact frame.refl _
  | some connection =>
    simp only [effect, tracked]
    rw [Async.wp_bind, Async.wp_modify]
    dsimp only
    have pair := closeResourcePair_framed frame index owner connection
      (take index owner connection state)
    exact awaitEnd_framed frame pair

/-- The first segment of every task but the close handler. -/
theorem runTask_framed (packages : Packages) (index : Nat) {task : ConfigTask}
    (other : task ≠ .close) (state : ConfigState) :
    (runTask packages index task).Framed related single (effect packages index task state) state := by
  cases task with
  | getQueue construction => exact sync_framed frame _ state
  | createWorker node construction => exact sync_framed frame _ state
  | createQueueEvents node construction => exact sync_framed frame _ state
  | createFlowProducer node construction => exact sync_framed frame _ state
  | processor worker construction => exact sync_framed frame _ state
  | releaseResource owner => exact releaseResource_framed frame packages index owner state
  | close => exact absurd rfl other
  | pair handler owner connection =>
    exact closeResourcePair_framed frame index owner connection state
  | emitError emitter err => exact frame.refl _
  | backendEvent queue event =>
    unfold Async.Framed
    simp only [runTask, effect]
    rw [Async.wp_bind, Async.wp_get]
    dsimp only
    cases state.watched.contains queue with
    | true => exact frame.refl _
    | false => exact frame.refl _
  | readiness queue failure => exact frame.refl _
  | readBackendStatus reader => exact frame.refl _
  | stopReading reader => exact frame.refl _
  | connectionStatus connection status => exact frame.refl _

end Frames

/-! ## The close handler -/

/-- The rest of `onClose`, once `Promise.all` has settled. -/
def finishClose (handler : Nat) : Except JsError Unit → ConfigBody Unit
  | .ok _ => do
    record (.status .config .cleared)
    record (.done handler none)
  | .error err => record (.done handler (some err))

/-- A close handler waits for its pairs, or it has ended. -/
inductive Closing (handler : Nat) :
    Paused ConfigState ConfigCall ConfigReply JsError Unit → Prop where
  | waits {pairs : List (Nat × Option Nat)}
      {next : Except JsError (ConfigReply (.all pairs)) → ConfigBody Unit}
      (rest : ∀ reply later, (next reply).segment later =
        (finishClose handler reply).segment later) : Closing handler (.awaiting (.all pairs) next)
  | ended : Closing handler (.finished (.ok ()))

theorem onClose_segment (handler : Nat) (state : ConfigState) :
    ∃ next, (onClose handler).segment state =
        ((takeAll handler state).2, .awaiting (.all (takeAll handler state).1) next) ∧
      ∀ reply later, (next reply).segment later = (finishClose handler reply).segment later := by
  refine ⟨_, rfl, ?_⟩
  intro reply later
  cases reply with
  | ok value => rfl
  | error err => rfl

/-- What the end of a close handler does. -/
def reportClose (handler : Nat) (reply : Except JsError Unit) (state : ConfigState) :
    ConfigState :=
  match reply with
  | .ok _ => (state.record (.status .config .cleared)).record (.done handler none)
  | .error err => state.record (.done handler (some err))

theorem finishClose_segment (handler : Nat) (reply : Except JsError Unit) (state : ConfigState) :
    (finishClose handler reply).segment state =
      (reportClose handler reply state, .finished (.ok ())) := by
  cases reply with
  | ok value => rfl
  | error err => rfl

theorem sameBooks_reportClose (handler : Nat) (reply : Except JsError Unit) (state : ConfigState) :
    SameBooks state (reportClose handler reply state) := by
  cases reply with
  | ok value =>
    exact SameBooks.trans _ _ _ (sameBooks_record rfl state)
      (sameBooks_record rfl _)
  | error err => exact sameBooks_record rfl state

/-! ## Steps -/

theorem closing_shape (packages : Packages) :
    Shape (configSystem packages) fun index task paused =>
      task = .close → Closing index paused where
  begun := by
    intro index task state closing
    subst closing
    obtain ⟨next, segment, rest⟩ := onClose_segment index state
    show Closing index ((onClose index).segment state).2
    rw [segment]
    exact .waits rest
  resumed := by
    intro index task call next reply state shape closing
    cases shape closing with
    | waits rest =>
      have segment := (rest reply state).trans (finishClose_segment index reply state)
      rw [segment]
      exact .ended

theorem forked_of_single (packages : Packages) (index : Nat)
    {paused : Paused ConfigState ConfigCall ConfigReply JsError Unit}
    (waits : paused.WaitsAt single) : (configSystem packages).forked index paused = [] := by
  cases paused with
  | finished result => rfl
  | awaiting call next =>
    cases call with
    | all pairs => exact absurd waits id
    | _ => rfl

/-- The start of a close handler: it takes everything and starts the closings. -/
theorem start_close (packages : Packages) (pool : ConfigPool) :
    ∃ next, Closing pool.tasks.length (.awaiting (.all (takeAll pool.tasks.length pool.shared).1)
        next) ∧
      (configSystem packages).start pool .close =
        ((takeAll pool.tasks.length pool.shared).1.map fun pair =>
          ConfigTask.pair pool.tasks.length pair.1 pair.2).foldl (configSystem packages).begin
            ⟨(takeAll pool.tasks.length pool.shared).2,
              pool.tasks ++ [(.close, .awaiting (.all (takeAll pool.tasks.length pool.shared).1)
                next)]⟩ := by
  obtain ⟨next, segment, rest⟩ := onClose_segment pool.tasks.length pool.shared
  refine ⟨next, .waits rest, ?_⟩
  unfold System.start
  rw [show (configSystem packages).body pool.tasks.length .close = onClose pool.tasks.length
    from rfl, segment]
  rfl

/-- The end of a close handler. -/
theorem resume_close (packages : Packages) {pool : ConfigPool} {index : Nat}
    {pairs : List (Nat × Option Nat)}
    {next : Except JsError (ConfigReply (.all pairs)) → ConfigBody Unit}
    (closing : Closing index (.awaiting (.all pairs) next)) (reply : Except JsError Unit) :
    (configSystem packages).resume pool index .close (next reply) =
      ⟨reportClose index reply pool.shared, pool.tasks.set index (.close, .finished (.ok ()))⟩ := by
  cases closing with
  | waits rest =>
    have segment := (rest reply pool.shared).trans (finishClose_segment index reply pool.shared)
    have alone : (configSystem packages).forked index ((next reply).segment pool.shared).2 = [] := by
      rw [segment]
      rfl
    rw [System.resume_eq_set _ alone, segment]

section Frames
variable {related : ConfigState → ConfigState → Prop} (frame : ClosingFrame related)
include frame

/-- Whatever a task is answered, the rest of it respects the frame, and it waits alone. -/
theorem later_respects (packages : Packages) :
    Shape (configSystem packages) fun _ task paused =>
      task ≠ .close → paused.WaitsAt single ∧ paused.Respects related single where
  begun := fun index _ state other =>
    (Async.segment_of_frame (runTask_framed frame packages index other state)).2
  resumed := fun _ _ _ _ reply state respects other =>
    (Async.segment_of_frame ((respects other).2 reply state)).2

theorem begin_framed (packages : Packages) (pool : ConfigPool) {task : ConfigTask}
    (other : task ≠ .close) :
    related (effect packages pool.tasks.length task pool.shared)
      ((configSystem packages).begin pool task).shared :=
  (Async.segment_of_frame (runTask_framed frame packages pool.tasks.length other pool.shared)).1

/-- A task that is no close handler starts alone. -/
theorem start_alone (packages : Packages) (pool : ConfigPool) {task : ConfigTask}
    (other : task ≠ .close) :
    (configSystem packages).start pool task = (configSystem packages).begin pool task := by
  have framed := Async.segment_of_frame
    (runTask_framed frame packages pool.tasks.length other pool.shared)
  exact System.start_eq_begin _ (forked_of_single packages _ framed.2.1)

omit frame in
theorem startAll_framed
    (paired : ∀ handler owner connection left right, related left right →
      related (left.record (.closesPair handler owner connection))
        (right.record (.closesPair handler owner connection)))
    (pairs : List (Nat × Option Nat)) {position : Nat} {left right : ConfigState}
    (near : related left right) :
    related (startAll position pairs left) (startAll position pairs right) := by
  induction pairs generalizing position left right with
  | nil => exact near
  | cons pair rest ih => exact ih (paired _ _ _ _ _ near)

theorem begin_all_framed
    (paired : ∀ handler owner connection left right, related left right →
      related (left.record (.closesPair handler owner connection))
        (right.record (.closesPair handler owner connection)))
    (packages : Packages) (handler : Nat) (pairs : List (Nat × Option Nat)) (pool : ConfigPool) :
    related (startAll pool.tasks.length pairs pool.shared)
      ((pairs.map fun pair => ConfigTask.pair handler pair.1 pair.2).foldl
        (configSystem packages).begin pool).shared := by
  induction pairs generalizing pool with
  | nil => exact frame.refl _
  | cons pair rest ih =>
    have first : related (pool.shared.record (.closesPair pool.tasks.length pair.1 pair.2))
        ((configSystem packages).begin pool (.pair handler pair.1 pair.2)).shared :=
      begin_framed frame packages pool (show ConfigTask.pair handler pair.1 pair.2 ≠ .close by simp)
    have others := ih ((configSystem packages).begin pool (.pair handler pair.1 pair.2))
    rw [System.begin_length] at others
    exact frame.trans _ _ _ (startAll_framed paired rest first) others

/-- The start of a task, with the tasks it starts in turn. -/
theorem start_framed
    (paired : ∀ handler owner connection left right, related left right →
      related (left.record (.closesPair handler owner connection))
        (right.record (.closesPair handler owner connection)))
    (packages : Packages) (pool : ConfigPool) (task : ConfigTask) :
    related (effect packages pool.tasks.length task pool.shared)
      ((configSystem packages).start pool task).shared := by
  by_cases closing : task = .close
  · subst closing
    obtain ⟨next, _, started⟩ := start_close packages pool
    rw [started]
    have all := begin_all_framed frame paired packages pool.tasks.length
      (takeAll pool.tasks.length pool.shared).1
      ⟨(takeAll pool.tasks.length pool.shared).2,
        pool.tasks ++ [(.close, .awaiting (.all (takeAll pool.tasks.length pool.shared).1) next)]⟩
    rw [List.length_append] at all
    exact all
  · rw [start_alone frame packages pool closing]
    exact begin_framed frame packages pool closing

end Frames

theorem start_books (packages : Packages) (pool : ConfigPool) (task : ConfigTask) :
    SameBooks (effect packages pool.tasks.length task pool.shared)
      ((configSystem packages).start pool task).shared := by
  apply start_framed sameBooks_frame
  intro handler owner connection left right same
  unfold SameBooks at same ⊢
  rw [books_record rfl, books_record rfl, same]

abbrev ConfigMove := PoolMove ConfigCall ConfigReply JsError ConfigTask

variable {packages : Packages} {allowed : ConfigPool → ConfigMove → Prop}

/-- What the answer to a task that is no close handler leads to. -/
theorem resume_framed {related : ConfigState → ConfigState → Prop} (frame : ClosingFrame related)
    {first : ConfigState} {pool : ConfigPool}
    (run : Runs (configSystem packages).Step allowed ⟨first, []⟩ pool) {index : Nat}
    {task : ConfigTask} {call : ConfigCall}
    {next : Except JsError (ConfigReply call) → ConfigBody Unit}
    (waiting : pool.tasks[index]? = some (task, .awaiting call next)) (other : task ≠ .close)
    (reply : Except JsError (ConfigReply call)) :
    ∃ paused, paused.WaitsAt single ∧
      (configSystem packages).resume pool index task (next reply) =
        ⟨((next reply).segment pool.shared).1, pool.tasks.set index (task, paused)⟩ ∧
      related pool.shared ((next reply).segment pool.shared).1 := by
  have respects : Paused.Respects related single (.awaiting call next) :=
    ((later_respects frame packages).run run waiting other).2
  have framed := Async.segment_of_frame (respects reply pool.shared)
  exact ⟨_, framed.2.1, System.resume_eq_set _ (forked_of_single packages _ framed.2.1), framed.1⟩

/-- An answer leaves the books alone. -/
theorem resume_books {first : ConfigState} {pool : ConfigPool}
    (run : Runs (configSystem packages).Step allowed ⟨first, []⟩ pool) {index : Nat}
    {task : ConfigTask} {call : ConfigCall}
    {next : Except JsError (ConfigReply call) → ConfigBody Unit}
    (waiting : pool.tasks[index]? = some (task, .awaiting call next))
    (reply : Except JsError (ConfigReply call)) :
    SameBooks pool.shared ((configSystem packages).resume pool index task (next reply)).shared := by
  by_cases closing : task = .close
  · subst closing
    have shape := (closing_shape packages).run run waiting rfl
    cases shape with
    | waits rest =>
      rw [resume_close packages (.waits rest) reply]
      exact sameBooks_reportClose index reply pool.shared
  · obtain ⟨paused, _, resumed, near⟩ := resume_framed sameBooks_frame run waiting closing reply
    rw [resumed]
    exact near

/-- What holds first, is seen in the books and is kept by the start of every allowed task holds
in every state reached. -/
theorem books_invariant {holds : ConfigState → Prop} {first : ConfigState} {pool : ConfigPool}
    (run : Runs (configSystem packages).Step allowed ⟨first, []⟩ pool) (initial : holds first)
    (seen : ∀ before after, SameBooks before after → holds before → holds after)
    (started : ∀ (pool : ConfigPool) task, holds pool.shared → launches pool task →
      allowed pool (.start task) → holds (effect packages pool.tasks.length task pool.shared)) :
    holds pool.shared := by
  have both : Runs (configSystem packages).Step allowed ⟨first, []⟩ pool ∧ holds pool.shared := by
    induction run with
    | refl => exact ⟨.refl _, initial⟩
    | @tail middle last reached step ih =>
      obtain ⟨move, permitted, made⟩ := step
      refine ⟨ih.1.extend permitted made, ?_⟩
      cases made with
      | @start task launched =>
        exact seen _ _ (start_books packages middle task)
          (started middle task ih.2 launched permitted)
      | @resume index task call next reply waiting answer =>
        exact seen _ _ (resume_books ih.1 waiting reply) ih.2
  exact both.2

/-- A preorder that a closing under way and the start of every allowed task respect relates the
two ends of a run. -/
theorem books_relates {grows : ConfigState → ConfigState → Prop} {first : ConfigState}
    {pool later : ConfigPool}
    (run : Runs (configSystem packages).Step allowed ⟨first, []⟩ pool)
    (further : Runs (configSystem packages).Step allowed pool later)
    (refl : ∀ state, grows state state)
    (trans : ∀ left middle right, grows left middle → grows middle right → grows left right)
    (seen : ∀ before after, SameBooks before after → grows before after)
    (started : ∀ (pool : ConfigPool) task,
      Runs (configSystem packages).Step allowed ⟨first, []⟩ pool → launches pool task →
      allowed pool (.start task) →
      grows pool.shared (effect packages pool.tasks.length task pool.shared)) :
    grows pool.shared later.shared := by
  induction further with
  | refl => exact refl _
  | @tail middle last reached step ih =>
    obtain ⟨move, permitted, made⟩ := step
    apply trans _ _ _ ih
    have before := run.trans reached
    cases made with
    | @start task launched =>
      have first_step := started middle task before launched permitted
      exact trans _ _ _ first_step (seen _ _ (start_books packages middle task))
    | @resume index task call next reply waiting answer =>
      exact seen _ _ (resume_books before waiting reply)

end NodeRedBull.ConfigStep
