import NodeRedBull.CloseHandlers

/-! A close handler reports once, when all its pairs have settled: as long as `Promise.all` does
not reject while another pair of the handler is still closing. -/

namespace NodeRedBull.CloseReports
open Js Library Connections ConfigNode ConfigBooks ConfigStep ConfigAccounts ConfigPairs
open CloseHandlers

abbrev Stopped := Paused ConfigState ConfigCall ConfigReply JsError Unit

/-- The pair that a task closes for `handler`. -/
def pairOf (handler : Nat) : ConfigTask → Option Pair
  | .pair parent owner connection => if parent = handler then some (owner, connection) else none
  | _ => none

/-- The pairs whose closing `handler` started. -/
def pairsOf (tasks : List (ConfigTask × Stopped)) (handler : Nat) : List Pair :=
  (tasks.map Prod.fst).filterMap (pairOf handler)

/-- Task `index` closes a pair for `handler`, and has come to `paused`. -/
def ClosesFor (tasks : List (ConfigTask × Stopped)) (handler index : Nat) (paused : Stopped) : Prop :=
  ∃ owner connection, tasks[index]? = some (.pair handler owner connection, paused)

/-- All pairs of the handler have settled, and the report says how. -/
structure SettledWith (tasks : List (ConfigTask × Stopped)) (handler : Nat)
    (failure : Option JsError) : Prop where
  settled : ∀ index paused, ClosesFor tasks handler index paused → paused.result ≠ none
  closed : failure = none → ∀ index paused, ClosesFor tasks handler index paused →
    paused.result = some (.ok ())
  failed : ∀ err, failure = some err →
    ∃ index, ClosesFor tasks handler index (.finished (.error err))

/-- What the trace says of a close handler, by where it has stopped. -/
def HandlerAccount (tasks : List (ConfigTask × Stopped)) (trace : List Effect) (handler : Nat) :
    Stopped → Prop
  | .awaiting _ _ => entries handler trace = opening handler (pairsOf tasks handler)
  | .finished _ => ∃ failure,
      entries handler trace = opening handler (pairsOf tasks handler) ++ [.done handler failure] ∧
        SettledWith tasks handler failure

/-- The tasks and the trace fit together. -/
structure Accounted (pool : ConfigPool) : Prop where
  unstarted : ∀ handler, pool.tasks.length ≤ handler →
    entries handler pool.shared.trace = [] ∧ pairsOf pool.tasks handler = []
  others : ∀ index task paused, pool.tasks[index]? = some (task, paused) → task ≠ .close →
    reports index pool.shared.trace = []
  handlers : ∀ handler paused, pool.tasks[handler]? = some (.close, paused) →
    HandlerAccount pool.tasks pool.shared.trace handler paused

/-- `Promise.all` does not reject while a pair of the handler is still closing. -/
def RejectsLast (pool : ConfigPool) : ConfigMove → Prop
  | .resume handler (.all _) (.error _) =>
    ∀ index paused, ClosesFor pool.tasks handler index paused → paused.result ≠ none
  | _ => True

/-! ## How the tasks go on -/

/-- What has ended stays, and no handler gets further pairs. -/
structure Continues (before after : List (ConfigTask × Stopped)) : Prop where
  ended : ∀ (index : Nat) (task : ConfigTask) (result : Except JsError Unit),
    before[index]? = some (task, .finished result) → after[index]? = some (task, .finished result)
  pairs : ∀ handler, handler < before.length → pairsOf after handler = pairsOf before handler
  closers : ∀ handler, handler < before.length → ∀ index paused,
    ClosesFor after handler index paused → ∃ earlier, ClosesFor before handler index earlier

theorem SettledWith.continues {before after : List (ConfigTask × Stopped)} {handler : Nat}
    {failure : Option JsError} (settled : SettledWith before handler failure)
    (continues : Continues before after) (known : handler < before.length) :
    SettledWith after handler failure := by
  have same : ∀ index paused, ClosesFor after handler index paused →
      ClosesFor before handler index paused := by
    intro index paused closes
    obtain ⟨earlier, owner, connection, found⟩ := continues.closers handler known index paused closes
    have ended := settled.settled index earlier ⟨owner, connection, found⟩
    cases earlier with
    | awaiting call next => exact absurd rfl ended
    | finished result =>
      obtain ⟨otherOwner, otherConnection, later⟩ := closes
      rw [continues.ended index _ result found] at later
      cases later
      exact ⟨owner, connection, found⟩
  constructor
  · exact fun index paused closes => settled.settled index paused (same index paused closes)
  · exact fun none index paused closes => settled.closed none index paused (same index paused closes)
  · intro err failed
    obtain ⟨index, owner, connection, found⟩ := settled.failed err failed
    exact ⟨index, owner, connection, continues.ended index _ _ found⟩

theorem HandlerAccount.continues {before after : List (ConfigTask × Stopped)}
    {trace later : List Effect} {handler : Nat} {paused : Stopped}
    (account : HandlerAccount before trace handler paused) (continues : Continues before after)
    (known : handler < before.length) (same : entries handler later = entries handler trace) :
    HandlerAccount after later handler paused := by
  have pairs := continues.pairs handler known
  cases paused with
  | awaiting call next =>
    show entries handler later = opening handler (pairsOf after handler)
    rw [same, pairs]
    exact account
  | finished result =>
    obtain ⟨failure, entered, settled⟩ := account
    refine ⟨failure, ?_, settled.continues continues known⟩
    rw [same, pairs]
    exact entered

theorem pairsOf_append (first second : List (ConfigTask × Stopped)) (handler : Nat) :
    pairsOf (first ++ second) handler = pairsOf first handler ++ pairsOf second handler := by
  unfold pairsOf
  rw [List.map_append, List.filterMap_append]

/-- New tasks come at the end, and belong to a new handler if they belong to one. -/
theorem continues_append {before added : List (ConfigTask × Stopped)}
    (fresh : ∀ entry ∈ added, ∀ handler, handler < before.length → pairOf handler entry.1 = none) :
    Continues before (before ++ added) := by
  constructor
  · intro index task result found
    rw [List.getElem?_append_left (List.getElem?_eq_some_iff.mp found).1]
    exact found
  · intro handler known
    have none : pairsOf added handler = [] := by
      apply List.filterMap_eq_nil_iff.mpr
      intro task member
      obtain ⟨entry, inside, rfl⟩ := List.mem_map.mp member
      exact fresh entry inside handler known
    rw [pairsOf_append, none, List.append_nil]
  · intro handler known index paused closes
    obtain ⟨owner, connection, found⟩ := closes
    by_cases old : index < before.length
    · rw [List.getElem?_append_left old] at found
      exact ⟨paused, owner, connection, found⟩
    · rw [List.getElem?_append_right (Nat.le_of_not_lt old)] at found
      have none := fresh _ (List.mem_of_getElem? found) handler known
      simp [pairOf] at none

theorem pairsOf_set {tasks : List (ConfigTask × Stopped)} {index : Nat} {task : ConfigTask}
    {stopped : Stopped} (found : tasks[index]? = some (task, stopped)) (paused : Stopped)
    (handler : Nat) : pairsOf (tasks.set index (task, paused)) handler = pairsOf tasks handler := by
  unfold pairsOf
  rw [System.kinds_set found]

/-- What a task was before one of them went on. -/
theorem before_set {tasks : List (ConfigTask × Stopped)} {index : Nat} {task : ConfigTask}
    {stopped paused : Stopped} (waiting : tasks[index]? = some (task, stopped)) {other : Nat}
    {found : ConfigTask} {now : Stopped}
    (later : (tasks.set index (task, paused))[other]? = some (found, now)) :
    (other = index ∧ found = task ∧ now = paused) ∨
      (other ≠ index ∧ tasks[other]? = some (found, now)) := by
  have bound := (List.getElem?_eq_some_iff.mp waiting).1
  by_cases same : index = other
  · subst same
    rw [List.getElem?_set_self bound] at later
    cases later
    exact .inl ⟨rfl, rfl, rfl⟩
  · rw [List.getElem?_set_ne same] at later
    exact .inr ⟨Ne.symm same, later⟩

/-- A task goes on. -/
theorem continues_set {before : List (ConfigTask × Stopped)} {index : Nat} {task : ConfigTask}
    {call : ConfigCall} {next : Except JsError (ConfigReply call) → ConfigBody Unit}
    (waiting : before[index]? = some (task, .awaiting call next)) (paused : Stopped) :
    Continues before (before.set index (task, paused)) := by
  constructor
  · intro other found result ended
    have different : index ≠ other := by
      intro same
      subst same
      rw [waiting] at ended
      cases ended
    rw [List.getElem?_set_ne different]
    exact ended
  · exact fun handler _ => pairsOf_set waiting paused handler
  · intro handler _ other stopped closes
    obtain ⟨owner, connection, found⟩ := closes
    rcases before_set waiting found with ⟨rfl, rfl, _⟩ | ⟨_, earlier⟩
    · exact ⟨_, owner, connection, waiting⟩
    · exact ⟨stopped, owner, connection, earlier⟩

/-! ## Every step -/

theorem mem_promises {pool : ConfigPool} {handler : Nat} {paused : Stopped} :
    paused ∈ promises pool handler ↔ ∃ index, ClosesFor pool.tasks handler index paused := by
  unfold promises
  rw [List.mem_filterMap]
  constructor
  · intro given
    obtain ⟨⟨task, stopped⟩, member, chosen⟩ := given
    obtain ⟨index, found⟩ := List.getElem?_of_mem member
    cases task with
    | pair parent owner connection =>
      by_cases same : parent = handler
      · subst same
        simp only [if_true, Option.some.injEq] at chosen
        subst chosen
        exact ⟨index, owner, connection, found⟩
      · simp [same] at chosen
    | _ => cases chosen
  · intro given
    obtain ⟨index, owner, connection, found⟩ := given
    exact ⟨_, List.mem_of_getElem? found, by simp⟩

theorem pairOf_launched {pool : ConfigPool} {task : ConfigTask} (launched : launches pool task)
    (handler : Nat) : pairOf handler task = none := by
  cases task with
  | pair parent owner connection => exact absurd launched id
  | _ => rfl

theorem pairsOf_started (parent handler : Nat) {pairs : List Pair}
    {begun : List (ConfigTask × Stopped)}
    (kinds : begun.map Prod.fst = pairs.map fun pair => ConfigTask.pair parent pair.1 pair.2) :
    pairsOf begun handler = if parent = handler then pairs else [] := by
  unfold pairsOf
  rw [kinds, List.filterMap_map]
  by_cases same : parent = handler
  · rw [if_pos same]
    have every : (pairOf handler ∘ fun pair : Pair => ConfigTask.pair parent pair.1 pair.2) = some := by
      funext pair
      simp [pairOf, same]
    rw [every, List.filterMap_some]
  · rw [if_neg same]
    apply List.filterMap_eq_nil_iff.mpr
    intro pair _
    simp [pairOf, same]

/-- A task that is no close handler starts. -/
theorem accounted_start {packages : Packages} {pool : ConfigPool} {task : ConfigTask}
    (holds : Accounted pool) (other : task ≠ .close) (launched : launches pool task) :
    Accounted ((configSystem packages).start pool task) := by
  have near := begin_framed sameEntries_frame packages pool other
  rw [start_alone sameEntries_frame packages pool other]
  let after := (configSystem packages).begin pool task
  obtain ⟨paused, tasks⟩ : ∃ paused, after.tasks = pool.tasks ++ [(task, paused)] := ⟨_, rfl⟩
  have entered : ∀ handler, handler ≠ pool.tasks.length →
      entries handler after.shared.trace = entries handler pool.shared.trace :=
    fun handler different => (near handler).trans (entries_effect packages different task _)
  have reported : ∀ handler, reports handler after.shared.trace =
      reports handler pool.shared.trace := by
    intro handler
    rw [reports_entries, near handler, ← reports_entries, reports_effect]
  have continues : Continues pool.tasks after.tasks := by
    rw [tasks]
    apply continues_append
    intro entry member handler _
    rw [List.mem_singleton.mp member]
    exact pairOf_launched launched handler
  have bound : after.tasks.length = pool.tasks.length + 1 := by simp [tasks]
  have old : ∀ index found, after.tasks[index]? = some found →
      (index < pool.tasks.length ∧ pool.tasks[index]? = some found) ∨
        (index = pool.tasks.length ∧ found = (task, paused)) := by
    intro index found member
    rw [tasks] at member
    by_cases earlier : index < pool.tasks.length
    · rw [List.getElem?_append_left earlier] at member
      exact .inl ⟨earlier, member⟩
    · have inside := (List.getElem?_eq_some_iff.mp member).1
      rw [List.length_append, List.length_singleton] at inside
      have last : index = pool.tasks.length := by omega
      subst last
      rw [List.getElem?_append_right (le_refl _), Nat.sub_self] at member
      exact .inr ⟨rfl, (Option.some.inj member).symm⟩
  show Accounted after
  constructor
  · intro handler beyond
    obtain ⟨nothing, none⟩ := holds.unstarted handler (by omega)
    have single : pairsOf [(task, paused)] handler = [] := by
      simp [pairsOf, pairOf_launched launched handler]
    refine ⟨(entered handler (by omega)).trans nothing, ?_⟩
    rw [tasks, pairsOf_append, none, single]
    rfl
  · intro index found stopped member kind
    rw [reported]
    rcases old index _ member with ⟨_, earlier⟩ | ⟨last, _⟩
    · exact holds.others index found stopped earlier kind
    · rw [reports_entries, (holds.unstarted index (by omega)).1]
      rfl
  · intro handler stopped member
    rcases old handler _ member with ⟨known, earlier⟩ | ⟨_, same⟩
    · exact (holds.handlers handler stopped earlier).continues continues known
        (entered handler (by omega))
    · cases same
      exact absurd rfl other

/-- A close handler starts, with the closings of all its pairs. -/
theorem accounted_start_close {packages : Packages} {pool : ConfigPool} (holds : Accounted pool) :
    Accounted ((configSystem packages).start pool .close) := by
  obtain ⟨next, _, started⟩ := start_close packages pool
  have near := start_framed sameEntries_frame sameEntries_paired packages pool .close
  let after := (configSystem packages).start pool .close
  let pairs := (takeAll pool.tasks.length pool.shared).1
  let own : ConfigTask × Stopped := (.close, .awaiting (.all pairs) next)
  obtain ⟨begun, kinds, tasks⟩ : ∃ begun,
      begun.map Prod.fst = pairs.map (fun pair => ConfigTask.pair pool.tasks.length pair.1 pair.2) ∧
        after.tasks = (pool.tasks ++ [own]) ++ begun := by
    have all := System.tasks_foldl_begin (configSystem packages)
      (pairs.map fun pair => ConfigTask.pair pool.tasks.length pair.1 pair.2)
      ⟨(takeAll pool.tasks.length pool.shared).2, pool.tasks ++ [own]⟩
    rw [← started] at all
    exact all
  have entered : ∀ handler, entries handler after.shared.trace =
      entries handler pool.shared.trace ++
        if pool.tasks.length = handler then opening pool.tasks.length pairs else [] :=
    fun handler => (near handler).trans (entries_close packages pool.tasks.length handler _)
  have reported : ∀ handler, reports handler after.shared.trace =
      reports handler pool.shared.trace := by
    intro handler
    rw [reports_entries, near handler, ← reports_entries, reports_effect]
  have kindOf : ∀ entry ∈ begun, ∃ owner connection,
      entry.1 = .pair pool.tasks.length owner connection := by
    intro entry member
    have inside : entry.1 ∈ begun.map Prod.fst := List.mem_map.mpr ⟨entry, member, rfl⟩
    rw [kinds] at inside
    obtain ⟨pair, _, same⟩ := List.mem_map.mp inside
    exact ⟨pair.1, pair.2, same.symm⟩
  have all : ∀ handler, pairsOf after.tasks handler = pairsOf pool.tasks handler ++
      if pool.tasks.length = handler then pairs else [] := by
    intro handler
    rw [tasks, pairsOf_append, pairsOf_append, pairsOf_started _ handler kinds]
    exact congrArg (· ++ _) (List.append_nil _)
  have continues : Continues pool.tasks after.tasks := by
    rw [tasks, List.append_assoc]
    apply continues_append
    intro entry member handler known
    rcases List.mem_append.mp member with first | rest
    · rw [List.mem_singleton.mp first]
      rfl
    · obtain ⟨owner, connection, kind⟩ := kindOf entry rest
      have different : ¬pool.tasks.length = handler := by omega
      simp [kind, pairOf, different]
  have old : ∀ index found, after.tasks[index]? = some found →
      (index < pool.tasks.length ∧ pool.tasks[index]? = some found) ∨
        (index = pool.tasks.length ∧ found = own) ∨
        (pool.tasks.length < index ∧ found ∈ begun) := by
    intro index found member
    rw [tasks, List.append_assoc] at member
    by_cases earlier : index < pool.tasks.length
    · rw [List.getElem?_append_left earlier] at member
      exact .inl ⟨earlier, member⟩
    · rw [List.getElem?_append_right (by omega)] at member
      by_cases last : index = pool.tasks.length
      · rw [last, Nat.sub_self] at member
        exact .inr (.inl ⟨last, (Option.some.inj member).symm⟩)
      · rw [List.getElem?_append_right (by rw [List.length_singleton]; omega)] at member
        exact .inr (.inr ⟨by omega, List.mem_of_getElem? member⟩)
  have bound : pool.tasks.length < after.tasks.length := by
    simp [tasks]
  show Accounted after
  constructor
  · intro handler beyond
    obtain ⟨nothing, none⟩ := holds.unstarted handler (by omega)
    have different : ¬pool.tasks.length = handler := by omega
    constructor
    · rw [entered, if_neg different, nothing]
      rfl
    · rw [all, if_neg different, none]
      rfl
  · intro index found stopped member kind
    rw [reported]
    rcases old index _ member with ⟨_, earlier⟩ | ⟨_, same⟩ | ⟨later, _⟩
    · exact holds.others index found stopped earlier kind
    · exact absurd (congrArg Prod.fst same) kind
    · rw [reports_entries, (holds.unstarted index (by omega)).1]
      rfl
  · intro handler stopped member
    rcases old handler _ member with ⟨known, earlier⟩ | ⟨last, same⟩ | ⟨_, child⟩
    · have different : ¬pool.tasks.length = handler := by omega
      apply (holds.handlers handler stopped earlier).continues continues known
      rw [entered, if_neg different, List.append_nil]
    · subst last
      have waits : stopped = .awaiting (.all pairs) next := congrArg Prod.snd same
      subst waits
      obtain ⟨nothing, none⟩ := holds.unstarted pool.tasks.length (le_refl _)
      show entries pool.tasks.length after.shared.trace =
        opening pool.tasks.length (pairsOf after.tasks pool.tasks.length)
      rw [entered, if_pos rfl, all, if_pos rfl, nothing, none]
      rfl
    · obtain ⟨owner, connection, kind⟩ := kindOf _ child
      cases kind

/-- What a handler passes to `done`. -/
def failureOf : Except JsError Unit → Option JsError
  | .ok _ => none
  | .error err => some err

theorem entries_reportClose (index handler : Nat) (reply : Except JsError Unit)
    (state : ConfigState) :
    entries handler (reportClose index reply state).trace = entries handler state.trace ++
      if index = handler then [.done index (failureOf reply)] else [] := by
  have last : entries handler [Effect.done index (failureOf reply)] =
      if index = handler then [.done index (failureOf reply)] else [] := by
    by_cases same : index = handler
    · simp [entries, handlerOf, same]
    · simp [entries, handlerOf, same]
  cases reply with
  | ok value =>
    show entries handler ((state.record (.status .config .cleared)).record _).trace = _
    rw [entries_record, sameEntries_record rfl state handler]
    exact congrArg (entries handler state.trace ++ ·) last
  | error err =>
    show entries handler (state.record _).trace = _
    rw [entries_record]
    exact congrArg (entries handler state.trace ++ ·) last

theorem result_eq_some {paused : Stopped} {result : Except JsError Unit}
    (ended : paused.result = some result) : paused = .finished result := by
  cases paused with
  | finished other => exact congrArg Paused.finished (Option.some.inj ended)
  | awaiting call next => cases ended

/-- `Promise.all` settles as all pairs have settled, if it may. -/
theorem settledWith_answer {pool : ConfigPool} {handler : Nat} {reply : Except JsError Unit}
    (answer : allSettles (promises pool handler) reply)
    (last : ∀ err, reply = .error err → ∀ index paused, ClosesFor pool.tasks handler index paused →
      paused.result ≠ none) : SettledWith pool.tasks handler (failureOf reply) := by
  cases reply with
  | ok value =>
    have closed : ∀ index paused, ClosesFor pool.tasks handler index paused →
        paused.result = some (.ok ()) :=
      fun index paused closes => answer paused (mem_promises.mpr ⟨index, closes⟩)
    refine ⟨?_, fun _ => closed, nofun⟩
    intro index paused closes
    rw [closed index paused closes]
    exact nofun
  | error err =>
    refine ⟨last err rfl, nofun, ?_⟩
    intro other same
    cases same
    obtain ⟨paused, member, failed⟩ := answer
    obtain ⟨index, closes⟩ := mem_promises.mp member
    rw [result_eq_some failed] at closes
    exact ⟨index, closes⟩

/-- One task goes on, and enters nothing for another one. -/
theorem accounted_set {pool : ConfigPool} (holds : Accounted pool) {index : Nat} {task : ConfigTask}
    {call : ConfigCall} {next : Except JsError (ConfigReply call) → ConfigBody Unit}
    (waiting : pool.tasks[index]? = some (task, .awaiting call next)) {paused : Stopped}
    {later : ConfigState}
    (elsewhere : ∀ handler, handler ≠ index →
      entries handler later.trace = entries handler pool.shared.trace)
    (silent : task ≠ .close → reports index later.trace = reports index pool.shared.trace)
    (account : task = .close →
      HandlerAccount (pool.tasks.set index (task, paused)) later.trace index paused) :
    Accounted ⟨later, pool.tasks.set index (task, paused)⟩ := by
  have bound := (List.getElem?_eq_some_iff.mp waiting).1
  have continues := continues_set waiting paused
  constructor
  · intro handler beyond
    rw [List.length_set] at beyond
    obtain ⟨nothing, none⟩ := holds.unstarted handler beyond
    exact ⟨(elsewhere handler (by omega)).trans nothing, (pairsOf_set waiting paused handler).trans
      none⟩
  · intro other found stopped member kind
    rcases before_set waiting member with ⟨rfl, rfl, _⟩ | ⟨different, earlier⟩
    · exact (silent kind).trans (holds.others other found _ waiting kind)
    · show reports other later.trace = []
      rw [reports_entries, elsewhere other different, ← reports_entries]
      exact holds.others other found stopped earlier kind
  · intro handler stopped member
    rcases before_set waiting member with ⟨rfl, same, rfl⟩ | ⟨different, earlier⟩
    · exact account same.symm
    · have known := (List.getElem?_eq_some_iff.mp earlier).1
      exact (holds.handlers handler stopped earlier).continues continues known
        (elsewhere handler different)

variable {packages : Packages} {config : QueueConfig} {pool : ConfigPool}

/-- A task goes on. -/
theorem accounted_resume {allowed : ConfigPool → ConfigMove → Prop}
    (reached : Runs (configSystem packages).Step allowed (emptyConfigPool config) pool)
    (holds : Accounted pool) {index : Nat} {task : ConfigTask} {call : ConfigCall}
    {next : Except JsError (ConfigReply call) → ConfigBody Unit}
    {reply : Except JsError (ConfigReply call)}
    (waiting : pool.tasks[index]? = some (task, .awaiting call next))
    (answer : answered pool index call reply)
    (permitted : RejectsLast pool (.resume index call reply)) :
    Accounted ((configSystem packages).resume pool index task (next reply)) := by
  have bound := (List.getElem?_eq_some_iff.mp waiting).1
  by_cases closing : task = .close
  · subst closing
    have shape := (closing_shape packages).run reached waiting rfl
    cases shape with
    | @waits pairs _ rest =>
      rw [resume_close packages (.waits rest) reply]
      have settled : SettledWith pool.tasks index (failureOf reply) := by
        apply settledWith_answer answer
        intro err same
        subst same
        exact permitted
      have entered := fun handler => entries_reportClose index handler reply pool.shared
      apply accounted_set holds waiting
      · intro handler different
        rw [entered, if_neg (Ne.symm different), List.append_nil]
      · exact fun other => absurd rfl other
      · intro _
        have continues := continues_set waiting (.finished (.ok ()))
        refine ⟨failureOf reply, ?_, settled.continues continues bound⟩
        have opened : entries index pool.shared.trace = opening index (pairsOf pool.tasks index) :=
          holds.handlers index _ waiting
        rw [entered, if_pos rfl, opened, pairsOf_set waiting]
  · obtain ⟨paused, _, resumed, near⟩ := resume_framed sameEntries_frame reached waiting closing reply
    rw [resumed]
    apply accounted_set holds waiting
    · exact fun handler _ => near handler
    · intro _
      rw [reports_entries, near index, ← reports_entries]
    · exact fun same => absurd same closing

theorem accounted_reached
    (reached : Runs (configSystem packages).Step RejectsLast (emptyConfigPool config) pool) :
    Accounted pool := by
  have both : Runs (configSystem packages).Step RejectsLast (emptyConfigPool config) pool ∧
      Accounted pool := by
    induction reached with
    | refl =>
      refine ⟨Runs.refl _, fun _ _ => ⟨rfl, rfl⟩, ?_, ?_⟩
      · intro index task paused found
        cases found
      · intro handler paused found
        cases found
    | @tail middle last _ step ih =>
      obtain ⟨move, permitted, made⟩ := step
      obtain ⟨earlier, holds⟩ := ih
      refine ⟨earlier.extend permitted made, ?_⟩
      cases made with
      | @start task launched =>
        by_cases closing : task = .close
        · rw [closing]
          exact accounted_start_close holds
        · exact accounted_start holds closing launched
      | resume waiting answer => exact accounted_resume earlier holds waiting answer permitted
  exact both.2

/-! ## Every close handler can report -/

/-- All tasks below `bound` but the close handlers have ended, and nothing else has happened. -/
structure Drained (bound : Nat) (before after : ConfigPool) : Prop where
  kinds : ∀ index : Nat, after.tasks[index]?.map Prod.fst = before.tasks[index]?.map Prod.fst
  handlers : ∀ (index : Nat) (paused : Stopped), before.tasks[index]? = some (.close, paused) →
    after.tasks[index]? = some (.close, paused)
  ended : ∀ (index : Nat) (task : ConfigTask) (paused : Stopped), index < bound →
    after.tasks[index]? = some (task, paused) → task ≠ .close → paused.result ≠ none

/-- Whatever a task waits for, but for `Promise.all`, it can be answered. -/
theorem answerable (index : Nat) (pool : ConfigPool) (call : ConfigCall) (alone : single call) :
    ∃ reply, answered pool index call reply ∧ RejectsLast pool (.resume index call reply) := by
  cases call with
  | close owner budget => exact ⟨.ok .timeout, ⟨.timeout, rfl⟩, trivial⟩
  | quit connection budget => exact ⟨.ok .timeout, ⟨.timeout, rfl⟩, trivial⟩
  | lockManager owner => exact ⟨.ok (), trivial, trivial⟩
  | all pairs => exact absurd alone id
  | ended => exact ⟨.ok (), rfl, trivial⟩

theorem drains
    (reached : Runs (configSystem packages).Step RejectsLast (emptyConfigPool config) pool)
    (bound : Nat) :
    ∃ last, Runs (configSystem packages).Step RejectsLast pool last ∧ Drained bound pool last := by
  induction bound with
  | zero =>
    exact ⟨pool, .refl pool, fun _ => rfl, fun _ _ found => found,
      fun index _ _ below => absurd below (Nat.not_lt_zero index)⟩
  | succ bound ih =>
    obtain ⟨middle, run, drained⟩ := ih
    have finish : ∀ last, Runs (configSystem packages).Step RejectsLast middle last →
        (∀ other, other ≠ bound → last.tasks[other]? = middle.tasks[other]?) →
        last.tasks[bound]?.map Prod.fst = middle.tasks[bound]?.map Prod.fst →
        (∀ paused, middle.tasks[bound]? = some (.close, paused) →
          last.tasks[bound]? = some (.close, paused)) →
        (∀ task paused, last.tasks[bound]? = some (task, paused) → task ≠ .close →
          paused.result ≠ none) →
        ∃ last, Runs (configSystem packages).Step RejectsLast pool last ∧
          Drained (bound + 1) pool last := by
      intro last further others kind closing ended
      refine ⟨last, run.trans further, ?_, ?_, ?_⟩
      · intro index
        by_cases here : index = bound
        · subst here
          exact kind.trans (drained.kinds index)
        · rw [others index here]
          exact drained.kinds index
      · intro index paused found
        by_cases here : index = bound
        · subst here
          exact closing paused (drained.handlers index paused found)
        · rw [others index here]
          exact drained.handlers index paused found
      · intro index task paused below found other
        by_cases here : index = bound
        · subst here
          exact ended task paused found other
        · rw [others index here] at found
          exact drained.ended index task paused (by omega) found other
    cases found : middle.tasks[bound]? with
    | none =>
      apply finish middle (.refl middle) (fun _ _ => rfl) rfl (fun _ same => same)
      intro task paused same
      rw [found] at same
      cases same
    | some entry =>
      obtain ⟨task, paused⟩ := entry
      by_cases closing : task = .close
      · apply finish middle (.refl middle) (fun _ _ => rfl) rfl (fun _ same => same)
        intro other stopped same kind
        rw [found] at same
        cases same
        exact absurd closing kind
      · obtain ⟨waits, respects⟩ := (later_respects sameEntries_frame packages).run
          (reached.trans run) found closing
        have alone : ∀ call, single call → (configSystem packages).forks bound call = [] := by
          intro call alone
          cases call with
          | all pairs => exact absurd alone id
          | _ => rfl
        obtain ⟨last, further, ⟨result, ended⟩, others⟩ :=
          System.runs_to_end_of_paused SameEntries.refl alone (answerable bound) waits respects found
        apply finish last further others
        · rw [ended, found]
          rfl
        · intro stopped same
          rw [found] at same
          cases same
          exact absurd rfl closing
        · intro other stopped same _
          rw [ended] at same
          cases same
          exact nofun

theorem reports_done (handler : Nat) (pairs : List Pair) (failure : Option JsError) :
    reports handler (opening handler pairs ++ [.done handler failure]) = [failure] := by
  have none := reports_opening handler handler pairs
  unfold reports at none ⊢
  rw [List.filterMap_append, none]
  simp [reportOf]

theorem reported_of_finished (holds : Accounted pool) {handler : Nat}
    {result : Except JsError Unit} (found : pool.tasks[handler]? = some (.close, .finished result)) :
    ∃ failure, reports handler pool.shared.trace = [failure] := by
  obtain ⟨failure, entered, _⟩ := holds.handlers handler _ found
  refine ⟨failure, ?_⟩
  rw [reports_entries, entered, reports_done]

/-- However the pairs of a close handler settle, it can still report. -/
theorem reports_eventually
    (reached : Runs (configSystem packages).Step RejectsLast (emptyConfigPool config) pool)
    {handler : Nat} {paused : Stopped} (found : pool.tasks[handler]? = some (.close, paused)) :
    ∃ last failure, Runs (configSystem packages).Step RejectsLast pool last ∧
      reports handler last.shared.trace = [failure] := by
  obtain ⟨middle, run, drained⟩ := drains reached pool.tasks.length
  have there := drained.handlers handler paused found
  have arrived := reached.trans run
  have settled : ∀ index stopped, ClosesFor middle.tasks handler index stopped →
      stopped.result ≠ none := by
    intro index stopped closes
    obtain ⟨owner, connection, member⟩ := closes
    have kind := drained.kinds index
    rw [member] at kind
    have below : index < pool.tasks.length := by
      by_contra beyond
      rw [List.getElem?_eq_none (Nat.le_of_not_lt beyond)] at kind
      cases kind
    exact drained.ended index _ stopped below member (by simp)
  have shape := (closing_shape packages).run arrived there rfl
  cases shape with
  | ended =>
    obtain ⟨failure, once⟩ := reported_of_finished (accounted_reached arrived) there
    exact ⟨middle, failure, run, once⟩
  | @waits pairs next rest =>
    have bound := (List.getElem?_eq_some_iff.mp there).1
    have answers : ∃ reply, answered middle handler (.all pairs) reply ∧
        RejectsLast middle (.resume handler (.all pairs) reply) := by
      by_cases failed : ∃ index err, ClosesFor middle.tasks handler index (.finished (.error err))
      · obtain ⟨index, err, closes⟩ := failed
        exact ⟨.error err, ⟨_, mem_promises.mpr ⟨index, closes⟩, rfl⟩, settled⟩
      · refine ⟨.ok (), ?_, trivial⟩
        intro stopped member
        obtain ⟨index, closes⟩ := mem_promises.mp member
        cases stopped with
        | awaiting call next => exact absurd rfl (settled index _ closes)
        | finished result =>
          cases result with
          | ok value => rfl
          | error err => exact absurd ⟨index, err, closes⟩ failed
    obtain ⟨reply, answer, permitted⟩ := answers
    have further := arrived.extend permitted (.resume there answer)
    have ended : ((configSystem packages).resume middle handler .close (next reply)).tasks[handler]? =
        some (.close, .finished (.ok ())) := by
      rw [resume_close packages (.waits rest) reply]
      exact List.getElem?_set_self bound
    obtain ⟨failure, once⟩ := reported_of_finished (accounted_reached further) ended
    exact ⟨_, failure, run.extend permitted (.resume there answer), once⟩

/-- How a close handler reports, in a run that has come to `pool`. -/
structure ReportsOnce (packages : Packages) (pool : ConfigPool) (handler : Nat) : Prop where
  once : (reports handler pool.shared.trace).length ≤ 1
  settled : reports handler pool.shared.trace ≠ [] → ∀ owner connection,
    .took handler owner connection ∈ pool.shared.trace →
    ∃ (index : Nat) (result : Except JsError Unit),
      pool.tasks[index]? = some (.pair handler owner connection, .finished result)
  failed : ∀ failure ∈ reports handler pool.shared.trace, failure ≠ none ↔
    ∃ index err, ClosesFor pool.tasks handler index (.finished (.error err))
  error : ∀ err, some err ∈ reports handler pool.shared.trace →
    ∃ index, ClosesFor pool.tasks handler index (.finished (.error err))
  eventually : ∃ last failure, Runs (configSystem packages).Step RejectsLast pool last ∧
    reports handler last.shared.trace = [failure]

/-- A close handler reports exactly once, when all its pairs have settled, and with an error iff one
of them failed: in every run in which `Promise.all` never rejects early. -/
theorem close_reports_once
    (reached : Runs (configSystem packages).Step RejectsLast (emptyConfigPool config) pool)
    {handler : Nat} {paused : Stopped} (found : pool.tasks[handler]? = some (.close, paused)) :
    ReportsOnce packages pool handler := by
  have holds := accounted_reached reached
  have account := holds.handlers handler paused found
  have eventually := reports_eventually reached found
  cases paused with
  | awaiting call next =>
    have entered : entries handler pool.shared.trace =
        opening handler (pairsOf pool.tasks handler) := account
    have nothing : reports handler pool.shared.trace = [] := by
      rw [reports_entries, entered, reports_opening]
    refine ⟨?_, fun some => absurd nothing some, ?_, ?_, eventually⟩
    · rw [nothing]
      exact Nat.zero_le 1
    · rw [nothing]
      exact nofun
    · rw [nothing]
      exact nofun
  | finished result =>
    obtain ⟨failure, entered, settled⟩ := account
    have report : reports handler pool.shared.trace = [failure] := by
      rw [reports_entries, entered, reports_done]
    refine ⟨?_, ?_, ?_, ?_, eventually⟩
    · rw [report]
      exact le_refl 1
    · intro _ owner connection took
      have mine : .took handler owner connection ∈ entries handler pool.shared.trace :=
        List.mem_filter.mpr ⟨took, decide_eq_true rfl⟩
      rw [entered, opening] at mine
      have taken : (owner, connection) ∈ pairsOf pool.tasks handler := by
        simpa using mine
      obtain ⟨task, member, chosen⟩ := List.mem_filterMap.mp taken
      obtain ⟨entry, inside, rfl⟩ := List.mem_map.mp member
      obtain ⟨index, there⟩ := List.getElem?_of_mem inside
      obtain ⟨task, stopped⟩ := entry
      have kind : task = .pair handler owner connection := by
        cases task with
        | pair parent other ref =>
          simp only [pairOf] at chosen
          split at chosen
          next same =>
            cases chosen
            rw [same]
          next => cases chosen
        | _ => cases chosen
      subst kind
      have ended := settled.settled index stopped ⟨owner, connection, there⟩
      cases stopped with
      | awaiting call next => exact absurd rfl ended
      | finished outcome => exact ⟨index, outcome, there⟩
    · intro other member
      rw [report, List.mem_singleton] at member
      subst member
      constructor
      · intro some
        cases other with
        | none => exact absurd rfl some
        | some err =>
          obtain ⟨index, closes⟩ := settled.failed err rfl
          exact ⟨index, err, closes⟩
      · rintro ⟨index, err, closes⟩ none
        have closed := settled.closed none index _ closes
        cases closed
    · intro err member
      rw [report, List.mem_singleton] at member
      exact settled.failed err member.symm

/-! Two workers that do not close in time, and whose lock managers answer as `lockManager`. -/

def forced (lockManager : Except JsError Unit) :
    (call : ConfigCall) → Except JsError (ConfigReply call)
  | .close _ _ | .quit _ _ => .ok .timeout
  | .lockManager _ | .all _ => lockManager
  | .ended => .ok ()

def drive (lockManager : Except JsError Unit) (index : Nat) : Nat → ConfigPool → ConfigPool
  | 0, pool => pool
  | steps + 1, pool =>
    drive lockManager index steps
      ((configSystem plainPackages).resumeWith pool index (forced lockManager))

theorem drive_reached {allowed : ConfigPool → ConfigMove → Prop}
    (permits : ∀ pool index call reply, single call → allowed pool (.resume index call reply))
    (lockManager : Except JsError Unit) (index : Nat) {task : ConfigTask} (other : task ≠ .close)
    (steps : Nat) {pool : ConfigPool}
    (reached : Runs (configSystem plainPackages).Step allowed (emptyConfigPool plainRedis) pool)
    (kind : pool.tasks[index]?.map Prod.fst = some task) :
    Runs (configSystem plainPackages).Step allowed (emptyConfigPool plainRedis)
      (drive lockManager index steps pool) := by
  induction steps generalizing pool with
  | zero => exact reached
  | succ steps ih =>
    have known : ∀ found paused, pool.tasks[index]? = some (found, paused) → found ≠ .close := by
      intro found paused member
      rw [member] at kind
      cases kind
      exact other
    apply ih
    · apply System.runs_resumeWith reached
      intro found call next waiting
      have waits := ((later_respects sameEntries_frame plainPackages).run reached waiting
        (known _ _ waiting)).1
      refine ⟨?_, permits pool index call _ waits⟩
      cases call with
      | close owner budget => exact ⟨.timeout, rfl⟩
      | quit connection budget => exact ⟨.timeout, rfl⟩
      | lockManager owner => exact trivial
      | all pairs => exact absurd waits id
      | ended => rfl
    · unfold System.resumeWith
      split
      next found call next waiting =>
        obtain ⟨paused, _, resumed, _⟩ := resume_framed sameEntries_frame reached waiting
          (known _ _ waiting) (forced lockManager call)
        rw [resumed, List.getElem?_set_self (List.getElem?_eq_some_iff.mp waiting).1]
        rw [waiting] at kind
        exact kind
      next => exact kind

/-- `Promise.all` settles, and the close handler reports. -/
theorem reporting_reached {allowed : ConfigPool → ConfigMove → Prop} {handler : Nat}
    {pool : ConfigPool}
    (reached : Runs (configSystem plainPackages).Step allowed (emptyConfigPool plainRedis) pool)
    (kind : pool.tasks[handler]?.map Prod.fst = some .close) {outcome : Except JsError Unit}
    (answer : allSettles (promises pool handler) outcome)
    (permitted : ∀ pairs, allowed pool (.resume handler (.all pairs) outcome)) :
    Runs (configSystem plainPackages).Step allowed (emptyConfigPool plainRedis)
      ((configSystem plainPackages).resumeWith pool handler (forced outcome)) := by
  apply System.runs_resumeWith reached
  intro task call next waiting
  rw [waiting] at kind
  cases kind
  cases (closing_shape plainPackages).run reached waiting rfl with
  | @waits pairs _ rest => exact ⟨answer, permitted pairs⟩

theorem rejectsLast_single (pool : ConfigPool) (index : Nat) (call : ConfigCall)
    (reply : Except JsError (ConfigReply call)) (alone : single call) :
    RejectsLast pool (.resume index call reply) := by
  cases call with
  | all pairs => exact absurd alone id
  | _ => exact trivial

def twoWorkers : ConfigPool :=
  let system := configSystem plainPackages
  let created := system.start (system.start (emptyConfigPool plainRedis)
    (.createWorker (.runtime 1) plainConstruction)) (.createWorker (.runtime 2) plainConstruction)
  system.start created .close

theorem twoWorkers_reached :
    Runs (configSystem plainPackages).Step RejectsLast (emptyConfigPool plainRedis) twoWorkers := by
  apply System.runs_start _ _ trivial trivial
  apply System.runs_start _ _ trivial trivial
  apply System.runs_start _ _ trivial trivial
  exact Runs.refl _

def stuckLock : JsError := newError "lock manager is stuck"

theorem driven_reached (lockManager : Except JsError Unit) (index owner : Nat) (steps : Nat)
    {pool : ConfigPool}
    (reached : Runs (configSystem plainPackages).Step RejectsLast (emptyConfigPool plainRedis) pool)
    (kind : pool.tasks[index]?.map Prod.fst = some (.pair 2 owner (some owner))) :
    Runs (configSystem plainPackages).Step RejectsLast (emptyConfigPool plainRedis)
      (drive lockManager index steps pool) :=
  drive_reached rejectsLast_single lockManager index (by simp) steps reached kind

/-- The second worker has closed when the first one fails. -/
def failedLast : ConfigPool := drive (.error stuckLock) 4 6 (drive (.ok ()) 3 6 twoWorkers)

def reportedPool : ConfigPool :=
  (configSystem plainPackages).resumeWith failedLast 2 (forced (.error stuckLock))

theorem failedLast_reached :
    Runs (configSystem plainPackages).Step RejectsLast (emptyConfigPool plainRedis) failedLast :=
  driven_reached _ 4 0 6 (driven_reached _ 3 1 6 twoWorkers_reached rfl) rfl

/-- A pair that is still closing. -/
def stillCloses : ConfigTask × Stopped → Bool
  | (.pair _ _ _, paused) => paused.result.isNone
  | _ => false

def hasClosed (owner : Nat) : ConfigTask × Stopped → Bool
  | (.pair _ other _, paused) => decide (other = owner) && paused.result.isSome
  | _ => false

theorem reportedPool_reached :
    Runs (configSystem plainPackages).Step RejectsLast (emptyConfigPool plainRedis) reportedPool := by
  have settled : failedLast.tasks.any stillCloses = false := rfl
  have failed : ClosesFor failedLast.tasks 2 4 (.finished (.error stuckLock)) := ⟨0, some 0, rfl⟩
  apply reporting_reached failedLast_reached rfl
  · exact ⟨_, mem_promises.mpr ⟨4, failed⟩, rfl⟩
  · intro pairs index paused closes
    obtain ⟨owner, connection, found⟩ := closes
    have done := List.any_eq_false.mp settled _ (List.mem_of_getElem? found)
    cases paused with
    | finished result => exact nofun
    | awaiting call next => exact absurd rfl done

theorem close_reports_once_failed : ReportsOnce plainPackages reportedPool 2 :=
  close_reports_once reportedPool_reached
    (show reportedPool.tasks[2]? = some (.close, .finished (.ok ())) from rfl)

/-- The first worker has failed while the second one is still closing. -/
def failedFirst : ConfigPool := drive (.error stuckLock) 4 6 twoWorkers

def earlyPool : ConfigPool :=
  (configSystem plainPackages).resumeWith failedFirst 2 (forced (.error stuckLock))

theorem early_rejection_reports :
    Runs (configSystem plainPackages).Step anyMove (emptyConfigPool plainRedis) earlyPool ∧
      .done 2 (some stuckLock) ∈ earlyPool.shared.trace ∧
      .took 2 1 (some 1) ∈ earlyPool.shared.trace ∧
      ¬∃ (index : Nat) (result : Except JsError Unit),
        earlyPool.tasks[index]? = some (.pair 2 1 (some 1), .finished result) := by
  have reached : Runs (configSystem plainPackages).Step anyMove (emptyConfigPool plainRedis)
      failedFirst :=
    (driven_reached _ 4 0 6 twoWorkers_reached rfl).weaken fun _ _ _ => trivial
  refine ⟨?_, ?_, ?_, ?_⟩
  · have failed : ClosesFor failedFirst.tasks 2 4 (.finished (.error stuckLock)) :=
      ⟨0, some 0, rfl⟩
    exact reporting_reached reached rfl ⟨_, mem_promises.mpr ⟨4, failed⟩, rfl⟩ fun _ => trivial
  · have last : earlyPool.shared.trace.getLast? = some (.done 2 (some stuckLock)) := rfl
    exact List.mem_of_getLast? last
  · have third : earlyPool.shared.trace[3]? = some (.took 2 1 (some 1)) := rfl
    exact List.mem_of_getElem? third
  · intro given
    obtain ⟨index, result, found⟩ := given
    have closing : earlyPool.tasks.any (hasClosed 1) = false := rfl
    exact absurd rfl (List.any_eq_false.mp closing _ (List.mem_of_getElem? found))

end NodeRedBull.CloseReports
