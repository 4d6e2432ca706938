import NodeRedBull.ConfigPairs

/-! A closing that has ended has closed its owner and the connection that came with it, whatever
the other tasks did in the meantime. -/

namespace NodeRedBull.ClosingOutline
open Js Library Connections ConfigNode ConfigBooks ConfigStep ConfigAccounts ConfigPairs

/-- What task `index` may rely on: what was closed stays closed, and nobody else starts a closing
or reports in its name. -/
structure Relies (index : Nat) (before after : ConfigState) : Prop where
  closes : ∀ target, .closes target ∈ before.trace → .closes target ∈ after.trace
  began : ∀ handler, .closeBegan handler ∈ before.trace → .closeBegan handler ∈ after.trace
  starts : ∀ owner connection, .closesPair index owner connection ∈ after.trace →
    .closesPair index owner connection ∈ before.trace

theorem Relies.refl (index : Nat) (state : ConfigState) : Relies index state state :=
  ⟨fun _ => id, fun _ => id, fun _ _ => id⟩

theorem Relies.trans {index : Nat} {first second third : ConfigState}
    (left : Relies index first second) (right : Relies index second third) :
    Relies index first third :=
  ⟨fun target known => right.closes target (left.closes target known),
    fun handler known => right.began handler (left.began handler known),
    fun owner connection new => left.starts owner connection (right.starts owner connection new)⟩

def Guarantees (index : Nat) (before after : ConfigState) : Prop :=
  ∀ other, other ≠ index → Relies other before after

/-- Only a handler that has begun reports. -/
def Begun (state : ConfigState) : Prop :=
  ∀ handler failure, .done handler failure ∈ state.trace → .closeBegan handler ∈ state.trace

/-- Nothing but the actions of closings under way. -/
structure Proceeds (before after : ConfigState) : Prop where
  relies : ∀ index, Relies index before after
  done : ∀ handler failure, .done handler failure ∈ after.trace →
    .done handler failure ∈ before.trace

theorem Proceeds.begun {before after : ConfigState} (proceeds : Proceeds before after)
    (holds : Begun before) : Begun after :=
  fun handler failure done =>
    (proceeds.relies 0).began handler (holds handler failure (proceeds.done handler failure done))

theorem proceeds_refl (state : ConfigState) : Proceeds state state :=
  ⟨fun index => .refl index state, fun _ _ => id⟩

theorem proceeds_trans (first second third : ConfigState) (left : Proceeds first second)
    (right : Proceeds second third) : Proceeds first third :=
  ⟨fun index => (left.relies index).trans (right.relies index),
    fun handler failure done => left.done handler failure (right.done handler failure done)⟩

/-- A longer trace, with no closing started and no report in the longer part. -/
theorem proceeds_of_trace {before after : ConfigState}
    (kept : ∀ effect ∈ before.trace, effect ∈ after.trace)
    (others : ∀ effect ∈ after.trace, effect ∈ before.trace ∨
      (∀ index owner connection, effect ≠ .closesPair index owner connection) ∧
        ∀ handler failure, effect ≠ .done handler failure) : Proceeds before after := by
  refine ⟨fun index => ⟨fun target known => kept _ known, fun handler known => kept _ known, ?_⟩, ?_⟩
  · intro owner connection new
    rcases others _ new with old | ⟨different, _⟩
    · exact old
    · exact absurd rfl (different index owner connection)
  · intro handler failure new
    rcases others _ new with old | ⟨_, different⟩
    · exact old
    · exact absurd rfl (different handler failure)

theorem mem_record {effect other : Effect} {state : ConfigState} :
    other ∈ (state.record effect).trace ↔ other ∈ state.trace ∨ other = effect := by
  simp [ConfigState.record]

theorem proceeds_record {effect : Effect}
    (noStart : ∀ index owner connection, effect ≠ .closesPair index owner connection)
    (noReport : ∀ handler failure, effect ≠ .done handler failure) (state : ConfigState) :
    Proceeds state (state.record effect) := by
  apply proceeds_of_trace
  · exact fun other known => mem_record.mpr (.inl known)
  · intro other member
    rcases mem_record.mp member with old | rfl
    · exact .inl old
    · exact .inr ⟨noStart, noReport⟩

theorem proceeds_frame : ClosingFrame Proceeds where
  refl := proceeds_refl
  trans := proceeds_trans
  record := by
    intro effect state closing
    apply proceeds_record
    · intro index owner connection same
      subst same
      cases closing
    · intro handler failure same
      subst same
      cases closing
  ended := fun _ _ => ⟨fun _ => ⟨fun _ => id, fun _ => id, fun _ _ => id⟩, fun _ _ => id⟩

theorem mem_ledger {effect : Effect} (account : Effect.isAccount effect = true)
    (state : ConfigState) : effect ∈ ledger state ↔ effect ∈ state.trace := by
  unfold ledger
  rw [List.mem_filter]
  exact and_iff_left account

theorem proceeds_of_ledger {before after : ConfigState} {events : List Effect}
    (grown : ledger after = ledger before ++ events)
    (created : ∀ event ∈ events, ∃ owner connection, event = .created owner connection) :
    Proceeds before after := by
  have known : ∀ effect, Effect.isAccount effect = true → effect ∈ before.trace →
      effect ∈ after.trace := by
    intro effect account member
    rw [← mem_ledger account, grown]
    exact List.mem_append_left _ ((mem_ledger account before).mpr member)
  have old : ∀ effect, Effect.isAccount effect = true →
      (∀ owner connection, effect ≠ .created owner connection) → effect ∈ after.trace →
      effect ∈ before.trace := by
    intro effect account other member
    rw [← mem_ledger account, grown] at member
    rcases List.mem_append.mp member with earlier | new
    · exact (mem_ledger account before).mp earlier
    · obtain ⟨owner, connection, same⟩ := created effect new
      exact absurd same (other owner connection)
  refine ⟨fun index => ⟨fun target => known _ rfl, fun handler => known _ rfl, ?_⟩, ?_⟩
  · exact fun owner connection => old _ rfl (by simp)
  · exact fun handler failure => old _ rfl (by simp)

theorem proceeds_effect (packages : Packages) (index : Nat) {task : ConfigTask}
    (ordinary : closesSomething task = false) (state : ConfigState) :
    Proceeds state (effect packages index task state) := by
  obtain ⟨events, grown, created⟩ := effect_ledger packages index ordinary
  exact proceeds_of_ledger grown created

/-! ## The outline -/

/-- The closing of a pair has reached its owner and its connection. -/
def ClosedPair (owner : Nat) (connection : Option Nat) (state : ConfigState) : Prop :=
  .closes (.owner owner) ∈ state.trace ∧
    ∀ ref, connection = some ref → .closes (.connection ref) ∈ state.trace

/-- Everything that task `index` started to close has been reached. -/
def ClosedAll (index : Nat) (state : ConfigState) : Prop :=
  ∀ owner connection, .closesPair index owner connection ∈ state.trace →
    ClosedPair owner connection state

def closingOutline : Outline ConfigState ConfigCall ConfigReply JsError Unit ConfigTask where
  invariant := Begun
  scope count state := ∀ index owner connection,
    .closesPair index owner connection ∈ state.trace → index < count
  rely := Relies
  guarantee := Guarantees
  waiting _ _ _ _ := True
  answers _ _ _ _ _ := True
  post index _ _ state := ClosedAll index state

theorem ClosedPair.later {index owner : Nat} {connection : Option Nat} {before after : ConfigState}
    (closed : ClosedPair owner connection before) (relied : Relies index before after) :
    ClosedPair owner connection after :=
  ⟨relied.closes _ closed.1, fun ref same => relied.closes _ (closed.2 ref same)⟩

theorem guarantees_refl (index : Nat) (state : ConfigState) : Guarantees index state state :=
  fun other _ => .refl other state

theorem Guarantees.proceeds {index : Nat} {first second third : ConfigState}
    (guarantees : Guarantees index first second) (proceeds : Proceeds second third) :
    Guarantees index first third :=
  fun other different => (guarantees other different).trans (proceeds.relies other)

variable (index : Nat) (task : ConfigTask)

abbrev contract : Contract ConfigState ConfigCall ConfigReply JsError :=
  closingOutline.contract index task

/-- What the others cannot take away can be kept in mind. -/
theorem tolerates {known : ConfigState → Prop}
    (kept : ∀ before after, Relies index before after → known before → known after) :
    Async.Tolerates (contract index task) Proceeds single fun state => Begun state ∧ known state where
  invariant := fun _ holds => holds.1
  refl := guarantees_refl index
  guarantee := fun _ _ _ guarantees proceeds => guarantees.proceeds proceeds
  waits := fun _ _ _ => trivial
  kept := fun _ _ proceeds holds =>
    ⟨proceeds.begun holds.1, kept _ _ (proceeds.relies index) holds.2⟩
  stable := fun _ _ invariant relied holds => ⟨invariant, kept _ _ relied holds.2⟩

/-- A body that keeps the contract, and `known` on its way. -/
def Meets {α : Type} (known : ConfigState → Prop) (program : ConfigBody α)
    (start now : ConfigState) : Prop :=
  program.wp (contract index task)
    (fun start _ now => Guarantees index start now ∧ Begun now ∧ known now) start now

variable {index task}

theorem respects_meets {α : Type} {known : ConfigState → Prop}
    (kept : ∀ before after, Relies index before after → known before → known after)
    {program : ConfigBody α} (respects : program.Respects Proceeds single) {start now : ConfigState}
    (near : Guarantees index start now) (begun : Begun now) (holds : known now) :
    Meets index task known program start now :=
  Async.wp_of_framed (tolerates index task kept) program
    (respects now now (proceeds_refl now)) near ⟨begun, holds⟩

/-- What has been caught does not throw. -/
theorem caught_meets {known : ConfigState → Prop} {body : ConfigBody Unit} {start now : ConfigState}
    (meets : Meets index task known body start now) :
    (tryCatch (Except.ok <$> body) fun err => pure (.error err) :
      ConfigBody (Except JsError Unit)).wp (contract index task)
        (fun start result now => (∃ outcome, result = .ok outcome) ∧
          Guarantees index start now ∧ Begun now ∧ known now) start now := by
  unfold Meets at meets
  rw [Async.wp_tryCatch, Async.wp_map]
  apply Async.wp_mono _ _ meets
  intro start result now holds
  cases result with
  | ok value => exact ⟨⟨_, rfl⟩, holds⟩
  | error err => exact ⟨⟨_, rfl⟩, holds⟩

theorem awaitEnd_meets {known : ConfigState → Prop}
    (kept : ∀ before after, Relies index before after → known before → known after)
    {body : ConfigBody Unit} {start now : ConfigState}
    (meets : Meets index task known body start now) :
    Meets index task known (awaitEnd body) start now := by
  unfold Meets awaitEnd
  rw [Async.wp_bind]
  apply Async.wp_mono _ _ (caught_meets meets)
  intro start result now given
  obtain ⟨⟨outcome, rfl⟩, near, begun, holds⟩ := given
  dsimp only
  rw [Async.wp_bind]
  unfold await
  rw [Async.wp_call]
  refine ⟨begun, near, trivial, ?_⟩
  intro later begunLater relied reply _
  have there : Guarantees index later later ∧ Begun later ∧ known later :=
    ⟨guarantees_refl index later, begunLater, kept _ _ relied holds⟩
  cases reply with
  | error err => exact there
  | ok value =>
    cases outcome with
    | ok value => exact there
    | error err => exact there

/-! ## The closing of one pair -/

/-- Task `index` closes this pair and no other one. -/
def OnlyCloses (index owner : Nat) (connection : Option Nat) (state : ConfigState) : Prop :=
  ∀ other ref, .closesPair index other ref ∈ state.trace → other = owner ∧ ref = connection

theorem OnlyCloses.later {index owner : Nat} {connection : Option Nat} {before after : ConfigState}
    (only : OnlyCloses index owner connection before) (relied : Relies index before after) :
    OnlyCloses index owner connection after :=
  fun other ref member => only other ref (relied.starts other ref member)

theorem closedAll_of_only {index owner : Nat} {connection : Option Nat} {state : ConfigState}
    (only : OnlyCloses index owner connection state) (closed : ClosedPair owner connection state) :
    ClosedAll index state := by
  intro other ref member
  obtain ⟨rfl, rfl⟩ := only other ref member
  exact closed

theorem mem_record_self (effect : Effect) (state : ConfigState) :
    effect ∈ (state.record effect).trace :=
  mem_record.mpr (.inr rfl)

/-- A body that records what it closes first. -/
theorem recorded_meets {target : Target} {known : ConfigState → Prop}
    (kept : ∀ before after, Relies index before after → known before → known after)
    {rest : ConfigBody Unit} (respects : rest.Respects Proceeds single) {start now : ConfigState}
    (near : Guarantees index start now) (begun : Begun now) (holds : known now) :
    Meets index task (fun state => known state ∧ .closes target ∈ state.trace)
      (record (.closes target) >>= fun _ => rest) start now := by
  unfold Meets record
  rw [Async.wp_bind, Async.wp_modify]
  have recorded : Proceeds now (now.record (.closes target)) :=  by
    apply proceeds_record
    · simp
    · simp
  apply respects_meets _ respects (near.proceeds recorded) (recorded.begun begun)
  · exact ⟨kept _ _ (recorded.relies index) holds, mem_record_self _ now⟩
  · exact fun before after relied both => ⟨kept _ _ relied both.1, relied.closes target both.2⟩

theorem closeCompanion_meets (connection : Option Nat) {known : ConfigState → Prop}
    (kept : ∀ before after, Relies index before after → known before → known after)
    {start now : ConfigState} (near : Guarantees index start now) (begun : Begun now)
    (holds : known now) :
    Meets index task (fun state => known state ∧
      ∀ ref, connection = some ref → .closes (.connection ref) ∈ state.trace)
      (closeCompanion connection) start now := by
  cases connection with
  | none => exact ⟨near, begun, holds, nofun⟩
  | some ref =>
    obtain ⟨rest, same, respects⟩ := closeConnection_rest proceeds_frame ref
    have met : Meets index task (fun state => known state ∧ .closes (.connection ref) ∈ state.trace)
        (closeConnection ref) start now := by
      rw [same]
      exact recorded_meets kept respects near begun holds
    unfold Meets at met ⊢
    apply Async.wp_mono _ _ met
    intro start result now reached
    refine ⟨reached.1, reached.2.1, reached.2.2.1, ?_⟩
    intro other given
    cases given
    exact reached.2.2.2

/-- A closing ends when the owner and the connection have been reached. -/
theorem closeResourcePair_meets (owner : Nat) (connection : Option Nat) {start now : ConfigState}
    (near : Guarantees index start now) (begun : Begun now)
    (fresh : ∀ other ref, .closesPair index other ref ∉ now.trace) :
    Meets index task (ClosedAll index) (closeResourcePair index owner connection) start now := by
  unfold closeResourcePair Meets record
  rw [Async.wp_bind, Async.wp_modify]
  let begins := now.record (.closesPair index owner connection)
  have guarantees : Guarantees index start begins := by
    intro other different
    refine (near other different).trans ⟨fun _ known => mem_record.mpr (.inl known),
      fun _ known => mem_record.mpr (.inl known), ?_⟩
    intro anyOwner ref member
    rcases mem_record.mp member with old | same
    · exact old
    · cases same
      exact absurd rfl different
  have begunNow : Begun begins := by
    intro handler failure member
    rcases mem_record.mp member with old | same
    · exact mem_record.mpr (.inl (begun handler failure old))
    · cases same
  have only : OnlyCloses index owner connection begins := by
    intro other ref member
    rcases mem_record.mp member with old | same
    · exact absurd old (fresh other ref)
    · cases same
      exact ⟨rfl, rfl⟩
  have keptOnly : ∀ before after, Relies index before after →
      OnlyCloses index owner connection before → OnlyCloses index owner connection after :=
    fun _ _ relied only => only.later relied
  have keptOwner : ∀ before after, Relies index before after →
      OnlyCloses index owner connection before ∧ .closes (.owner owner) ∈ before.trace →
      OnlyCloses index owner connection after ∧ .closes (.owner owner) ∈ after.trace :=
    fun _ _ relied both => ⟨both.1.later relied, relied.closes _ both.2⟩
  obtain ⟨rest, same, respects⟩ := closeOwner_rest proceeds_frame owner connection
  have first : Meets index task (fun state => OnlyCloses index owner connection state ∧
      .closes (.owner owner) ∈ state.trace) (closeOwner owner connection) start begins := by
    rw [same]
    exact recorded_meets keptOnly respects guarantees begunNow only
  rw [Async.wp_bind]
  apply Async.wp_mono _ _ (caught_meets (awaitEnd_meets keptOwner first))
  intro start result now given
  obtain ⟨⟨outcome, rfl⟩, near, begun, holds⟩ := given
  dsimp only
  have keptBoth : ∀ before after, Relies index before after →
      ((OnlyCloses index owner connection before ∧ .closes (.owner owner) ∈ before.trace) ∧
        ∀ ref, connection = some ref → .closes (.connection ref) ∈ before.trace) →
      (OnlyCloses index owner connection after ∧ .closes (.owner owner) ∈ after.trace) ∧
        ∀ ref, connection = some ref → .closes (.connection ref) ∈ after.trace :=
    fun _ _ relied both => ⟨keptOwner _ _ relied both.1,
      fun ref given => relied.closes _ (both.2 ref given)⟩
  have second : Meets index task _ (awaitEnd (closeCompanion connection)) start now :=
    awaitEnd_meets keptBoth (closeCompanion_meets connection keptOwner near begun holds)
  rw [Async.wp_bind]
  apply Async.wp_mono _ _ (caught_meets second)
  intro start result now given
  obtain ⟨⟨other, rfl⟩, near, begun, ⟨only, closed⟩, companion⟩ := given
  have reached : Guarantees index start now ∧ Begun now ∧ ClosedAll index now :=
    ⟨near, begun, closedAll_of_only only ⟨closed, companion⟩⟩
  dsimp only
  cases outcome with
  | error err => exact reached
  | ok value =>
    cases other with
    | error err => exact reached
    | ok value => exact reached

/-! ## Every task -/

/-- Task `index` has started no closing. -/
def StartsNothing (index : Nat) (state : ConfigState) : Prop :=
  ∀ owner connection, .closesPair index owner connection ∉ state.trace

theorem StartsNothing.later {index : Nat} {before after : ConfigState}
    (nothing : StartsNothing index before) (relied : Relies index before after) :
    StartsNothing index after :=
  fun owner connection member => nothing owner connection (relied.starts owner connection member)

theorem StartsNothing.closedAll {index : Nat} {state : ConfigState}
    (nothing : StartsNothing index state) : ClosedAll index state :=
  fun owner connection member => absurd member (nothing owner connection)

theorem ClosedAll.later {index : Nat} {before after : ConfigState} (closed : ClosedAll index before)
    (relied : Relies index before after) : ClosedAll index after :=
  fun owner connection member =>
    (closed owner connection (relied.starts owner connection member)).later relied

theorem startsNothing_meets {packages : Packages} {state : ConfigState} (other : task ≠ .close)
    (proceeds : Proceeds state (effect packages index task state)) (begun : Begun state)
    (nothing : StartsNothing index state) :
    Meets index task (ClosedAll index) (runTask packages index task) state state := by
  have kept : ∀ before after, Relies index before after →
      StartsNothing index before → StartsNothing index after :=
    fun _ _ relied nothing => nothing.later relied
  have met := Async.wp_of_framed (tolerates index task kept) (runTask packages index task)
    (runTask_framed proceeds_frame packages index other state)
    ((guarantees_refl index state).proceeds proceeds)
    ⟨proceeds.begun begun, nothing.later (proceeds.relies index)⟩
  unfold Meets
  apply Async.wp_mono _ _ met
  intro start result now given
  obtain ⟨near, begun, nothing⟩ := given
  exact ⟨near, begun, nothing.closedAll⟩

theorem proceeds_take (owner : Nat) (connection : Option Nat) (state : ConfigState) :
    Proceeds state (take index owner connection state) := by
  have trace : ∀ effect, effect ∈ (take index owner connection state).trace ↔
      effect ∈ state.trace ∨ effect = .took index owner connection := by
    intro effect
    simp [take, ConfigState.record]
  apply proceeds_of_trace
  · exact fun effect known => (trace effect).mpr (.inl known)
  · intro effect member
    rcases (trace effect).mp member with old | rfl
    · exact .inl old
    · exact .inr ⟨by simp, by simp⟩

theorem releaseResource_meets (owner : Nat) {state : ConfigState} (begun : Begun state)
    (nothing : StartsNothing index state) :
    Meets index task (ClosedAll index) (releaseResource index owner) state state := by
  unfold releaseResource Meets
  rw [Async.wp_bind, Async.wp_get]
  dsimp only
  cases state.resources.get owner with
  | none => exact ⟨guarantees_refl index state, begun, nothing.closedAll⟩
  | some connection =>
    have taken : Proceeds state (take index owner connection state) :=
      proceeds_take owner connection state
    dsimp only
    rw [Async.wp_bind, Async.wp_modify]
    apply awaitEnd_meets
    · exact fun _ _ relied closed => closed.later relied
    · exact closeResourcePair_meets owner connection ((guarantees_refl index state).proceeds taken)
        (taken.begun begun) (nothing.later (taken.relies index))

theorem proceeds_takeAll (state : ConfigState) : Proceeds state (takeAll index state).2 := by
  have trace : (takeAll index state).2.trace = state.trace ++ ([.closeBegan index] ++
      state.resources.entries.reverse.map fun pair => .took index pair.1 pair.2) :=
    List.append_assoc ..
  apply proceeds_of_trace
  · intro effect known
    rw [trace]
    exact List.mem_append_left _ known
  · intro effect member
    rw [trace] at member
    rcases List.mem_append.mp member with old | new
    · exact .inl old
    · right
      rcases List.mem_append.mp new with began | took
      · rw [List.mem_singleton.mp began]
        exact ⟨by simp, by simp⟩
      · obtain ⟨pair, _, rfl⟩ := List.mem_map.mp took
        exact ⟨by simp, by simp⟩

theorem closeBegan_takeAll (state : ConfigState) :
    .closeBegan index ∈ (takeAll index state).2.trace := by
  simp [takeAll]

/-- What the end of a close handler enters in the trace. -/
theorem mem_reportClose {handler : Nat} {reply : Except JsError Unit} {state : ConfigState}
    {effect : Effect} (member : effect ∈ (reportClose handler reply state).trace) :
    effect ∈ state.trace ∨ effect = .status .config .cleared ∨
      ∃ failure, effect = .done handler failure := by
  cases reply with
  | ok value =>
    rcases mem_record.mp member with earlier | rfl
    · rcases mem_record.mp earlier with old | rfl
      · exact .inl old
      · exact .inr (.inl rfl)
    · exact .inr (.inr ⟨none, rfl⟩)
  | error err =>
    rcases mem_record.mp member with old | rfl
    · exact .inl old
    · exact .inr (.inr ⟨some err, rfl⟩)

theorem mem_reportClose_of_mem {handler : Nat} {reply : Except JsError Unit} {state : ConfigState}
    {effect : Effect} (member : effect ∈ state.trace) :
    effect ∈ (reportClose handler reply state).trace := by
  cases reply with
  | ok value => exact mem_record.mpr (.inl (mem_record.mpr (.inl member)))
  | error err => exact mem_record.mpr (.inl member)

theorem relies_reportClose (other handler : Nat) (reply : Except JsError Unit)
    (state : ConfigState) : Relies other state (reportClose handler reply state) := by
  refine ⟨fun _ => mem_reportClose_of_mem, fun _ => mem_reportClose_of_mem, ?_⟩
  intro owner connection member
  rcases mem_reportClose member with old | same | ⟨failure, same⟩
  · exact old
  · cases same
  · cases same

theorem onClose_meets {state : ConfigState} (begun : Begun state)
    (nothing : StartsNothing index state) :
    Meets index task (ClosedAll index) (onClose index) state state := by
  obtain ⟨next, segment, rest⟩ := onClose_segment index state
  have taken : Proceeds state (takeAll index state).2 := proceeds_takeAll state
  unfold Meets
  rw [Async.wp_iff_segment, segment]
  refine ⟨taken.begun begun, (guarantees_refl index state).proceeds taken, trivial, ?_⟩
  intro later begunLater relied reply _
  have ended := (rest reply later).trans (finishClose_segment index reply later)
  have began : .closeBegan index ∈ later.trace := relied.began index (closeBegan_takeAll state)
  have idle : StartsNothing index later := (nothing.later (taken.relies index)).later relied
  rw [Async.wp_iff_segment, ended]
  have near : Guarantees index later (reportClose index reply later) :=
    fun other _ => relies_reportClose other index reply later
  refine ⟨near, ?_,
    (idle.later (relies_reportClose index index reply later)).closedAll⟩
  intro handler failure member
  rcases mem_reportClose member with old | same | ⟨reported, same⟩
  · exact mem_reportClose_of_mem (begunLater handler failure old)
  · cases same
  · cases same
    exact mem_reportClose_of_mem began

theorem runTask_meets (packages : Packages) {state : ConfigState} (begun : Begun state)
    (nothing : StartsNothing index state) :
    Meets index task (ClosedAll index) (runTask packages index task) state state := by
  by_cases closing : closesSomething task = true
  · cases task with
    | releaseResource owner => exact releaseResource_meets owner begun nothing
    | close => exact onClose_meets begun nothing
    | pair handler owner connection =>
      exact closeResourcePair_meets owner connection (guarantees_refl index state) begun nothing
    | connectionStatus connection status =>
      exact startsNothing_meets (by simp)
        ⟨fun _ => ⟨fun _ => id, fun _ => id, fun _ _ => id⟩, fun _ _ => id⟩ begun nothing
    | _ => cases closing
  · have ordinary : closesSomething task = false := by simpa using closing
    have other : task ≠ .close := by
      intro same
      subst same
      cases ordinary
    exact startsNothing_meets other (proceeds_effect packages index ordinary state) begun nothing

theorem closingOutline_sound (packages : Packages) (allowed : ConfigPool → ConfigMove → Prop) :
    closingOutline.Sound (configSystem packages) allowed := by
  have started : ∀ (pool : ConfigPool) task, closingOutline.Covers pool →
      (runTask packages pool.tasks.length task).wp (closingOutline.contract pool.tasks.length task)
        (closingOutline.settles pool.tasks.length task) pool.shared pool.shared := by
    intro pool task covers
    have nothing : StartsNothing pool.tasks.length pool.shared :=
      fun owner connection member => Nat.lt_irrefl _ (covers.2.1 _ owner connection member)
    apply Async.wp_mono _ _ (runTask_meets packages covers.1 nothing)
    intro start result now given
    obtain ⟨near, begun, closed⟩ := given
    exact ⟨begun, near, closed⟩
  exact {
    rely_refl := Relies.refl
    rely_trans := fun _ _ _ _ => Relies.trans
    widened := fun count state known index owner connection member =>
      Nat.lt_succ_of_lt (known index owner connection member)
    inScope := by
      intro index count before after bound guarantees known other owner connection member
      by_cases same : other = index
      · rw [same]
        exact bound
      · exact known other owner connection ((guarantees other same).starts owner connection member)
    interferes := fun _ other _ _ different guarantees => guarantees other different
    waiting_stable := fun _ _ _ _ _ _ _ => trivial
    post_stable := fun _ _ _ _ _ relied closed => closed.later relied
    answered := fun _ _ _ _ _ _ _ _ _ _ => trivial
    launched := fun pool task covers _ _ => started pool task covers
    forked := fun pool _ _ task _ covers => started pool task covers }

/-- A closing that has ended has reached its owner and its connection. -/
theorem closed_reached {packages : Packages} {allowed : ConfigPool → ConfigMove → Prop}
    {config : QueueConfig} {pool : ConfigPool}
    (reached : Runs (configSystem packages).Step allowed (emptyConfigPool config) pool) :
    Begun pool.shared ∧ ∀ index owner connection,
      .closesPair index owner connection ∈ pool.shared.trace → index < pool.tasks.length ∧
        ∀ task result, pool.tasks[index]? = some (task, .finished result) →
          ClosedPair owner connection pool.shared := by
  have begun : Begun (.initial config) := by
    intro handler failure member
    cases member
  have scope : closingOutline.scope 0 (.initial config) := by
    intro index owner connection member
    cases member
  have covers := Outline.covers_run (closingOutline_sound packages allowed) reached
    (Outline.covers_initial begun scope)
  refine ⟨covers.1, ?_⟩
  intro index owner connection member
  refine ⟨covers.2.1 index owner connection member, ?_⟩
  intro task result found
  have post : ClosedAll index pool.shared := covers.2.2 index task _ found
  exact post owner connection member

end NodeRedBull.ClosingOutline
