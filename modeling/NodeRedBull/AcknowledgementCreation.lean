import NodeRedBull.AcknowledgementInvariant

/-! New entries, abort signals and event promises keep the invariant of the registry. -/

namespace NodeRedBull.AcknowledgementCreation
open Js Library Acknowledgements AcknowledgementInvariant

/-- No entry that is still pending has this ackId. -/
def Free (ackId : String) (state : AckState) : Prop :=
  ∀ ref entry, Unsettled state ref entry → entry.ackId ≠ ackId

def createdEntry (context : Context) (timeoutMs : JsNumber) (ackId : String) :
    AcknowledgementEntry :=
  ⟨[.deleteEntry], none, context, timeoutMs, ackId⟩

theorem create_objects (context : Context) (timeoutMs now : JsNumber) (random : String)
    (state : AckState) (other : Nat) :
    (create context timeoutMs now random state).2.objects.read other =
      if other = state.objects.size then
        some (createdEntry context timeoutMs (ackIdOf context.runNodeId context.job now random state))
      else state.objects.read other := by
  simp only [create, newEntry, Store.alloc_fst, Store.read_modify, Store.read_alloc]
  by_cases fresh : other = state.objects.size
  · simp [fresh, createdEntry]
  · simp [fresh]

theorem create_signals (context : Context) (timeoutMs now : JsNumber) (random : String)
    (state : AckState) (other : Nat) :
    (create context timeoutMs now random state).2.signals.read other =
      if context.signal = some other then
        (state.signals.read other).map (AbortSignal.add state.objects.size)
      else state.signals.read other := by
  simp only [create, newEntry]
  cases context.signal with
  | none => simp
  | some signal =>
    simp only [Store.read_modify, Option.some.injEq]
    by_cases same : other = signal
    · subst same
      simp
    · have different : ¬signal = other := fun equal => same equal.symm
      simp [same, different]

theorem create_timers (context : Context) (timeoutMs now : JsNumber) (random : String)
    (state : AckState) (other : Nat) :
    other ∈ (create context timeoutMs now random state).2.timers ↔
      other ∈ state.timers ∨ other = state.objects.size ∧ timeoutMs.positive = true := by
  simp only [create, newEntry]
  by_cases positive : timeoutMs.positive = true
  · simp [positive]
  · simp [positive]

theorem create_unsettled (context : Context) (timeoutMs now : JsNumber) (random : String)
    (state : AckState) (other : Nat) (entry : AcknowledgementEntry) :
    Unsettled (create context timeoutMs now random state).2 other entry ↔
      other = state.objects.size ∧
          entry = createdEntry context timeoutMs (ackIdOf context.runNodeId context.job now random state) ∨
        Unsettled state other entry := by
  unfold Unsettled
  rw [create_objects]
  by_cases fresh : other = state.objects.size
  · have absent := (state.objects.read_eq_none_iff other).mpr (by omega)
    simp only [fresh, ↓reduceIte, Option.some.injEq, true_and]
    rw [fresh] at absent
    constructor
    · intro given
      obtain ⟨equal, _⟩ := given
      exact Or.inl equal.symm
    · intro either
      rcases either with equal | ⟨stored, _⟩
      · subst equal
        exact ⟨rfl, rfl⟩
      · rw [absent] at stored
        cases stored
  · simp [fresh]

theorem grows_create (context : Context) (timeoutMs now : JsNumber) (random : String)
    (state : AckState) : Grows state (create context timeoutMs now random state).2 where
  settled := by
    intro ref settlement recorded
    unfold settlementOf at recorded ⊢
    rw [create_objects, if_neg]
    · exact recorded
    · intro fresh
      rw [(state.objects.read_eq_none_iff ref).mpr (by omega)] at recorded
      cases recorded
  entries := by
    intro ref entry stored
    refine ⟨entry, ?_, rfl, rfl, rfl⟩
    have bound := Store.lt_size_of_read stored
    rw [create_objects, if_neg (by omega)]
    exact stored
  promises := fun _ found stored => ⟨found, stored, rfl⟩
  signals := by
    simp only [create, newEntry]
    cases context.signal with
    | none => exact le_rfl
    | some signal => simp

theorem consistent_create {context : Context} {timeoutMs now : JsNumber} {random : String}
    {state : AckState} (consistent : Consistent state)
    (free : Free (ackIdOf context.runNodeId context.job now random state) state)
    (known : ∀ signal, context.signal = some signal → signal < state.signals.size) :
    Consistent (create context timeoutMs now random state).2 where
  mapped := by
    intro ackId ref
    have set : (create context timeoutMs now random state).2.entries =
        state.entries.set (ackIdOf context.runNodeId context.job now random state) state.objects.size := rfl
    simp only [set, OrderedMap.get_set, create_unsettled]
    by_cases own : ackId = ackIdOf context.runNodeId context.job now random state
    · rw [if_pos own]
      constructor
      · intro equal
        cases equal
        exact ⟨_, Or.inl ⟨rfl, rfl⟩, own.symm⟩
      · intro given
        obtain ⟨entry, either, key⟩ := given
        rcases either with ⟨fresh, _⟩ | pending
        · rw [fresh]
        · exact absurd (key.trans own) (free ref entry pending)
    · rw [if_neg own, consistent.mapped ackId ref]
      constructor
      · intro given
        obtain ⟨entry, pending, key⟩ := given
        exact ⟨entry, Or.inr pending, key⟩
      · intro given
        obtain ⟨entry, either, key⟩ := given
        rcases either with ⟨_, equal⟩ | pending
        · rw [equal] at key
          exact absurd key.symm own
        · exact ⟨entry, pending, key⟩
  armed := by
    intro ref
    rw [create_timers, consistent.armed ref]
    simp only [create_unsettled]
    constructor
    · intro either
      rcases either with ⟨entry, pending, positive⟩ | ⟨fresh, positive⟩
      · exact ⟨entry, Or.inr pending, positive⟩
      · exact ⟨_, Or.inl ⟨fresh, rfl⟩, positive⟩
    · intro given
      obtain ⟨entry, either, positive⟩ := given
      rcases either with ⟨fresh, equal⟩ | pending
      · rw [equal] at positive
        exact Or.inr ⟨fresh, positive⟩
      · exact Or.inl ⟨entry, pending, positive⟩
  listening := by
    intro signal found ref read
    simp only [create_unsettled]
    rw [create_signals] at read
    by_cases own : context.signal = some signal
    · rw [if_pos own] at read
      obtain ⟨earlier, stored, added⟩ := Option.map_eq_some_iff.mp read
      subst added
      simp only [AbortSignal.add, List.mem_append, List.mem_singleton,
        consistent.listening signal earlier ref stored]
      constructor
      · intro either
        rcases either with ⟨entry, pending, listens⟩ | fresh
        · exact ⟨entry, Or.inr pending, listens⟩
        · exact ⟨_, Or.inl ⟨fresh, rfl⟩, own⟩
      · intro given
        obtain ⟨entry, either, listens⟩ := given
        rcases either with ⟨fresh, _⟩ | pending
        · exact Or.inr fresh
        · exact Or.inl ⟨entry, pending, listens⟩
    · rw [if_neg own] at read
      rw [consistent.listening signal found ref read]
      constructor
      · intro given
        obtain ⟨entry, pending, listens⟩ := given
        exact ⟨entry, Or.inr pending, listens⟩
      · intro given
        obtain ⟨entry, either, listens⟩ := given
        rcases either with ⟨_, equal⟩ | pending
        · rw [equal] at listens
          exact absurd listens own
        · exact ⟨entry, pending, listens⟩
  signalled := by
    intro ref entry signal read listens
    rw [create_objects] at read
    have bound : signal < state.signals.size := by
      split at read
      · cases read
        exact known signal listens
      · exact consistent.signalled ref entry signal read listens
    exact lt_of_lt_of_le bound (grows_create context timeoutMs now random state).signals
  deleting := by
    intro ref entry pending
    rw [create_unsettled] at pending
    rcases pending with ⟨_, equal⟩ | pending
    · rw [equal]
      exact List.mem_singleton.mpr rfl
    · exact consistent.deleting ref entry pending
  promised := by
    intro promise found read
    obtain ⟨entry, stored, agrees⟩ := consistent.promised promise found read
    refine ⟨entry, ?_, agrees⟩
    have bound := Store.lt_size_of_read stored
    rw [create_objects, if_neg (by omega)]
    exact stored
  waking := by
    intro ref entry promise read wakes
    rw [create_objects] at read
    split at read
    · cases read
      cases List.mem_singleton.mp wakes
    · exact consistent.waking ref entry promise read wakes

theorem consistent_newSignal {state : AckState} (consistent : Consistent state) :
    Consistent (newSignal state).2 := by
  refine ⟨consistent.mapped, consistent.armed, ?_, ?_, consistent.deleting, consistent.promised,
    consistent.waking⟩
  · intro signal found ref read
    simp only [newSignal, Store.read_alloc] at read
    split at read
    next fresh =>
      cases read
      constructor
      · intro member
        cases member
      · intro given
        obtain ⟨entry, pending, listens⟩ := given
        have bound := consistent.signalled ref entry signal pending.1 listens
        omega
    next old => exact consistent.listening signal found ref read
  · intro ref entry signal read listens
    have bound := consistent.signalled ref entry signal read listens
    simp only [newSignal, Store.size_alloc]
    omega

theorem grows_newSignal (state : AckState) : Grows state (newSignal state).2 where
  settled := fun _ _ found => found
  entries := fun _ entry found => ⟨entry, found, rfl, rfl, rfl⟩
  promises := fun _ found stored => ⟨found, stored, rfl⟩
  signals := by simp [newSignal]

theorem consistent_jobs {state : AckState} (consistent : Consistent state) (jobs : Store JsValue) :
    Consistent { state with jobs } :=
  ⟨consistent.mapped, consistent.armed, consistent.listening, consistent.signalled,
    consistent.deleting, consistent.promised, consistent.waking⟩

theorem grows_jobs (state : AckState) (jobs : Store JsValue) : Grows state { state with jobs } :=
  ⟨fun _ _ found => found, fun _ entry found => ⟨entry, found, rfl, rfl, rfl⟩,
    fun _ found stored => ⟨found, stored, rfl⟩, le_rfl⟩

theorem onceSettled_objects (ref : Nat) (state : AckState) (other : Nat) :
    (onceSettled ref state).2.objects.read other =
      if other = ref then (state.objects.read ref).map
        fun entry => { entry with events := entry.events ++ [.wake state.promises.size] }
      else state.objects.read other := by
  simp only [onceSettled, Store.alloc_fst, Store.read_modify]

theorem onceSettled_unsettled {ref : Nat} {state : AckState} (other : Nat)
    (entry : AcknowledgementEntry) :
    Unsettled (onceSettled ref state).2 other entry ↔
      ∃ earlier, Unsettled state other earlier ∧ entry = if other = ref then
        { earlier with events := earlier.events ++ [.wake state.promises.size] } else earlier := by
  unfold Unsettled
  rw [onceSettled_objects]
  by_cases same : other = ref
  · subst same
    simp only [↓reduceIte, Option.map_eq_some_iff]
    constructor
    · intro given
      obtain ⟨⟨earlier, stored, equal⟩, pending⟩ := given
      subst equal
      exact ⟨earlier, ⟨stored, pending⟩, rfl⟩
    · intro given
      obtain ⟨earlier, ⟨stored, pending⟩, equal⟩ := given
      subst equal
      exact ⟨⟨earlier, stored, rfl⟩, pending⟩
  · simp only [if_neg same]
    constructor
    · intro unsettled
      exact ⟨entry, unsettled, rfl⟩
    · intro given
      obtain ⟨earlier, unsettled, equal⟩ := given
      rw [equal]
      exact unsettled

/-- A condition that does not look at the listeners is not changed by a new one. -/
theorem onceSettled_pending (ref : Nat) (state : AckState) (other : Nat)
    (holds : AcknowledgementEntry → Prop)
    (blind : ∀ entry events, holds { entry with events } ↔ holds entry) :
    (∃ entry, Unsettled (onceSettled ref state).2 other entry ∧ holds entry) ↔
      ∃ entry, Unsettled state other entry ∧ holds entry := by
  simp only [onceSettled_unsettled]
  have blind' : ∀ entry : AcknowledgementEntry, holds (if other = ref then
      { entry with events := entry.events ++ [.wake state.promises.size] } else entry) ↔
        holds entry := by
    intro entry
    split
    · exact blind entry _
    · exact Iff.rfl
  constructor
  · intro given
    obtain ⟨_, ⟨earlier, pending, equal⟩, held⟩ := given
    rw [equal] at held
    exact ⟨earlier, pending, (blind' earlier).mp held⟩
  · intro given
    obtain ⟨earlier, pending, held⟩ := given
    exact ⟨_, ⟨earlier, pending, rfl⟩, (blind' earlier).mpr held⟩

theorem consistent_onceSettled {state : AckState} (consistent : Consistent state) {ref : Nat}
    {entry : AcknowledgementEntry} (found : Unsettled state ref entry) :
    Consistent (onceSettled ref state).2 where
  mapped := by
    intro ackId other
    rw [onceSettled_pending ref state other (fun entry => entry.ackId = ackId) (fun _ _ => Iff.rfl)]
    exact consistent.mapped ackId other
  armed := by
    intro other
    rw [onceSettled_pending ref state other (fun entry => entry.timeoutMs.positive = true)
      (fun _ _ => Iff.rfl)]
    exact consistent.armed other
  listening := by
    intro signal stored other read
    rw [onceSettled_pending ref state other (fun entry => entry.context.signal = some signal)
      (fun _ _ => Iff.rfl)]
    exact consistent.listening signal stored other read
  signalled := by
    intro other later signal read listens
    rw [onceSettled_objects] at read
    split at read
    · obtain ⟨earlier, stored, equal⟩ := Option.map_eq_some_iff.mp read
      subst equal
      exact consistent.signalled ref earlier signal stored listens
    · exact consistent.signalled other later signal read listens
  deleting := by
    intro other later pending
    obtain ⟨earlier, unsettled, equal⟩ := (onceSettled_unsettled other later).mp pending
    have deleting := consistent.deleting other earlier unsettled
    rw [equal]
    split
    · exact List.mem_append_left _ deleting
    · exact deleting
  promised := by
    intro promise stored read
    simp only [onceSettled, Store.read_alloc] at read
    split at read
    next fresh =>
      cases read
      refine ⟨{ entry with events := entry.events ++ [.wake state.promises.size] }, ?_,
        found.2.symm, ?_⟩
      · rw [onceSettled_objects, if_pos rfl, found.1]
        rfl
      · intro _
        simp [fresh]
    next old =>
      obtain ⟨owner, held, agrees, wakes⟩ := consistent.promised promise stored read
      rw [onceSettled_objects]
      by_cases same : stored.entry = ref
      · rw [same] at held
        rw [if_pos same, held]
        refine ⟨_, rfl, agrees, ?_⟩
        intro pending
        exact List.mem_append_left _ (wakes pending)
      · rw [if_neg same]
        exact ⟨owner, held, agrees, wakes⟩
  waking := by
    intro other later promise read wakes
    have kept : ∀ stored, state.promises.read promise = some stored → stored.entry = other →
        ∃ found, (onceSettled ref state).2.promises.read promise = some found ∧
          found.entry = other := by
      intro stored held owner
      refine ⟨stored, ?_, owner⟩
      have bound := Store.lt_size_of_read held
      simp only [onceSettled, Store.read_alloc]
      rw [if_neg (by omega)]
      exact held
    rw [onceSettled_objects] at read
    by_cases same : other = ref
    · rw [if_pos same] at read
      obtain ⟨earlier, stored, equal⟩ := Option.map_eq_some_iff.mp read
      subst equal
      rcases List.mem_append.mp wakes with old | fresh
      · obtain ⟨held, promised, owner⟩ := consistent.waking ref earlier promise stored old
        exact kept held promised (owner.trans same.symm)
      · have new := List.mem_singleton.mp fresh
        cases new
        refine ⟨⟨ref, none⟩, ?_, same.symm⟩
        simp [onceSettled, Store.read_alloc]
    · rw [if_neg same] at read
      obtain ⟨held, promised, owner⟩ := consistent.waking other later promise read wakes
      exact kept held promised owner

theorem grows_onceSettled (ref : Nat) (state : AckState) :
    Grows state (onceSettled ref state).2 where
  settled := by
    intro other settlement recorded
    unfold settlementOf at recorded ⊢
    rw [onceSettled_objects]
    by_cases same : other = ref
    · subst same
      rw [if_pos rfl, Option.bind_map]
      exact recorded
    · rw [if_neg same]
      exact recorded
  entries := by
    intro other entry stored
    rw [onceSettled_objects]
    by_cases same : other = ref
    · subst same
      rw [if_pos rfl, stored]
      exact ⟨_, rfl, rfl, rfl, rfl⟩
    · rw [if_neg same]
      exact ⟨entry, stored, rfl, rfl, rfl⟩
  promises := by
    intro promise found stored
    have bound := Store.lt_size_of_read stored
    refine ⟨found, ?_, rfl⟩
    simp only [onceSettled, Store.read_alloc]
    rw [if_neg (by omega)]
    exact stored
  signals := le_rfl

end NodeRedBull.AcknowledgementCreation
