import NodeRedBull.FlowQueues
import NodeRedBull.Library.Worklist

/-! The traversal of `withFlowJobDefaults` over any payload: it ends exactly when no object is
reached from itself through `children`, and has then met every queue that the payload names. -/

namespace NodeRedBull.FlowTraversal
open Js Library Heap Worklist FlowDefaults FlowTrees FlowQueues

/-! ## Values of the heap -/

def valuesOf : Cell → List Val
  | .object fields => fields.values
  | .array items => items

/-- No reference leads out of the heap. -/
def Closed (heap : Heap) : Prop :=
  ∀ address cell, heap.read address = some cell → ∀ value ∈ valuesOf cell, Resolved heap value

theorem cellAt_eq_some {value : Val} {heap : Heap} {cell : Cell}
    (found : cellAt value heap = some cell) :
    ∃ address, value = .ref address ∧ heap.read address = some cell := by
  cases value with
  | ref address => exact ⟨address, rfl, found⟩
  | _ => cases found

theorem resolved_of_primitive {heap : Heap} {value : Val} (primitive : value.isObject = false) :
    Resolved heap value := by
  intro address isRef
  rw [isRef] at primitive
  cases primitive

theorem getField_of_primitive {value : Val} (primitive : value.isObject = false) (name : String)
    (heap : Heap) : getField value name heap = .undefined := by
  cases value with
  | ref address => cases primitive
  | _ => rfl

theorem Closed.field {heap : Heap} (closed : Closed heap) {address : Nat} {fields : Fields}
    (stored : heap.read address = some (.object fields)) {name : String} {value : Val}
    (found : fields.get name = some value) : Resolved heap value :=
  closed address _ stored value ((fields.mem_values_iff value).mpr ⟨name, found⟩)

theorem Closed.getField {heap : Heap} (closed : Closed heap) (value : Val) (name : String) :
    Resolved heap (Heap.getField value name heap) := by
  unfold Heap.getField
  cases held : cellAt value heap with
  | none => exact resolved_of_primitive rfl
  | some cell =>
    obtain ⟨address, -, stored⟩ := cellAt_eq_some held
    cases cell with
    | array items => exact resolved_of_primitive rfl
    | object fields =>
      cases found : fields.get name with
      | none =>
        simp only [found]
        exact resolved_of_primitive rfl
      | some inner =>
        simp only [found]
        exact closed.field stored found

theorem get_foldl_set {pairs : List (Val × Nat)} {fields : Fields} {name : String} {value : Val}
    (found : (pairs.foldl (fun fields item => fields.set (toString item.2) item.1) fields).get name =
      some value) : (∃ pair ∈ pairs, pair.1 = value) ∨ fields.get name = some value := by
  induction pairs generalizing fields with
  | nil => exact .inr found
  | cons pair rest ih =>
    rcases ih found with later | earlier
    · obtain ⟨other, member, same⟩ := later
      exact .inl ⟨other, List.mem_cons_of_mem _ member, same⟩
    · rw [OrderedMap.get_set] at earlier
      by_cases here : name = toString pair.2
      · rw [if_pos here] at earlier
        exact .inl ⟨pair, List.mem_cons_self, Option.some.inj earlier⟩
      · rw [if_neg here] at earlier
        exact .inr earlier

theorem mem_of_positions {items : List Val} {name : String} {value : Val}
    (found : (ownFields.positions items).get name = some value) : value ∈ items := by
  rcases get_foldl_set found with listed | empty
  · obtain ⟨pair, member, same⟩ := listed
    rw [← same]
    exact List.fst_mem_of_mem_zipIdx member
  · cases empty

theorem Closed.ownFields {heap : Heap} (closed : Closed heap) {value : Val} {name : String}
    {inner : Val} (found : (Heap.ownFields value heap).get name = some inner) :
    Resolved heap inner := by
  cases held : cellAt value heap with
  | some cell =>
    obtain ⟨address, same, stored⟩ := cellAt_eq_some held
    subst same
    cases cell with
    | object fields =>
      rw [ownFields_object stored] at found
      exact closed.field stored found
    | array items =>
      have positions : Heap.ownFields (.ref address) heap = ownFields.positions items := by
        simp only [Heap.ownFields, held]
      rw [positions] at found
      exact closed address _ stored inner (mem_of_positions found)
  | none =>
    cases value with
    | string text =>
      have letter := mem_of_positions found
      obtain ⟨c, -, same⟩ := List.mem_map.mp letter
      rw [← same]
      exact resolved_of_primitive rfl
    | ref address =>
      simp only [Heap.ownFields, held] at found
      cases found
    | _ => cases found

/-! ## The graph below a payload -/

/-- `below` is in the `children` array of `parent`. -/
def Child (heap : Heap) (parent below : Val) : Prop :=
  ∃ items, items? (getField parent "children" heap) heap = some items ∧ below ∈ items

/-- The loop adds defaults for queue `name` when it meets `value`. -/
def Names (heap : Heap) (value : Val) (name : String) : Prop :=
  getField value "queueName" heap = .string name ∧ name ≠ ""

theorem not_child_of_primitive {heap : Heap} {parent : Val} (primitive : parent.isObject = false)
    (below : Val) : ¬ Child heap parent below := by
  intro given
  obtain ⟨items, listed, -⟩ := given
  rw [getField_of_primitive primitive] at listed
  cases listed

theorem Closed.child {heap : Heap} (closed : Closed heap) {parent below : Val}
    (down : Child heap parent below) : Resolved heap below := by
  obtain ⟨items, listed, member⟩ := down
  obtain ⟨address, -, stored⟩ := items?_eq_some listed
  exact closed address _ stored below member

/-- A payload reaches no more than itself and the elements of the arrays there are. -/
theorem finite_reached (heap : Heap) (flow : Val) :
    {reached | Relation.ReflTransGen (Child heap) flow reached}.Finite := by
  apply ((flow :: heap.cells.flatMap valuesOf).finite_toSet).subset
  intro reached path
  rcases Relation.ReflTransGen.cases_tail path with same | ⟨parent, -, down⟩
  · rw [same]
    exact List.mem_cons_self
  · obtain ⟨items, listed, member⟩ := down
    obtain ⟨address, -, stored⟩ := items?_eq_some listed
    apply List.mem_cons_of_mem
    exact List.mem_flatMap.mpr ⟨_, List.mem_of_getElem? stored, member⟩

/-! ## The loop -/

/-- One round of the loop: what it does to the heap, and the jobs it pushes, the last one on top. -/
def visitJob (defaultJobOptions : Val) (queuesOptions : Nat) (heap : Heap) (job : Val) :
    Heap × List Val :=
  if !job.isObject then (heap, [])
  else
    let visited := addQueueDefaults defaultJobOptions queuesOptions job heap
    (visited, ((items? (getField job "children" visited) visited).getD []).reverse)

theorem visitPending_eq (retention : Val) (written fuel : Nat) (pending : List Val) (heap : Heap) :
    visitPending retention written fuel pending heap =
      worklist (visitJob retention written) fuel pending heap := by
  induction fuel generalizing pending heap with
  | zero => cases pending <;> rfl
  | succ fuel ih =>
    cases pending with
    | nil => rfl
    | cons job pending =>
      unfold visitPending worklist visitJob
      cases job.isObject with
      | false => exact ih pending heap
      | true => exact ih _ _

section
variable {start : Heap} {retention : Val} {defaults given : Fields} {written : Nat}

/-- The loop has met the queues that the visited values name. -/
def Met (start : Heap) (defaults given : Fields) (written : Nat) (visited : Set Val)
    (now : Heap) : Prop :=
  ∃ names, Traversed start defaults given written names now ∧
    ∀ name, name ∈ names ↔ ∃ value ∈ visited, Names start value name

theorem Met.grown {visited : Set Val} {now : Heap}
    (met : Met start defaults given written visited now) : start.Extends now := by
  obtain ⟨names, traversed, -⟩ := met
  exact traversed.grown

theorem Met.silent {visited : Set Val} {now : Heap} {job : Val}
    (met : Met start defaults given written visited now) (silent : ∀ name, ¬ Names start job name) :
    Met start defaults given written (insert job visited) now := by
  obtain ⟨names, traversed, same⟩ := met
  refine ⟨names, traversed, fun name => (same name).trans ?_⟩
  constructor
  · intro named
    obtain ⟨value, member, here⟩ := named
    exact ⟨value, .inr member, here⟩
  · intro named
    obtain ⟨value, member, here⟩ := named
    rcases member with same | member
    · rw [same] at here
      exact absurd here (silent name)
    · exact ⟨value, member, here⟩

/-- A visited job leaves the defaults of its queue. -/
theorem Met.named {visited : Set Val} {now : Heap} {job : Val} {name : String}
    (met : Met start defaults given written visited now)
    (known : fieldsOf retention start = some defaults)
    (queues : ∀ name, Resolved start (givenQueue given name))
    (inner : ∀ name, Resolved start (getField (givenQueue given name) "defaultJobOptions" start))
    (resolved : Resolved start job) (named : Names start job name) :
    Met start defaults given written (insert job visited)
      (addQueueDefaults retention written job now) := by
  obtain ⟨names, traversed, same⟩ := met
  have field : getField job "queueName" now = .string name :=
    (getField_mono traversed.grown resolved _).trans named.1
  refine ⟨name :: names,
    addQueueDefaults_spec traversed known (queues name) (inner name) field named.2, ?_⟩
  intro other
  rw [List.mem_cons, same]
  constructor
  · intro listed
    rcases listed with same | listed
    · exact ⟨job, .inl rfl, same ▸ named⟩
    · obtain ⟨value, member, here⟩ := listed
      exact ⟨value, .inr member, here⟩
  · intro listed
    obtain ⟨value, member, here⟩ := listed
    rcases member with isJob | member
    · rw [isJob] at here
      have equal := here.1.symm.trans named.1
      exact .inl (Val.string.inj equal)
    · exact .inr ⟨value, member, here⟩

theorem addQueueDefaults_silent {now : Heap} {job : Val} (grown : start.Extends now)
    (resolved : Resolved start job) (silent : ∀ name, ¬ Names start job name) :
    addQueueDefaults retention written job now = now := by
  unfold addQueueDefaults
  rw [getField_mono grown resolved]
  cases held : getField job "queueName" start with
  | string name =>
    have empty : name = "" := by
      by_contra nonempty
      exact silent name ⟨held, nonempty⟩
    simp only [if_pos empty]
  | _ => rfl

theorem met_visited {visited : Set Val} {now : Heap} {job : Val}
    (met : Met start defaults given written visited now)
    (known : fieldsOf retention start = some defaults)
    (queues : ∀ name, Resolved start (givenQueue given name))
    (inner : ∀ name, Resolved start (getField (givenQueue given name) "defaultJobOptions" start))
    (resolved : Resolved start job) :
    Met start defaults given written (insert job visited)
      (addQueueDefaults retention written job now) := by
  by_cases named : ∃ name, Names start job name
  · obtain ⟨name, named⟩ := named
    exact met.named known queues inner resolved named
  · have silent : ∀ name, ¬ Names start job name := fun name here => named ⟨name, here⟩
    rw [addQueueDefaults_silent met.grown resolved silent]
    exact met.silent silent

theorem items?_grown {before after : Heap} (grown : before.Extends after) {value : Val}
    (resolved : Resolved before value) : items? value after = items? value before := by
  unfold items?
  rw [cellAt_mono grown resolved]

theorem visitJob_visits (closed : Closed start) (known : fieldsOf retention start = some defaults)
    (queues : ∀ name, Resolved start (givenQueue given name)) :
    Visits (visitJob retention written) (Child start) (Resolved start)
      (Met start defaults given written) := by
  have inner : ∀ name,
      Resolved start (getField (givenQueue given name) "defaultJobOptions" start) :=
    fun name => closed.getField _ _
  refine ⟨?_, ?_, fun _ _ _ down => closed.child down⟩
  · intro visited now job met resolved
    cases object : job.isObject with
    | false =>
      have silent : ∀ name, ¬ Names start job name := by
        intro name named
        have field := named.1
        rw [getField_of_primitive object] at field
        cases field
      unfold visitJob
      rw [object]
      exact met.silent silent
    | true =>
      unfold visitJob
      rw [object]
      exact met_visited met known queues inner resolved
  · intro visited now job met resolved below
    cases object : job.isObject with
    | false =>
      unfold visitJob
      rw [object]
      have nothing : ¬ Child start job below := not_child_of_primitive object below
      simpa using nothing
    | true =>
      have grown := (met_visited met known queues inner resolved).grown
      have listed : items? (getField job "children" (addQueueDefaults retention written job now))
          (addQueueDefaults retention written job now) =
          items? (getField job "children" start) start := by
        rw [getField_mono grown resolved, items?_grown grown (closed.getField _ _)]
      unfold visitJob
      rw [object]
      simp only [Bool.not_true, Bool.false_eq_true, if_false, listed, List.mem_reverse]
      unfold Child
      cases items? (getField job "children" start) start with
      | none => simp
      | some items => simp

end

/-! ## `withFlowJobDefaults` -/

/-- The flow options that are extended, on the heap before `queuesOptions` is made. -/
def usedOptions (flowOptions : Val) (heap : Heap) : Val × Heap :=
  if flowOptions.isObject then (flowOptions, heap) else newObject .empty heap

/-- The entries of `queuesOptions` before the loop. -/
def givenQueues (flowOptions : Val) (heap : Heap) : Fields :=
  spread .empty (getField (usedOptions flowOptions heap).1 "queuesOptions"
    (usedOptions flowOptions heap).2) (usedOptions flowOptions heap).2

/-- The new `queuesOptions`, and the heap on which the loop starts. -/
def queuesCell (flowOptions : Val) (heap : Heap) : Nat × Heap :=
  (usedOptions flowOptions heap).2.alloc (.object (givenQueues flowOptions heap))

/-- The object that is returned. -/
def extendedOptions (flowOptions : Val) (heap last : Heap) : Fields :=
  (spread .empty (usedOptions flowOptions heap).1 last).set "queuesOptions"
    (.ref (queuesCell flowOptions heap).1)

theorem withFlowJobDefaults_eq {retention : Val} (truthy : retention.truthy = true) (fuel : Nat)
    (flow flowOptions : Val) (heap : Heap) :
    withFlowJobDefaults fuel flow flowOptions retention heap =
      (worklist (visitJob retention (queuesCell flowOptions heap).1) fuel [flow]
        (queuesCell flowOptions heap).2).map
        fun last => newObject (extendedOptions flowOptions heap last) last := by
  rw [← visitPending_eq]
  unfold withFlowJobDefaults
  rw [truthy]
  rfl

theorem extends_usedOptions (flowOptions : Val) (heap : Heap) :
    heap.Extends (usedOptions flowOptions heap).2 := by
  unfold usedOptions
  cases flowOptions.isObject with
  | true => exact .refl heap
  | false => exact extends_newObject .empty heap

theorem get_givenQueues (flowOptions : Val) (heap : Heap) (name : String) :
    (givenQueues flowOptions heap).get name =
      (ownFields (getField flowOptions "queuesOptions" heap) heap).get name := by
  unfold givenQueues
  rw [spread_get, OrderedMap.get_empty, Option.or_none]
  unfold usedOptions
  cases object : flowOptions.isObject with
  | true => rfl
  | false =>
    have field : getField (newObject .empty heap).1 "queuesOptions" (newObject .empty heap).2 =
        .undefined := getField_of_fieldsOf (fieldsOf_newObject .empty heap) _
    simp only [Bool.false_eq_true, if_false, field]
    rw [getField_of_primitive object]
    rfl

theorem Closed.givenQueue {heap : Heap} (closed : Closed heap) (flowOptions : Val)
    (name : String) :
    Resolved heap (FlowQueues.givenQueue (givenQueues flowOptions heap) name) := by
  unfold FlowQueues.givenQueue
  rw [get_givenQueues]
  cases found : (Heap.ownFields (Heap.getField flowOptions "queuesOptions" heap) heap).get name with
  | none => exact resolved_of_primitive rfl
  | some value => exact closed.ownFields found

/-- Before the loop nothing is met. -/
theorem met_nothing (flowOptions : Val) (defaults : Fields) (heap : Heap) :
    Met heap defaults (givenQueues flowOptions heap) (queuesCell flowOptions heap).1 ∅
      (queuesCell flowOptions heap).2 := by
  have grown := extends_usedOptions flowOptions heap
  refine ⟨[], ⟨?_, grown.trans (Store.extends_alloc _ _), givenQueues flowOptions heap, ?_,
    by simp, fun _ _ => rfl⟩, by simp⟩
  · show heap.size ≤ (usedOptions flowOptions heap).2.size
    unfold usedOptions
    cases flowOptions.isObject with
    | true => exact le_refl _
    | false =>
      have size : (newObject .empty heap).2.size = heap.size + 1 := Store.size_alloc heap _
      simp only [Bool.false_eq_true, if_false]
      omega
  · unfold queuesCell
    rw [Store.read_alloc]
    exact if_pos rfl

section
variable {heap : Heap} {flow flowOptions retention : Val} {defaults : Fields}

theorem visitJob_queues (closed : Closed heap) (known : fieldsOf retention heap = some defaults) :
    Visits (visitJob retention (queuesCell flowOptions heap).1) (Child heap) (Resolved heap)
      (Met heap defaults (givenQueues flowOptions heap) (queuesCell flowOptions heap).1) :=
  visitJob_visits closed known (closed.givenQueue flowOptions)

theorem resolved_single (resolved : Resolved heap flow) : ∀ job ∈ [flow], Resolved heap job := by
  intro job member
  rw [List.mem_singleton.mp member]
  exact resolved

theorem acyclic_of_returned (closed : Closed heap) (known : fieldsOf retention heap = some defaults)
    (resolved : Resolved heap flow) {fuel : Nat} {result : Val × Heap}
    (returned : withFlowJobDefaults fuel flow flowOptions retention heap = some result) :
    Acyclic (Child heap) flow := by
  rw [withFlowJobDefaults_eq (isObject_of_fieldsOf known).2] at returned
  obtain ⟨last, ended, -⟩ := Option.map_eq_some_iff.mp returned
  have accessible := accessible_of_worklist (visitJob_queues closed known)
    (met_nothing flowOptions defaults heap) (resolved_single resolved) ended
  exact acyclic_of_acc (accessible flow List.mem_cons_self)

variable (flowOptions) in
/-- Over an acyclic payload the loop runs empty, and has then met all there is below. -/
theorem loop_of_acyclic (closed : Closed heap) (known : fieldsOf retention heap = some defaults)
    (resolved : Resolved heap flow) (acyclic : Acyclic (Child heap) flow) :
    ∃ enough last,
      (∀ fuel, enough ≤ fuel → worklist (visitJob retention (queuesCell flowOptions heap).1) fuel
        [flow] (queuesCell flowOptions heap).2 = some last) ∧
      Met heap defaults (givenQueues flowOptions heap) (queuesCell flowOptions heap).1
        {reached | Relation.ReflTransGen (Child heap) flow reached} last := by
  have visits : Visits (visitJob retention (queuesCell flowOptions heap).1) _ _ _ :=
    visitJob_queues closed known
  have met := met_nothing flowOptions defaults heap
  have accessible : ∀ job ∈ [flow], Acc (fun below job => Child heap job below) job := by
    intro job member
    rw [List.mem_singleton.mp member]
    exact acc_of_acyclic acyclic (finite_reached heap flow)
  obtain ⟨enough, last, ended⟩ :=
    worklist_ends visits (resolved_single resolved) accessible _ _ met
  have covered := worklist_covers visits met (resolved_single resolved) ended
  rw [Set.empty_union, below_cons, below_nil, Set.union_empty] at covered
  exact ⟨enough, last, fun fuel more => worklist_mono ended more, covered⟩

/-- `withFlowJobDefaults` returns if and only if no object of the payload is reached from itself
through `children`. -/
theorem withFlowJobDefaults_returns_iff (closed : Closed heap)
    (known : fieldsOf retention heap = some defaults) (resolved : Resolved heap flow) :
    (∃ fuel result, withFlowJobDefaults fuel flow flowOptions retention heap = some result) ↔
      Acyclic (Child heap) flow := by
  constructor
  · intro returns
    obtain ⟨fuel, result, returned⟩ := returns
    exact acyclic_of_returned closed known resolved returned
  · intro acyclic
    obtain ⟨enough, last, ended, -⟩ := loop_of_acyclic flowOptions closed known resolved acyclic
    refine ⟨enough, newObject (extendedOptions flowOptions heap last) last, ?_⟩
    rw [withFlowJobDefaults_eq (isObject_of_fieldsOf known).2, ended enough (le_refl _)]
    rfl

end

/-! A job whose child is the job itself. -/

def resolvedIn (size : Nat) : Val → Bool
  | .ref address => decide (address < size)
  | _ => true

theorem closed_of_all {heap : Heap}
    (all : (heap.cells.all fun cell => (valuesOf cell).all (resolvedIn heap.size)) = true) :
    Closed heap := by
  intro address cell stored value member target isRef
  have inCell := List.all_eq_true.mp all cell (List.mem_of_getElem? stored)
  have inside := List.all_eq_true.mp inCell value member
  rw [isRef] at inside
  exact of_decide_eq_true inside

def loopHeap : Heap :=
  ⟨[.object ((OrderedMap.empty.set "queueName" (.string "pages")).set "children" (.ref 1)),
    .array [.ref 0],
    .object (OrderedMap.empty.set "removeOnComplete" (.number (.finite 5)))]⟩

theorem closed_loopHeap : Closed loopHeap := closed_of_all (by decide)

theorem resolved_loopHeap : Resolved loopHeap (.ref 0) := by
  intro address isRef
  cases isRef
  decide

theorem withFlowJobDefaults_returns_iff_loop :
    (∃ fuel result,
      withFlowJobDefaults fuel (.ref 0) .undefined (.ref 2) loopHeap = some result) ↔
      Acyclic (Child loopHeap) (.ref 0) :=
  withFlowJobDefaults_returns_iff closed_loopHeap (fieldsOf_ref rfl) resolved_loopHeap

/-- The loop does not end: the job is pushed again each time it is popped. -/
theorem own_child_never_returns :
    ¬ ∃ fuel result,
      withFlowJobDefaults fuel (.ref 0) .undefined (.ref 2) loopHeap = some result := by
  intro returns
  obtain ⟨fuel, result, returned⟩ := returns
  have acyclic := acyclic_of_returned closed_loopHeap (fieldsOf_ref rfl) resolved_loopHeap returned
  have own : Child loopHeap (.ref 0) (.ref 0) := ⟨[.ref 0], rfl, List.mem_cons_self⟩
  exact acyclic (.ref 0) .refl (.single own)

end NodeRedBull.FlowTraversal
