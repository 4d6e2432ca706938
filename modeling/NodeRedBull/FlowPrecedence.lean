import NodeRedBull.FlowTraversal

/-! The options that `withFlowJobDefaults` returns: for every queue of the tree the retention
defaults below what the flow options say, and all else as the flow options have it. -/

namespace NodeRedBull.FlowPrecedence
open Js Library Heap Worklist FlowDefaults FlowTrees FlowQueues FlowTraversal

/-! ## Flow options as plain maps -/

def without (special : String) (options : Options) : Options := fun name =>
  if name = special then none else options name

/-- What flow options say: of each queue its default job options and the others, and the options
that are not about queues. -/
@[ext] structure FlowOptions where
  others : Options
  listed : Set String
  queue : String → Options
  defaults : String → Options

/-- `options.queuesOptions[name]` -/
def queueEntry (options : Val) (name : String) (heap : Heap) : Option Val :=
  (ownFields (getField options "queuesOptions" heap) heap).get name

def optionsOf (options : Val) (heap : Heap) : FlowOptions where
  others := without "queuesOptions" (ownFields options heap).get
  listed := {name | (queueEntry options name heap).isSome}
  queue name := without "defaultJobOptions"
    (ownFields ((queueEntry options name heap).getD .undefined) heap).get
  defaults name := (ownFields (getField ((queueEntry options name heap).getD .undefined)
    "defaultJobOptions" heap) heap).get

open scoped Classical in
/-- The documented precedence. -/
noncomputable def FlowOptions.above (given : FlowOptions) (defaults : Options)
    (names : Set String) : FlowOptions where
  others := given.others
  listed := given.listed ∪ names
  queue := given.queue
  defaults name :=
    if name ∈ names then override defaults (given.defaults name) else given.defaults name

/-- The queues that occur anywhere in the tree. -/
def queuesBelow (heap : Heap) (flow : Val) : Set String :=
  {name | ∃ reached, Relation.ReflTransGen (Child heap) flow reached ∧ Names heap reached name}

theorem without_override (given : Options) (merged : Val) :
    without "defaultJobOptions" (override given (onlyDefaults merged)) =
      without "defaultJobOptions" given := by
  funext name
  unfold without
  by_cases special : name = "defaultJobOptions"
  · rw [if_pos special, if_pos special]
  · rw [if_neg special, if_neg special]
    unfold override onlyDefaults
    rw [if_neg special]
    rfl

theorem without_set (special : String) (value : Val) (fields : Fields) :
    without special (fields.set special value).get = without special fields.get := by
  funext name
  unfold without
  by_cases same : name = special
  · rw [if_pos same, if_pos same]
  · rw [if_neg same, if_neg same, OrderedMap.get_set, if_neg same]

/-! ## What is returned -/

/-- The call returns `result`, whatever fuel beyond some bound the model gives it. -/
def Returns (flow flowOptions retention : Val) (heap : Heap) (result : Val × Heap) : Prop :=
  ∃ enough, ∀ fuel, enough ≤ fuel →
    withFlowJobDefaults fuel flow flowOptions retention heap = some result

theorem Returns.unique {flow flowOptions retention : Val} {heap : Heap}
    {first second : Val × Heap} (one : Returns flow flowOptions retention heap first)
    (two : Returns flow flowOptions retention heap second) : first = second := by
  obtain ⟨enough, returned⟩ := one
  obtain ⟨more, again⟩ := two
  have both := (returned (max enough more) (le_max_left _ _)).symm.trans
    (again (max enough more) (le_max_right _ _))
  exact Option.some.inj both

section
variable {heap : Heap} {flow flowOptions retention : Val} {defaults : Fields}

/-- The entries of the returned `queuesOptions`. -/
structure Returned (heap : Heap) (flow flowOptions : Val) (defaults : Fields) (result : Val)
    (after : Heap) : Prop where
  grown : heap.Extends after
  others : without "queuesOptions" (ownFields result after).get =
    without "queuesOptions" (ownFields flowOptions heap).get
  named : ∀ name ∈ queuesBelow heap flow, ∃ value written,
    queueEntry result name after = some value ∧
      Merged heap defaults (givenQueues flowOptions heap) written name after value
  unnamed : ∀ name, name ∉ queuesBelow heap flow →
    queueEntry result name after = queueEntry flowOptions name heap

theorem queueEntry_eq (flowOptions : Val) (heap : Heap) (name : String) :
    (queueEntry flowOptions name heap).getD .undefined =
      givenQueue (givenQueues flowOptions heap) name := by
  rw [givenQueue, get_givenQueues]
  rfl

theorem returned_of_met {last : Heap} (object : flowOptions.isObject = true)
    (inside : Resolved heap flowOptions)
    (met : Met heap defaults (givenQueues flowOptions heap) (queuesCell flowOptions heap).1
      {reached | Relation.ReflTransGen (Child heap) flow reached} last) :
    Returned heap flow flowOptions defaults
      (newObject (extendedOptions flowOptions heap last) last).1
      (newObject (extendedOptions flowOptions heap last) last).2 := by
  obtain ⟨names, traversed, same⟩ := met
  obtain ⟨entries, stored, content⟩ := traversed.entries
  let fields := extendedOptions flowOptions heap last
  have further : last.Extends (newObject fields last).2 := extends_newObject fields last
  have used : (usedOptions flowOptions heap).1 = flowOptions := by
    unfold usedOptions
    rw [object]
    rfl
  have queues : getField (newObject fields last).1 "queuesOptions" (newObject fields last).2 =
      .ref (queuesCell flowOptions heap).1 := by
    rw [getField_of_fieldsOf (fieldsOf_newObject fields last)]
    show ((OrderedMap.set _ "queuesOptions" _).get "queuesOptions").getD _ = _
    rw [OrderedMap.get_set, if_pos rfl]
    rfl
  have entry : ∀ name,
      queueEntry (newObject fields last).1 name (newObject fields last).2 = entries.get name := by
    intro name
    unfold queueEntry
    rw [queues, ownFields_object (further _ _ stored)]
  refine ⟨traversed.grown.trans further, ?_, ?_, ?_⟩
  · rw [ownFields_of_fieldsOf (fieldsOf_newObject fields last)]
    show without "queuesOptions" (OrderedMap.set _ "queuesOptions" _).get = _
    rw [without_set, used]
    congr 1
    funext name
    rw [spread_get, OrderedMap.get_empty, Option.or_none, ownFields_mono traversed.grown inside]
  · intro name below
    obtain ⟨value, found, merged⟩ := content.merged name ((same name).mpr below)
    refine ⟨value, (queuesCell flowOptions heap).1, (entry name).trans found, ?_⟩
    exact merged.frame fun ref cell _ read => further ref cell read
  · intro name absent
    have skipped : name ∉ names := fun member => absent ((same name).mp member)
    exact (entry name).trans ((content.untouched name skipped).trans
      (get_givenQueues flowOptions heap name))

theorem Returned.listed {result : Val} {after : Heap}
    (returned : Returned heap flow flowOptions defaults result after) (name : String) :
    (queueEntry result name after).isSome ↔
      (queueEntry flowOptions name heap).isSome ∨ name ∈ queuesBelow heap flow := by
  by_cases below : name ∈ queuesBelow heap flow
  · obtain ⟨value, written, found, -⟩ := returned.named name below
    rw [found]
    exact ⟨fun _ => .inr below, fun _ => rfl⟩
  · rw [returned.unnamed name below]
    exact ⟨.inl, fun either => either.resolve_right below⟩

theorem Returned.queue {result : Val} {after : Heap} (closed : Closed heap)
    (returned : Returned heap flow flowOptions defaults result after) (name : String) :
    without "defaultJobOptions"
        (ownFields ((queueEntry result name after).getD .undefined) after).get =
      without "defaultJobOptions"
        (ownFields ((queueEntry flowOptions name heap).getD .undefined) heap).get := by
  by_cases below : name ∈ queuesBelow heap flow
  · obtain ⟨value, written, found, address, inner, own, merged, isRef, -, -, held, -, options, -⟩ :=
      returned.named name below
    rw [found, queueEntry_eq, isRef]
    simp only [Option.getD_some]
    rw [ownFields_object held, options, without_override]
  · rw [returned.unnamed name below, queueEntry_eq,
      ownFields_mono returned.grown (closed.givenQueue flowOptions name)]

theorem Returned.defaultsNamed {result : Val} {after : Heap} {name : String}
    (returned : Returned heap flow flowOptions defaults result after)
    (below : name ∈ queuesBelow heap flow) :
    (ownFields (getField ((queueEntry result name after).getD .undefined) "defaultJobOptions"
        after) after).get =
      override defaults.get (ownFields (getField ((queueEntry flowOptions name heap).getD
        .undefined) "defaultJobOptions" heap) heap).get := by
  obtain ⟨value, written, found, address, inner, own, merged, isRef, -, -, held, innerHeld, options,
    content⟩ := returned.named name below
  have field : getField (.ref address) "defaultJobOptions" after = .ref inner := by
    rw [getField_object held, options]
    rfl
  rw [found, queueEntry_eq, isRef]
  simp only [Option.getD_some]
  rw [field, ownFields_object innerHeld]
  exact content

theorem Returned.defaultsUnnamed {result : Val} {after : Heap} {name : String}
    (closed : Closed heap) (returned : Returned heap flow flowOptions defaults result after)
    (absent : name ∉ queuesBelow heap flow) :
    (ownFields (getField ((queueEntry result name after).getD .undefined) "defaultJobOptions"
        after) after).get =
      (ownFields (getField ((queueEntry flowOptions name heap).getD .undefined)
        "defaultJobOptions" heap) heap).get := by
  rw [returned.unnamed name absent, queueEntry_eq,
    getField_mono returned.grown (closed.givenQueue flowOptions name),
    ownFields_mono returned.grown (closed.getField _ _)]

theorem Returned.above {result : Val} {after : Heap} (closed : Closed heap)
    (returned : Returned heap flow flowOptions defaults result after) :
    optionsOf result after =
      (optionsOf flowOptions heap).above defaults.get (queuesBelow heap flow) := by
  apply FlowOptions.ext
  · exact returned.others
  · ext name
    exact returned.listed name
  · funext name
    exact returned.queue closed name
  · funext name
    unfold FlowOptions.above
    by_cases below : name ∈ queuesBelow heap flow
    · simp only [if_pos below]
      exact returned.defaultsNamed below
    · simp only [if_neg below]
      exact returned.defaultsUnnamed closed below

theorem returned_of_acyclic (closed : Closed heap) (known : fieldsOf retention heap = some defaults)
    (resolved : Resolved heap flow) (acyclic : Acyclic (Child heap) flow)
    (object : flowOptions.isObject = true) (inside : Resolved heap flowOptions) :
    ∃ result, Returns flow flowOptions retention heap result ∧
      Returned heap flow flowOptions defaults result.1 result.2 := by
  obtain ⟨enough, last, ended, met⟩ :=
    loop_of_acyclic flowOptions closed known resolved acyclic
  refine ⟨_, ⟨enough, fun fuel more => ?_⟩, returned_of_met object inside met⟩
  rw [withFlowJobDefaults_eq (isObject_of_fieldsOf known).2, ended fuel more]
  rfl

theorem Returns.returned {result : Val × Heap} (closed : Closed heap)
    (known : fieldsOf retention heap = some defaults) (resolved : Resolved heap flow)
    (object : flowOptions.isObject = true) (inside : Resolved heap flowOptions)
    (returns : Returns flow flowOptions retention heap result) :
    Returned heap flow flowOptions defaults result.1 result.2 := by
  obtain ⟨enough, returned⟩ := returns
  have acyclic := acyclic_of_returned closed known resolved (returned enough (le_refl _))
  obtain ⟨other, again, facts⟩ :=
    returned_of_acyclic closed known resolved acyclic object inside
  rw [Returns.unique ⟨enough, returned⟩ again]
  exact facts

/-- `withFlowJobDefaults` returns the flow options with the retention defaults of the tree's queues
below theirs, and changes no object there was. Nothing else about the tree matters: any other tree
that names the same queues gets the same options. -/
theorem withFlowJobDefaults_precedence (closed : Closed heap)
    (known : fieldsOf retention heap = some defaults) (resolved : Resolved heap flow)
    (acyclic : Acyclic (Child heap) flow) (object : flowOptions.isObject = true)
    (inside : Resolved heap flowOptions) :
    ∃ result after, Returns flow flowOptions retention heap (result, after) ∧
      heap.Extends after ∧
      optionsOf result after =
        (optionsOf flowOptions heap).above defaults.get (queuesBelow heap flow) ∧
      (∀ name, name ∉ queuesBelow heap flow →
        queueEntry result name after = queueEntry flowOptions name heap) ∧
      ∀ other last, Resolved heap other → queuesBelow heap other = queuesBelow heap flow →
        Returns other flowOptions retention heap last →
        optionsOf last.1 last.2 = optionsOf result after := by
  obtain ⟨result, returns, returned⟩ :=
    returned_of_acyclic closed known resolved acyclic object inside
  refine ⟨result.1, result.2, returns, returned.grown, returned.above closed, returned.unnamed, ?_⟩
  intro other last otherResolved same again
  have twin := again.returned closed known otherResolved object inside
  rw [twin.above closed, returned.above closed, same]

end

/-! An `alpha` job with a `beta` child, and flow options that say something of `alpha`. -/

def keepingHeap : Heap :=
  ⟨[.object ((OrderedMap.empty.set "removeOnComplete" (.number (.finite 1000))).set "removeOnFail"
      (.number (.finite 5000))),
    .object (OrderedMap.empty.set "removeOnComplete" (.number (.finite 25))),
    .object (OrderedMap.empty.set "defaultJobOptions" (.ref 1)),
    .object (OrderedMap.empty.set "alpha" (.ref 2)),
    .object (OrderedMap.empty.set "queuesOptions" (.ref 3)),
    .object (OrderedMap.empty.set "queueName" (.string "beta")),
    .array [.ref 5],
    .object ((OrderedMap.empty.set "queueName" (.string "alpha")).set "children" (.ref 6))]⟩

theorem resolved_keepingHeap {address : Nat} (inside : address < 8) :
    Resolved keepingHeap (.ref address) := by
  intro other isRef
  cases isRef
  exact inside

theorem acyclic_keepingHeap : Acyclic (Child keepingHeap) (.ref 7) := by
  apply acyclic_of_acc
  refine ⟨_, fun child down => ⟨_, fun below further => ?_⟩⟩
  obtain ⟨items, listed, member⟩ := down
  have single : [Val.ref 5] = items := Option.some.inj listed
  rw [← single, List.mem_singleton] at member
  subst member
  obtain ⟨items, listed, -⟩ := further
  have absent : items? (getField (.ref 5) "children" keepingHeap) keepingHeap = none := rfl
  rw [absent] at listed
  cases listed

theorem withFlowJobDefaults_precedence_alpha :
    ∃ result after, Returns (.ref 7) (.ref 4) (.ref 0) keepingHeap (result, after) ∧
      keepingHeap.Extends after ∧
      optionsOf result after = (optionsOf (.ref 4) keepingHeap).above
        ((OrderedMap.empty.set "removeOnComplete" (.number (.finite 1000))).set "removeOnFail"
          (.number (.finite 5000))).get (queuesBelow keepingHeap (.ref 7)) ∧
      (∀ name, name ∉ queuesBelow keepingHeap (.ref 7) →
        queueEntry result name after = queueEntry (.ref 4) name keepingHeap) ∧
      ∀ other last, Resolved keepingHeap other →
        queuesBelow keepingHeap other = queuesBelow keepingHeap (.ref 7) →
        Returns other (.ref 4) (.ref 0) keepingHeap last →
        optionsOf last.1 last.2 = optionsOf result after :=
  withFlowJobDefaults_precedence (closed_of_all (by decide)) (fieldsOf_ref rfl)
    (resolved_keepingHeap (by decide)) acyclic_keepingHeap rfl (resolved_keepingHeap (by decide))

end NodeRedBull.FlowPrecedence
