import NodeRedBull.FlowQueues

/-! The two ways in which `bullmq flow` applies retention defaults give every job of a tree
the same options. -/

namespace NodeRedBull.FlowRetention
open Js Library Heap FlowDefaults FlowTrees FlowQueues

/-! ## `withBulkFlowJobDefaults` -/

/-- What the job is created with: the defaults below its own options. -/
def retained (defaults : Fields) (job : FlowJob) : Options :=
  override defaults.get job.ownOptions

theorem stampFlowJob_spec (children : Val) {retention flow : Val} {defaults fields : Fields}
    {job : FlowJob} {heap : Heap} (known : fieldsOf retention heap = some defaults)
    (found : fieldsOf flow heap = some fields) (described : Describes heap job fields) :
    ∃ copy stamped after, stampFlowJob flow children retention heap = (copy, after) ∧
      heap.Extends after ∧ fieldsOf copy after = some stamped ∧
      Describes after (job.withOptions (retained defaults job)) stamped ∧
      stamped.get "children" = if children = .undefined then fields.get "children"
        else some children := by
  let own := spread (spread .empty retention heap) (getField flow "opts" heap) heap
  let middle := newObject own heap
  let base := (spread .empty flow heap).set "opts" middle.1
  let stamped := if children = .undefined then base else base.set "children" children
  have first : heap.Extends middle.2 := extends_newObject own heap
  have second : middle.2.Extends (newObject stamped middle.2).2 := extends_newObject stamped _
  have copied : ∀ name, (spread .empty flow heap).get name = fields.get name := by
    intro name
    rw [spread_get, ownFields_of_fieldsOf found, OrderedMap.get_empty, Option.or_none]
  have other : ∀ name, name ≠ "children" → stamped.get name = base.get name := by
    intro name different
    by_cases absent : children = .undefined
    · simp only [stamped, if_pos absent]
    · simp only [stamped, if_neg absent]
      rw [OrderedMap.get_set, if_neg different]
  have opts : stamped.get "opts" = some middle.1 := by
    rw [other "opts" (by decide), OrderedMap.get_set, if_pos rfl]
  refine ⟨_, stamped, _, rfl, first.trans second, fieldsOf_newObject stamped _, ?_, ?_⟩
  · refine ⟨?_, own, ?_, ?_⟩
    · intro name
      by_cases special : name = "opts" ∨ name = "children"
      · rw [if_pos special]
        exact (described.others name).trans (if_pos special)
      · rw [if_neg special, other name (fun same => special (.inr same)), OrderedMap.get_set,
          if_neg (fun same => special (.inl same)), copied]
        exact (described.others name).trans (if_neg special)
    · rw [opts]
      exact fieldsOf_mono second (fieldsOf_newObject own heap)
    · show own.get = retained defaults job
      rw [spread_override known, getField_of_fieldsOf found, described.ownOptions]
      rfl
  · by_cases absent : children = .undefined
    · simp only [stamped, if_pos absent, base]
      rw [OrderedMap.get_set, if_neg (by decide), copied]
    · simp only [stamped, if_neg absent]
      rw [OrderedMap.get_set, if_pos rfl]

theorem jobs_forest_cons (child : FlowTree) (rest : List FlowTree) :
    (FlowTree.jobs.forest (child :: rest)).length =
      child.jobs.length + (FlowTree.jobs.forest rest).length := by
  rw [FlowTree.jobs.forest, List.length_append]

mutual

/-- The copy stands for the same tree, with the defaults below the options of every job. -/
theorem withBulkFlowJobDefaults_spec {retention : Val} {defaults : Fields} :
    ∀ (tree : FlowTree) {fuel : Nat} {heap : Heap} {value : Val}, tree.jobs.length ≤ fuel →
      fieldsOf retention heap = some defaults → tree.Represents heap value →
      ∃ copy after, withBulkFlowJobDefaults fuel value retention heap = some (copy, after) ∧
        heap.Extends after ∧ (tree.mapOptions (retained defaults)).Represents after copy
  | .leaf job, 0, _, _, enough, _, _ => absurd enough (by simp [FlowTree.jobs])
  | .parent job children, 0, _, _, enough, _, _ => absurd enough (by simp [FlowTree.jobs])
  | .leaf job, fuel + 1, heap, value, _, known, ⟨fields, found, described, absent⟩ => by
    obtain ⟨copy, stamped, after, result, grown, held, stampedJob, listed⟩ :=
      stampFlowJob_spec .undefined known found described
    refine ⟨copy, after, ?_, grown, stamped, held, stampedJob, ?_⟩
    · simp only [withBulkFlowJobDefaults, (isObject_of_fieldsOf known).2,
        (isObject_of_fieldsOf found).1, getField_of_fieldsOf found, absent, items?_undefined, result]
      rfl
    · rw [listed, if_pos rfl]
      exact absent
  | .parent job children, fuel + 1, heap, value, enough, known,
      ⟨fields, items, found, described, listed, all⟩ => by
    have room : (FlowTree.jobs.forest children).length ≤ fuel := by
      simp only [FlowTree.jobs, List.length_cons] at enough
      omega
    obtain ⟨mapped, between, handled, before, represented⟩ := mapItems_spec children room known all
    have grown : heap.Extends (newArray mapped between).2 :=
      before.trans (extends_newArray mapped between)
    obtain ⟨copy, stamped, after, result, further, held, stampedJob, replaced⟩ :=
      stampFlowJob_spec (newArray mapped between).1 (fieldsOf_mono grown known)
        (fieldsOf_mono grown found) (described.mono grown)
    refine ⟨copy, after, ?_, grown.trans further, stamped, mapped, held, stampedJob, ?_, ?_⟩
    · simp only [withBulkFlowJobDefaults, (isObject_of_fieldsOf known).2,
        (isObject_of_fieldsOf found).1, getField_of_fieldsOf found, listed, handled, result]
      rfl
    · have fresh : (newArray mapped between).1 ≠ .undefined := by simp
      rw [replaced, if_neg fresh]
      exact items?_mono further (items?_array (read_newArray mapped between))
    · exact FlowTree.Represents.forest_mono ((extends_newArray mapped between).trans further)
        represented

theorem mapItems_spec {retention : Val} {defaults : Fields} :
    ∀ (trees : List FlowTree) {fuel : Nat} {heap : Heap} {values : List Val},
      (FlowTree.jobs.forest trees).length ≤ fuel → fieldsOf retention heap = some defaults →
      FlowTree.Represents.forest heap trees values →
      ∃ copies after,
        mapItems (fun child => withBulkFlowJobDefaults fuel child retention) values heap =
          some (copies, after) ∧ heap.Extends after ∧
        FlowTree.Represents.forest after (FlowTree.mapOptions.forest (retained defaults) trees) copies
  | [], _, heap, _, _, _, empty => by
    cases show _ = [] from empty
    exact ⟨[], heap, rfl, .refl heap, rfl⟩
  | child :: rest, fuel, heap, _, enough, known, ⟨first, others, same, head, tail⟩ => by
    cases same
    rw [jobs_forest_cons] at enough
    have roomFirst : child.jobs.length ≤ fuel := by omega
    have roomRest : (FlowTree.jobs.forest rest).length ≤ fuel := by omega
    obtain ⟨copy, between, handled, before, represented⟩ :=
      withBulkFlowJobDefaults_spec child roomFirst known head
    obtain ⟨copies, after, result, further, all⟩ :=
      mapItems_spec rest roomRest (fieldsOf_mono before known)
        (FlowTree.Represents.forest_mono before tail)
    refine ⟨copy :: copies, after, ?_, before.trans further, copy, copies, rfl,
      represented.mono further, all⟩
    simp only [mapItems, handled, result]

end

/-! ## `withFlowJobDefaults` without flow options -/

/-- `options.queuesOptions[name].defaultJobOptions` -/
def queueDefaults (heap : Heap) (options : Val) (name : String) : Options :=
  (ownFields (getField (getField (getField options "queuesOptions" heap) name heap)
    "defaultJobOptions" heap) heap).get

theorem queueDefaults_of_merged {start now : Heap} {defaults given entries : Fields}
    {written : Nat} {options value : Val} {name : String}
    (listed : getField options "queuesOptions" now = .ref written)
    (current : now.read written = some (.object entries)) (found : entries.get name = some value)
    (merged : Merged start defaults given written name now value) :
    queueDefaults now options name = mergedDefaults start defaults given name := by
  obtain ⟨address, inner, own, content, rfl, _, _, held, innerHeld, ownOptions, contents⟩ := merged
  have entry : getField (.ref written) name now = .ref address := by
    rw [getField_object current, found]
    rfl
  have field : getField (.ref address) "defaultJobOptions" now = .ref inner := by
    rw [getField_object held, ownOptions]
    rfl
  rw [queueDefaults, listed, entry, field, ownFields_object innerHeld, contents]

/-- Without flow options every queue of the tree gets just the defaults. -/
theorem withFlowJobDefaults_spec {retention flow : Val} {defaults : Fields} {tree : FlowTree}
    {fuel : Nat} {heap : Heap} (enough : tree.jobs.length ≤ fuel)
    (known : fieldsOf retention heap = some defaults) (represented : tree.Represents heap flow) :
    ∃ options after,
      withFlowJobDefaults fuel flow .undefined retention heap = some (options, after) ∧
      heap.Extends after ∧
      ∀ name ∈ queueNames [tree], queueDefaults after options name = defaults.get := by
  let first := newObject .empty heap
  let given := spread .empty (getField first.1 "queuesOptions" first.2) first.2
  let second := first.2.alloc (.object given)
  have grown : heap.Extends second.2 :=
    (extends_newObject .empty heap).trans (Store.extends_alloc _ _)
  have nothing : ∀ name, given.get name = none := by
    intro name
    have field : getField first.1 "queuesOptions" first.2 = .undefined :=
      getField_of_fieldsOf (fieldsOf_newObject .empty heap) _
    simp only [given, field]
    rfl
  have unset : ∀ name, givenQueue given name = .undefined := by
    intro name
    rw [givenQueue, nothing]
    rfl
  have initial : Traversed heap defaults given second.1 [] second.2 := by
    refine ⟨?_, grown, given, ?_, ⟨by simp, fun _ _ => rfl⟩⟩
    · have size : first.2.size = heap.size + 1 := Store.size_alloc heap _
      show heap.size ≤ first.2.size
      omega
    · rw [Store.read_alloc]
      exact if_pos rfl
  have resolved : ∀ name, Resolved heap (givenQueue given name) := by
    intro name address isRef
    rw [unset] at isRef
    cases isRef
  have inner : ∀ name,
      Resolved heap (getField (givenQueue given name) "defaultJobOptions" heap) := by
    intro name address isRef
    rw [unset] at isRef
    cases isRef
  have room : ([tree].flatMap FlowTree.jobs).length ≤ fuel := by simpa using enough
  obtain ⟨after, names, result, holds, met⟩ :=
    visitPending_spec known resolved inner fuel room (.cons represented .nil) initial
  obtain ⟨entries, current, content⟩ := holds.entries
  let fields := (spread .empty first.1 after).set "queuesOptions" (.ref second.1)
  have extended : after.Extends (newObject fields after).2 := extends_newObject fields after
  refine ⟨(newObject fields after).1, (newObject fields after).2, ?_,
    holds.grown.trans extended, ?_⟩
  · simp only [withFlowJobDefaults, (isObject_of_fieldsOf known).2]
    simp only [Val.isObject, Bool.not_true, Bool.false_eq_true, if_false]
    rw [show visitPending _ _ _ _ _ = some after from result]
    rfl
  · intro name member
    obtain ⟨value, found, merged⟩ := content.merged name ((met name).mpr (.inl member))
    have listed : getField (newObject fields after).1 "queuesOptions" (newObject fields after).2 =
        .ref second.1 := by
      rw [getField_of_fieldsOf (fieldsOf_newObject fields after), OrderedMap.get_set, if_pos rfl]
      rfl
    rw [queueDefaults_of_merged listed (extended _ _ current) found
      (merged.frame fun ref cell _ read => extended ref cell read), mergedDefaults, unset]
    rfl

/-! ## The agreement -/

/-- The tree that BullMQ creates for `add(flow, options)`: a job gets the default options of its
queue below its own. -/
def CreatedByAdd (heap : Heap) (flow options : Val) (created : FlowTree) : Prop :=
  ∃ tree : FlowTree, tree.Represents heap flow ∧
    created = tree.mapOptions fun job =>
      override (queueDefaults heap options job.queueName) job.ownOptions

/-- The trees that BullMQ creates for `addBulk(flows)`: a job gets its own options. -/
def CreatedByAddBulk (heap : Heap) (flows : List Val) (created : List FlowTree) : Prop :=
  ∃ trees, FlowTree.Represents.forest heap trees flows ∧
    created = FlowTree.mapOptions.forest FlowJob.ownOptions trees

/-- What BullMQ creates for a request of the node. -/
def Created (heap : Heap) (request : FlowRequest) (created : List FlowTree) : Prop :=
  match request with
  | .add flow options => ∃ tree, created = [tree] ∧ CreatedByAdd heap flow options tree
  | .addBulk flows => CreatedByAddBulk heap flows created

mutual

theorem mapOptions_congr {left right : FlowJob → Options} :
    ∀ (tree : FlowTree), (∀ job ∈ tree.jobs, left job = right job) →
      tree.mapOptions left = tree.mapOptions right
  | .leaf job, same => by
    rw [FlowTree.mapOptions, FlowTree.mapOptions, same job (by simp [FlowTree.jobs])]
  | .parent job children, same => by
    rw [FlowTree.mapOptions, FlowTree.mapOptions, same job (by simp [FlowTree.jobs]),
      mapOptions_forest_congr children fun other member => same other (by
        rw [FlowTree.jobs]
        exact List.mem_cons_of_mem _ member)]

theorem mapOptions_forest_congr {left right : FlowJob → Options} :
    ∀ (trees : List FlowTree), (∀ job ∈ FlowTree.jobs.forest trees, left job = right job) →
      FlowTree.mapOptions.forest left trees = FlowTree.mapOptions.forest right trees
  | [], _ => rfl
  | child :: rest, same => by
    rw [FlowTree.mapOptions.forest, FlowTree.mapOptions.forest,
      mapOptions_congr child fun job member => same job (by
        rw [FlowTree.jobs.forest]
        exact List.mem_append_left _ member),
      mapOptions_forest_congr rest fun job member => same job (by
        rw [FlowTree.jobs.forest]
        exact List.mem_append_right _ member)]

end

mutual

/-- A job of a stamped tree keeps the options that it was stamped with. -/
theorem mapOptions_ownOptions (change : FlowJob → Options) :
    ∀ tree : FlowTree,
      (tree.mapOptions change).mapOptions FlowJob.ownOptions = tree.mapOptions change
  | .leaf job => rfl
  | .parent job children => by
    rw [FlowTree.mapOptions, FlowTree.mapOptions, mapOptions_forest_ownOptions change children]
    rfl

theorem mapOptions_forest_ownOptions (change : FlowJob → Options) :
    ∀ trees : List FlowTree,
      FlowTree.mapOptions.forest FlowJob.ownOptions (FlowTree.mapOptions.forest change trees) =
        FlowTree.mapOptions.forest change trees
  | [] => rfl
  | child :: rest => by
    rw [FlowTree.mapOptions.forest, FlowTree.mapOptions.forest, mapOptions_ownOptions change child,
      mapOptions_forest_ownOptions change rest]

end

theorem createdByAdd_iff {heap : Heap} {flow options : Val} {defaults : Fields} {tree : FlowTree}
    (represented : tree.Represents heap flow)
    (queues : ∀ name ∈ queueNames [tree], queueDefaults heap options name = defaults.get)
    (created : FlowTree) :
    CreatedByAdd heap flow options created ↔ created = tree.mapOptions (retained defaults) := by
  have same : (tree.mapOptions fun job =>
      override (queueDefaults heap options job.queueName) job.ownOptions) =
      tree.mapOptions (retained defaults) := by
    apply mapOptions_congr
    intro job member
    have listed : job.queueName ∈ queueNames [tree] := by
      rw [queueNames, List.flatMap_cons, List.flatMap_nil, List.append_nil]
      exact List.mem_map_of_mem member
    rw [queues _ listed]
    rfl
  constructor
  · intro given
    obtain ⟨other, stands, rfl⟩ := given
    rw [stands.unique represented]
    exact same
  · intro equal
    exact ⟨tree, represented, equal.trans same.symm⟩

theorem createdByAddBulk_iff {heap : Heap} {copy : Val} {defaults : Fields} {tree : FlowTree}
    (represented : (tree.mapOptions (retained defaults)).Represents heap copy)
    (created : List FlowTree) :
    CreatedByAddBulk heap [copy] created ↔ created = [tree.mapOptions (retained defaults)] := by
  have single : FlowTree.Represents.forest heap [tree.mapOptions (retained defaults)] [copy] :=
    ⟨copy, [], rfl, represented, rfl⟩
  have same : FlowTree.mapOptions.forest FlowJob.ownOptions [tree.mapOptions (retained defaults)] =
      [tree.mapOptions (retained defaults)] := by
    rw [FlowTree.mapOptions.forest, mapOptions_ownOptions]
    rfl
  constructor
  · intro given
    obtain ⟨trees, stand, rfl⟩ := given
    rw [FlowTree.Represents.forest_unique stand single]
    exact same
  · intro equal
    exact ⟨_, single, equal.trans same.symm⟩

/-- The node answers `payload` with a request that changes no object of the message, and for
which BullMQ creates exactly `created`. -/
def Requests (fuel : Nat) (payload flowOptions retention : Val) (heap : Heap)
    (created : FlowTree) : Prop :=
  ∃ request after, flowRequest fuel payload flowOptions retention heap = some (.ok request, after) ∧
    heap.Extends after ∧ ∀ trees, Created after request trees ↔ trees = [created]

theorem fieldsOf_of_represents {heap : Heap} :
    ∀ {tree : FlowTree} {value : Val}, tree.Represents heap value →
      ∃ fields, fieldsOf value heap = some fields
  | .leaf _, _, ⟨fields, found, _⟩ => ⟨fields, found⟩
  | .parent _ _, _, ⟨fields, _, found, _⟩ => ⟨fields, found⟩

theorem items?_of_fieldsOf {value : Val} {heap : Heap} {fields : Fields}
    (found : fieldsOf value heap = some fields) : items? value heap = none := by
  obtain ⟨address, rfl, stored⟩ := fieldsOf_eq_some found
  simp only [items?, cellAt, stored]

theorem single_requests {heap : Heap} {tree : FlowTree} {payload retention : Val}
    {defaults : Fields} {fuel : Nat} (enough : tree.jobs.length ≤ fuel)
    (represented : tree.Represents heap payload)
    (known : fieldsOf retention heap = some defaults) :
    Requests fuel payload .undefined retention heap (tree.mapOptions (retained defaults)) := by
  obtain ⟨fields, found⟩ := fieldsOf_of_represents represented
  obtain ⟨options, after, result, grown, queues⟩ :=
    withFlowJobDefaults_spec enough known represented
  refine ⟨.add payload options, after, ?_, grown, ?_⟩
  · simp only [flowRequest, (isObject_of_fieldsOf found).1, items?_of_fieldsOf found, result]
    rfl
  · intro trees
    have created := createdByAdd_iff (represented.mono grown) queues
    constructor
    · intro given
      obtain ⟨other, rfl, made⟩ := given
      rw [(created other).mp made]
    · intro same
      subst same
      exact ⟨_, rfl, (created _).mpr rfl⟩

theorem bulk_requests {heap : Heap} {tree : FlowTree} {payload list retention : Val}
    {defaults : Fields} {fuel : Nat} (enough : tree.jobs.length ≤ fuel)
    (represented : tree.Represents heap payload) (bundled : items? list heap = some [payload])
    (known : fieldsOf retention heap = some defaults) (flowOptions : Val) :
    Requests fuel list flowOptions retention heap (tree.mapOptions (retained defaults)) := by
  obtain ⟨address, rfl, stored⟩ := items?_eq_some bundled
  obtain ⟨copy, after, result, grown, stamped⟩ :=
    withBulkFlowJobDefaults_spec tree enough known represented
  refine ⟨.addBulk [copy], after, ?_, grown, fun trees => createdByAddBulk_iff stamped trees⟩
  simp only [flowRequest, Val.isObject, bundled, mapItems, result]
  rfl

/-- A tree that is sent alone without flow options and one that is sent in an array are created
alike: every job with the retention defaults below its own options, and all else as it was. -/
theorem retention_paths_agree {heap : Heap} {tree : FlowTree} {payload list retention : Val}
    {defaults : Fields} {fuel : Nat} (enough : tree.jobs.length ≤ fuel)
    (represented : tree.Represents heap payload) (bundled : items? list heap = some [payload])
    (known : fieldsOf retention heap = some defaults) :
    Requests fuel payload .undefined retention heap (tree.mapOptions (retained defaults)) ∧
      ∀ flowOptions,
        Requests fuel list flowOptions retention heap (tree.mapOptions (retained defaults)) :=
  ⟨single_requests enough represented known, bulk_requests enough represented bundled known⟩

/-! A report job above two jobs of another queue, one of which has an option of its own. -/

def countOptions : Fields := OrderedMap.empty.set "removeOnComplete" (.number (.finite 5))

def exampleHeap : Heap :=
  ⟨[.object countOptions,
    .object (OrderedMap.empty.set "removeOnComplete" (.bool true)),
    .object ((OrderedMap.empty.set "queueName" (.string "pages")).set "opts" (.ref 1)),
    .object (OrderedMap.empty.set "queueName" (.string "pages")),
    .array [.ref 2, .ref 3],
    .object ((OrderedMap.empty.set "queueName" (.string "reports")).set "children" (.ref 4)),
    .array [.ref 5]]⟩

def othersOf (fields : Fields) : Options := fun name =>
  if name = "opts" ∨ name = "children" then none else fields.get name

def pageJob (opts : Option Options) : FlowJob where
  queueName := "pages"
  others := othersOf (OrderedMap.empty.set "queueName" (.string "pages"))
  opts := opts
  named := by decide
  nonempty := by decide

def reportJob : FlowJob where
  queueName := "reports"
  others := othersOf (OrderedMap.empty.set "queueName" (.string "reports"))
  opts := none
  named := by decide
  nonempty := by decide

def exampleTree : FlowTree :=
  .parent reportJob
    [.leaf (pageJob (some (OrderedMap.empty.set "removeOnComplete" (.bool true)).get)),
      .leaf (pageJob none)]

theorem othersOf_set {fields : Fields} {name : String} (value : Val)
    (special : name = "opts" ∨ name = "children") (other : String) :
    othersOf fields other =
      if other = "opts" ∨ other = "children" then none else (fields.set name value).get other := by
  unfold othersOf
  by_cases skipped : other = "opts" ∨ other = "children"
  · rw [if_pos skipped, if_pos skipped]
  · have different : other ≠ name := by
      intro same
      rw [same] at skipped
      exact skipped special
    rw [if_neg skipped, if_neg skipped, OrderedMap.get_set, if_neg different]

theorem exampleTree_represents : exampleTree.Represents exampleHeap (.ref 5) := by
  refine ⟨_, [.ref 2, .ref 3], fieldsOf_ref rfl, ⟨?_, rfl⟩, rfl, .ref 2, [.ref 3], rfl, ?_, .ref 3,
    [], rfl, ?_, rfl⟩
  · exact othersOf_set (.ref 4) (.inr rfl)
  · exact ⟨_, fieldsOf_ref rfl, ⟨othersOf_set (.ref 1) (.inl rfl), _, rfl, rfl⟩, rfl⟩
  · exact ⟨_, fieldsOf_ref rfl, ⟨fun _ => rfl, rfl⟩, rfl⟩

theorem retention_paths_agree_reports :
    Requests 3 (.ref 5) .undefined (.ref 0) exampleHeap
        (exampleTree.mapOptions (retained countOptions)) ∧
      ∀ flowOptions, Requests 3 (.ref 6) flowOptions (.ref 0) exampleHeap
        (exampleTree.mapOptions (retained countOptions)) :=
  retention_paths_agree (by decide) exampleTree_represents rfl rfl

end NodeRedBull.FlowRetention
