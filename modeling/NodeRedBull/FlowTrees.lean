import NodeRedBull.FlowDefaults

/-! Flow trees as the caller thinks of them, and the values on the heap that stand for them. -/

namespace NodeRedBull.FlowTrees
open Js Library Heap

/-- Job options, read as a plain key-value map. -/
abbrev Options := String → Option Val

/-- `{ ...defaults, ...own }` -/
def override (defaults own : Options) : Options := fun name => (own name).or (defaults name)

theorem override_idem (defaults own : Options) :
    override defaults (override defaults own) = override defaults own := by
  funext name
  show ((own name).or (defaults name)).or (defaults name) = (own name).or (defaults name)
  rw [Option.or_assoc, Option.or_self]

def noOptions : Options := fun _ => none

/-- One job of a flow tree. `others` has its properties except `opts` and `children`. -/
structure FlowJob where
  queueName : String
  others : Options
  opts : Option Options
  named : others "queueName" = some (.string queueName)
  nonempty : queueName ≠ ""

def FlowJob.ownOptions (job : FlowJob) : Options := job.opts.getD noOptions

def FlowJob.withOptions (job : FlowJob) (options : Options) : FlowJob :=
  { job with opts := some options }

inductive FlowTree where
  | leaf (job : FlowJob)
  | parent (job : FlowJob) (children : List FlowTree)

/-- The jobs of a tree, a job before its children. -/
def FlowTree.jobs : FlowTree → List FlowJob
  | .leaf job => [job]
  | .parent job children => job :: forest children
where
  forest : List FlowTree → List FlowJob
    | [] => []
    | child :: rest => child.jobs ++ forest rest

/-- The same tree with other options for each job. -/
def FlowTree.mapOptions (change : FlowJob → Options) : FlowTree → FlowTree
  | .leaf job => .leaf (job.withOptions (change job))
  | .parent job children => .parent (job.withOptions (change job)) (forest children)
where
  forest : List FlowTree → List FlowTree
    | [] => []
    | child :: rest => child.mapOptions change :: forest rest

/-- Its own properties, where `value` is an object. -/
def fieldsOf (value : Val) (heap : Heap) : Option Fields :=
  match cellAt value heap with
  | some (.object fields) => some fields
  | _ => none

/-- The properties of `job` are `fields`. -/
structure Describes (heap : Heap) (job : FlowJob) (fields : Fields) : Prop where
  others : ∀ name, job.others name =
    if name = "opts" ∨ name = "children" then none else fields.get name
  opts : match job.opts with
    | none => (fields.get "opts").getD .undefined = .undefined
    | some options => ∃ own, fieldsOf ((fields.get "opts").getD .undefined) heap = some own ∧
        own.get = options

/-- `value` is this tree: `children` is absent at a leaf and else an array. -/
def FlowTree.Represents (heap : Heap) : FlowTree → Val → Prop
  | .leaf job, value => ∃ fields, fieldsOf value heap = some fields ∧ Describes heap job fields ∧
      (fields.get "children").getD .undefined = .undefined
  | .parent job children, value => ∃ fields items, fieldsOf value heap = some fields ∧
      Describes heap job fields ∧
      items? ((fields.get "children").getD .undefined) heap = some items ∧ forest children items
where
  forest : List FlowTree → List Val → Prop
    | [], items => items = []
    | child :: rest, items => ∃ first others, items = first :: others ∧
        child.Represents heap first ∧ forest rest others

theorem fieldsOf_ref {heap : Heap} {address : Nat} {fields : Fields}
    (stored : heap.read address = some (.object fields)) :
    fieldsOf (.ref address) heap = some fields := by
  simp only [fieldsOf, cellAt, stored]

theorem fieldsOf_eq_some {value : Val} {heap : Heap} {fields : Fields}
    (found : fieldsOf value heap = some fields) :
    ∃ address, value = .ref address ∧ heap.read address = some (.object fields) := by
  unfold fieldsOf cellAt at found
  cases value with
  | ref address =>
    cases stored : heap.read address with
    | none => simp [stored] at found
    | some cell =>
      cases cell with
      | array items => simp [stored] at found
      | object own =>
        simp only [stored, Option.some.injEq] at found
        exact ⟨address, rfl, by rw [stored, found]⟩
  | _ => cases found

theorem items?_eq_some {value : Val} {heap : Heap} {items : List Val}
    (found : items? value heap = some items) :
    ∃ address, value = .ref address ∧ heap.read address = some (.array items) := by
  unfold items? cellAt at found
  cases value with
  | ref address =>
    cases stored : heap.read address with
    | none => simp [stored] at found
    | some cell =>
      cases cell with
      | object own => simp [stored] at found
      | array held =>
        simp only [stored, Option.some.injEq] at found
        exact ⟨address, rfl, by rw [stored, found]⟩
  | _ => cases found

theorem fieldsOf_mono {before after : Heap} (grown : before.Extends after) {value : Val}
    {fields : Fields} (found : fieldsOf value before = some fields) :
    fieldsOf value after = some fields := by
  obtain ⟨address, rfl, stored⟩ := fieldsOf_eq_some found
  exact fieldsOf_ref (grown address _ stored)

theorem items?_mono {before after : Heap} (grown : before.Extends after) {value : Val}
    {items : List Val} (found : items? value before = some items) :
    items? value after = some items := by
  obtain ⟨address, rfl, stored⟩ := items?_eq_some found
  exact items?_array (grown address _ stored)

theorem getField_of_fieldsOf {value : Val} {heap : Heap} {fields : Fields}
    (found : fieldsOf value heap = some fields) (name : String) :
    getField value name heap = (fields.get name).getD .undefined := by
  obtain ⟨address, rfl, stored⟩ := fieldsOf_eq_some found
  exact getField_object stored name

theorem ownFields_of_fieldsOf {value : Val} {heap : Heap} {fields : Fields}
    (found : fieldsOf value heap = some fields) : ownFields value heap = fields := by
  obtain ⟨address, rfl, stored⟩ := fieldsOf_eq_some found
  exact ownFields_object stored

theorem spread_override {defaults : Fields} {retention value : Val} {heap : Heap}
    (known : fieldsOf retention heap = some defaults) :
    (spread (spread .empty retention heap) value heap).get =
      override defaults.get (ownFields value heap).get := by
  funext name
  rw [spread_get, spread_get, ownFields_of_fieldsOf known, OrderedMap.get_empty, Option.or_none]
  rfl

theorem fieldsOf_newObject (fields : Fields) (heap : Heap) :
    fieldsOf (newObject fields heap).1 (newObject fields heap).2 = some fields :=
  fieldsOf_ref (read_newObject fields heap)

theorem isObject_of_fieldsOf {value : Val} {heap : Heap} {fields : Fields}
    (found : fieldsOf value heap = some fields) : value.isObject = true ∧ value.truthy = true := by
  obtain ⟨address, rfl, _⟩ := fieldsOf_eq_some found
  exact ⟨rfl, rfl⟩

theorem Describes.mono {before after : Heap} (grown : before.Extends after) {job : FlowJob}
    {fields : Fields} (described : Describes before job fields) : Describes after job fields := by
  refine ⟨described.others, ?_⟩
  have opts := described.opts
  cases held : job.opts with
  | none => simpa only [held] using opts
  | some options =>
    simp only [held] at opts
    obtain ⟨own, found, same⟩ := opts
    exact ⟨own, fieldsOf_mono grown found, same⟩

theorem Describes.queueName {heap : Heap} {job : FlowJob} {fields : Fields}
    (described : Describes heap job fields) :
    fields.get "queueName" = some (.string job.queueName) := by
  have held := described.others "queueName"
  rw [if_neg (by decide)] at held
  exact held.symm.trans job.named

/-- What spreading `job.opts` adds. -/
theorem Describes.ownOptions {heap : Heap} {job : FlowJob} {fields : Fields}
    (described : Describes heap job fields) :
    (ownFields ((fields.get "opts").getD .undefined) heap).get = job.ownOptions := by
  have opts := described.opts
  unfold FlowJob.ownOptions
  cases held : job.opts with
  | none =>
    simp only [held] at opts
    rw [opts, ownFields_undefined]
    rfl
  | some options =>
    simp only [held] at opts
    obtain ⟨own, found, same⟩ := opts
    rw [ownFields_of_fieldsOf found]
    exact same

mutual

theorem FlowTree.Represents.mono {before after : Heap} (grown : before.Extends after) :
    ∀ {tree : FlowTree} {value : Val}, tree.Represents before value → tree.Represents after value
  | .leaf _, _, ⟨fields, found, described, absent⟩ =>
    ⟨fields, fieldsOf_mono grown found, described.mono grown, absent⟩
  | .parent _ _, _, ⟨fields, items, found, described, listed, all⟩ =>
    ⟨fields, items, fieldsOf_mono grown found, described.mono grown, items?_mono grown listed,
      FlowTree.Represents.forest_mono grown all⟩

theorem FlowTree.Represents.forest_mono {before after : Heap} (grown : before.Extends after) :
    ∀ {trees : List FlowTree} {values : List Val},
      FlowTree.Represents.forest before trees values → FlowTree.Represents.forest after trees values
  | [], _, empty => empty
  | _ :: _, _, ⟨first, others, same, head, rest⟩ =>
    ⟨first, others, same, head.mono grown, FlowTree.Represents.forest_mono grown rest⟩

end

/-- A description determines its job. -/
theorem Describes.unique {heap : Heap} {left right : FlowJob} {fields : Fields}
    (first : Describes heap left fields) (second : Describes heap right fields) : left = right := by
  have others : left.others = right.others := by
    funext name
    exact (first.others name).trans (second.others name).symm
  have queueName : left.queueName = right.queueName := by
    have same := first.queueName.symm.trans second.queueName
    simpa using same
  have opts : left.opts = right.opts := by
    have one := first.opts
    have two := second.opts
    cases heldLeft : left.opts with
    | none =>
      cases heldRight : right.opts with
      | none => rfl
      | some options =>
        simp only [heldLeft] at one
        simp only [heldRight] at two
        obtain ⟨own, found, _⟩ := two
        rw [one] at found
        cases found
    | some options =>
      simp only [heldLeft] at one
      obtain ⟨own, found, same⟩ := one
      cases heldRight : right.opts with
      | none =>
        simp only [heldRight] at two
        rw [two] at found
        cases found
      | some others =>
        simp only [heldRight] at two
        obtain ⟨other, known, equal⟩ := two
        cases found.symm.trans known
        rw [← same, ← equal]
  cases left
  cases right
  simp_all

mutual

/-- A value stands for at most one tree. -/
theorem FlowTree.Represents.unique {heap : Heap} :
    ∀ {left right : FlowTree} {value : Val}, left.Represents heap value →
      right.Represents heap value → left = right
  | .leaf _, .leaf _, _, ⟨_, found, first, _⟩, ⟨_, known, second, _⟩ => by
    cases found.symm.trans known
    rw [first.unique second]
  | .leaf _, .parent _ _, _, ⟨_, found, _, absent⟩, ⟨_, _, known, _, listed, _⟩ => by
    cases found.symm.trans known
    rw [absent] at listed
    cases listed
  | .parent _ _, .leaf _, _, ⟨_, _, known, _, listed, _⟩, ⟨_, found, _, absent⟩ => by
    cases found.symm.trans known
    rw [absent] at listed
    cases listed
  | .parent _ _, .parent _ _, _, ⟨_, _, found, first, listed, all⟩,
      ⟨_, _, known, second, given, every⟩ => by
    cases found.symm.trans known
    cases listed.symm.trans given
    rw [first.unique second, FlowTree.Represents.forest_unique all every]

theorem FlowTree.Represents.forest_unique {heap : Heap} :
    ∀ {left right : List FlowTree} {values : List Val},
      FlowTree.Represents.forest heap left values → FlowTree.Represents.forest heap right values →
        left = right
  | [], [], _, _, _ => rfl
  | [], _ :: _, _, empty, ⟨_, _, same, _, _⟩ => by
    cases (show _ = [] from empty).symm.trans same
  | _ :: _, [], _, ⟨_, _, same, _, _⟩, empty => by
    cases (show _ = [] from empty).symm.trans same
  | _ :: _, _ :: _, _, ⟨_, _, same, head, rest⟩, ⟨_, _, equal, other, others⟩ => by
    cases same.symm.trans equal
    rw [head.unique other, FlowTree.Represents.forest_unique rest others]

end

end NodeRedBull.FlowTrees
