import NodeRedBull.Serialization

/-! What of a flow tree that BullMQ returned reaches a Node-RED message
(`lib/serialization.js`): the tree itself, with every job reduced to its known fields. -/

namespace NodeRedBull.FlowSerialization
open Js Serialization

/-- A flow tree as a FlowProducer returns it: what stands in the place of a tree may be
undefined, and the `children` of a tree may be no array. -/
inductive FlowTree (α : Type) where
  | absent
  | leaf (job : α)
  | node (job : α) (children : List (FlowTree α))

namespace FlowTree

variable {α β : Type}

mutual

def map (change : α → β) : FlowTree α → FlowTree β
  | .absent => .absent
  | .leaf job => .leaf (change job)
  | .node job children => .node (change job) (mapTrees change children)

def mapTrees (change : α → β) : List (FlowTree α) → List (FlowTree β)
  | [] => []
  | tree :: rest => tree.map change :: mapTrees change rest

end

mutual

/-- How many jobs a tree has. -/
def count : FlowTree α → Nat
  | .absent => 0
  | .leaf _ => 1
  | .node _ children => 1 + countTrees children

def countTrees : List (FlowTree α) → Nat
  | [] => 0
  | tree :: rest => tree.count + countTrees rest

end

/-- A tree without its jobs. -/
def shape (tree : FlowTree α) : FlowTree Unit := tree.map fun _ => ()

mutual

theorem count_map (change : α → β) (tree : FlowTree α) : (tree.map change).count = tree.count := by
  cases tree with
  | absent => rfl
  | leaf job => rfl
  | node job children => rw [map, count, count, countTrees_mapTrees change children]

theorem countTrees_mapTrees (change : α → β) (trees : List (FlowTree α)) :
    countTrees (mapTrees change trees) = countTrees trees := by
  cases trees with
  | nil => rfl
  | cons tree rest =>
    rw [mapTrees, countTrees, countTrees, count_map change tree, countTrees_mapTrees change rest]

end

mutual

theorem shape_map (change : α → β) (tree : FlowTree α) : (tree.map change).shape = tree.shape := by
  cases tree with
  | absent => rfl
  | leaf job => rfl
  | node job children =>
    unfold shape
    rw [map, map, map, shapes_mapTrees change children]

theorem shapes_mapTrees (change : α → β) (trees : List (FlowTree α)) :
    mapTrees (fun _ => ()) (mapTrees change trees) = mapTrees (fun _ => ()) trees := by
  cases trees with
  | nil => rfl
  | cons tree rest =>
    have first : (tree.map change).map (fun _ => ()) = tree.map fun _ => () := shape_map change tree
    rw [mapTrees, mapTrees, mapTrees, first, shapes_mapTrees change rest]

end

end FlowTree

/-- A JobNode of BullMQ; its jobs are live objects, or undefined. -/
abbrev FlowJob := FlowTree (Option Nat)

/-- A job that BullMQ returned, serialized as it is now. -/
def serializeRef (jobAt : Nat → JsValue) : Option Nat → JsValue
  | some job => serializeJob (jobAt job)
  | none => .undefined

/-- What `serializeFlowJob` makes of a tree that is there. -/
def jobNode (job children : JsValue) : JsValue := .object [("job", job), ("children", children)]

mutual

def serializeFlowJob (jobAt : Nat → JsValue) : FlowJob → JsValue
  | .absent => .undefined
  | .leaf job => jobNode (serializeRef jobAt job) .undefined
  | .node job children =>
    jobNode (serializeRef jobAt job) (.array (serializeFlowJobs jobAt children))

/-- `flowJobs.map(serializeFlowJob)` -/
def serializeFlowJobs (jobAt : Nat → JsValue) : List FlowJob → List JsValue
  | [] => []
  | flow :: rest => serializeFlowJob jobAt flow :: serializeFlowJobs jobAt rest

end

mutual

/-- Only what the jobs of a tree serialize to is seen of them. -/
theorem serializeFlowJob_congr {jobAt other : Nat → JsValue}
    (same : ∀ job, serializeRef jobAt job = serializeRef other job) (flow : FlowJob) :
    serializeFlowJob jobAt flow = serializeFlowJob other flow := by
  cases flow with
  | absent => rfl
  | leaf job => rw [serializeFlowJob, serializeFlowJob, same job]
  | node job children =>
    rw [serializeFlowJob, serializeFlowJob, same job, serializeFlowJobs_congr same children]

theorem serializeFlowJobs_congr {jobAt other : Nat → JsValue}
    (same : ∀ job, serializeRef jobAt job = serializeRef other job) (flows : List FlowJob) :
    serializeFlowJobs jobAt flows = serializeFlowJobs other flows := by
  cases flows with
  | nil => rfl
  | cons flow rest =>
    rw [serializeFlowJobs, serializeFlowJobs, serializeFlowJob_congr same flow,
      serializeFlowJobs_congr same rest]

end

/-! ## Reading a message back as a tree -/

mutual

/-- The tree in a message: an object is a job with its `children`. -/
def treeOf : JsValue → FlowTree JsValue
  | .object fields =>
    match childrenOf fields with
    | some children => .node (JsValue.field fields "job") children
    | none => .leaf (JsValue.field fields "job")
  | _ => .absent

def childrenOf : List (String × JsValue) → Option (List (FlowTree JsValue))
  | [] => none
  | (name, value) :: rest => if name = "children" then arrayOf value else childrenOf rest

def arrayOf : JsValue → Option (List (FlowTree JsValue))
  | .array items => some (treesOf items)
  | _ => none

def treesOf : List JsValue → List (FlowTree JsValue)
  | [] => []
  | item :: rest => treeOf item :: treesOf rest

end

theorem treeOf_leaf (job : JsValue) : treeOf (jobNode job .undefined) = .leaf job := by
  simp [jobNode, treeOf, childrenOf, arrayOf, JsValue.field]

theorem treeOf_node (job : JsValue) (items : List JsValue) :
    treeOf (jobNode job (.array items)) = .node job (treesOf items) := by
  simp [jobNode, treeOf, childrenOf, arrayOf, JsValue.field]

mutual

/-- A serialized tree is the tree BullMQ returned, with its jobs serialized. -/
theorem treeOf_serializeFlowJob (jobAt : Nat → JsValue) (flow : FlowJob) :
    treeOf (serializeFlowJob jobAt flow) = flow.map (serializeRef jobAt) := by
  cases flow with
  | absent => rfl
  | leaf job => rw [serializeFlowJob, treeOf_leaf, FlowTree.map]
  | node job children =>
    rw [serializeFlowJob, treeOf_node, FlowTree.map, treesOf_serializeFlowJobs jobAt children]

theorem treesOf_serializeFlowJobs (jobAt : Nat → JsValue) (flows : List FlowJob) :
    treesOf (serializeFlowJobs jobAt flows) = FlowTree.mapTrees (serializeRef jobAt) flows := by
  cases flows with
  | nil => rfl
  | cons flow rest =>
    rw [serializeFlowJobs, treesOf, FlowTree.mapTrees, treeOf_serializeFlowJob jobAt flow,
      treesOf_serializeFlowJobs jobAt rest]

end

end NodeRedBull.FlowSerialization
