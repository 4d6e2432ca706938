import NodeRedBull.Js.Heap

/-! How the `bullmq flow` node brings the retention defaults of its queue to every job of a
flow tree (`bull-queue.js`). -/

namespace NodeRedBull.FlowDefaults
open Js Library Heap

def mapItems (change : Val → Heap → Option (Val × Heap)) :
    List Val → Heap → Option (List Val × Heap)
  | [], heap => some ([], heap)
  | item :: rest, heap =>
    match change item heap with
    | none => none
    | some (first, heap) =>
      match mapItems change rest heap with
      | none => none
      | some (others, heap) => some (first :: others, heap)

/-- The object that `withBulkFlowJobDefaults` returns, for children already handled. -/
def stampFlowJob (flow children defaultJobOptions : Val) (heap : Heap) : Val × Heap :=
  let copy := spread .empty flow heap
  let (opts, heap) := newObject
    (spread (spread .empty defaultJobOptions heap) (getField flow "opts" heap) heap) heap
  let stamped := copy.set "opts" opts
  newObject (if children = .undefined then stamped else stamped.set "children" children) heap

/-- `withBulkFlowJobDefaults`; the fuel bounds the depth of the recursion. -/
def withBulkFlowJobDefaults : Nat → Val → Val → Heap → Option (Val × Heap)
  | 0, _, _, _ => none
  | fuel + 1, flow, defaultJobOptions, heap =>
    if !defaultJobOptions.truthy || !flow.isObject then some (flow, heap)
    else
      match items? (getField flow "children" heap) heap with
      | some items =>
        match mapItems (fun child => withBulkFlowJobDefaults fuel child defaultJobOptions) items
            heap with
        | none => none
        | some (mapped, heap) =>
          let (children, heap) := newArray mapped heap
          some (stampFlowJob flow children defaultJobOptions heap)
      | none => some (stampFlowJob flow (getField flow "children" heap) defaultJobOptions heap)

def mergeQueueOptions (defaultJobOptions queueOptions : Val) (heap : Heap) : Val × Heap :=
  let copy := spread .empty queueOptions heap
  let (defaults, heap) := newObject (spread (spread .empty defaultJobOptions heap)
    (getField queueOptions "defaultJobOptions" heap) heap) heap
  newObject (copy.set "defaultJobOptions" defaults) heap

def addQueueDefaults (defaultJobOptions : Val) (queuesOptions : Nat) (job : Val) (heap : Heap) :
    Heap :=
  match getField job "queueName" heap with
  | .string name =>
    if name = "" then heap
    else
      let found := getField (.ref queuesOptions) name heap
      let (queueOptions, heap) := if found.truthy then (found, heap) else newObject .empty heap
      let (options, heap) := mergeQueueOptions defaultJobOptions queueOptions heap
      setField queuesOptions name options heap
  | _ => heap

/-- The loop of `withFlowJobDefaults`, its first `if` being `addQueueDefaults`. The job pushed last is
first in `pending`. -/
def visitPending (defaultJobOptions : Val) (queuesOptions : Nat) :
    Nat → List Val → Heap → Option Heap
  | _, [], heap => some heap
  | 0, _ :: _, _ => none
  | fuel + 1, job :: pending, heap =>
    if !job.isObject then visitPending defaultJobOptions queuesOptions fuel pending heap
    else
      let visited := addQueueDefaults defaultJobOptions queuesOptions job heap
      let children := (items? (getField job "children" visited) visited).getD []
      visitPending defaultJobOptions queuesOptions fuel (children.reverse ++ pending) visited

def withFlowJobDefaults (fuel : Nat) (flow flowOptions defaultJobOptions : Val) (heap : Heap) :
    Option (Val × Heap) :=
  if !defaultJobOptions.truthy then some (flowOptions, heap)
  else
    let (options, heap) :=
      if flowOptions.isObject then (flowOptions, heap) else newObject .empty heap
    let (queuesOptions, heap) :=
      heap.alloc (.object (spread .empty (getField options "queuesOptions" heap) heap))
    (visitPending defaultJobOptions queuesOptions fuel [flow] heap).map fun heap =>
      newObject ((spread .empty options heap).set "queuesOptions" (.ref queuesOptions)) heap

inductive FlowRequest where
  | add (flow options : Val)
  | addBulk (flows : List Val)

/-- `onInput` of a `bullmq flow` node up to its BullMQ call. -/
def flowRequest (fuel : Nat) (payload flowOptions retention : Val) (heap : Heap) :
    Option (Except JsError FlowRequest × Heap) :=
  if !payload.isObject then
    some (.error (newError
      ("bullmq flow requires msg.payload to contain a flow tree, or an array of flow trees")), heap)
  else
    match items? payload heap with
    | some [] => some (.error (newError "bullmq flow requires at least one flow tree"), heap)
    | some flows =>
      (mapItems (fun flow => withBulkFlowJobDefaults fuel flow retention) flows heap).map
        fun result => (.ok (.addBulk result.1), result.2)
    | none =>
      (withFlowJobDefaults fuel payload flowOptions retention heap).map
        fun result => (.ok (.add payload result.1), result.2)

end NodeRedBull.FlowDefaults
