import NodeRedBull.Js.Value
import NodeRedBull.Library.OrderedMap
import NodeRedBull.Library.Store

/-! Objects and arrays with an identity, for code that shares or could change them. -/

namespace NodeRedBull.Js
open Library

/-- A value that a property or an array element holds. -/
inductive Val where
  | undefined
  | null
  | bool (value : Bool)
  | number (value : JsNumber)
  | string (text : String)
  | ref (address : Nat)
  deriving DecidableEq

abbrev Fields := OrderedMap String Val

inductive Cell where
  | object (fields : Fields)
  | array (items : List Val)

abbrev Heap := Store Cell

namespace Val

def truthy : Val → Bool
  | .undefined | .null => false
  | .bool value => value
  | .number value => !(value.isNaN || decide (value = .finite 0))
  | .string text => decide (text ≠ "")
  | .ref _ => true

/-- `value && typeof value === "object"` -/
def isObject : Val → Bool
  | .ref _ => true
  | _ => false

end Val

namespace Heap

def cellAt (value : Val) (heap : Heap) : Option Cell :=
  match value with
  | .ref address => heap.read address
  | _ => none

/-- `value.name` -/
def getField (value : Val) (name : String) (heap : Heap) : Val :=
  match cellAt value heap with
  | some (.object fields) => (fields.get name).getD .undefined
  | _ => .undefined

/-- The elements, when `Array.isArray(value)`. -/
def items? (value : Val) (heap : Heap) : Option (List Val) :=
  match cellAt value heap with
  | some (.array items) => some items
  | _ => none

/-- Own enumerable properties: of a string and of an array they are the positions. -/
def ownFields (value : Val) (heap : Heap) : Fields :=
  match value, cellAt value heap with
  | _, some (.object fields) => fields
  | _, some (.array items) => positions items
  | .string text, _ => positions (text.toList.map fun c => .string (String.singleton c))
  | _, _ => .empty
where
  positions (items : List Val) : Fields :=
    items.zipIdx.foldl (fun fields item => fields.set (toString item.2) item.1) .empty

/-- `{ ...target, ...value }` -/
def spread (target : Fields) (value : Val) (heap : Heap) : Fields :=
  target.merge (ownFields value heap)

def newObject (fields : Fields) (heap : Heap) : Val × Heap :=
  let (address, heap) := heap.alloc (.object fields)
  (.ref address, heap)

def newArray (items : List Val) (heap : Heap) : Val × Heap :=
  let (address, heap) := heap.alloc (.array items)
  (.ref address, heap)

/-- `object[name] = value` on an object -/
def setField (address : Nat) (name : String) (value : Val) (heap : Heap) : Heap :=
  heap.modify address fun cell =>
    match cell with
    | .object fields => .object (fields.set name value)
    | .array items => .array items

theorem getField_object {heap : Heap} {address : Nat} {fields : Fields}
    (stored : heap.read address = some (.object fields)) (name : String) :
    getField (.ref address) name heap = (fields.get name).getD .undefined := by
  simp only [getField, cellAt, stored]

theorem ownFields_object {heap : Heap} {address : Nat} {fields : Fields}
    (stored : heap.read address = some (.object fields)) :
    ownFields (.ref address) heap = fields := by
  simp only [ownFields, cellAt, stored]

@[simp] theorem ownFields_undefined (heap : Heap) : ownFields .undefined heap = .empty := rfl

theorem items?_array {heap : Heap} {address : Nat} {items : List Val}
    (stored : heap.read address = some (.array items)) : items? (.ref address) heap = some items := by
  simp only [items?, cellAt, stored]

@[simp] theorem items?_undefined (heap : Heap) : items? .undefined heap = none := rfl

@[simp] theorem newObject_fst (fields : Fields) (heap : Heap) :
    (newObject fields heap).1 = .ref heap.size := rfl

@[simp] theorem newArray_fst (items : List Val) (heap : Heap) :
    (newArray items heap).1 = .ref heap.size := rfl

theorem read_newObject (fields : Fields) (heap : Heap) :
    (newObject fields heap).2.read heap.size = some (.object fields) := by
  simp [newObject, Store.read_alloc]

theorem read_newArray (items : List Val) (heap : Heap) :
    (newArray items heap).2.read heap.size = some (.array items) := by
  simp [newArray, Store.read_alloc]

theorem extends_newObject (fields : Fields) (heap : Heap) : heap.Extends (newObject fields heap).2 :=
  Store.extends_alloc heap _

theorem extends_newArray (items : List Val) (heap : Heap) : heap.Extends (newArray items heap).2 :=
  Store.extends_alloc heap _

theorem spread_get (target : Fields) (value : Val) (heap : Heap) (name : String) :
    (spread target value heap).get name = ((ownFields value heap).get name).or (target.get name) :=
  OrderedMap.get_merge target _ name

end Heap

end NodeRedBull.Js
