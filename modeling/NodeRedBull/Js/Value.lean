import NodeRedBull.Js.Number

/-! JavaScript values as the nodes meet them: plain data from saved flows, messages and
BullMQ replies, and the errors that are thrown or handed to a callback. -/

namespace NodeRedBull.Js

/-- The constructors of the errors this package creates or tells apart. -/
inductive ErrorClass where
  | error
  | typeError
  | unrecoverableError
  | delayedError
  | waitingError
  | rateLimitError
  | schemaMigrationRequiredError
  | schemaVersionMismatchError
  | unsupportedPostgresVersionError
  deriving DecidableEq, Repr

structure JsError where
  class_ : ErrorClass
  message : String
  deriving DecidableEq, Repr

def newError (message : String) : JsError := ⟨.error, message⟩

def newTypeError (message : String) : JsError := ⟨.typeError, message⟩

/-- `err.name`; BullMQ's own classes pass their class name. -/
def JsError.name (error : JsError) : String :=
  match error.class_ with
  | .error => "Error"
  | .rateLimitError => "RateLimitError"
  | .typeError => "TypeError"
  | .unrecoverableError => "UnrecoverableError"
  | .delayedError => "DelayedError"
  | .waitingError => "WaitingError"
  | .schemaMigrationRequiredError => "SchemaMigrationRequiredError"
  | .schemaVersionMismatchError => "SchemaVersionMismatchError"
  | .unsupportedPostgresVersionError => "UnsupportedPostgresVersionError"

/-- `String(err)` -/
def JsError.toText (error : JsError) : String :=
  if error.message = "" then error.name else error.name ++ ": " ++ error.message

/-- Objects list their own enumerable properties in order. -/
inductive JsValue where
  | undefined
  | null
  | bool (value : Bool)
  | number (value : JsNumber)
  | string (text : String)
  | array (items : List JsValue)
  | object (fields : List (String × JsValue))
  | error (error : JsError)

namespace JsValue

def truthy : JsValue → Bool
  | .undefined | .null => false
  | .bool value => value
  | .number value => !(value.isNaN || decide (value = .finite 0))
  | .string text => decide (text ≠ "")
  | .array _ | .object _ | .error _ => true

/-- `left || right` -/
def orElse (left right : JsValue) : JsValue := if left.truthy then left else right

def isPresent : JsValue → Bool
  | .undefined | .null => false
  | .string text => decide (text ≠ "")
  | _ => true

def isUndefined : JsValue → Bool
  | .undefined => true
  | _ => false

def isArray : JsValue → Bool
  | .array _ => true
  | _ => false

/-- `typeof value === "object" && value !== null` -/
def isObject : JsValue → Bool
  | .array _ | .object _ | .error _ => true
  | _ => false

def field (fields : List (String × JsValue)) (name : String) : JsValue :=
  ((fields.find? (fun entry => decide (entry.1 = name))).map Prod.snd).getD .undefined

/-- `value.name` for a value that is neither null nor undefined. -/
def get (value : JsValue) (name : String) : JsValue :=
  match value with
  | .object fields => field fields name
  | .error thrown =>
    if name = "message" then .string thrown.message
    else if name = "name" then .string thrown.name
    else .undefined
  | _ => .undefined

/-- `value && value.name` -/
def andGet (value : JsValue) (name : String) : JsValue :=
  if value.truthy then value.get name else value

/-- `left !== undefined ? left : right` -/
def orIfUndefined (left right : JsValue) : JsValue := if left.isUndefined then right else left

/-- `left === right` where one side is known to be a string. -/
def sameString : JsValue → JsValue → Bool
  | .string left, .string right => decide (left = right)
  | _, _ => false

def hasOwn (value : JsValue) (name : String) : Bool :=
  match value with
  | .object fields => fields.any (fun entry => decide (entry.1 = name))
  | .error _ => decide (name = "message")
  | _ => false

def set (value : JsValue) (name : String) (stored : JsValue) : JsValue :=
  match value with
  | .object fields =>
    if fields.any (fun entry => decide (entry.1 = name)) then
      .object (fields.map fun entry => if entry.1 = name then (name, stored) else entry)
    else .object (fields ++ [(name, stored)])
  | other => other

def delete (value : JsValue) (name : String) : JsValue :=
  match value with
  | .object fields => .object (fields.filter fun entry => decide (entry.1 ≠ name))
  | other => other

mutual

/-- `String(value)`; joining an array leaves null and undefined elements empty. -/
def toText : JsValue → String
  | .undefined => "undefined"
  | .null => "null"
  | .bool value => if value then "true" else "false"
  | .number value => String.ofList value.toChars
  | .string text => text
  | .array items => ",".intercalate (elementTexts items)
  | .object _ => "[object Object]"
  | .error thrown => thrown.toText

def elementTexts : List JsValue → List String
  | [] => []
  | .undefined :: rest | .null :: rest => "" :: elementTexts rest
  | item :: rest => item.toText :: elementTexts rest

end

/-- `Number(value)` -/
def toNumber : JsValue → JsNumber
  | .undefined => .nan
  | .null => .finite 0
  | .bool value => .finite (if value then 1 else 0)
  | .number value => value
  | .string text => JsNumber.parse text.toList
  | .array items => JsNumber.parse (JsValue.array items).toText.toList
  | .object _ | .error _ => .nan

/-- What counts as a missing setting. -/
theorem eq_of_absent {value : JsValue} (absent : value.isPresent = false) :
    value = .undefined ∨ value = .null ∨ value = .string "" := by
  cases value with
  | undefined => exact .inl rfl
  | null => exact .inr (.inl rfl)
  | string text =>
    have blank : text = "" := by simpa [isPresent] using absent
    rw [blank]
    exact .inr (.inr rfl)
  | _ => cases absent

end JsValue

def ofNat (n : Nat) : JsValue := .number (JsNumber.ofNat n)

def trimText (text : String) : String := String.ofList (JsNumber.trim text.toList)

/-- The lower case of one character. Besides the ASCII letters only the Kelvin sign and the
dotted capital I have lower cases with ASCII letters in them; the other letters outside ASCII
are kept, which no comparison here can see. -/
def lowerChar (c : Char) : List Char :=
  if c = Char.ofNat 0x212a then ['k']
  else if c = Char.ofNat 0x130 then ['i', Char.ofNat 0x307]
  else [c.toLower]

def toLowerCase (text : String) : String := String.ofList (text.toList.flatMap lowerChar)

end NodeRedBull.Js
