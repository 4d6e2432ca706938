import NodeRedBull.Connections
import NodeRedBull.Js.Trim
import NodeRedBull.Library.Results

/-! The exits of `parseEndpoint` for a text, in their order. -/

namespace NodeRedBull.Endpoints
open Js Library Connections

def emptyEndpoint : JsError := newError "Redis endpoint cannot be empty"

def invalidEndpoint (text : String) : JsError := newError ("Invalid Redis endpoint: " ++ text)

def unsupportedProtocol (protocol : String) : JsError :=
  newError ("Unsupported Redis endpoint protocol: " ++ protocol)

def credentialsInUrl : JsError :=
  newError ("Redis endpoint URLs cannot include credentials; " ++
    "use the config node credential fields")

def tlsMismatch (protocol tlsName : String) (secure : Bool) : JsError :=
  newError (protocol ++ "// endpoint requires " ++ tlsName ++ " to be " ++
    (if secure then "enabled" else "disabled"))

def noHost (text : String) : JsError := newError ("Redis endpoint requires a host: " ++ text)

variable (platform : Platform) (text : String) (defaultPort : Port) (tls : Option Bool)
variable (tlsName : String)

def secureUrl (url : ParsedUrl) : Bool := decide (url.protocol = "rediss:")

def urlHost (url : ParsedUrl) : String := String.ofList (stripBrackets url.hostname.toList)

/-- What is made of the URL of a text. -/
def ofUrl (url : ParsedUrl) : Except JsError Endpoint :=
  if url.protocol ≠ "redis:" ∧ url.protocol ≠ "rediss:" then
    .error (unsupportedProtocol url.protocol)
  else if url.username ≠ "" ∨ url.password ≠ "" then .error credentialsInUrl
  else if (hasScheme text.toList && tls == some (!secureUrl url)) = true then
    .error (tlsMismatch url.protocol tlsName (secureUrl url))
  else if urlHost url = "" then .error (noHost text)
  else (toPort (.string url.port) defaultPort).map fun port => ⟨urlHost url, port⟩

/-- The text that the URL class gets. -/
def urlText : String := if hasScheme text.toList then text else "redis://" ++ text

/-- What is made of a text without whitespace at its ends. -/
def ofText : Except JsError Endpoint :=
  if text = "" then .error emptyEndpoint
  else if isIP text = true then .ok ⟨text, defaultPort⟩
  else
    match platform.url (urlText text) with
    | none => .error (invalidEndpoint text)
    | some url => ofUrl text defaultPort tls tlsName url

theorem orElse_empty_toText (text : String) :
    ((JsValue.string text).orElse (.string "")).toText = text := by
  unfold JsValue.orElse
  by_cases empty : text = "" <;> simp [JsValue.truthy, JsValue.toText, empty]

theorem parseEndpoint_text : parseEndpoint platform (.string text) defaultPort tls tlsName =
    ofText platform (trimText text) defaultPort tls tlsName := by
  unfold parseEndpoint ofText
  rw [orElse_empty_toText]
  by_cases empty : trimText text = ""
  · simp only [JsValue.isObject, Bool.false_eq_true, ↓reduceIte, empty]
    rfl
  by_cases address : isIP (trimText text) = true
  · simp only [JsValue.isObject, Bool.false_eq_true, ↓reduceIte, empty, address]
    rfl
  simp only [JsValue.isObject, Bool.false_eq_true, ↓reduceIte, empty, address]
  unfold urlText
  cases platform.url (if hasScheme (trimText text).toList = true then trimText text
      else "redis://" ++ trimText text) with
  | none => rfl
  | some url =>
    unfold ofUrl secureUrl urlHost
    dsimp only
    by_cases other : url.protocol ≠ "redis:" ∧ url.protocol ≠ "rediss:"
    · rw [if_pos other, if_pos other]
      rfl
    rw [if_neg other, if_neg other]
    by_cases secret : url.username ≠ "" ∨ url.password ≠ ""
    · rw [if_pos secret, if_pos secret]
      rfl
    rw [if_neg secret, if_neg secret]
    by_cases mismatch : (hasScheme (trimText text).toList &&
        tls == some (!decide (url.protocol = "rediss:"))) = true
    · rw [if_pos mismatch, if_pos mismatch]
      rfl
    rw [if_neg mismatch, if_neg mismatch]
    by_cases blank : String.ofList (stripBrackets url.hostname.toList) = ""
    · rw [if_pos blank, if_pos blank]
      rfl
    rw [if_neg blank, if_neg blank]
    rfl

/-- Whitespace around the text makes no difference. -/
theorem parseEndpoint_trim :
    parseEndpoint platform (.string (trimText text)) defaultPort tls tlsName =
      parseEndpoint platform (.string text) defaultPort tls tlsName := by
  rw [parseEndpoint_text, parseEndpoint_text, trimText_trimText]

/-! ## Errors -/

/-- Two messages that begin differently. -/
theorem message_ne {left right : String} (count : Nat) (rest other : String)
    (differ : count ≤ left.toList.length ∧ count ≤ right.toList.length ∧
      left.toList.take count ≠ right.toList.take count) :
    newError (left ++ rest) ≠ newError (right ++ other) := by
  obtain ⟨long, other_long, differ⟩ := differ
  intro same
  have messages := congrArg (fun error => error.message.toList.take count) same
  simp only [newError, String.toList_append, List.take_append_of_le_length long,
    List.take_append_of_le_length other_long] at messages
  exact differ messages

/-- How a text that is not blank is rejected. -/
inductive Rejection : JsError → Prop where
  | invalid : Rejection (invalidEndpoint text)
  | protocol (name : String) : Rejection (unsupportedProtocol name)
  | credentials : Rejection credentialsInUrl
  | tls (url : ParsedUrl) (known : url.protocol = "redis:" ∨ url.protocol = "rediss:") :
      Rejection (tlsMismatch url.protocol tlsName (secureUrl url))
  | host : Rejection (noHost text)
  | port (value : String) : Rejection (newError ("Invalid " ++ "Redis" ++ " port: " ++ value))

theorem toPort_error {value : JsValue} {label : String} {error : JsError}
    (failed : toPort value defaultPort label = .error error) :
    error = newError ("Invalid " ++ label ++ " port: " ++ value.toText) := by
  unfold toPort at failed
  split at failed
  · cases failed
  · split at failed
    · split at failed
      · cases failed
      · cases failed
        rfl
    · cases failed
      rfl

variable {platform text defaultPort tls tlsName}

theorem ofUrl_error {url : ParsedUrl} {error : JsError}
    (failed : ofUrl text defaultPort tls tlsName url = .error error) :
    Rejection text tlsName error := by
  unfold ofUrl at failed
  by_cases other : url.protocol ≠ "redis:" ∧ url.protocol ≠ "rediss:"
  · rw [if_pos other] at failed
    cases failed
    exact .protocol _
  rw [if_neg other] at failed
  by_cases secret : url.username ≠ "" ∨ url.password ≠ ""
  · rw [if_pos secret] at failed
    cases failed
    exact .credentials
  rw [if_neg secret] at failed
  by_cases mismatch : (hasScheme text.toList && tls == some (!secureUrl url)) = true
  · rw [if_pos mismatch] at failed
    cases failed
    apply Rejection.tls url
    by_cases plain : url.protocol = "redis:"
    · exact .inl plain
    · exact .inr (not_not.mp fun secure => other ⟨plain, secure⟩)
  rw [if_neg mismatch] at failed
  by_cases blank : urlHost url = ""
  · rw [if_pos blank] at failed
    cases failed
    exact .host
  rw [if_neg blank] at failed
  rw [toPort_error defaultPort (map_eq_error_iff.mp failed)]
  exact .port _

theorem ofText_error {error : JsError} (some : text ≠ "")
    (failed : ofText platform text defaultPort tls tlsName = .error error) :
    Rejection text tlsName error := by
  unfold ofText at failed
  rw [if_neg some] at failed
  by_cases address : isIP text = true
  · rw [if_pos address] at failed
    cases failed
  rw [if_neg address] at failed
  cases parsed : platform.url (urlText text) with
  | none =>
    rw [parsed] at failed
    cases failed
    exact .invalid
  | some url =>
    rw [parsed] at failed
    exact ofUrl_error failed

/-- No text but a blank one is rejected as empty. -/
theorem Rejection.ne_empty {error : JsError} (rejection : Rejection text tlsName error) :
    error ≠ emptyEndpoint := by
  have empty : emptyEndpoint = newError ("Redis endpoint cannot be empty" ++ "") := rfl
  rw [empty]
  cases rejection with
  | invalid => exact message_ne 1 _ _ (by decide)
  | protocol name => exact message_ne 1 _ _ (by decide)
  | credentials => decide
  | tls url known =>
    unfold tlsMismatch
    rcases known with plain | secure
    · rw [plain]
      simp only [String.append_assoc]
      exact message_ne 1 _ _ (by decide)
    · rw [secure]
      simp only [String.append_assoc]
      exact message_ne 1 _ _ (by decide)
  | host => exact message_ne 16 _ _ (by decide)
  | port value => exact message_ne 1 _ _ (by decide)

end NodeRedBull.Endpoints
