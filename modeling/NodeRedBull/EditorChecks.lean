import NodeRedBull.Js.Decimal
import NodeRedBull.NumericSettings

/-! The validators of the edit dialogs (`bull-queue.html`) against the checks of the runtime. -/

namespace NodeRedBull.EditorChecks
open Js Library Connections NumericSettings

/-! ## The `bullmq run` node -/

/-- `value == null` -/
def isNull : JsValue → Bool
  | .undefined | .null => true
  | _ => false

def positiveInteger (value : JsValue) : Bool :=
  let parsed := value.toNumber
  !value.sameString (.string "") && parsed.isInteger && parsed.positive

def isBlank (value : JsValue) : Bool := value.sameString (.string "") || isNull value

def optionalPositivePair (value other : JsValue) : Bool :=
  isBlank value && isBlank other || positiveInteger value && positiveInteger other

/-- The validators of a saved `bullmq run` node, while its dialog is closed. -/
def validRunNode (n : JsValue) : Bool :=
  positiveInteger (n.get "concurrency") && positiveInteger (n.get "maxStartedAttempts") &&
    optionalPositivePair (n.get "limiterMax") (n.get "limiterDuration") &&
    optionalPositivePair (n.get "limiterDuration") (n.get "limiterMax")

/-- The options with the numbers as they are written. -/
def writtenOptions (backend : Backend) (n : JsValue) : WorkerOptions where
  concurrency := some (n.get "concurrency").toNumber
  maxStartedAttempts := some (n.get "maxStartedAttempts").toNumber
  limiter :=
    if (n.get "limiterMax").isPresent then
      some { max := some (n.get "limiterMax").toNumber
             duration := some (n.get "limiterDuration").toNumber }
    else none
  autorun := if backend = .postgres then some false else none

theorem isBlank_eq (value : JsValue) : isBlank value = !value.isPresent := by
  cases value with
  | string text =>
    by_cases empty : text = ""
    · rw [empty]
      rfl
    · simp [isBlank, JsValue.sameString, isNull, JsValue.isPresent, empty]
  | _ => rfl

theorem positive_of_integer {number : JsNumber} (integer : number.isInteger = true) :
    number.positive = !number.lt (JsNumber.ofNat 1) := by
  cases number with
  | nan => cases integer
  | infinity negative => cases integer
  | finite value =>
    have whole : (value.num : ℚ) = value :=
      Rat.coe_int_num_of_den_eq_one (of_decide_eq_true integer)
    have same : ((0 : Nat) : ℚ) < value ↔ ¬ value < ((1 : Nat) : ℚ) := by
      rw [← whole]
      norm_cast
      omega
    change decide (((0 : Nat) : ℚ) < value) = !decide (value < ((1 : Nat) : ℚ))
    rw [decide_eq_decide.mpr same, decide_not]

theorem not_sameString_of_present {value : JsValue} (present : value.isPresent = true) :
    value.sameString (.string "") = false := by
  cases value with
  | string text => exact decide_eq_false (of_decide_eq_true present)
  | _ => rfl

/-- The editor and the runtime accept the same numbers. -/
theorem positiveInteger_iff (value : JsValue) (defaultValue : Option JsNumber) (field : String) :
    positiveInteger value = true ↔
      value.isPresent = true ∧
        parsePositiveInteger value defaultValue field = .ok (some value.toNumber) := by
  cases present : value.isPresent with
  | false =>
    have refused : positiveInteger value = false := by
      rcases JsValue.eq_of_absent present with nothing | null | blank
      · rw [nothing]
        rfl
      · rw [null]
        decide
      · rw [blank]
        rfl
    rw [refused]
    exact iff_of_false Bool.false_ne_true fun both => Bool.false_ne_true both.1
  | true =>
    rw [and_iff_right rfl]
    unfold positiveInteger parsePositiveInteger
    dsimp only
    rw [not_sameString_of_present present, present, Bool.not_true, if_neg Bool.false_ne_true,
      Bool.not_false, Bool.true_and]
    cases integer : value.toNumber.isInteger with
    | false => exact iff_of_false Bool.false_ne_true (by intro accepted; cases accepted)
    | true =>
      rw [positive_of_integer integer]
      cases value.toNumber.lt (JsNumber.ofNat 1) with
      | false => exact iff_of_true rfl rfl
      | true => exact iff_of_false Bool.false_ne_true (by intro accepted; cases accepted)

theorem optionalPositivePair_comm (value other : JsValue) :
    optionalPositivePair value other = optionalPositivePair other value := by
  unfold optionalPositivePair
  rw [Bool.and_comm (isBlank value), Bool.and_comm (positiveInteger value)]

theorem positiveInteger_absent {value : JsValue} (absent : value.isPresent = false) :
    positiveInteger value = false := by
  cases accepted : positiveInteger value with
  | false => rfl
  | true =>
    rw [((positiveInteger_iff value none "").mp accepted).1] at absent
    cases absent

/-- Both parts of the limiter, or none. -/
theorem optionalPositivePair_iff (n : JsValue) :
    optionalPositivePair (n.get "limiterMax") (n.get "limiterDuration") = true ↔
      parseLimiter n = .ok (writtenOptions .redis n).limiter := by
  have max := positiveInteger_iff (n.get "limiterMax") none "Limiter Max"
  have duration := positiveInteger_iff (n.get "limiterDuration") none "Limiter Duration"
  unfold optionalPositivePair parseLimiter writtenOptions
  rw [isBlank_eq, isBlank_eq]
  dsimp only
  cases hasMax : (n.get "limiterMax").isPresent with
  | false =>
    rw [positiveInteger_absent hasMax]
    cases hasDuration : (n.get "limiterDuration").isPresent with
    | false => exact iff_of_true rfl rfl
    | true => exact iff_of_false Bool.false_ne_true (by intro accepted; cases accepted)
  | true =>
    cases hasDuration : (n.get "limiterDuration").isPresent with
    | false =>
      rw [positiveInteger_absent hasDuration, Bool.and_false]
      exact iff_of_false Bool.false_ne_true (by intro accepted; cases accepted)
    | true =>
      rw [hasMax, and_iff_right rfl] at max
      rw [hasDuration, and_iff_right rfl] at duration
      rw [Bool.not_true, Bool.false_and, Bool.false_or, Bool.and_eq_true, max, duration]
      cases first : parsePositiveInteger (n.get "limiterMax") none "Limiter Max" with
      | error thrown =>
        apply iff_of_false
        · intro both
          cases both.1
        · intro accepted
          cases accepted
      | ok most =>
        cases second : parsePositiveInteger (n.get "limiterDuration") none "Limiter Duration" with
        | error thrown =>
          apply iff_of_false
          · intro both
            cases both.2
          · intro accepted
            cases accepted
        | ok time =>
          change _ ↔ Except.ok (some (Limiter.mk most time)) = Except.ok (some (Limiter.mk
            (some (n.get "limiterMax").toNumber) (some (n.get "limiterDuration").toNumber)))
          rw [Except.ok.injEq, Except.ok.injEq, Except.ok.injEq, Option.some.injEq,
            Limiter.mk.injEq]

/-- The editor marks a node as valid if and only if it names both counts and the runtime accepts
it, with the numbers as they are written. -/
theorem validRunNode_iff (backend : Backend) (n : JsValue) :
    validRunNode n = true ↔
      (n.get "concurrency").isPresent = true ∧ (n.get "maxStartedAttempts").isPresent = true ∧
        workerOptions backend n = .ok (writtenOptions backend n) := by
  have concurrency := positiveInteger_iff (n.get "concurrency") (some (JsNumber.ofNat 1)) "Concurrency"
  have attempts := positiveInteger_iff (n.get "maxStartedAttempts") (some (JsNumber.ofNat 100))
    "Max Started Attempts"
  have limiter := optionalPositivePair_iff n
  unfold validRunNode
  rw [optionalPositivePair_comm (n.get "limiterDuration"), Bool.and_assoc, Bool.and_self,
    Bool.and_eq_true, Bool.and_eq_true, concurrency, attempts, limiter]
  constructor
  · intro valid
    obtain ⟨⟨⟨named, first⟩, ⟨limited, second⟩⟩, third⟩ := valid
    refine ⟨named, limited, ?_⟩
    unfold workerOptions
    rw [first, second, third]
    rfl
  · intro accepted
    obtain ⟨named, limited, options⟩ := accepted
    obtain ⟨count, first, rest⟩ := bind_eq_ok options
    obtain ⟨most, second, rest⟩ := bind_eq_ok rest
    obtain ⟨limits, third, found⟩ := bind_eq_ok rest
    have whole := Except.ok.inj found
    have same_count : count = some (n.get "concurrency").toNumber :=
      congrArg WorkerOptions.concurrency whole
    have same_most : most = some (n.get "maxStartedAttempts").toNumber :=
      congrArg WorkerOptions.maxStartedAttempts whole
    have same_limits : limits = (writtenOptions .redis n).limiter :=
      congrArg WorkerOptions.limiter whole
    rw [same_count] at first
    rw [same_most] at second
    rw [same_limits] at third
    exact ⟨⟨⟨named, first⟩, ⟨limited, second⟩⟩, third⟩

/-! ## The queue configuration -/

/-- `/^\d+$/.test(value)` -/
def isDigits (value : JsValue) : Bool :=
  let text := value.toText.toList
  !text.isEmpty && text.all Char.isDigit

def validateKeepCount (value : JsValue) : Bool := value.sameString (.string "") || isDigits value

/-- `number >= 1` -/
def isAtLeastOne (number : JsNumber) : Bool := !number.isNaN && !number.lt (JsNumber.ofNat 1)

def validatePoolMax (value : JsValue) : Bool :=
  if value.sameString (.string "") || isNull value then true
  else isDigits value && isAtLeastOne value.toNumber

/-- The validator of `max`: only PostgreSQL is held to it. -/
def validMax (n : JsValue) : Bool :=
  !(n.get "backend").sameString (.string "postgres") || validatePoolMax (n.get "max")

/-- The validators of a saved `bullmq-queue-server` node that are its own. -/
def validQueueServer (n : JsValue) : Bool :=
  validateKeepCount (n.get "removeOnComplete") && validateKeepCount (n.get "removeOnFail") &&
    validMax n

/-- Digits are a natural number, or too many of them. -/
theorem number_of_digits {text : String} (digits : isDigits (.string text) = true) :
    (∃ count : Nat, JsNumber.parse text.toList = JsNumber.ofNat count) ∨
      JsNumber.parse text.toList = .infinity false := by
  have both := Bool.and_eq_true_iff.mp digits
  have nonempty : text.toList ≠ [] := by
    intro empty
    have given := both.1
    change (!text.toList.isEmpty) = true at given
    rw [empty] at given
    cases given
  rw [JsNumber.parse_allDigits nonempty (List.all_eq_true.mp both.2)]
  rcases Nat.eq_zero_or_pos (JsNumber.digitsValue 10 text.toList) with zero | positive
  · rw [zero]
    exact .inl ⟨0, JsNumber.roundToDouble_natCast (by decide)⟩
  · rcases JsNumber.roundToDouble_nat positive with rounded | beyond
    · obtain ⟨count, -, same⟩ := rounded
      exact .inl ⟨count, same⟩
    · exact .inr beyond

theorem toKeepCount_written {text : String} (name : String) (written : text ≠ "") :
    toKeepCount (.string text) name =
      if !(JsNumber.parse text.toList).isInteger ||
          (JsNumber.parse text.toList).lt (JsNumber.ofNat 0) then
        .error (newError (name ++ " must be a non-negative whole number of jobs to keep"))
      else .ok (some (JsNumber.parse text.toList)) := by
  have number : (JsValue.string text).toNumber = JsNumber.parse text.toList := rfl
  unfold toKeepCount
  rw [isPresent_text written, Bool.not_true, if_neg Bool.false_ne_true, number]

theorem toPoolMax_written {text : String} (written : text ≠ "") :
    toPoolMax (.string text) =
      if !(JsNumber.parse text.toList).isInteger ||
          (JsNumber.parse text.toList).lt (JsNumber.ofNat 1) then
        .error (newError "PostgreSQL pool max must be a positive whole number of connections")
      else .ok (JsNumber.parse text.toList) := by
  have number : (JsValue.string text).toNumber = JsNumber.parse text.toList := rfl
  unfold toPoolMax
  rw [isPresent_text written, Bool.not_true, if_neg Bool.false_ne_true, number]

theorem isInteger_ofNat (count : Nat) : (JsNumber.ofNat count).isInteger = true :=
  decide_eq_true (Rat.den_natCast count)

/-- The runtime keeps what the editor accepts, unless it is too large for a number. -/
theorem toKeepCount_of_valid {text : String} (name : String)
    (valid : validateKeepCount (.string text) = true) :
    (∃ count, toKeepCount (.string text) name = .ok count) ↔
      (JsNumber.parse text.toList).isFinite = true := by
  by_cases empty : text = ""
  · rw [empty]
    exact iff_of_true ⟨none, rfl⟩ rfl
  have digits : isDigits (.string text) = true := by
    rcases Bool.or_eq_true_iff.mp valid with blank | digits
    · exact absurd (of_decide_eq_true blank) empty
    · exact digits
  rw [toKeepCount_written name empty]
  rcases number_of_digits digits with whole | beyond
  · obtain ⟨count, same⟩ := whole
    have least : ¬ (count : ℚ) < ((0 : Nat) : ℚ) := by
      rw [Nat.cast_zero]
      exact not_lt.mpr (Nat.cast_nonneg count)
    have large : (JsNumber.ofNat count).lt (JsNumber.ofNat 0) = false := decide_eq_false least
    rw [same, isInteger_ofNat, large]
    exact iff_of_true ⟨_, rfl⟩ rfl
  · rw [beyond]
    apply iff_of_false
    · intro kept
      obtain ⟨count, kept⟩ := kept
      cases kept
    · exact Bool.false_ne_true

theorem toPoolMax_of_valid {text : String} (valid : validatePoolMax (.string text) = true) :
    (∃ max, toPoolMax (.string text) = .ok max) ↔
      (JsNumber.parse text.toList).isFinite = true := by
  by_cases empty : text = ""
  · rw [empty]
    exact iff_of_true ⟨_, rfl⟩ rfl
  have blank : ((JsValue.string text).sameString (.string "") || isNull (.string text)) = false := by
    rw [Bool.or_eq_false_iff]
    exact ⟨decide_eq_false empty, rfl⟩
  unfold validatePoolMax at valid
  rw [blank, if_neg Bool.false_ne_true, Bool.and_eq_true] at valid
  obtain ⟨digits, least⟩ := valid
  change isAtLeastOne (JsNumber.parse text.toList) = true at least
  rw [toPoolMax_written empty]
  rcases number_of_digits digits with whole | beyond
  · obtain ⟨count, same⟩ := whole
    rw [same] at least ⊢
    have large : (JsNumber.ofNat count).lt (JsNumber.ofNat 1) = false := by
      rw [isAtLeastOne, Bool.and_eq_true] at least
      simpa using least.2
    rw [isInteger_ofNat, large]
    exact iff_of_true ⟨_, rfl⟩ rfl
  · rw [beyond]
    apply iff_of_false
    · intro kept
      obtain ⟨count, kept⟩ := kept
      cases kept
    · exact Bool.false_ne_true

theorem buildDefaultJobOptions_ok_iff (config : JsValue) :
    (∃ defaults, buildDefaultJobOptions config = .ok defaults) ↔
      (∃ count, toKeepCount (config.get "removeOnComplete") "removeOnComplete" = .ok count) ∧
        ∃ count, toKeepCount (config.get "removeOnFail") "removeOnFail" = .ok count := by
  constructor
  · intro built
    obtain ⟨defaults, built⟩ := built
    obtain ⟨complete, first, rest⟩ := bind_eq_ok built
    obtain ⟨failed, second, _⟩ := bind_eq_ok rest
    exact ⟨⟨complete, first⟩, ⟨failed, second⟩⟩
  · intro both
    obtain ⟨⟨complete, first⟩, ⟨failed, second⟩⟩ := both
    unfold buildDefaultJobOptions
    rw [first, second]
    exact ⟨_, rfl⟩

section
variable {n : JsValue} {complete failed max : String}

/-- What the editor accepts in the fields that it validates itself, the runtime accepts too: only a
number beyond all doubles is rejected later. -/
theorem validQueueServer_accepted (completed : n.get "removeOnComplete" = .string complete)
    (removed : n.get "removeOnFail" = .string failed) (pool : n.get "max" = .string max)
    (valid : validQueueServer n = true) :
    ((∃ defaults, buildDefaultJobOptions n = .ok defaults) ↔
      (JsNumber.parse complete.toList).isFinite = true ∧
        (JsNumber.parse failed.toList).isFinite = true) ∧
      ((n.get "backend").sameString (.string "postgres") = true →
        ((∃ size, toPoolMax (n.get "max") = .ok size) ↔
          (JsNumber.parse max.toList).isFinite = true)) := by
  unfold validQueueServer at valid
  rw [Bool.and_eq_true, Bool.and_eq_true, completed, removed] at valid
  obtain ⟨⟨first, second⟩, third⟩ := valid
  constructor
  · rw [buildDefaultJobOptions_ok_iff, completed, removed, toKeepCount_of_valid _ first,
      toKeepCount_of_valid _ second]
  · intro postgres
    unfold validMax at third
    rw [postgres, Bool.not_true, Bool.false_or, pool] at third
    rw [pool]
    exact toPoolMax_of_valid third

end

def savedServer : JsValue :=
  .object [("name", .string "orders"), ("backend", .string "postgres"), ("max", .string "4"),
    ("removeOnComplete", .string "0100"), ("removeOnFail", .string "")]

theorem validQueueServer_accepted_postgres :
    ((∃ defaults, buildDefaultJobOptions savedServer = .ok defaults) ↔
      (JsNumber.parse "0100".toList).isFinite = true ∧
        (JsNumber.parse "".toList).isFinite = true) ∧
      ((savedServer.get "backend").sameString (.string "postgres") = true →
        ((∃ size, toPoolMax (savedServer.get "max") = .ok size) ↔
          (JsNumber.parse "4".toList).isFinite = true)) :=
  validQueueServer_accepted rfl rfl rfl (by
    have least : isAtLeastOne (JsValue.string "4").toNumber = true := by
      have number : (JsValue.string "4").toNumber = .finite 4 :=
        JsNumber.parse_toDigits (by decide : 0 < 4) (by decide)
      rw [number]
      decide
    have pool : validatePoolMax (.string "4") = true := by
      change (isDigits (.string "4") && isAtLeastOne (JsValue.string "4").toNumber) = true
      rw [least]
      decide
    have held : validMax savedServer = validatePoolMax (.string "4") := rfl
    unfold validQueueServer
    rw [held, pool]
    decide)

end NodeRedBull.EditorChecks
