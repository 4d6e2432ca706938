import NodeRedBull.UsableTargets
import NodeRedBull.Acknowledgements

/-! The numeric settings of saved nodes. Their parsers compare with the empty text before they
call `Number`, which trims: whitespace around a number changes nothing, and whitespace alone is
no blank but a zero. -/

namespace NodeRedBull.NumericSettings
open Js Library Connections HiddenFields RedisNormalization HiddenTopologies UsableTargets

/-! ## The options of a worker -/

def parsePositiveInteger (value : JsValue) (defaultValue : Option JsNumber)
    (field : String := "Value") : Except JsError (Option JsNumber) :=
  if !value.isPresent then .ok defaultValue
  else if !value.toNumber.isInteger || value.toNumber.lt (JsNumber.ofNat 1) then
    .error (newError (field ++ " must be a positive integer"))
  else .ok (some value.toNumber)

structure Limiter where
  max : Option JsNumber
  duration : Option JsNumber

structure WorkerOptions where
  concurrency : Option JsNumber
  maxStartedAttempts : Option JsNumber
  limiter : Option Limiter
  autorun : Option Bool

def parseLimiter (n : JsValue) : Except JsError (Option Limiter) := do
  let hasLimiterMax := (n.get "limiterMax").isPresent
  let hasLimiterDuration := (n.get "limiterDuration").isPresent
  if hasLimiterMax != hasLimiterDuration then
    throw (newError "Limiter Max and Limiter Duration must be set together")
  if !hasLimiterMax then
    return none
  let max ← parsePositiveInteger (n.get "limiterMax") none "Limiter Max"
  let duration ← parsePositiveInteger (n.get "limiterDuration") none "Limiter Duration"
  return some { max, duration }

/-- What `BullQueueRunNode` constructs its worker with. -/
def workerOptions (backend : Backend) (n : JsValue) : Except JsError WorkerOptions := do
  let concurrency ←
    parsePositiveInteger (n.get "concurrency") (some (JsNumber.ofNat 1)) "Concurrency"
  let maxStartedAttempts ← parsePositiveInteger (n.get "maxStartedAttempts")
    (some (JsNumber.ofNat 100)) "Max Started Attempts"
  let limiter ← parseLimiter n
  return { concurrency, maxStartedAttempts, limiter
           autorun := if backend = .postgres then some false else none }

theorem whole_of_checked {least : Nat} {number : JsNumber}
    (checked : ¬ (!number.isInteger || number.lt (JsNumber.ofNat least)) = true) :
    ∃ n : Nat, least ≤ n ∧ number = JsNumber.ofNat n := by
  rw [Bool.or_eq_true, not_or, Bool.not_eq_true', Bool.not_eq_false] at checked
  obtain ⟨integer, large⟩ := checked
  cases number with
  | nan => cases integer
  | infinity negative => cases integer
  | finite value =>
    have whole : (value.num : ℚ) = value :=
      Rat.coe_int_num_of_den_eq_one (of_decide_eq_true integer)
    have bound : (least : ℚ) ≤ value := not_lt.mp fun less => large (decide_eq_true less)
    have least_le : (least : Int) ≤ value.num := by
      rw [← whole] at bound
      exact_mod_cast bound
    have positive : ((value.num.toNat : Int) : ℚ) = value := by
      rw [Int.toNat_of_nonneg (by omega), whole]
    refine ⟨value.num.toNat, by omega, ?_⟩
    rw [JsNumber.ofNat, ← positive]
    rfl

theorem parsePositiveInteger_ok {value : JsValue} {defaultValue result : Option JsNumber}
    {field : String} (present : value.isPresent = true)
    (accepted : parsePositiveInteger value defaultValue field = .ok result) :
    ∃ n : Nat, 1 ≤ n ∧ result = some (JsNumber.ofNat n) := by
  unfold parsePositiveInteger at accepted
  rw [present, Bool.not_true, if_neg Bool.false_ne_true] at accepted
  split at accepted
  · cases accepted
  next checked =>
    obtain ⟨n, positive, same⟩ := whole_of_checked checked
    rw [← Except.ok.inj accepted, same]
    exact ⟨n, positive, rfl⟩

/-- A limiter has both its parts, and both are positive integers. -/
theorem parseLimiter_ok {n : JsValue} {limiter : Limiter}
    (accepted : parseLimiter n = .ok (some limiter)) :
    ∃ max duration : Nat, 1 ≤ max ∧ 1 ≤ duration ∧ limiter.max = some (JsNumber.ofNat max) ∧
      limiter.duration = some (JsNumber.ofNat duration) := by
  unfold parseLimiter at accepted
  cases hasMax : (n.get "limiterMax").isPresent with
  | false =>
    cases hasDuration : (n.get "limiterDuration").isPresent with
    | false =>
      rw [hasMax, hasDuration] at accepted
      cases accepted
    | true =>
      rw [hasMax, hasDuration] at accepted
      cases accepted
  | true =>
    cases hasDuration : (n.get "limiterDuration").isPresent with
    | false =>
      rw [hasMax, hasDuration] at accepted
      cases accepted
    | true =>
      rw [hasMax, hasDuration] at accepted
      obtain ⟨max, first, rest⟩ := bind_eq_ok accepted
      obtain ⟨duration, second, same⟩ := bind_eq_ok rest
      obtain ⟨most, positive, is_max⟩ := parsePositiveInteger_ok hasMax first
      obtain ⟨time, positive_time, is_duration⟩ := parsePositiveInteger_ok hasDuration second
      rw [← Option.some.inj (Except.ok.inj same)]
      exact ⟨most, time, positive, positive_time, is_max, is_duration⟩

/-! ## Settings -/

inductive NumericSetting where
  | removeOnComplete
  | removeOnFail
  | port (backend : Backend)
  | db
  | max
  | ackTimeout
  | concurrency
  | maxStartedAttempts

def portSetting (result : Except JsError Port) : Except JsError (Option JsNumber) :=
  result.map fun port => some (JsNumber.ofNat port.number)

/-- What a saved value sets; nothing is `undefined`. -/
def effective (setting : NumericSetting) (value : JsValue) : Except JsError (Option JsNumber) :=
  match setting with
  | .removeOnComplete => toKeepCount value "removeOnComplete"
  | .removeOnFail => toKeepCount value "removeOnFail"
  | .port .redis => portSetting (toPort value defaultRedisPort)
  | .port .postgres => portSetting (toPort value defaultPostgresPort "PostgreSQL")
  | .db => .ok (if value.isPresent then some value.toNumber else none)
  | .max => (toPoolMax value).map some
  | .ackTimeout => .ok (some (Acknowledgements.parseAckTimeoutMs value))
  | .concurrency => parsePositiveInteger value (some (JsNumber.ofNat 1)) "Concurrency"
  | .maxStartedAttempts =>
    parsePositiveInteger value (some (JsNumber.ofNat 100)) "Max Started Attempts"

/-- The error of a setting that can be rejected. The ports quote the text. -/
def rejection (setting : NumericSetting) (text : String) : Option JsError :=
  match setting with
  | .removeOnComplete =>
    newError "removeOnComplete must be a non-negative whole number of jobs to keep"
  | .removeOnFail => newError "removeOnFail must be a non-negative whole number of jobs to keep"
  | .port .redis => newError ("Invalid Redis port: " ++ text)
  | .port .postgres => newError ("Invalid PostgreSQL port: " ++ text)
  | .db | .ackTimeout => none
  | .max => newError "PostgreSQL pool max must be a positive whole number of connections"
  | .concurrency => newError "Concurrency must be a positive integer"
  | .maxStartedAttempts => newError "Max Started Attempts must be a positive integer"

/-- The same number or default, or the same rejection. -/
inductive SameSetting (setting : NumericSetting) (text other : String) : Prop
  | value (number : Option JsNumber) (left : effective setting (.string text) = .ok number)
    (right : effective setting (.string other) = .ok number)
  | rejected (error mirror : JsError) (known : rejection setting text = some error)
    (known_mirror : rejection setting other = some mirror)
    (left : effective setting (.string text) = .error error)
    (right : effective setting (.string other) = .error mirror)

/-- Whitespace around the text changes nothing, and a blank text is no zero. -/
structure IgnoresSpace (setting : NumericSetting) (text : String) : Prop where
  same : SameSetting setting text (trimText text)
  blank : trimText text = "" → effective setting (.string text) ≠ .ok (some (JsNumber.ofNat 0))

/-! ## Reading a text -/

def defaultOf (setting : NumericSetting) : Option JsNumber :=
  match setting with
  | .removeOnComplete | .removeOnFail | .db => none
  | .port .redis => JsNumber.ofNat 6379
  | .port .postgres => JsNumber.ofNat 5432
  | .max => JsNumber.ofNat 2
  | .ackTimeout => JsNumber.ofNat 300000
  | .concurrency => JsNumber.ofNat 1
  | .maxStartedAttempts => JsNumber.ofNat 100

def wholeFrom (least : Nat) (number : JsNumber) : Option (Option JsNumber) :=
  if !number.isInteger || number.lt (JsNumber.ofNat least) then none else some number

def portNumber : JsNumber → Option (Option JsNumber)
  | .finite port =>
    if port.den = 1 ∧ 1 ≤ port.num.toNat ∧ port.num.toNat ≤ 65535 then
      some (JsNumber.ofNat port.num.toNat)
    else none
  | _ => none

/-- What a number sets, unless it is rejected. -/
def reading (setting : NumericSetting) (number : JsNumber) : Option (Option JsNumber) :=
  match setting with
  | .removeOnComplete | .removeOnFail => wholeFrom 0 number
  | .port _ => portNumber number
  | .db => some number
  | .max | .concurrency | .maxStartedAttempts => wholeFrom 1 number
  | .ackTimeout => some (some
    (if !number.isFinite || number.lt (JsNumber.ofNat 0) then JsNumber.ofNat 300000 else number))

/-- The setting of a text that is not empty: its number is all that counts. -/
def ReadAs (setting : NumericSetting) (text : String) (result : Except JsError (Option JsNumber))
    (read : Option (Option JsNumber)) : Prop :=
  (∃ number, read = some number ∧ result = .ok number) ∨
    ∃ error, read = none ∧ rejection setting text = some error ∧ result = .error error

theorem readAs_wholeFrom {setting : NumericSetting} {text : String} {error : JsError} (least : Nat)
    (number : JsNumber) (known : rejection setting text = some error) :
    ReadAs setting text
      (if !number.isInteger || number.lt (JsNumber.ofNat least) then .error error
        else .ok (some number))
      (wholeFrom least number) := by
  unfold wholeFrom
  by_cases refused : (!number.isInteger || number.lt (JsNumber.ofNat least)) = true
  · rw [if_pos refused, if_pos refused]
    exact .inr ⟨error, rfl, known, rfl⟩
  · rw [if_neg refused, if_neg refused]
    exact .inl ⟨_, rfl, rfl⟩

theorem isPresent_text {text : String} (written : text ≠ "") :
    (JsValue.string text).isPresent = true := decide_eq_true written

/-- What `toPort` makes of a text that is not empty. -/
theorem readAs_port {backend : Backend} {text label : String} (written : text ≠ "")
    (defaultValue : Port)
    (known : rejection (.port backend) text =
      some (newError ("Invalid " ++ label ++ " port: " ++ text))) :
    ReadAs (.port backend) text (portSetting (toPort (.string text) defaultValue label))
      (portNumber (JsNumber.parse text.toList)) := by
  have number : (JsValue.string text).toNumber = JsNumber.parse text.toList := rfl
  unfold toPort
  rw [isPresent_text written, Bool.not_true, if_neg Bool.false_ne_true, number]
  cases JsNumber.parse text.toList with
  | nan => exact .inr ⟨_, rfl, known, rfl⟩
  | infinity negative => exact .inr ⟨_, rfl, known, rfl⟩
  | finite port =>
    unfold portNumber
    dsimp only
    by_cases valid : port.den = 1 ∧ 1 ≤ port.num.toNat ∧ port.num.toNat ≤ 65535
    · rw [dif_pos valid, if_pos valid]
      exact .inl ⟨_, rfl, rfl⟩
    · rw [dif_neg valid, if_neg valid]
      exact .inr ⟨_, rfl, known, rfl⟩

theorem parseAckTimeoutMs_text {text : String} (written : text ≠ "") :
    Acknowledgements.parseAckTimeoutMs (.string text) =
      if !(JsNumber.parse text.toList).isFinite ||
          (JsNumber.parse text.toList).lt (JsNumber.ofNat 0) then
        JsNumber.ofNat 300000
      else JsNumber.parse text.toList := by
  unfold Acknowledgements.parseAckTimeoutMs
  split
  next nothing => cases nothing
  next nothing => cases nothing
  next empty => exact absurd (JsValue.string.inj empty) written
  next => rfl

theorem effective_text (setting : NumericSetting) {text : String} (written : text ≠ "") :
    ReadAs setting text (effective setting (.string text))
      (reading setting (JsNumber.parse text.toList)) := by
  have present := isPresent_text written
  cases setting with
  | removeOnComplete =>
    unfold effective toKeepCount
    simp only [present, Bool.not_true, Bool.false_eq_true, if_false]
    exact readAs_wholeFrom 0 (JsNumber.parse text.toList) rfl
  | removeOnFail =>
    unfold effective toKeepCount
    simp only [present, Bool.not_true, Bool.false_eq_true, if_false]
    exact readAs_wholeFrom 0 (JsNumber.parse text.toList) rfl
  | port backend =>
    cases backend with
    | redis => exact readAs_port written defaultRedisPort rfl
    | postgres => exact readAs_port written defaultPostgresPort rfl
  | db =>
    unfold effective
    simp only [present, if_true]
    exact .inl ⟨_, rfl, rfl⟩
  | max =>
    unfold effective toPoolMax
    simp only [present, Bool.not_true, Bool.false_eq_true, if_false]
    rw [apply_ite (Except.map some)]
    exact readAs_wholeFrom 1 (JsNumber.parse text.toList) rfl
  | ackTimeout =>
    unfold effective reading
    dsimp only
    rw [parseAckTimeoutMs_text written]
    exact .inl ⟨_, rfl, rfl⟩
  | concurrency =>
    unfold effective parsePositiveInteger
    simp only [present, Bool.not_true, Bool.false_eq_true, if_false]
    exact readAs_wholeFrom 1 (JsNumber.parse text.toList) rfl
  | maxStartedAttempts =>
    unfold effective parsePositiveInteger
    simp only [present, Bool.not_true, Bool.false_eq_true, if_false]
    exact readAs_wholeFrom 1 (JsNumber.parse text.toList) rfl

theorem effective_empty (setting : NumericSetting) :
    effective setting (.string "") = .ok (defaultOf setting) := by
  cases setting with
  | port backend => cases backend <;> rfl
  | _ => rfl

/-! ## Whitespace -/

theorem defaultOf_ne_zero (setting : NumericSetting) :
    defaultOf setting ≠ some (JsNumber.ofNat 0) := by
  cases setting with
  | port backend => cases backend <;> decide
  | _ => decide

/-- A zero is never read as the default. -/
theorem reading_zero (setting : NumericSetting) :
    reading setting (JsNumber.ofNat 0) ≠ some (defaultOf setting) := by
  cases setting with
  | port backend => cases backend <;> decide
  | _ => decide

theorem parse_trimText (text : String) :
    JsNumber.parse (trimText text).toList = JsNumber.parse text.toList := by
  rw [trimText, String.toList_ofList, JsNumber.parse_trim]

theorem parse_blank {text : String} (blank : trimText text = "") :
    JsNumber.parse text.toList = JsNumber.ofNat 0 := by
  rw [← parse_trimText, blank]
  rfl

section
variable {setting : NumericSetting} {text : String}

/-- Two texts with one number in them set the same. -/
theorem same_of_number {other : String} (written : text ≠ "") (written_other : other ≠ "")
    (number : JsNumber.parse other.toList = JsNumber.parse text.toList) :
    SameSetting setting text other := by
  have mirrored := effective_text setting written_other
  rw [number] at mirrored
  rcases effective_text setting written with accepted | refused
  · obtain ⟨value, read, left⟩ := accepted
    rcases mirrored with same | different
    · obtain ⟨again, reread, right⟩ := same
      rw [read] at reread
      rw [← Option.some.inj reread] at right
      exact .value value left right
    · obtain ⟨error, reread, -⟩ := different
      cases read.symm.trans reread
  · obtain ⟨error, read, known, left⟩ := refused
    rcases mirrored with different | same
    · obtain ⟨value, reread, -⟩ := different
      cases read.symm.trans reread
    · obtain ⟨mirror, -, known_mirror, right⟩ := same
      exact .rejected error mirror known known_mirror left right

/-- A blank text that is not empty sets what a zero sets. -/
theorem blank_not_default (written : text ≠ "") (blank : trimText text = "") :
    effective setting (.string text) ≠ .ok (defaultOf setting) := by
  intro default
  rcases effective_text setting written with accepted | refused
  · obtain ⟨value, read, set⟩ := accepted
    rw [parse_blank blank] at read
    rw [default] at set
    rw [← Except.ok.inj set] at read
    exact reading_zero setting read
  · obtain ⟨error, -, -, set⟩ := refused
    cases default.symm.trans set

end

/-- Whitespace around the text of a setting counts only where nothing else is there: such a text
is read as a zero and not as the blank that it is. -/
theorem ignoresSpace_iff (setting : NumericSetting) (text : String) :
    IgnoresSpace setting text ↔ (trimText text = "" → text = "") := by
  have default := effective_empty setting
  constructor
  · intro ignores blank
    by_contra written
    apply blank_not_default written blank
    rcases ignores.same with ⟨number, left, right⟩ | ⟨error, mirror, -, -, -, right⟩
    · rw [blank, default] at right
      rw [left, ← Except.ok.inj right]
    · rw [blank, default] at right
      cases right
  · intro empty
    by_cases blank : trimText text = ""
    · have same : text = trimText text := (empty blank).trans blank.symm
      rw [← blank, ← same] at default
      refine ⟨.value (defaultOf setting) default (by rw [← same]; exact default), ?_⟩
      intro _ zero
      rw [default] at zero
      exact defaultOf_ne_zero setting (Except.ok.inj zero)
    · have written : text ≠ "" := fun nothing => blank (by rw [nothing]; rfl)
      exact ⟨same_of_number written blank (parse_trimText text), fun nothing => absurd nothing blank⟩

theorem rejection_of_error {setting : NumericSetting} {text : String} {error : JsError}
    (failed : effective setting (.string text) = .error error) :
    rejection setting text = some error := by
  have written : text ≠ "" := by
    intro nothing
    rw [nothing, effective_empty] at failed
    cases failed
  rcases effective_text setting written with accepted | refused
  · obtain ⟨value, -, set⟩ := accepted
    cases set.symm.trans failed
  · obtain ⟨thrown, -, known, set⟩ := refused
    rw [known, Except.error.inj (set.symm.trans failed)]

/-- Only the errors of ports quote the text. -/
theorem rejection_eq_iff (setting : NumericSetting) {text other : String} {error : JsError}
    (known : rejection setting text = some error) :
    rejection setting text = rejection setting other ↔
      ((∃ backend, setting = .port backend) → text = other) := by
  cases setting with
  | port backend =>
    have label : ∃ label : String, ∀ text, rejection (.port backend) text =
        some (newError (label ++ text)) := by
      cases backend with
      | redis => exact ⟨"Invalid Redis port: ", fun _ => rfl⟩
      | postgres => exact ⟨"Invalid PostgreSQL port: ", fun _ => rfl⟩
    obtain ⟨label, quoted⟩ := label
    rw [quoted, quoted]
    simp [newError]
  | db => cases known
  | ackTimeout => cases known
  | _ => simp [rejection]

/-- The settings of a text and of the trimmed one: the same unless the text is blank and not
empty. The results are equal, errors included, unless moreover a port quotes the whitespace. -/
theorem trimmed_setting_iff (setting : NumericSetting) (text : String) :
    (IgnoresSpace setting text ↔ (trimText text = "" → text = "")) ∧
      (effective setting (.string text) = effective setting (.string (trimText text)) ↔
        (trimText text = "" → text = "") ∧
          ∀ backend error, setting = .port backend →
            effective setting (.string text) = .error error → text = trimText text) := by
  refine ⟨ignoresSpace_iff setting text, ?_, ?_⟩
  · intro equal
    constructor
    · intro blank
      by_contra written
      rw [blank, effective_empty] at equal
      exact blank_not_default written blank equal
    · intro backend error port failed
      have known := rejection_of_error failed
      have mirrored := rejection_of_error (equal.symm.trans failed)
      exact (rejection_eq_iff setting known).mp (known.trans mirrored.symm) ⟨backend, port⟩
  · intro conditions
    obtain ⟨empty, quoted⟩ := conditions
    rcases ((ignoresSpace_iff setting text).mpr empty).same with
      ⟨number, left, right⟩ | ⟨error, mirror, known, known_mirror, left, right⟩
    · exact left.trans right.symm
    · have one : rejection setting text = rejection setting (trimText text) := by
        rw [rejection_eq_iff setting known]
        intro port
        obtain ⟨backend, port⟩ := port
        exact quoted backend error port left
      rw [known, known_mirror] at one
      rw [left, right, Option.some.inj one]

/-- Two blanks keep no finished job, where an empty field keeps them all. -/
theorem blank_retention :
    effective .removeOnComplete (.string "") = .ok none ∧
      effective .removeOnComplete (.string "  ") = .ok (some (JsNumber.ofNat 0)) ∧
      ¬ IgnoresSpace .removeOnComplete "  " := by
  have zero : effective .removeOnComplete (.string "  ") = .ok (some (JsNumber.ofNat 0)) := by
    decide
  exact ⟨rfl, zero, fun ignores => ignores.blank (by decide) zero⟩

/-! ## Where the settings are used -/

/-- The retention defaults of two settings. -/
def retention (removeOnComplete removeOnFail : Option JsNumber) :
    Option (List (String × JsValue)) :=
  let defaults :=
    (removeOnComplete.map fun count => ("removeOnComplete", JsValue.number count)).toList
      ++ (removeOnFail.map fun count => ("removeOnFail", JsValue.number count)).toList
  if defaults.isEmpty then none else some defaults

/-- The defaults of the jobs are the retention settings. -/
def KeepsSettings (config : JsValue) (defaults : Option (List (String × JsValue))) : Prop :=
  ∃ complete failed, effective .removeOnComplete (config.get "removeOnComplete") = .ok complete ∧
    effective .removeOnFail (config.get "removeOnFail") = .ok failed ∧
    defaults = retention complete failed

theorem buildDefaultJobOptions_settings {config : JsValue}
    {defaults : Option (List (String × JsValue))}
    (built : buildDefaultJobOptions config = .ok defaults) : KeepsSettings config defaults := by
  unfold buildDefaultJobOptions at built
  obtain ⟨complete, kept, rest⟩ := bind_eq_ok built
  obtain ⟨failed, kept_failed, same⟩ := bind_eq_ok rest
  exact ⟨complete, failed, kept, kept_failed, (Except.ok.inj same).symm⟩

section
variable {platform : Platform} {config credentials : JsValue}

theorem earlierChecks_ok {checked : Checked} (passed : earlierChecks config = .ok checked) :
    toPort (config.get "port") defaultRedisPort = .ok checked.port ∧
      buildDefaultJobOptions config = .ok checked.defaultJobOptions := by
  unfold earlierChecks at passed
  obtain ⟨port, number, rest⟩ := bind_eq_ok passed
  obtain ⟨queueName, -, rest⟩ := bind_eq_ok rest
  obtain ⟨defaults, options, same⟩ := bind_eq_ok rest
  rw [← Except.ok.inj same]
  exact ⟨number, options⟩

/-- An accepted Redis configuration holds its settings, none of which is rejected. -/
theorem redis_settings {target : RedisConfig}
    (normalized : normalizeRedisConfig platform config credentials = .ok target) :
    effective (.port .redis) (config.get "port") = .ok (some (JsNumber.ofNat target.port.number)) ∧
      effective .db (config.get "db") = .ok target.db ∧
      KeepsSettings config target.defaultJobOptions := by
  obtain ⟨deployment, checked, lists, -, passed, -, completed⟩ := redis_stages normalized
  obtain ⟨port, defaults⟩ := earlierChecks_ok passed
  rw [completeDeployment_kept completed]
  refine ⟨?_, rfl, buildDefaultJobOptions_settings defaults⟩
  unfold effective
  dsimp only
  rw [port]
  rfl

theorem postgres_settings {target : PostgresConfig}
    (normalized : normalizePostgresConfig config credentials = .ok target) :
    effective (.port .postgres) (config.get "port") =
        .ok (some (JsNumber.ofNat target.postgres.port.number)) ∧
      effective .max (config.get "max") = .ok (some target.postgres.max) ∧
      KeepsSettings config target.defaultJobOptions := by
  obtain ⟨queueName, port, max, defaults, -, number, pool, options, built⟩ :=
    postgres_stages normalized
  rw [built]
  refine ⟨?_, ?_, buildDefaultJobOptions_settings options⟩
  · unfold effective
    dsimp only
    rw [number]
    rfl
  · unfold effective
    dsimp only
    rw [pool]
    rfl

end

/-- The options of a worker hold its settings, and a limiter with both its parts or none. -/
theorem workerOptions_settings {backend : Backend} {n : JsValue} {options : WorkerOptions}
    (accepted : workerOptions backend n = .ok options) :
    effective .concurrency (n.get "concurrency") = .ok options.concurrency ∧
      effective .maxStartedAttempts (n.get "maxStartedAttempts") = .ok options.maxStartedAttempts ∧
      parseLimiter n = .ok options.limiter ∧
      ∀ limiter, options.limiter = some limiter → ∃ max duration : Nat, 1 ≤ max ∧ 1 ≤ duration ∧
        limiter.max = some (JsNumber.ofNat max) ∧
          limiter.duration = some (JsNumber.ofNat duration) := by
  unfold workerOptions at accepted
  obtain ⟨concurrency, first, rest⟩ := bind_eq_ok accepted
  obtain ⟨maxStartedAttempts, second, rest⟩ := bind_eq_ok rest
  obtain ⟨limiter, third, same⟩ := bind_eq_ok rest
  rw [← Except.ok.inj same]
  refine ⟨first, second, third, ?_⟩
  intro given limited
  exact parseLimiter_ok (third.trans (congrArg Except.ok limited))

end NodeRedBull.NumericSettings
