import NodeRedBull.UsableTargets

/-! When certificate verification is on in the TLS options that are built of an accepted
configuration. The default is on, but every text that is no listed yes is read as a no. -/

namespace NodeRedBull.TlsVerification
open Js Connections HiddenFields RedisNormalization HiddenTopologies UsableTargets ConnectionOptions

/-! ## TLS options -/

def unlessUndefined (value : JsValue) : List JsValue := if value.isUndefined then [] else [value]

/-- The TLS objects that a client of the role gets: for the data connections, for the discovery
of Sentinels and for PostgreSQL. -/
def tlsObjects (accepted : QueueConfig) (role : Role) : List JsValue :=
  match accepted with
  | .postgres target => target.postgres.ssl.toList
  | .redis target =>
    match buildRedisDescriptor target role with
    | .single options =>
      unlessUndefined (options.get "tls") ++ unlessUndefined (options.get "sentinelTLS")
    | .cluster _ redisOptions => unlessUndefined (redisOptions.get "tls")

def SkipsVerification (tls : JsValue) : Prop := tls.get "rejectUnauthorized" = .bool false

def positiveWords : List String := ["true", "1", "yes", "on"]

def negativeWords : List String := ["false", "0", "no", "off"]

/-- `false`, zero, or a word for no in any case and with any whitespace around it. -/
def ExplicitNegative : JsValue → Prop
  | .bool value => value = false
  | .number value => value = .finite 0
  | .string text => toLowerCase (trimText text) ∈ negativeWords
  | _ => False

/-- Only an explicit negative turns verification off. -/
def FailsSafe (config : JsValue) (accepted : QueueConfig) (role : Role) : Prop :=
  ∀ tls ∈ tlsObjects accepted role,
    SkipsVerification tls → ExplicitNegative (config.get "tlsRejectUnauthorized")

/-! ## What is asked of the saved configuration -/

/-- The settings that are no accidental no. -/
inductive Recognised : JsValue → Prop
  | absent {value : JsValue} (absent : value.isPresent = false) : Recognised value
  | bool (value : Bool) : Recognised (.bool value)
  | number (value : JsNumber) : Recognised (.number value)
  | positive {value : JsValue} (listed : toLowerCase value.toText ∈ positiveWords) :
    Recognised value
  | negative {value : JsValue} (negative : ExplicitNegative value) : Recognised value

/-- The switches of the connections that are made. -/
def tlsSwitches (config : JsValue) : List Bool :=
  match normalizeBackend config, normalizeDeployment config with
  | .ok .redis, .ok .sentinel =>
    [toBoolean (config.get "tls") false, toBoolean (config.get "sentinelTls") false]
  | _, _ => [toBoolean (config.get "tls") false]

def AsksForTls (config : JsValue) : Prop := true ∈ tlsSwitches config

/-! ## The setting -/

section
variable {value : JsValue}

theorem toBoolean_absent (absent : value.isPresent = false) (defaultValue : Bool) :
    toBoolean value defaultValue = defaultValue := by
  rcases JsValue.eq_of_absent absent with same | same | same
  · rw [same]
    rfl
  · rw [same]
    rfl
  · rw [same]
    rfl

/-- Besides booleans, numbers and blanks only the listed words are a yes. -/
theorem toBoolean_word (present : value.isPresent = true) (no_bool : ∀ flag, value ≠ .bool flag)
    (no_number : ∀ number, value ≠ .number number) (defaultValue : Bool) :
    toBoolean value defaultValue = true ↔ toLowerCase value.toText ∈ positiveWords := by
  unfold toBoolean
  split
  · cases present
  · cases present
  · cases present
  · exact absurd rfl (no_bool _)
  · exact absurd rfl (no_number _)
  · exact List.contains_iff_mem

theorem word_iff_recognised (present : value.isPresent = true)
    (no_bool : ∀ flag, value ≠ .bool flag) (no_number : ∀ number, value ≠ .number number) :
    (toBoolean value true = false → ExplicitNegative value) ↔ Recognised value := by
  rw [← Bool.not_eq_true, toBoolean_word present no_bool no_number]
  constructor
  · intro safe
    by_cases listed : toLowerCase value.toText ∈ positiveWords
    · exact .positive listed
    · exact .negative (safe listed)
  · intro recognised unlisted
    cases recognised with
    | absent absent => cases absent.symm.trans present
    | bool flag => exact absurd rfl (no_bool flag)
    | number n => exact absurd rfl (no_number n)
    | positive listed => exact absurd listed unlisted
    | negative negative => exact negative

theorem absent_iff_recognised (absent : value.isPresent = false) :
    (toBoolean value true = false → ExplicitNegative value) ↔ Recognised value := by
  rw [toBoolean_absent absent]
  exact iff_of_true (fun off => by cases off) (.absent absent)

/-- The setting is read as a no only where it is an explicit one, if and only if it is
recognised. -/
theorem negative_iff_recognised (value : JsValue) :
    (toBoolean value true = false → ExplicitNegative value) ↔ Recognised value := by
  cases value with
  | undefined => exact absent_iff_recognised rfl
  | null => exact absent_iff_recognised rfl
  | bool flag => exact iff_of_true (fun off => off) (.bool flag)
  | number n =>
    refine iff_of_true ?_ (.number n)
    intro off
    simpa [toBoolean, ExplicitNegative] using off
  | string text =>
    cases present : (JsValue.string text).isPresent with
    | false => exact absent_iff_recognised present
    | true => exact word_iff_recognised present (by simp) (by simp)
  | array items => exact word_iff_recognised rfl (by simp) (by simp)
  | object fields => exact word_iff_recognised rfl (by simp) (by simp)
  | error thrown => exact word_iff_recognised rfl (by simp) (by simp)

end

/-! ## The TLS options -/

/-- `buildTlsOptions` passes the setting on, whatever else it names. -/
theorem buildTlsOptions_skips {certificates : TlsConfig} {enabled : Bool} {tls : JsValue}
    (built : buildTlsOptions certificates enabled = some tls) :
    SkipsVerification tls ↔ certificates.tlsRejectUnauthorized = false := by
  unfold buildTlsOptions at built
  split at built
  · cases built
  · rw [← Option.some.inj built]
    unfold SkipsVerification
    change JsValue.bool certificates.tlsRejectUnauthorized = .bool false ↔ _
    rw [JsValue.bool.injEq]

theorem buildTlsOptions_isSome (certificates : TlsConfig) (enabled : Bool) :
    (∃ tls, buildTlsOptions certificates enabled = some tls) ↔ enabled = true := by
  cases enabled with
  | false => simp [buildTlsOptions]
  | true => simp [buildTlsOptions]

theorem unlessUndefined_built (certificates : TlsConfig) (enabled : Bool) :
    unlessUndefined ((buildTlsOptions certificates enabled).getD .undefined) =
      (buildTlsOptions certificates enabled).toList := by
  cases enabled with
  | false => rfl
  | true => rfl

/-- The objects that are built for these switches. -/
def builtFor (certificates : TlsConfig) (switches : List Bool) : List JsValue :=
  switches.flatMap fun enabled => (buildTlsOptions certificates enabled).toList

theorem mem_builtFor {certificates : TlsConfig} {switches : List Bool} {tls : JsValue} :
    tls ∈ builtFor certificates switches ↔
      ∃ enabled ∈ switches, buildTlsOptions certificates enabled = some tls := by
  unfold builtFor
  simp

theorem builtFor_safe_iff (certificates : TlsConfig) (switches : List Bool) (explicit : Prop) :
    (∀ tls ∈ builtFor certificates switches, SkipsVerification tls → explicit) ↔
      (true ∈ switches → certificates.tlsRejectUnauthorized = false → explicit) := by
  constructor
  · intro safe asked off
    obtain ⟨tls, built⟩ := (buildTlsOptions_isSome certificates true).mpr rfl
    exact safe tls (mem_builtFor.mpr ⟨true, asked, built⟩) ((buildTlsOptions_skips built).mpr off)
  · intro safe tls member skips
    obtain ⟨enabled, switch, built⟩ := mem_builtFor.mp member
    have on := (buildTlsOptions_isSome certificates enabled).mp ⟨tls, built⟩
    rw [on] at switch
    exact safe switch ((buildTlsOptions_skips built).mp skips)

/-! ## The descriptors -/

theorem tlsObjects_redis (target : RedisConfig) (role : Role) :
    tlsObjects (.redis target) role = builtFor target.certificates
      (if target.deployment = .sentinel then [target.tls, target.sentinelTls]
        else [target.tls]) := by
  unfold tlsObjects
  dsimp only
  cases deployed : target.deployment with
  | single =>
    rw [buildRedisDescriptor_single role deployed, if_neg (by decide)]
    dsimp only
    rw [standalone_tls, standalone_sentinelTLS, unlessUndefined_built]
    rfl
  | cluster =>
    rw [buildRedisDescriptor_cluster role deployed, if_neg (by decide)]
    dsimp only
    rw [cluster_tls, unlessUndefined_built]
    simp [builtFor]
  | sentinel =>
    rw [buildRedisDescriptor_sentinel role deployed, if_pos rfl]
    dsimp only
    rw [sentinel_tls, sentinel_sentinelTLS, unlessUndefined_built, unlessUndefined_built]
    simp [builtFor]

/-! ## Accepted configurations -/

variable {platform : Platform} {config credentials : JsValue}

/-- The TLS objects of an accepted configuration, on either backend and for every role. -/
theorem tlsObjects_accepted {accepted : QueueConfig}
    (normalized : normalizeQueueConfig platform config credentials = .ok accepted) (role : Role) :
    tlsObjects accepted role = builtFor (tlsConfig config credentials) (tlsSwitches config) := by
  obtain ⟨backend, selected⟩ := backend_of_normalized normalized
  unfold tlsSwitches
  rw [selected]
  cases backend with
  | postgres =>
    obtain ⟨target, passed, same⟩ := postgres_of_normalized selected normalized
    obtain ⟨queueName, port, max, defaults, -, -, -, -, built⟩ := postgres_stages passed
    rw [same, built]
    unfold tlsObjects builtFor
    simp [postgresAssembled]
  | redis =>
    obtain ⟨target, passed, same⟩ := redis_of_normalized selected normalized
    obtain ⟨deployment, checked, lists, deployed, -, -, completed⟩ := redis_stages passed
    rw [same, deployed, tlsObjects_redis, completeDeployment_kept completed]
    cases deployment with
    | single => rfl
    | cluster => rfl
    | sentinel => rfl

/-- Verification is off only by an explicit negative if and only if the setting is recognised,
wherever a TLS connection is made. -/
theorem accepted_failsSafe_iff {accepted : QueueConfig}
    (normalized : normalizeQueueConfig platform config credentials = .ok accepted) (role : Role) :
    FailsSafe config accepted role ↔
      (AsksForTls config → Recognised (config.get "tlsRejectUnauthorized")) := by
  unfold FailsSafe AsksForTls
  rw [tlsObjects_accepted normalized, builtFor_safe_iff]
  apply imp_congr_right
  intro _
  exact negative_iff_recognised _

/-! A yes with a blank in front of it, as it may come from the environment. -/

def spacedYes : JsValue :=
  .object [("name", .string "orders"), ("tls", .bool true),
    ("tlsRejectUnauthorized", .string " true")]

theorem accepted_failsSafe_iff_spacedYes : ∃ accepted,
    normalizeQueueConfig ClusterPrefix.noUrls spacedYes .undefined = .ok accepted ∧
      (FailsSafe spacedYes accepted .worker ↔
        (AsksForTls spacedYes → Recognised (spacedYes.get "tlsRejectUnauthorized"))) := by
  obtain ⟨accepted, normalized⟩ : ∃ accepted,
      normalizeQueueConfig ClusterPrefix.noUrls spacedYes .undefined = .ok accepted := ⟨_, rfl⟩
  exact ⟨accepted, normalized, accepted_failsSafe_iff normalized .worker⟩

/-- The clients of every role then accept any certificate. -/
theorem spacedYes_skips : ∃ accepted,
    normalizeQueueConfig ClusterPrefix.noUrls spacedYes .undefined = .ok accepted ∧
      ∀ role, ¬ FailsSafe spacedYes accepted role := by
  obtain ⟨accepted, normalized⟩ : ∃ accepted,
      normalizeQueueConfig ClusterPrefix.noUrls spacedYes .undefined = .ok accepted := ⟨_, rfl⟩
  refine ⟨accepted, normalized, fun role safe => ?_⟩
  have built : JsValue.object [("rejectUnauthorized", .bool false)] ∈ tlsObjects accepted role := by
    rw [tlsObjects_accepted normalized]
    exact List.mem_singleton.mpr rfl
  have explicit := safe _ built rfl
  revert explicit
  change ¬ toLowerCase (trimText " true") ∈ negativeWords
  decide

end NodeRedBull.TlsVerification
