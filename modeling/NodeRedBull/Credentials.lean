import NodeRedBull.HiddenFields
import NodeRedBull.ConnectionOptions

/-! The secrets of the credential store: they decide neither whether a saved configuration is
accepted, nor with which error, nor any option but the secret ones. -/

namespace NodeRedBull.Credentials
open Js Library Connections HiddenFields ConnectionOptions JsValue

/-! ## Configurations without their secrets -/

def hideTls (certificates : TlsConfig) : TlsConfig :=
  { certificates with tlsCa := .undefined, tlsCert := .undefined, tlsKey := .undefined }

def hideRedis (config : RedisConfig) : RedisConfig :=
  { config with
    password := .undefined
    certificates := hideTls config.certificates
    sentinelPassword := .undefined }

/-- TLS options without key material -/
def hideTlsOptions (tls : JsValue) : JsValue := ((tls.delete "ca").delete "cert").delete "key"

def hideTarget (target : PostgresTarget) : PostgresTarget :=
  { target with password := .undefined, ssl := target.ssl.map hideTlsOptions }

def hidePostgres (config : PostgresConfig) : PostgresConfig :=
  { config with postgres := hideTarget config.postgres }

def hideConfig : QueueConfig → QueueConfig
  | .redis config => .redis (hideRedis config)
  | .postgres config => .postgres (hidePostgres config)

/-! ## Normalization -/

theorem truthy_undefined : JsValue.undefined.truthy = false := rfl

/-- What is left of the TLS options is what is built without secrets. -/
theorem hideTlsOptions_build (certificates : TlsConfig) (enabled : Bool) :
    (buildTlsOptions certificates enabled).map hideTlsOptions =
      buildTlsOptions (hideTls certificates) enabled := by
  cases enabled with
  | false => rfl
  | true =>
    simp only [buildTlsOptions, hideTls, Bool.not_true, Bool.false_eq_true, if_false, Option.map_some,
      List.filter_cons, truthy_undefined, List.filter_nil, hideTlsOptions]
    cases certificates.tlsServerName.truthy <;> cases certificates.tlsCa.truthy <;>
      cases certificates.tlsCert.truthy <;> cases certificates.tlsKey.truthy <;>
      simp [JsValue.delete]

theorem hideTls_tlsConfig (config credentials : JsValue) :
    hideTls (tlsConfig config credentials) = tlsConfig config .undefined := rfl

theorem completeDeployment_hide (normalized : RedisConfig) :
    (completeDeployment normalized).map hideRedis = completeDeployment (hideRedis normalized) := by
  unfold completeDeployment
  have kept : (hideRedis normalized).deployment = normalized.deployment := rfl
  rw [kept]
  cases normalized.deployment with
  | single => rfl
  | cluster =>
    dsimp only
    have prefixes : (hideRedis normalized).prefixValue = normalized.prefixValue := rfl
    rw [prefixes]
    split
    · rfl
    · rfl
  | sentinel =>
    dsimp only
    have names : (hideRedis normalized).sentinelMasterName = normalized.sentinelMasterName := rfl
    rw [names]
    split
    · rfl
    · rfl

variable (platform : Platform) (config credentials : JsValue)

theorem normalizePostgresConfig_hide :
    (normalizePostgresConfig config credentials).map hidePostgres =
      normalizePostgresConfig config .undefined := by
  have ssl := hideTlsOptions_build (tlsConfig config credentials) (toBoolean (config.get "tls") false)
  rw [hideTls_tlsConfig] at ssl
  unfold normalizePostgresConfig
  dsimp only
  rw [← ssl]
  cases requiredQueueName config with
  | error error => rfl
  | ok queueName =>
    cases toPort (config.get "port") defaultPostgresPort "PostgreSQL" with
    | error error => rfl
    | ok port =>
      cases toPoolMax (config.get "max") with
      | error error => rfl
      | ok max =>
        cases buildDefaultJobOptions config with
        | error error => rfl
        | ok jobOptions => rfl

theorem normalizeRedisConfig_hide :
    (normalizeRedisConfig platform config credentials).map hideRedis =
      normalizeRedisConfig platform config .undefined := by
  unfold normalizeRedisConfig
  dsimp only
  cases normalizeDeployment config with
  | error error => rfl
  | ok deployment =>
    cases toPort (config.get "port") defaultRedisPort with
    | error error => rfl
    | ok port =>
      cases requiredQueueName config with
      | error error => rfl
      | ok queueName =>
        cases buildDefaultJobOptions config with
        | error error => rfl
        | ok jobOptions =>
          cases parseEndpointList platform (config.get "clusterNodes") defaultRedisPort
              (some (toBoolean (config.get "tls") false)) "TLS" with
          | error error => rfl
          | ok clusterNodes =>
            cases parseEndpointList platform (config.get "sentinels") defaultSentinelPort
                (some (toBoolean (config.get "sentinelTls") false)) "Sentinel TLS" with
            | error error => rfl
            | ok sentinels => exact completeDeployment_hide _

/-- Without its secrets a configuration is what it is without any credentials. -/
theorem normalizeQueueConfig_hide :
    (normalizeQueueConfig platform config credentials).map hideConfig =
      normalizeQueueConfig platform config .undefined := by
  have postgres := normalizePostgresConfig_hide config credentials
  have redis := normalizeRedisConfig_hide platform config credentials
  unfold normalizeQueueConfig
  rw [← postgres, ← redis]
  generalize normalizePostgresConfig config credentials = one
  generalize normalizeRedisConfig platform config credentials = other
  cases rejectPresent config removedAliases fun name => "Unsupported config field: " ++ name with
  | error error => rfl
  | ok _ =>
    cases rejectPresent config plaintextSecrets fun name =>
        name ++ " must be stored in Node-RED credentials" with
    | error error => rfl
    | ok _ =>
      cases normalizeBackend config with
      | error error => rfl
      | ok backend =>
        cases backend with
        | redis => cases other <;> rfl
        | postgres => cases one <;> rfl

/-! ## Connection options -/

def secretOptions : List String := ["password", "sentinelPassword"]

def tlsOptionNames : List String := ["tls", "sentinelTLS"]

/-- What is shown of an option. -/
def hideField (entry : String × JsValue) : Option (String × JsValue) :=
  if entry.1 ∈ secretOptions then none
  else some (entry.1, if entry.1 ∈ tlsOptionNames then hideTlsOptions entry.2 else entry.2)

def hideOptions : JsValue → JsValue
  | .object fields => .object (fields.filterMap hideField)
  | options => options

def hideDescriptor : RedisDescriptor → RedisDescriptor
  | .single options => .single (hideOptions options)
  | .cluster startupNodes redisOptions => .cluster startupNodes (hideOptions redisOptions)

section Fields
variable {name : String} {fields : List (String × JsValue)}

theorem hideField_of_secret {entry : String × JsValue} (secret : entry.1 ∈ secretOptions) :
    hideField entry = none := if_pos secret

theorem hideField_of_open {entry : String × JsValue} (shown : entry.1 ∉ secretOptions) :
    hideField entry =
      some (entry.1, if entry.1 ∈ tlsOptionNames then hideTlsOptions entry.2 else entry.2) :=
  if_neg shown

theorem any_hidden (shown : name ∉ secretOptions) :
    (fields.filterMap hideField).any (fun entry => decide (entry.1 = name)) =
      fields.any (fun entry => decide (entry.1 = name)) := by
  induction fields with
  | nil => rfl
  | cons entry rest ih =>
    by_cases secret : entry.1 ∈ secretOptions
    · have other : entry.1 ≠ name := fun same => shown (same ▸ secret)
      rw [List.filterMap_cons_none (hideField_of_secret secret), ih, List.any_cons]
      simp [other]
    · rw [List.filterMap_cons_some (hideField_of_open secret), List.any_cons, List.any_cons, ih]

theorem replaced_hidden (shown : name ∉ secretOptions) (stored other : JsValue)
    (seen : hideField (name, stored) = some (name, other)) :
    (fields.map fun entry => if entry.1 = name then (name, stored) else entry).filterMap hideField =
      (fields.filterMap hideField).map fun entry =>
        if entry.1 = name then (name, other) else entry := by
  induction fields with
  | nil => rfl
  | cons entry rest ih =>
    rw [List.map_cons]
    by_cases here : entry.1 = name
    · have open_ : entry.1 ∉ secretOptions := here ▸ shown
      rw [if_pos here, List.filterMap_cons_some seen, ih,
        List.filterMap_cons_some (hideField_of_open open_), List.map_cons, if_pos here]
    · rw [if_neg here]
      by_cases secret : entry.1 ∈ secretOptions
      · rw [List.filterMap_cons_none (hideField_of_secret secret),
          List.filterMap_cons_none (hideField_of_secret secret), ih]
      · rw [List.filterMap_cons_some (hideField_of_open secret), ih,
          List.filterMap_cons_some (hideField_of_open secret), List.map_cons, if_neg here]

theorem replaced_secret (secret : name ∈ secretOptions) (stored : JsValue) :
    (fields.map fun entry => if entry.1 = name then (name, stored) else entry).filterMap hideField =
      fields.filterMap hideField := by
  induction fields with
  | nil => rfl
  | cons entry rest ih =>
    rw [List.map_cons]
    by_cases here : entry.1 = name
    · have own : entry.1 ∈ secretOptions := here ▸ secret
      have replaced : (name, stored).1 ∈ secretOptions := secret
      rw [if_pos here, List.filterMap_cons_none (hideField_of_secret replaced), ih,
        List.filterMap_cons_none (hideField_of_secret own)]
    · rw [if_neg here, List.filterMap_cons, List.filterMap_cons, ih]

end Fields

variable {name : String} {options : JsValue}

theorem hideOptions_set (shown : name ∉ secretOptions) {stored other : JsValue}
    (seen : hideField (name, stored) = some (name, other)) :
    hideOptions (options.set name stored) = (hideOptions options).set name other := by
  cases options with
  | object fields =>
    unfold JsValue.set hideOptions
    dsimp only
    rw [any_hidden shown]
    by_cases present : fields.any (fun entry => decide (entry.1 = name)) = true
    · rw [if_pos present, if_pos present]
      exact congrArg JsValue.object (replaced_hidden shown stored other seen)
    · rw [if_neg present, if_neg present]
      change JsValue.object ((fields ++ [(name, stored)]).filterMap hideField) = _
      rw [List.filterMap_append, List.filterMap_cons_some seen, List.filterMap_nil]
  | _ => rfl

theorem hideOptions_set_secret (secret : name ∈ secretOptions) (stored : JsValue) :
    hideOptions (options.set name stored) = hideOptions options := by
  cases options with
  | object fields =>
    unfold JsValue.set
    dsimp only
    split
    · exact congrArg JsValue.object (replaced_secret secret stored)
    · have hidden : hideField (name, stored) = none := hideField_of_secret secret
      change JsValue.object ((fields ++ [(name, stored)]).filterMap hideField) = _
      rw [List.filterMap_append, List.filterMap_cons_none hidden, List.filterMap_nil,
        List.append_nil]
      rfl
  | _ => rfl

theorem hideOptions_delete (name : String) :
    hideOptions (options.delete name) = (hideOptions options).delete name := by
  cases options with
  | object fields =>
    unfold JsValue.delete hideOptions
    dsimp only
    congr 1
    induction fields with
    | nil => rfl
    | cons entry rest ih =>
      by_cases here : entry.1 = name
      · rw [List.filter_cons_of_neg (by simp [here]), ih]
        by_cases secret : entry.1 ∈ secretOptions
        · rw [List.filterMap_cons_none (hideField_of_secret secret)]
        · rw [List.filterMap_cons_some (hideField_of_open secret),
            List.filter_cons_of_neg (by simp [here])]
      · rw [List.filter_cons_of_pos (by simp [here])]
        by_cases secret : entry.1 ∈ secretOptions
        · rw [List.filterMap_cons_none (hideField_of_secret secret),
            List.filterMap_cons_none (hideField_of_secret secret), ih]
        · rw [List.filterMap_cons_some (hideField_of_open secret),
            List.filterMap_cons_some (hideField_of_open secret),
            List.filter_cons_of_pos (by simp [here]), ih]
  | _ => rfl

/-! ### The steps that build options -/

theorem hideField_plain (shown : name ∉ secretOptions) (plain : name ∉ tlsOptionNames)
    (value : JsValue) : hideField (name, value) = some (name, value) := by
  rw [hideField_of_open shown, if_neg plain]

theorem hideOptions_setTruthy (shown : name ∉ secretOptions) (plain : name ∉ tlsOptionNames)
    (value : JsValue) :
    hideOptions (setTruthy options name value) = setTruthy (hideOptions options) name value := by
  unfold setTruthy
  split
  · exact hideOptions_set shown (hideField_plain shown plain value)
  · rfl

theorem hideOptions_setSecret (secret : name ∈ secretOptions) (value : JsValue) :
    hideOptions (setTruthy options name value) =
      setTruthy (hideOptions options) name .undefined := by
  have unset : setTruthy (hideOptions options) name .undefined = hideOptions options := rfl
  rw [unset]
  unfold setTruthy
  split
  · exact hideOptions_set_secret secret value
  · rfl

theorem hideOptions_setTls (tls : Option JsValue) :
    hideOptions (setTls options tls) = setTls (hideOptions options) (tls.map hideTlsOptions) := by
  cases tls with
  | none => rfl
  | some tls => exact hideOptions_set (by decide) rfl

theorem hideOptions_setDb (db : Option JsNumber) :
    hideOptions (setDb options db) = setDb (hideOptions options) db := by
  cases db with
  | none => rfl
  | some db =>
    unfold setDb
    dsimp only
    split
    · rfl
    · exact hideOptions_set (by decide) rfl

theorem buildStandaloneOptions_hide (config : RedisConfig) (role : Role) :
    hideOptions (buildStandaloneOptions config role) =
      buildStandaloneOptions (hideRedis config) role := by
  rw [buildStandaloneOptions_eq, buildStandaloneOptions_eq, hideOptions_setTls,
    hideOptions_setSecret (by decide), hideOptions_setTruthy (by decide) (by decide),
    hideOptions_setDb, hideTlsOptions_build]
  rfl

theorem clusterDescriptor_hide (config : RedisConfig) (role : Role) :
    hideOptions (clusterDescriptor config role) = clusterDescriptor (hideRedis config) role := by
  unfold clusterDescriptor
  rw [hideOptions_setTls, hideOptions_setSecret (by decide),
    hideOptions_setTruthy (by decide) (by decide), hideTlsOptions_build]
  rfl

theorem secureSentinels_hide (config : RedisConfig) (options : JsValue) :
    hideOptions (secureSentinels config options) =
      secureSentinels (hideRedis config) (hideOptions options) := by
  have built : buildTlsOptions (hideRedis config).certificates (hideRedis config).sentinelTls =
      (buildTlsOptions config.certificates config.sentinelTls).map hideTlsOptions :=
    (hideTlsOptions_build config.certificates config.sentinelTls).symm
  unfold secureSentinels
  rw [built]
  cases buildTlsOptions config.certificates config.sentinelTls with
  | none => rfl
  | some sentinelTLS =>
    have first : hideOptions (options.set "enableTLSForSentinelMode" (.bool true)) =
        (hideOptions options).set "enableTLSForSentinelMode" (.bool true) :=
      hideOptions_set (by decide) rfl
    have second : hideField ("sentinelTLS", sentinelTLS) =
        some ("sentinelTLS", hideTlsOptions sentinelTLS) := rfl
    exact (hideOptions_set (by decide) second).trans (by rw [first]; rfl)

theorem sentinelOptions_hide (config : RedisConfig) (role : Role) :
    hideOptions (sentinelOptions config role) = sentinelOptions (hideRedis config) role := by
  unfold sentinelOptions
  rw [hideOptions_set (by decide) (hideField_plain (by decide) (by decide) _),
    hideOptions_set (by decide) (hideField_plain (by decide) (by decide) _), hideOptions_setDb,
    hideOptions_delete, hideOptions_delete, buildStandaloneOptions_hide]
  rfl

theorem sentinelDescriptor_hide (config : RedisConfig) (role : Role) :
    hideOptions (sentinelDescriptor config role) = sentinelDescriptor (hideRedis config) role := by
  unfold sentinelDescriptor
  rw [secureSentinels_hide, hideOptions_setSecret (by decide),
    hideOptions_setTruthy (by decide) (by decide), sentinelOptions_hide]
  rfl

/-- What is shown of a descriptor is what is built from a configuration without secrets. -/
theorem buildRedisDescriptor_hide (config : RedisConfig) (role : Role) :
    hideDescriptor (buildRedisDescriptor config role) =
      buildRedisDescriptor (hideRedis config) role := by
  have same : (hideRedis config).deployment = config.deployment := rfl
  cases kind : config.deployment with
  | single =>
    have also := same.trans kind
    rw [buildRedisDescriptor_single role kind, buildRedisDescriptor_single role also]
    exact congrArg RedisDescriptor.single (buildStandaloneOptions_hide config role)
  | cluster =>
    have also := same.trans kind
    rw [buildRedisDescriptor_cluster role kind, buildRedisDescriptor_cluster role also]
    exact congrArg (RedisDescriptor.cluster config.clusterNodes) (clusterDescriptor_hide config role)
  | sentinel =>
    have also := same.trans kind
    rw [buildRedisDescriptor_sentinel role kind, buildRedisDescriptor_sentinel role also]
    exact congrArg RedisDescriptor.single (sentinelDescriptor_hide config role)

/-- Everything that is built for Redis from two such configurations is equal without secrets. -/
def SameShown (left right : QueueConfig) : Prop :=
  hideConfig left = hideConfig right ∧ ∀ one other, left = .redis one → right = .redis other →
    ∀ role, hideDescriptor (buildRedisDescriptor one role) =
      hideDescriptor (buildRedisDescriptor other role)

/-- For all credentials a saved configuration fails with the same error, or succeeds with results
and connection options that differ in the secret fields only. -/
theorem credentials_decide_nothing (platform : Platform) (config credentials others : JsValue) :
    (∃ error, normalizeQueueConfig platform config credentials = .error error ∧
      normalizeQueueConfig platform config others = .error error) ∨
    ∃ left right, normalizeQueueConfig platform config credentials = .ok left ∧
      normalizeQueueConfig platform config others = .ok right ∧ SameShown left right := by
  have same := (normalizeQueueConfig_hide platform config credentials).trans
    (normalizeQueueConfig_hide platform config others).symm
  cases first : normalizeQueueConfig platform config credentials with
  | error error =>
    rw [first] at same
    exact .inl ⟨error, rfl, map_eq_error_iff.mp same.symm⟩
  | ok left =>
    rw [first] at same
    obtain ⟨right, second, equal⟩ := map_eq_ok_iff.mp same.symm
    refine .inr ⟨left, right, rfl, second, equal.symm, ?_⟩
    intro one other redis also role
    rw [redis, also] at equal
    have hidden : hideRedis other = hideRedis one := QueueConfig.redis.inj equal
    rw [buildRedisDescriptor_hide, buildRedisDescriptor_hide, hidden]

end NodeRedBull.Credentials
