import NodeRedBull.ClusterPrefix

/-! The fields of the backend that is not selected: their values, also malformed ones, change
neither what a saved configuration is normalized to nor what is built from it. -/

namespace NodeRedBull.HiddenFields
open Js Library Connections ClusterPrefix

/-- The fields that only a Redis configuration has. -/
def redisOnlyFields : List String :=
  ["deployment", "clusterNodes", "sentinels", "sentinelMasterName", "sentinelUsername",
    "sentinelTls", "db", "prefix"]

/-- The fields that only a PostgreSQL configuration has. -/
def postgresOnlyFields : List String := ["database", "schema", "max", "migrate"]

/-- Two saved configurations that differ in the hidden fields only. -/
def DifferOnlyIn (hidden : List String) (left right : JsValue) : Prop :=
  ∀ name, name ∉ hidden → left.get name = right.get name

/-- The fields that both backends read. -/
def sharedFields : List String :=
  removedAliases ++ plaintextSecrets ++ ["backend", "name", "address", "port", "username", "tls",
    "tlsRejectUnauthorized", "tlsServerName", "removeOnComplete", "removeOnFail", "telemetry",
    "telemetryServiceName", "telemetryMetrics"]

def AgreeOn (names : List String) (left right : JsValue) : Prop :=
  ∀ name ∈ names, left.get name = right.get name

theorem DifferOnlyIn.agreeOn {hidden names : List String} {left right : JsValue}
    (same : DifferOnlyIn hidden left right) (visible : ∀ name ∈ names, name ∉ hidden) :
    AgreeOn names left right := by
  intro name member
  exact same name (visible name member)

theorem AgreeOn.mono {names fewer : List String} {left right : JsValue}
    (same : AgreeOn names left right) (included : ∀ name ∈ fewer, name ∈ names) :
    AgreeOn fewer left right := by
  intro name member
  exact same name (included name member)

variable {left right : JsValue}

/-! ## What both backends read -/

theorem rejectPresent_congr {names : List String} (message : String → String)
    (same : AgreeOn names left right) :
    rejectPresent left names message = rejectPresent right names message := by
  have found : names.find? (fun name => (left.get name).isPresent) =
      names.find? (fun name => (right.get name).isPresent) := by
    induction names with
    | nil => rfl
    | cons name rest ih =>
      have later := ih (same.mono fun other member => List.mem_cons_of_mem name member)
      rw [List.find?_cons, List.find?_cons, same name List.mem_cons_self, later]
  unfold rejectPresent
  rw [found]

theorem normalizeBackend_congr (same : AgreeOn sharedFields left right) :
    normalizeBackend left = normalizeBackend right := by
  unfold normalizeBackend
  rw [same "backend" (by decide)]

theorem requiredQueueName_congr (same : AgreeOn sharedFields left right) :
    requiredQueueName left = requiredQueueName right := by
  unfold requiredQueueName
  rw [same "name" (by decide)]

theorem buildDefaultJobOptions_congr (same : AgreeOn sharedFields left right) :
    buildDefaultJobOptions left = buildDefaultJobOptions right := by
  unfold buildDefaultJobOptions
  rw [same "removeOnComplete" (by decide), same "removeOnFail" (by decide)]

theorem telemetryConfig_congr (same : AgreeOn sharedFields left right) :
    telemetryConfig left = telemetryConfig right := by
  unfold telemetryConfig
  rw [same "telemetry" (by decide), same "telemetryServiceName" (by decide),
    same "telemetryMetrics" (by decide)]

theorem tlsConfig_congr (credentials : JsValue) (same : AgreeOn sharedFields left right) :
    tlsConfig left credentials = tlsConfig right credentials := by
  unfold tlsConfig
  rw [same "tlsRejectUnauthorized" (by decide), same "tlsServerName" (by decide)]

/-! ## Each backend -/

theorem redisOnly_not_shared : ∀ name ∈ sharedFields, name ∉ redisOnlyFields := by decide

theorem postgresOnly_not_shared : ∀ name ∈ sharedFields, name ∉ postgresOnlyFields := by decide

theorem redisOnly_not_postgresOnly : ∀ name ∈ postgresOnlyFields, name ∉ redisOnlyFields := by
  decide

theorem postgresOnly_not_redisOnly : ∀ name ∈ redisOnlyFields, name ∉ postgresOnlyFields := by
  decide

/-- `normalizePostgresConfig` reads no Redis-only field. -/
theorem normalizePostgresConfig_congr (credentials : JsValue)
    (shared : AgreeOn sharedFields left right) (own : AgreeOn postgresOnlyFields left right) :
    normalizePostgresConfig left credentials = normalizePostgresConfig right credentials := by
  unfold normalizePostgresConfig
  rw [requiredQueueName_congr shared, tlsConfig_congr credentials shared,
    buildDefaultJobOptions_congr shared, telemetryConfig_congr shared, shared "tls" (by decide),
    shared "address" (by decide), shared "port" (by decide), shared "username" (by decide),
    own "database" (by decide), own "schema" (by decide), own "max" (by decide),
    own "migrate" (by decide)]

theorem normalizeDeployment_congr (own : AgreeOn redisOnlyFields left right) :
    normalizeDeployment left = normalizeDeployment right := by
  unfold normalizeDeployment
  rw [own "deployment" (by decide)]

/-- `normalizeRedisConfig` reads no PostgreSQL-only field. -/
theorem normalizeRedisConfig_congr (platform : Platform) (credentials : JsValue)
    (shared : AgreeOn sharedFields left right) (own : AgreeOn redisOnlyFields left right) :
    normalizeRedisConfig platform left credentials =
      normalizeRedisConfig platform right credentials := by
  unfold normalizeRedisConfig
  rw [normalizeDeployment_congr own, requiredQueueName_congr shared,
    tlsConfig_congr credentials shared, buildDefaultJobOptions_congr shared,
    telemetryConfig_congr shared, shared "address" (by decide), shared "port" (by decide),
    shared "tls" (by decide), shared "username" (by decide), own "sentinelTls" (by decide),
    own "db" (by decide), own "prefix" (by decide), own "clusterNodes" (by decide),
    own "sentinelMasterName" (by decide), own "sentinels" (by decide),
    own "sentinelUsername" (by decide)]

/-- The checks that come before the backend is looked at. -/
def checkFields (config : JsValue) : Except JsError Unit := do
  rejectPresent config removedAliases fun name => "Unsupported config field: " ++ name
  rejectPresent config plaintextSecrets fun name =>
    name ++ " must be stored in Node-RED credentials"

theorem checkFields_congr (same : AgreeOn sharedFields left right) :
    checkFields left = checkFields right := by
  have aliases : AgreeOn removedAliases left right := same.mono (by decide)
  have secrets : AgreeOn plaintextSecrets left right := same.mono (by decide)
  unfold checkFields
  rw [rejectPresent_congr _ aliases, rejectPresent_congr _ secrets]

theorem normalizeQueueConfig_postgres (platform : Platform) (config credentials : JsValue)
    (selected : normalizeBackend config = .ok .postgres) :
    normalizeQueueConfig platform config credentials = (do
      checkFields config
      return .postgres (← normalizePostgresConfig config credentials)) := by
  unfold normalizeQueueConfig checkFields
  rw [selected, bind_assoc]
  generalize normalizePostgresConfig config credentials = postgres
  generalize normalizeRedisConfig platform config credentials = redis
  rfl

theorem normalizeQueueConfig_redis (platform : Platform) (config credentials : JsValue)
    (selected : normalizeBackend config = .ok .redis) :
    normalizeQueueConfig platform config credentials = (do
      checkFields config
      return .redis (← normalizeRedisConfig platform config credentials)) := by
  unfold normalizeQueueConfig checkFields
  rw [selected, bind_assoc]
  generalize normalizePostgresConfig config credentials = postgres
  generalize normalizeRedisConfig platform config credentials = redis
  rfl

/-! ## Two saved configurations -/

/-- Normalization fails with one and the same error, or succeeds with results that the relation
compares. -/
def SameOutcome (related : QueueConfig → QueueConfig → Prop)
    (left right : Except JsError QueueConfig) : Prop :=
  (∃ error, left = .error error ∧ right = .error error) ∨
    ∃ one other, left = .ok one ∧ right = .ok other ∧ one = other ∧ related one other

/-- Two PostgreSQL configurations from which the same options are built, without a prefix and
without `skipWaitingForReady`. -/
def SamePostgresOptions (left right : QueueConfig) : Prop :=
  ∃ one other, left = .postgres one ∧ right = .postgres other ∧ ∀ telemetry role,
    let options := buildBullMQOptions left (.postgres one.postgres) telemetry role
    options = buildBullMQOptions right (.postgres other.postgres) telemetry role ∧
      options.prefixOption = none ∧ options.skipWaitingForReady = false

/-- Two Redis configurations from which the same descriptor and options are built. -/
def SameRedisOptions (left right : QueueConfig) : Prop :=
  ∃ one other, left = .redis one ∧ right = .redis other ∧ ∀ role,
    buildRedisDescriptor one role = buildRedisDescriptor other role ∧
      ∀ connection telemetry, buildBullMQOptions left connection telemetry role =
        buildBullMQOptions right connection telemetry role

theorem sameOutcome_of_eq {related : QueueConfig → QueueConfig → Prop}
    {one other : Except JsError QueueConfig} (same : one = other)
    (reflexive : ∀ config, other = .ok config → related config config) :
    SameOutcome related one other := by
  subst same
  cases result : one with
  | error thrown => exact .inl ⟨thrown, rfl, rfl⟩
  | ok config => exact .inr ⟨config, config, rfl, rfl, rfl, reflexive config result⟩

theorem postgres_of_normalized {platform : Platform} {config credentials : JsValue}
    {normalized : QueueConfig} (selected : normalizeBackend config = .ok .postgres)
    (result : normalizeQueueConfig platform config credentials = .ok normalized) :
    ∃ target, normalizePostgresConfig config credentials = .ok target ∧
      normalized = .postgres target := by
  rw [normalizeQueueConfig_postgres platform config credentials selected] at result
  obtain ⟨_, -, rest⟩ := bind_eq_ok result
  obtain ⟨target, built, same⟩ := bind_eq_ok rest
  exact ⟨target, built, (Except.ok.inj same).symm⟩

theorem redis_of_normalized {platform : Platform} {config credentials : JsValue}
    {normalized : QueueConfig} (selected : normalizeBackend config = .ok .redis)
    (result : normalizeQueueConfig platform config credentials = .ok normalized) :
    ∃ target, normalizeRedisConfig platform config credentials = .ok target ∧
      normalized = .redis target := by
  rw [normalizeQueueConfig_redis platform config credentials selected] at result
  obtain ⟨_, -, rest⟩ := bind_eq_ok result
  obtain ⟨target, built, same⟩ := bind_eq_ok rest
  exact ⟨target, built, (Except.ok.inj same).symm⟩

/-- PostgreSQL: what a flow that once used Redis still carries is ignored. -/
theorem redisOnly_ignored (platform : Platform) (credentials : JsValue)
    (differ : DifferOnlyIn redisOnlyFields left right)
    (selected : normalizeBackend left = .ok .postgres) :
    SameOutcome SamePostgresOptions (normalizeQueueConfig platform left credentials)
      (normalizeQueueConfig platform right credentials) := by
  have shared : AgreeOn sharedFields left right := differ.agreeOn redisOnly_not_shared
  have own : AgreeOn postgresOnlyFields left right := differ.agreeOn redisOnly_not_postgresOnly
  have also_selected : normalizeBackend right = .ok .postgres := by
    rw [← normalizeBackend_congr shared, selected]
  apply sameOutcome_of_eq
  · rw [normalizeQueueConfig_postgres platform left credentials selected,
      normalizeQueueConfig_postgres platform right credentials also_selected,
      checkFields_congr shared, normalizePostgresConfig_congr credentials shared own]
  · intro config result
    obtain ⟨target, -, rfl⟩ := postgres_of_normalized also_selected result
    refine ⟨target, target, rfl, rfl, ?_⟩
    intro telemetry role
    refine ⟨rfl, rfl, ?_⟩
    change (!isConsumerRole role && decide (Backend.postgres ≠ Backend.postgres)) = false
    rw [decide_eq_false (by simp), Bool.and_false]

/-- Redis, also where the saved flow names no backend: no PostgreSQL-only field matters. -/
theorem postgresOnly_ignored (platform : Platform) (credentials : JsValue)
    (differ : DifferOnlyIn postgresOnlyFields left right)
    (selected : normalizeBackend left = .ok .redis) :
    SameOutcome SameRedisOptions (normalizeQueueConfig platform left credentials)
      (normalizeQueueConfig platform right credentials) := by
  have shared : AgreeOn sharedFields left right := differ.agreeOn postgresOnly_not_shared
  have own : AgreeOn redisOnlyFields left right := differ.agreeOn postgresOnly_not_redisOnly
  have also_selected : normalizeBackend right = .ok .redis := by
    rw [← normalizeBackend_congr shared, selected]
  apply sameOutcome_of_eq
  · rw [normalizeQueueConfig_redis platform left credentials selected,
      normalizeQueueConfig_redis platform right credentials also_selected,
      checkFields_congr shared, normalizeRedisConfig_congr platform credentials shared own]
  · intro config result
    obtain ⟨target, -, rfl⟩ := redis_of_normalized also_selected result
    exact ⟨target, target, rfl, rfl, fun role => ⟨rfl, fun _ _ => rfl⟩⟩

/-- The fields of the other backend have no effect. -/
theorem hidden_fields_no_effect (platform : Platform) (credentials left right : JsValue) :
    (DifferOnlyIn redisOnlyFields left right → normalizeBackend left = .ok .postgres →
      SameOutcome SamePostgresOptions (normalizeQueueConfig platform left credentials)
        (normalizeQueueConfig platform right credentials)) ∧
    (DifferOnlyIn postgresOnlyFields left right → normalizeBackend left = .ok .redis →
      SameOutcome SameRedisOptions (normalizeQueueConfig platform left credentials)
        (normalizeQueueConfig platform right credentials)) :=
  ⟨redisOnly_ignored platform credentials, postgresOnly_ignored platform credentials⟩

/-- A saved flow with the fields that the other backend left behind, and without them. -/
def switchedFlow (backend : String) (left_behind : List (String × JsValue)) : JsValue :=
  .object ([("name", .string "orders"), ("backend", .string backend)] ++ left_behind)

theorem switchedFlow_differOnlyIn (backend : String) (hidden : List String)
    (left_behind : List (String × JsValue)) (all_hidden : ∀ entry ∈ left_behind, entry.1 ∈ hidden) :
    DifferOnlyIn hidden (switchedFlow backend left_behind) (switchedFlow backend []) := by
  intro name visible
  have absent : left_behind.find? (fun entry => decide (entry.1 = name)) = none := by
    rw [List.find?_eq_none]
    intro entry member
    have stale := all_hidden entry member
    simp only [decide_eq_true_eq]
    intro equal
    exact visible (equal ▸ stale)
  change JsValue.field _ name = JsValue.field _ name
  unfold JsValue.field
  rw [List.find?_append, absent, Option.or_none, List.append_nil]

def redisLeftovers : List (String × JsValue) :=
  [("deployment", .string "ring"), ("db", .string "x"), ("sentinels", .array [.null])]

def postgresLeftovers : List (String × JsValue) := [("max", .string "0"), ("migrate", .null)]

theorem hidden_fields_no_effect_stale :
    SameOutcome SamePostgresOptions
        (normalizeQueueConfig noUrls (switchedFlow "postgres" redisLeftovers) .null)
        (normalizeQueueConfig noUrls (switchedFlow "postgres" []) .null) ∧
      SameOutcome SameRedisOptions
        (normalizeQueueConfig noUrls (switchedFlow "" postgresLeftovers) .null)
        (normalizeQueueConfig noUrls (switchedFlow "" []) .null) :=
  ⟨(hidden_fields_no_effect noUrls .null _ _).1
      (switchedFlow_differOnlyIn "postgres" redisOnlyFields redisLeftovers (by decide)) rfl,
    (hidden_fields_no_effect noUrls .null _ _).2
      (switchedFlow_differOnlyIn "" postgresOnlyFields postgresLeftovers (by decide)) rfl⟩

end NodeRedBull.HiddenFields
