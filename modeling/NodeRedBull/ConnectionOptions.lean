import NodeRedBull.Connections
import NodeRedBull.Js.Fields

/-! What the connection options hold for single Redis servers and for Sentinels. -/

namespace NodeRedBull.ConnectionOptions
open Js Connections JsValue

/-! ## Optional settings -/

section
variable {options : JsValue} (plain : IsPlain options)
include plain

theorem plain_setTruthy (name : String) (value : JsValue) :
    IsPlain (setTruthy options name value) := by
  unfold setTruthy
  split
  · exact plain.set name value
  · exact plain

theorem plain_setTls (tls : Option JsValue) : IsPlain (setTls options tls) := by
  cases tls with
  | none => exact plain
  | some tls => exact plain.set "tls" tls

theorem plain_setDb (db : Option JsNumber) : IsPlain (setDb options db) := by
  cases db with
  | none => exact plain
  | some db =>
    unfold setDb
    dsimp only
    split
    · exact plain
    · exact plain.set "db" (.number db)

theorem get_setTruthy {name other : String} (different : other ≠ name) (value : JsValue) :
    (setTruthy options name value).get other = options.get other := by
  unfold setTruthy
  split
  · rw [plain.get_set, if_neg different]
  · rfl

theorem get_setTls {other : String} (different : other ≠ "tls") (tls : Option JsValue) :
    (setTls options tls).get other = options.get other := by
  cases tls with
  | none => rfl
  | some tls => exact (plain.get_set "tls" other tls).trans (if_neg different)

theorem get_setTls_own (tls : Option JsValue) :
    (setTls options tls).get "tls" = tls.getD (options.get "tls") := by
  cases tls with
  | none => rfl
  | some tls => exact (plain.get_set "tls" "tls" tls).trans (if_pos rfl)

theorem get_setDb {other : String} (different : other ≠ "db") (db : Option JsNumber) :
    (setDb options db).get other = options.get other := by
  cases db with
  | none => rfl
  | some db =>
    unfold setDb
    dsimp only
    split
    · rfl
    · rw [plain.get_set, if_neg different]

/-- A database is set unless it is no number. -/
theorem get_setDb_own (db : Option JsNumber) :
    (setDb options db).get "db" =
      (db.filter fun db => !db.isNaN).elim (options.get "db") JsValue.number := by
  cases db with
  | none => rfl
  | some db =>
    unfold setDb
    dsimp only
    cases missing : db.isNaN with
    | true =>
      rw [if_pos rfl, Option.filter_some, missing]
      rfl
    | false =>
      rw [if_neg Bool.false_ne_true, plain.get_set, if_pos rfl, Option.filter_some, missing]
      rfl

end

/-! ## A single server -/

/-- The options before the optional ones. -/
def baseOptions (config : RedisConfig) (role : Role) : JsValue :=
  .object [("host", .string config.host), ("port", ofNat config.port.number),
    ("maxRetriesPerRequest", retryValueForRole role), ("enableReadyCheck", .bool true),
    ("connectTimeout", ofNat 10000)]

theorem buildStandaloneOptions_eq (config : RedisConfig) (role : Role) :
    buildStandaloneOptions config role =
      setTls (setTruthy (setTruthy (setDb (baseOptions config role) config.db) "username"
        config.username) "password" config.password)
        (buildTlsOptions config.certificates config.tls) := rfl

theorem plain_baseOptions (config : RedisConfig) (role : Role) :
    IsPlain (baseOptions config role) := isPlain_object _

theorem plain_buildStandaloneOptions (config : RedisConfig) (role : Role) :
    IsPlain (buildStandaloneOptions config role) := by
  rw [buildStandaloneOptions_eq]
  apply plain_setTls
  apply plain_setTruthy
  apply plain_setTruthy
  exact plain_setDb (plain_baseOptions config role) _

theorem get_buildStandaloneOptions (config : RedisConfig) (role : Role) {name : String}
    (optional : name ∉ ["tls", "username", "password"]) :
    (buildStandaloneOptions config role).get name =
      (setDb (baseOptions config role) config.db).get name := by
  simp only [List.mem_cons, List.not_mem_nil, or_false, not_or] at optional
  obtain ⟨tls, username, password⟩ := optional
  have plain := plain_setDb (plain_baseOptions config role) config.db
  have named := plain_setTruthy plain "username" config.username
  rw [buildStandaloneOptions_eq, get_setTls (plain_setTruthy named _ _) tls,
    get_setTruthy named password, get_setTruthy plain username]

theorem standalone_host (config : RedisConfig) (role : Role) :
    (buildStandaloneOptions config role).get "host" = .string config.host := by
  rw [get_buildStandaloneOptions config role (by decide),
    get_setDb (plain_baseOptions config role) (by decide)]
  rfl

theorem standalone_port (config : RedisConfig) (role : Role) :
    (buildStandaloneOptions config role).get "port" = ofNat config.port.number := by
  rw [get_buildStandaloneOptions config role (by decide),
    get_setDb (plain_baseOptions config role) (by decide)]
  rfl

/-- The database as it is passed on. -/
def passedDatabase (db : Option JsNumber) : JsValue :=
  (db.filter fun db => !db.isNaN).elim .undefined .number

theorem standalone_db (config : RedisConfig) (role : Role) :
    (buildStandaloneOptions config role).get "db" = passedDatabase config.db := by
  rw [get_buildStandaloneOptions config role (by decide),
    get_setDb_own (plain_baseOptions config role)]
  rfl

theorem standalone_tls (config : RedisConfig) (role : Role) :
    (buildStandaloneOptions config role).get "tls" =
      (buildTlsOptions config.certificates config.tls).getD .undefined := by
  have plain := plain_setDb (plain_baseOptions config role) config.db
  have named := plain_setTruthy plain "username" config.username
  rw [buildStandaloneOptions_eq, get_setTls_own (plain_setTruthy named _ _),
    get_setTruthy named (by decide), get_setTruthy plain (by decide),
    get_setDb (plain_baseOptions config role) (by decide)]
  rfl

theorem standalone_sentinelTLS (config : RedisConfig) (role : Role) :
    (buildStandaloneOptions config role).get "sentinelTLS" = .undefined := by
  rw [get_buildStandaloneOptions config role (by decide),
    get_setDb (plain_baseOptions config role) (by decide)]
  rfl

/-! ## Clusters -/

/-- The options of a Cluster deployment before the optional ones. -/
def clusterOptions (role : Role) : JsValue :=
  .object [("maxRetriesPerRequest", retryValueForRole role), ("enableReadyCheck", .bool true),
    ("connectTimeout", ofNat 10000)]

def clusterDescriptor (config : RedisConfig) (role : Role) : JsValue :=
  setTls (setTruthy (setTruthy (clusterOptions role) "username" config.username) "password"
    config.password) (buildTlsOptions config.certificates config.tls)

theorem cluster_tls (config : RedisConfig) (role : Role) :
    (clusterDescriptor config role).get "tls" =
      (buildTlsOptions config.certificates config.tls).getD .undefined := by
  have plain : IsPlain (clusterOptions role) := isPlain_object _
  have named := plain_setTruthy plain "username" config.username
  unfold clusterDescriptor
  rw [get_setTls_own (plain_setTruthy named _ _), get_setTruthy named (by decide),
    get_setTruthy plain (by decide)]
  rfl

/-! ## Sentinels -/

/-- The options of a Sentinel deployment before the optional ones. -/
def sentinelOptions (config : RedisConfig) (role : Role) : JsValue :=
  ((setDb (((buildStandaloneOptions config role).delete "host").delete "port") config.db).set
    "sentinels" (.array (config.sentinels.map endpointValue))).set "name" config.sentinelMasterName

def secureSentinels (config : RedisConfig) (options : JsValue) : JsValue :=
  match buildTlsOptions config.certificates config.sentinelTls with
  | some sentinelTLS =>
    (options.set "enableTLSForSentinelMode" (.bool true)).set "sentinelTLS" sentinelTLS
  | none => options

theorem plain_removed (config : RedisConfig) (role : Role) :
    IsPlain (((buildStandaloneOptions config role).delete "host").delete "port") :=
  ((plain_buildStandaloneOptions config role).delete "host").delete "port"

theorem plain_sentinelOptions (config : RedisConfig) (role : Role) :
    IsPlain (sentinelOptions config role) :=
  ((plain_setDb (plain_removed config role) config.db).set "sentinels" _).set "name" _

theorem get_secureSentinels {options : JsValue} (plain : IsPlain options) (config : RedisConfig)
    {name : String} (optional : name ∉ ["enableTLSForSentinelMode", "sentinelTLS"]) :
    (secureSentinels config options).get name = options.get name := by
  simp only [List.mem_cons, List.not_mem_nil, or_false, not_or] at optional
  unfold secureSentinels
  split
  · rw [(plain.set _ _).get_set, if_neg optional.2, plain.get_set, if_neg optional.1]
  · rfl

/-- The options of a Sentinel deployment. -/
def sentinelDescriptor (config : RedisConfig) (role : Role) : JsValue :=
  secureSentinels config (setTruthy (setTruthy (sentinelOptions config role)
    "sentinelUsername" config.sentinelUsername) "sentinelPassword" config.sentinelPassword)

theorem get_sentinelDescriptor (config : RedisConfig) (role : Role) {name : String}
    (optional : name ∉ ["enableTLSForSentinelMode", "sentinelTLS", "sentinelUsername",
      "sentinelPassword"]) :
    (sentinelDescriptor config role).get name = (sentinelOptions config role).get name := by
  simp only [List.mem_cons, List.not_mem_nil, or_false, not_or] at optional
  obtain ⟨enable, tls, username, password⟩ := optional
  have plain := plain_sentinelOptions config role
  have named := plain_setTruthy plain "sentinelUsername" config.sentinelUsername
  unfold sentinelDescriptor
  rw [get_secureSentinels (plain_setTruthy named _ _) config (by simp [enable, tls]),
    get_setTruthy named password, get_setTruthy plain username]

theorem sentinel_list (config : RedisConfig) (role : Role) :
    (sentinelDescriptor config role).get "sentinels" =
      .array (config.sentinels.map endpointValue) := by
  have plain := plain_setDb (plain_removed config role) config.db
  rw [get_sentinelDescriptor config role (by decide)]
  unfold sentinelOptions
  rw [(plain.set _ _).get_set, if_neg (by decide), plain.get_set, if_pos rfl]

theorem sentinel_name (config : RedisConfig) (role : Role) :
    (sentinelDescriptor config role).get "name" = config.sentinelMasterName := by
  have plain := plain_setDb (plain_removed config role) config.db
  rw [get_sentinelDescriptor config role (by decide)]
  unfold sentinelOptions
  rw [(plain.set _ _).get_set, if_pos rfl]

theorem sentinel_db (config : RedisConfig) (role : Role) :
    (sentinelDescriptor config role).get "db" = passedDatabase config.db := by
  have plain := plain_setDb (plain_removed config role) config.db
  have standalone := plain_buildStandaloneOptions config role
  rw [get_sentinelDescriptor config role (by decide)]
  unfold sentinelOptions
  rw [(plain.set _ _).get_set, if_neg (by decide), plain.get_set, if_neg (by decide),
    get_setDb_own (plain_removed config role), (standalone.delete "host").get_delete,
    if_neg (by decide), standalone.get_delete, if_neg (by decide), standalone_db]
  unfold passedDatabase
  cases (config.db.filter fun db => !db.isNaN) with
  | none => rfl
  | some db => rfl

theorem sentinel_tls (config : RedisConfig) (role : Role) :
    (sentinelDescriptor config role).get "tls" =
      (buildTlsOptions config.certificates config.tls).getD .undefined := by
  have plain := plain_setDb (plain_removed config role) config.db
  have standalone := plain_buildStandaloneOptions config role
  rw [get_sentinelDescriptor config role (by decide)]
  unfold sentinelOptions
  rw [(plain.set _ _).get_set, if_neg (by decide), plain.get_set, if_neg (by decide),
    get_setDb (plain_removed config role) (by decide), (standalone.delete "host").get_delete,
    if_neg (by decide), standalone.get_delete, if_neg (by decide), standalone_tls]

theorem sentinel_sentinelTLS (config : RedisConfig) (role : Role) :
    (sentinelDescriptor config role).get "sentinelTLS" =
      (buildTlsOptions config.certificates config.sentinelTls).getD .undefined := by
  have plain := plain_setDb (plain_removed config role) config.db
  have standalone := plain_buildStandaloneOptions config role
  have options := plain_sentinelOptions config role
  have named := plain_setTruthy options "sentinelUsername" config.sentinelUsername
  unfold sentinelDescriptor secureSentinels
  cases buildTlsOptions config.certificates config.sentinelTls with
  | some sentinelTLS =>
    have enabled := (plain_setTruthy named "sentinelPassword" config.sentinelPassword).set
      "enableTLSForSentinelMode" (.bool true)
    exact (enabled.get_set "sentinelTLS" "sentinelTLS" sentinelTLS).trans (if_pos rfl)
  | none =>
    dsimp only
    rw [get_setTruthy named (by decide), get_setTruthy options (by decide)]
    unfold sentinelOptions
    rw [(plain.set _ _).get_set, if_neg (by decide), plain.get_set, if_neg (by decide),
      get_setDb (plain_removed config role) (by decide), (standalone.delete "host").get_delete,
      if_neg (by decide), standalone.get_delete, if_neg (by decide), standalone_sentinelTLS]
    rfl

/-! ## The descriptors -/

section
variable {config : RedisConfig} (role : Role)

theorem buildRedisDescriptor_single (deployed : config.deployment = .single) :
    buildRedisDescriptor config role = .single (buildStandaloneOptions config role) := by
  unfold buildRedisDescriptor
  rw [deployed]

theorem buildRedisDescriptor_cluster (deployed : config.deployment = .cluster) :
    buildRedisDescriptor config role =
      .cluster config.clusterNodes (clusterDescriptor config role) := by
  unfold buildRedisDescriptor
  rw [deployed]
  rfl

theorem buildRedisDescriptor_sentinel (deployed : config.deployment = .sentinel) :
    buildRedisDescriptor config role = .single (sentinelDescriptor config role) := by
  unfold buildRedisDescriptor
  rw [deployed]
  rfl

end

end NodeRedBull.ConnectionOptions
