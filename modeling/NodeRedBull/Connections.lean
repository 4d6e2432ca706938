import NodeRedBull.Js.Value

/-! Saved queue configurations, what they are normalized to and the connection and BullMQ
options built from them (`lib/connections.js`). -/

namespace NodeRedBull.Connections
open Js

def toBoolean (value : JsValue) (defaultValue : Bool) : Bool :=
  match value with
  | .undefined | .null | .string "" => defaultValue
  | .bool value => value
  | .number value => value != .finite 0
  | value => ["true", "1", "yes", "on"].contains (toLowerCase value.toText)

/-- A TCP port. `toPort` is the only way to one. -/
structure Port where
  number : Nat
  valid : 1 ≤ number ∧ number ≤ 65535

def defaultRedisPort : Port := ⟨6379, by decide⟩
def defaultSentinelPort : Port := ⟨26379, by decide⟩
def defaultPostgresPort : Port := ⟨5432, by decide⟩

def toPort (value : JsValue) (defaultValue : Port) (label : String := "Redis") :
    Except JsError Port :=
  if !value.isPresent then .ok defaultValue
  else
    match value.toNumber with
    | .finite port =>
      if valid : port.den = 1 ∧ 1 ≤ port.num.toNat ∧ port.num.toNat ≤ 65535 then
        .ok ⟨port.num.toNat, valid.2⟩
      else .error (newError ("Invalid " ++ label ++ " port: " ++ value.toText))
    | _ => .error (newError ("Invalid " ++ label ++ " port: " ++ value.toText))

inductive Backend where
  | redis
  | postgres
  deriving DecidableEq

/-- A saved flow without a backend is a Redis one. -/
def normalizeBackend (config : JsValue) : Except JsError Backend :=
  if !(config.get "backend").isPresent then .ok .redis
  else
    match toLowerCase (trimText (config.get "backend").toText) with
    | "redis" => .ok .redis
    | "postgres" => .ok .postgres
    | _ => .error (newError ("Unsupported backend: " ++ (config.get "backend").toText))

def toPoolMax (value : JsValue) : Except JsError JsNumber :=
  if !value.isPresent then .ok (JsNumber.ofNat 2)
  else if !value.toNumber.isInteger || value.toNumber.lt (JsNumber.ofNat 1) then
    .error (newError "PostgreSQL pool max must be a positive whole number of connections")
  else .ok value.toNumber

/-! ## Endpoints -/

structure Endpoint where
  host : String
  port : Port

/-- What `new URL(text)` tells about a text that it accepts. -/
structure ParsedUrl where
  protocol : String
  username : String
  password : String
  hostname : String
  port : String

/-- `url` stands for the WHATWG URL class. -/
structure Platform where
  url : String → Option ParsedUrl

def isIPv4Segment (text : List Char) : Bool :=
  decide (1 ≤ text.length ∧ text.length ≤ 3) && text.all Char.isDigit &&
    (decide (text.length = 1) || text.head? != some '0') &&
    decide (JsNumber.digitsValue 10 text ≤ 255)

def isIPv4 (text : List Char) : Bool :=
  let segments := text.splitOn '.'
  decide (segments.length = 4) && segments.all isIPv4Segment

def isIPv6Segment (text : List Char) : Bool :=
  decide (1 ≤ text.length ∧ text.length ≤ 4) && text.all JsNumber.isHexDigit

/-- How many 16-bit groups a run of segments stands for, if it is one. -/
def ipv6Groups (text : List Char) (mayEndInIPv4 : Bool) : Option Nat :=
  if text = [] then some 0
  else
    let segments := text.splitOn ':'
    if segments.all isIPv6Segment then some segments.length
    else if mayEndInIPv4 && segments.dropLast.all isIPv6Segment &&
        isIPv4 (segments.getLastD []) then
      some (segments.length + 1)
    else none

/-- The text before and after the first `::`. -/
def splitDoubleColon : List Char → Option (List Char × List Char)
  | ':' :: ':' :: rest => some ([], rest)
  | c :: rest => (splitDoubleColon rest).map fun parts => (c :: parts.1, parts.2)
  | [] => none

def isIPv6Zone (text : List Char) : Bool :=
  decide (text ≠ []) && text.all fun c =>
    c.isAlphanum || decide (c = '-') || decide (c = '.') || decide (c = ':')

def isIPv6 (text : List Char) : Bool :=
  let address := text.takeWhile (fun c => decide (c ≠ '%'))
  let zone := text.dropWhile (fun c => decide (c ≠ '%'))
  (decide (zone = []) || isIPv6Zone zone.tail) &&
    match splitDoubleColon address with
    | none => ipv6Groups address true == some 8
    | some (left, right) =>
      match ipv6Groups left false, ipv6Groups right true with
      | some before, some behind => decide (before + behind ≤ 7)
      | _, _ => false

/-- `isIP(text)`, as a condition -/
def isIP (text : String) : Bool := isIPv4 text.toList || isIPv6 text.toList

def isSchemeChar (c : Char) : Bool :=
  c.isAlphanum || decide (c = '+') || decide (c = '.') || decide (c = '-')

/-- `/^[a-z][a-z\d+.-]*:\/\//i.test(text)` -/
def hasScheme (text : List Char) : Bool :=
  match text with
  | [] => false
  | c :: rest => c.isAlpha && (rest.dropWhile isSchemeChar).take 3 == [':', '/', '/']

/-- `hostname.replace(/^\[|\]$/g, "")` -/
def stripBrackets (hostname : List Char) : List Char :=
  let opened := match hostname with
    | '[' :: rest => rest
    | text => text
  if opened.getLast? = some ']' then opened.dropLast else opened

def parseEndpoint (platform : Platform) (endpoint : JsValue) (defaultPort : Port)
    (tls : Option Bool) (tlsName : String) : Except JsError Endpoint := do
  if endpoint.isObject then
    let host := (endpoint.get "host").orElse (endpoint.get "address")
    if !host.isPresent then
      throw (newError "Redis endpoint requires a host")
    return ⟨trimText host.toText, ← toPort (endpoint.get "port") defaultPort⟩
  let text := trimText (endpoint.orElse (.string "")).toText
  if text = "" then
    throw (newError "Redis endpoint cannot be empty")
  if isIP text then
    return ⟨text, defaultPort⟩
  let schemed := hasScheme text.toList
  match platform.url (if schemed then text else "redis://" ++ text) with
  | none => throw (newError ("Invalid Redis endpoint: " ++ text))
  | some url =>
    if url.protocol ≠ "redis:" ∧ url.protocol ≠ "rediss:" then
      throw (newError ("Unsupported Redis endpoint protocol: " ++ url.protocol))
    if url.username ≠ "" ∨ url.password ≠ "" then
      throw (newError ("Redis endpoint URLs cannot include credentials; " ++
        "use the config node credential fields"))
    let secure := decide (url.protocol = "rediss:")
    if schemed && tls == some (!secure) then
      throw (newError (url.protocol ++ "// endpoint requires " ++ tlsName ++ " to be " ++
        (if secure then "enabled" else "disabled")))
    let host := String.ofList (stripBrackets url.hostname.toList)
    if host = "" then
      throw (newError ("Redis endpoint requires a host: " ++ text))
    return ⟨host, ← toPort (.string url.port) defaultPort⟩

def isSeparator (c : Char) : Bool := decide (c = '\n' ∨ c = ',')

/-- `text.split(/[\n,]+/)`: a run of separators is one cut. -/
def splitSeparators (text : List Char) : List (List Char) :=
  go text []
where
  go : List Char → List Char → List (List Char)
    | [], piece => [piece.reverse]
    | c :: rest, piece =>
      if isSeparator c then
        piece.reverse :: skip rest
      else go rest (c :: piece)
  skip : List Char → List (List Char)
    | [] => [[]]
    | c :: rest => if isSeparator c then skip rest else go rest [c]

def splitItem (item : JsValue) : List JsValue :=
  match item with
  | .string text => (splitSeparators text.toList).map fun piece => .string (String.ofList piece)
  | item => [item]

def parseEndpointList (platform : Platform) (value : JsValue) (defaultPort : Port)
    (tls : Option Bool) (tlsName : String) : Except JsError (List Endpoint) :=
  match value with
  | .array items => ((items.flatMap splitItem).filter JsValue.isPresent).mapM
      fun item => parseEndpoint platform item defaultPort tls tlsName
  | value =>
    if !value.isPresent then .ok []
    else (((splitSeparators value.toText.toList).map JsNumber.trim).filter
        (fun piece => decide (piece ≠ []))).mapM
      fun piece => parseEndpoint platform (.string (String.ofList piece)) defaultPort tls tlsName

/-! ## Normalization -/

def readSecret (credentials : JsValue) (name : String) : JsValue :=
  if credentials.truthy && (credentials.get name).isPresent then credentials.get name
  else .undefined

/-- `value || undefined` -/
def orUndefined (value : JsValue) : JsValue := value.orElse .undefined

def toKeepCount (value : JsValue) (name : String) : Except JsError (Option JsNumber) :=
  if !value.isPresent then .ok none
  else if !value.toNumber.isInteger || value.toNumber.lt (JsNumber.ofNat 0) then
    .error (newError (name ++ " must be a non-negative whole number of jobs to keep"))
  else .ok (some value.toNumber)

/-- The retention defaults of a queue: none when both fields are blank. -/
def buildDefaultJobOptions (config : JsValue) :
    Except JsError (Option (List (String × JsValue))) := do
  let removeOnComplete ← toKeepCount (config.get "removeOnComplete") "removeOnComplete"
  let removeOnFail ← toKeepCount (config.get "removeOnFail") "removeOnFail"
  let defaults := (removeOnComplete.map fun count => ("removeOnComplete", JsValue.number count)).toList
    ++ (removeOnFail.map fun count => ("removeOnFail", JsValue.number count)).toList
  return if defaults.isEmpty then none else some defaults

inductive Deployment where
  | single
  | cluster
  | sentinel
  deriving DecidableEq

structure TelemetryConfig where
  telemetry : Bool
  telemetryServiceName : JsValue
  telemetryMetrics : Bool

structure TlsConfig where
  tlsRejectUnauthorized : Bool
  tlsServerName : JsValue
  tlsCa : JsValue
  tlsCert : JsValue
  tlsKey : JsValue

structure RedisConfig where
  queueName : String
  deployment : Deployment
  host : String
  port : Port
  db : Option JsNumber
  username : JsValue
  password : JsValue
  tls : Bool
  certificates : TlsConfig
  prefixValue : JsValue
  defaultJobOptions : Option (List (String × JsValue))
  clusterNodes : List Endpoint
  sentinelMasterName : JsValue
  sentinels : List Endpoint
  sentinelUsername : JsValue
  sentinelPassword : JsValue
  sentinelTls : Bool
  telemetry : TelemetryConfig

/-- The pool options that BullMQ hands to pg. -/
structure PostgresTarget where
  host : String
  port : Port
  database : JsValue
  user : JsValue
  password : JsValue
  schema : JsValue
  max : JsNumber
  connectionTimeoutMillis : Nat
  migrate : Bool
  ssl : Option JsValue

structure PostgresConfig where
  queueName : String
  postgres : PostgresTarget
  defaultJobOptions : Option (List (String × JsValue))
  telemetry : TelemetryConfig

inductive QueueConfig where
  | redis (config : RedisConfig)
  | postgres (config : PostgresConfig)

def telemetryConfig (config : JsValue) : TelemetryConfig where
  telemetry := toBoolean (config.get "telemetry") false
  telemetryServiceName := orUndefined (config.get "telemetryServiceName")
  telemetryMetrics := toBoolean (config.get "telemetryMetrics") false

def tlsConfig (config credentials : JsValue) : TlsConfig where
  tlsRejectUnauthorized := toBoolean (config.get "tlsRejectUnauthorized") true
  tlsServerName := orUndefined (config.get "tlsServerName")
  tlsCa := readSecret credentials "tlsCa"
  tlsCert := readSecret credentials "tlsCert"
  tlsKey := readSecret credentials "tlsKey"

/-- `buildTlsOptions`: the options name only what is configured. -/
def buildTlsOptions (config : TlsConfig) (enabled : Bool) : Option JsValue :=
  if !enabled then none
  else some (.object ([("rejectUnauthorized", .bool config.tlsRejectUnauthorized)] ++
    [("servername", config.tlsServerName), ("ca", config.tlsCa), ("cert", config.tlsCert),
      ("key", config.tlsKey)].filter fun entry => entry.2.truthy))

def requiredQueueName (config : JsValue) : Except JsError String :=
  let queueName := trimText ((config.get "name").orElse (.string "")).toText
  if queueName = "" then .error (newError "BullMQ queue name is required") else .ok queueName

def normalizePostgresConfig (config credentials : JsValue) : Except JsError PostgresConfig := do
  let queueName ← requiredQueueName config
  let tls := toBoolean (config.get "tls") false
  let ssl := buildTlsOptions (tlsConfig config credentials) tls
  let postgres : PostgresTarget :=
    { host := trimText ((config.get "address").orElse (.string "localhost")).toText
      port := ← toPort (config.get "port") defaultPostgresPort "PostgreSQL"
      database := orUndefined (config.get "database")
      user := orUndefined (config.get "username")
      password := readSecret credentials "password"
      schema := orUndefined (config.get "schema")
      max := ← toPoolMax (config.get "max")
      connectionTimeoutMillis := 10000
      migrate := toBoolean (config.get "migrate") true
      ssl }
  return { queueName, postgres, defaultJobOptions := ← buildDefaultJobOptions config,
           telemetry := telemetryConfig config }

/-- `/\{[^}]+\}/` from a brace on: some text without a closing brace, and then one. -/
def closesTag (text : List Char) : Bool :=
  decide (text.takeWhile (fun c => decide (c ≠ '}')) ≠ []) &&
    decide (text.dropWhile (fun c => decide (c ≠ '}')) ≠ [])

/-- `/\{[^}]+\}/.test(text)`: the search may begin at any brace. -/
def hasHashTag : List Char → Bool
  | [] => false
  | c :: rest => (decide (c = '{') && closesTag rest) || hasHashTag rest

def normalizeDeployment (config : JsValue) : Except JsError Deployment :=
  let deployment := toLowerCase ((config.get "deployment").orElse (.string "single")).toText
  match deployment with
  | "single" => .ok .single
  | "cluster" => .ok .cluster
  | "sentinel" => .ok .sentinel
  | _ => .error (newError ("Unsupported Redis deployment mode: " ++ deployment))

/-- What is checked and filled in for one deployment only. -/
def completeDeployment (normalized : RedisConfig) : Except JsError RedisConfig :=
  match normalized.deployment with
  | .single => .ok normalized
  | .cluster =>
    let completed := { normalized with
      clusterNodes := if normalized.clusterNodes.isEmpty then [⟨normalized.host, normalized.port⟩]
        else normalized.clusterNodes
      prefixValue := normalized.prefixValue.orElse (.string "{bull}") }
    if hasHashTag completed.prefixValue.toText.toList then .ok completed
    else .error (newError
      "Cluster BullMQ prefix must contain a Redis hash tag such as \x7bbull\x7d")
  | .sentinel =>
    if !normalized.sentinelMasterName.truthy then
      .error (newError "Sentinel deployment requires a master name")
    else .ok { normalized with
      sentinels := if normalized.sentinels.isEmpty then [⟨normalized.host, defaultSentinelPort⟩]
        else normalized.sentinels }

def normalizeRedisConfig (platform : Platform) (config credentials : JsValue) :
    Except JsError RedisConfig := do
  let deployment ← normalizeDeployment config
  let host := (config.get "address").orElse (.string "localhost")
  let port ← toPort (config.get "port") defaultRedisPort
  let queueName ← requiredQueueName config
  let tls := toBoolean (config.get "tls") false
  let sentinelTls := toBoolean (config.get "sentinelTls") false
  let normalized : RedisConfig :=
    { queueName, deployment
      host := trimText host.toText
      port
      db := if (config.get "db").isPresent then some (config.get "db").toNumber else none
      username := orUndefined (config.get "username")
      password := readSecret credentials "password"
      tls
      certificates := tlsConfig config credentials
      prefixValue := orUndefined (config.get "prefix")
      defaultJobOptions := ← buildDefaultJobOptions config
      clusterNodes := ← parseEndpointList platform (config.get "clusterNodes") defaultRedisPort
        (some tls) "TLS"
      sentinelMasterName := config.get "sentinelMasterName"
      sentinels := ← parseEndpointList platform (config.get "sentinels") defaultSentinelPort
        (some sentinelTls) "Sentinel TLS"
      sentinelUsername := orUndefined (config.get "sentinelUsername")
      sentinelPassword := readSecret credentials "sentinelPassword"
      sentinelTls
      telemetry := telemetryConfig config }
  completeDeployment normalized

def removedAliases : List String :=
  ["mode", "redisMode", "host", "queueName", "startupNodes", "masterName", "nameOfMaster"]

def plaintextSecrets : List String :=
  ["password", "sentinelPassword", "tlsCa", "tlsCert", "tlsKey"]

/-- The first field of the list that is present is an error. -/
def rejectPresent (config : JsValue) (names : List String) (message : String → String) :
    Except JsError Unit :=
  match names.find? fun name => (config.get name).isPresent with
  | some name => .error (newError (message name))
  | none => .ok ()

def normalizeQueueConfig (platform : Platform) (config credentials : JsValue) :
    Except JsError QueueConfig := do
  rejectPresent config removedAliases fun name => "Unsupported config field: " ++ name
  rejectPresent config plaintextSecrets fun name =>
    name ++ " must be stored in Node-RED credentials"
  match ← normalizeBackend config with
  | .postgres => return .postgres (← normalizePostgresConfig config credentials)
  | .redis => return .redis (← normalizeRedisConfig platform config credentials)

namespace QueueConfig

def backend : QueueConfig → Backend
  | .redis _ => .redis
  | .postgres _ => .postgres

def queueName : QueueConfig → String
  | .redis config => config.queueName
  | .postgres config => config.queueName

/-- `config.prefix`, which a PostgreSQL configuration does not have. -/
def prefixValue : QueueConfig → JsValue
  | .redis config => config.prefixValue
  | .postgres _ => .undefined

def defaultJobOptions : QueueConfig → Option (List (String × JsValue))
  | .redis config => config.defaultJobOptions
  | .postgres config => config.defaultJobOptions

def telemetry : QueueConfig → TelemetryConfig
  | .redis config => config.telemetry
  | .postgres config => config.telemetry

end QueueConfig

/-! ## Connection and BullMQ options -/

inductive Role where
  | producer
  | worker
  | events
  deriving DecidableEq

def isConsumerRole (role : Role) : Bool := decide (role = .worker) || decide (role = .events)

def retryValueForRole (role : Role) : JsValue := if isConsumerRole role then .null else ofNat 1

/-- `if (value) { options.name = value; }` -/
def setTruthy (options : JsValue) (name : String) (value : JsValue) : JsValue :=
  if value.truthy then options.set name value else options

def setTls (options : JsValue) (tls : Option JsValue) : JsValue :=
  match tls with
  | some tls => options.set "tls" tls
  | none => options

def setDb (options : JsValue) (db : Option JsNumber) : JsValue :=
  match db with
  | some db => if db.isNaN then options else options.set "db" (.number db)
  | none => options

/-- The reconnect strategies are functions and are left out of the options. -/
def buildStandaloneOptions (config : RedisConfig) (role : Role) : JsValue :=
  let options := JsValue.object [("host", .string config.host), ("port", ofNat config.port.number),
    ("maxRetriesPerRequest", retryValueForRole role), ("enableReadyCheck", .bool true),
    ("connectTimeout", ofNat 10000)]
  setTls (setTruthy (setTruthy (setDb options config.db) "username" config.username)
    "password" config.password) (buildTlsOptions config.certificates config.tls)

inductive RedisDescriptor where
  | single (options : JsValue)
  | cluster (startupNodes : List Endpoint) (redisOptions : JsValue)

def endpointValue (endpoint : Endpoint) : JsValue :=
  .object [("host", .string endpoint.host), ("port", ofNat endpoint.port.number)]

def buildRedisDescriptor (config : RedisConfig) (role : Role) : RedisDescriptor :=
  match config.deployment with
  | .cluster =>
    let redisOptions := JsValue.object [("maxRetriesPerRequest", retryValueForRole role),
      ("enableReadyCheck", .bool true), ("connectTimeout", ofNat 10000)]
    .cluster config.clusterNodes
      (setTls (setTruthy (setTruthy redisOptions "username" config.username) "password"
        config.password) (buildTlsOptions config.certificates config.tls))
  | .sentinel =>
    let standalone := ((buildStandaloneOptions config role).delete "host").delete "port"
    let options := ((setDb standalone config.db).set "sentinels"
      (.array (config.sentinels.map endpointValue))).set "name" config.sentinelMasterName
    let secured := setTruthy (setTruthy options "sentinelUsername" config.sentinelUsername)
      "sentinelPassword" config.sentinelPassword
    .single (match buildTlsOptions config.certificates config.sentinelTls with
      | some sentinelTLS =>
        (secured.set "enableTLSForSentinelMode" (.bool true)).set "sentinelTLS" sentinelTLS
      | none => secured)
  | .single => .single (buildStandaloneOptions config role)

/-- What BullMQ gets to connect with: a connection of this package, or the pool options. -/
inductive ConnectionOption where
  | redis (connection : Nat)
  | postgres (target : PostgresTarget)

/-- The options that every BullMQ owner is constructed with. -/
structure BullMQOptions where
  connection : ConnectionOption
  prefixOption : Option JsValue
  telemetry : Option Nat
  skipWaitingForReady : Bool

def buildBullMQOptions (config : QueueConfig) (connection : ConnectionOption)
    (telemetry : Option Nat) (role : Role) : BullMQOptions where
  connection
  prefixOption := if config.prefixValue.truthy then some config.prefixValue else none
  telemetry
  skipWaitingForReady := !isConsumerRole role && decide (config.backend ≠ .postgres)

end NodeRedBull.Connections
