import NodeRedBull.EditorDialog
import NodeRedBull.HiddenTopologies
import NodeRedBull.ConnectionOptions

/-! What the hidden rows of the edit dialog are for: an input whose row is hidden changes nothing
that is built, but for the few inputs that a shown row borrows from. -/

namespace NodeRedBull.EditorRows
open Js Library Connections EditorDialog HiddenFields RedisNormalization HiddenTopologies
open ConnectionOptions

/-! ## The rows of the template -/

/-- The inputs for saved fields whose row has a class. -/
def fieldRows : List (String × RowClass) :=
  [("deployment", .redis), ("address", .single), ("port", .single), ("clusterNodes", .cluster),
    ("sentinels", .sentinel), ("sentinelMasterName", .sentinel), ("db", .db),
    ("database", .postgres), ("schema", .postgres), ("max", .postgres), ("migrate", .postgres),
    ("sentinelUsername", .sentinel), ("sentinelTls", .sentinel), ("tlsRejectUnauthorized", .tls),
    ("tlsServerName", .tls), ("prefix", .redis), ("telemetryServiceName", .telemetry),
    ("telemetryMetrics", .telemetry)]

/-- The inputs for credentials whose row has a class. -/
def secretRows : List (String × RowClass) :=
  [("sentinelPassword", .sentinel), ("tlsCa", .tls), ("tlsCert", .tls), ("tlsKey", .tls)]

def tlsFields : List String := ["tlsRejectUnauthorized", "tlsServerName"]

def tlsSecrets : List String := ["tlsCa", "tlsCert", "tlsKey"]

/-- The dialog is open on this saved node: its options are those that the runtime reads. -/
structure Shows (inputs : Inputs) (config : JsValue) : Prop where
  backend : normalizeBackend config = .ok (shownBackend inputs)
  deployment : shownBackend inputs = .redis →
    normalizeDeployment config = .ok (inputs.deployment.getD .single)
  tls : toBoolean (config.get "tls") false = inputs.tls
  telemetry : toBoolean (config.get "telemetry") false = inputs.telemetry

/-- The hidden fields that a deployment falls back on, and the TLS fields where only the
discovery of Sentinels uses TLS. -/
def borrowed (platform : Platform) (inputs : Inputs) (config : JsValue) : List String :=
  match shownBackend inputs, inputs.deployment.getD .single with
  | .redis, .cluster =>
    match clusterNodesOf platform config with
    | .ok [] => ["address", "port"]
    | _ => []
  | .redis, .sentinel =>
    (match sentinelsOf platform config with
      | .ok [] => ["address"]
      | _ => []) ++ if toBoolean (config.get "sentinelTls") false then tlsFields else []
  | _, _ => []

def borrowedSecrets (inputs : Inputs) (config : JsValue) : List String :=
  match shownBackend inputs, inputs.deployment.getD .single with
  | .redis, .sentinel => if toBoolean (config.get "sentinelTls") false then tlsSecrets else []
  | _, _ => []

/-- Is the row of the input hidden? -/
def hides (rows : RowClass → Bool) (template : List (String × RowClass)) (name : String) : Bool :=
  (template.lookup name).any fun row => !rows row

/-- Two saved nodes that differ only in hidden inputs from which nothing is borrowed -/
structure SameShown (platform : Platform) (dialog : Dialog) (left right credentials others : JsValue) :
    Prop where
  field : ∀ name, (hides dialog.rows fieldRows name = true →
    name ∈ borrowed platform dialog.inputs left) → left.get name = right.get name
  secret : ∀ name, (hides dialog.rows secretRows name = true →
    name ∈ borrowedSecrets dialog.inputs left) → credentials.get name = others.get name

/-! ## What is built -/

/-- All that the runtime takes from a configuration. -/
@[ext] structure Built where
  queueName : String
  connects : Role → RedisDescriptor ⊕ PostgresTarget
  options : ConnectionOption → Option Nat → Role → BullMQOptions
  defaultJobOptions : Option (List (String × JsValue))
  telemetry : Option TelemetryConfig

def built (config : QueueConfig) : Built where
  queueName := config.queueName
  connects := fun role =>
    match config with
    | .redis redis => .inl (buildRedisDescriptor redis role)
    | .postgres postgres => .inr postgres.postgres
  options := buildBullMQOptions config
  defaultJobOptions := config.defaultJobOptions
  telemetry := if config.telemetry.telemetry then some config.telemetry else none

/-! ## What a descriptor is built from -/

section
variable {fields : List (String × JsValue)} {name : String} (stored : JsValue)

theorem set_present (present : (fields.any fun entry => decide (entry.1 = name)) = true) :
    (JsValue.object fields).set name stored =
      .object (fields.map fun entry => if entry.1 = name then (name, stored) else entry) :=
  if_pos present

theorem set_absent (absent : ¬ (fields.any fun entry => decide (entry.1 = name)) = true) :
    (JsValue.object fields).set name stored = .object (fields ++ [(name, stored)]) :=
  if_neg absent

end

theorem delete_object (fields : List (String × JsValue)) (name : String) :
    (JsValue.object fields).delete name =
      .object (fields.filter fun entry => decide (entry.1 ≠ name)) := rfl

theorem delete_set {options : JsValue} {name other : String} (different : name ≠ other)
    (stored : JsValue) :
    (options.set name stored).delete other = (options.delete other).set name stored := by
  cases options with
  | object fields =>
    have present : ((fields.filter fun entry => decide (entry.1 ≠ other)).any
        fun entry => decide (entry.1 = name)) = fields.any fun entry => decide (entry.1 = name) := by
      rw [List.any_filter]
      congr 1
      funext entry
      by_cases here : entry.1 = name
      · simp [here, different]
      · simp [here]
    by_cases written : (fields.any fun entry => decide (entry.1 = name)) = true
    · rw [set_present stored written, delete_object, delete_object,
        set_present stored (present.trans written), List.filter_map]
      congr 3
      funext entry
      by_cases here : entry.1 = name
      · simp [here, different]
      · simp [here]
    · rw [set_absent stored written, delete_object, delete_object,
        set_absent stored (by rw [present]; exact written), List.filter_append]
      simp [different]
  | _ => rfl

section
variable (options : JsValue) {other : String}

theorem delete_setTruthy {name : String} (different : name ≠ other) (value : JsValue) :
    (setTruthy options name value).delete other = setTruthy (options.delete other) name value := by
  unfold setTruthy
  split
  · exact delete_set different value
  · rfl

theorem delete_setTls (different : "tls" ≠ other) (tls : Option JsValue) :
    (setTls options tls).delete other = setTls (options.delete other) tls := by
  cases tls with
  | none => rfl
  | some tls => exact delete_set different tls

theorem delete_setDb (different : "db" ≠ other) (db : Option JsNumber) :
    (setDb options db).delete other = setDb (options.delete other) db := by
  unfold setDb
  cases db with
  | none => rfl
  | some db =>
    dsimp only
    split
    · rfl
    · exact delete_set different (.number db)

end

/-- The data options of Sentinels name no host and no port. -/
theorem standalone_removed (config : RedisConfig) (role : Role) :
    ((buildStandaloneOptions config role).delete "host").delete "port" =
      setTls (setTruthy (setTruthy (setDb (clusterOptions role) config.db) "username"
        config.username) "password" config.password)
        (buildTlsOptions config.certificates config.tls) := by
  have base : ((baseOptions config role).delete "host").delete "port" = clusterOptions role := rfl
  rw [buildStandaloneOptions_eq, delete_setTls _ (by decide), delete_setTls _ (by decide),
    delete_setTruthy _ (by decide), delete_setTruthy _ (by decide), delete_setTruthy _ (by decide),
    delete_setTruthy _ (by decide), delete_setDb _ (by decide), delete_setDb _ (by decide), base]

theorem buildTlsOptions_congr {one other : TlsConfig} {enabled : Bool}
    (same : enabled = true → one = other) :
    buildTlsOptions one enabled = buildTlsOptions other enabled := by
  cases enabled with
  | false => rfl
  | true => rw [same rfl]

/-- The part of the options that all deployments have in common. -/
structure SameAccess (one other : RedisConfig) : Prop where
  username : one.username = other.username
  password : one.password = other.password
  tls : buildTlsOptions one.certificates one.tls = buildTlsOptions other.certificates other.tls

section Descriptors
variable {one other : RedisConfig} (access : SameAccess one other) (role : Role)
include access

theorem descriptor_single (kind : one.deployment = .single) (also : other.deployment = .single)
    (host : one.host = other.host) (port : one.port = other.port) (db : one.db = other.db) :
    buildRedisDescriptor one role = buildRedisDescriptor other role := by
  have base : baseOptions one role = baseOptions other role := by
    unfold baseOptions
    rw [host, port]
  rw [buildRedisDescriptor_single role kind, buildRedisDescriptor_single role also,
    buildStandaloneOptions_eq, buildStandaloneOptions_eq, base, db, access.username,
    access.password, access.tls]

theorem descriptor_cluster (kind : one.deployment = .cluster) (also : other.deployment = .cluster)
    (nodes : one.clusterNodes = other.clusterNodes) :
    buildRedisDescriptor one role = buildRedisDescriptor other role := by
  have options : clusterDescriptor one role = clusterDescriptor other role := by
    unfold clusterDescriptor
    rw [access.username, access.password, access.tls]
  rw [buildRedisDescriptor_cluster role kind, buildRedisDescriptor_cluster role also, nodes, options]

theorem descriptor_sentinel (kind : one.deployment = .sentinel) (also : other.deployment = .sentinel)
    (db : one.db = other.db) (sentinels : one.sentinels = other.sentinels)
    (name : one.sentinelMasterName = other.sentinelMasterName)
    (username : one.sentinelUsername = other.sentinelUsername)
    (password : one.sentinelPassword = other.sentinelPassword)
    (tls : buildTlsOptions one.certificates one.sentinelTls =
      buildTlsOptions other.certificates other.sentinelTls) :
    buildRedisDescriptor one role = buildRedisDescriptor other role := by
  have options : sentinelDescriptor one role = sentinelDescriptor other role := by
    unfold sentinelDescriptor secureSentinels sentinelOptions
    rw [standalone_removed, standalone_removed, access.username, access.password, access.tls, db,
      sentinels, name, username, password, tls]
  rw [buildRedisDescriptor_sentinel role kind, buildRedisDescriptor_sentinel role also, options]

end Descriptors

/-! ## What is read of both nodes -/

theorem readSecret_eq (credentials : JsValue) (name : String) :
    readSecret credentials name =
      if (credentials.get name).isPresent then credentials.get name else .undefined := by
  have nothing : readSecret .undefined name = .undefined := rfl
  unfold readSecret
  cases credentials with
  | object fields => rfl
  | error thrown => rfl
  | array items => rfl
  | _ =>
    split
    next both => rw [if_pos (Bool.and_eq_true_iff.mp both).2]
    next => rfl

/-- The names that no row with a class is for. -/
def alwaysShown : List String :=
  removedAliases ++ plaintextSecrets ++ ["backend", "name", "username", "tls", "removeOnComplete",
    "removeOnFail", "telemetry"]

section Agreement
variable {platform : Platform} {dialog : Dialog} {left right credentials others : JsValue}
variable (same : SameShown platform dialog left right credentials others)
include same

theorem SameShown.always : AgreeOn alwaysShown left right := by
  intro name member
  apply same.field name
  intro hidden
  have absent : ∀ name ∈ alwaysShown, fieldRows.lookup name = none := by decide
  rw [hides, absent name member] at hidden
  cases hidden

theorem SameShown.shown (name : String) {row : RowClass}
    (entry : fieldRows.lookup name = some row) (visible : dialog.rows row = true) :
    left.get name = right.get name := by
  apply same.field name
  intro hidden
  rw [hides, entry, Option.any_some, visible] at hidden
  cases hidden

theorem SameShown.lent {name : String} (member : name ∈ borrowed platform dialog.inputs left) :
    left.get name = right.get name := same.field name fun _ => member

theorem SameShown.shownSecret (name : String) {row : RowClass}
    (entry : secretRows.lookup name = some row) (visible : dialog.rows row = true) :
    readSecret credentials name = readSecret others name := by
  rw [readSecret_eq, readSecret_eq, same.secret name]
  intro hidden
  rw [hides, entry, Option.any_some, visible] at hidden
  cases hidden

theorem SameShown.lentSecret {name : String} (member : name ∈ borrowedSecrets dialog.inputs left) :
    readSecret credentials name = readSecret others name := by
  rw [readSecret_eq, readSecret_eq, same.secret name fun _ => member]

theorem SameShown.password : readSecret credentials "password" = readSecret others "password" := by
  rw [readSecret_eq, readSecret_eq, same.secret "password"]
  intro hidden
  cases hidden

/-- The TLS fields agree where their rows are shown. -/
theorem SameShown.dataTls (visible : dialog.rows .tls = true) :
    tlsConfig left credentials = tlsConfig right others := by
  unfold tlsConfig
  rw [same.shown "tlsRejectUnauthorized" rfl visible,
    same.shown "tlsServerName" rfl visible, same.shownSecret "tlsCa" rfl visible,
    same.shownSecret "tlsCert" rfl visible, same.shownSecret "tlsKey" rfl visible]

/-- The TLS options of the data connections; without TLS there are none. -/
theorem SameShown.dataTlsOptions (rows : dialog.rows = toggledRows dialog.inputs)
    (on : toBoolean (left.get "tls") false = dialog.inputs.tls) :
    buildTlsOptions (tlsConfig left credentials) (toBoolean (left.get "tls") false) =
      buildTlsOptions (tlsConfig right others) (toBoolean (right.get "tls") false) := by
  have visible : dialog.rows .tls = toBoolean (left.get "tls") false := by
    rw [rows]
    exact on.symm
  rw [← same.always "tls" (by decide)]
  exact buildTlsOptions_congr fun enabled => same.dataTls (visible.trans enabled)

theorem checkFields_shown : checkFields left = checkFields right := by
  have aliases : AgreeOn removedAliases left right := same.always.mono (by decide)
  have secrets : AgreeOn plaintextSecrets left right := same.always.mono (by decide)
  unfold checkFields
  rw [rejectPresent_congr _ aliases, rejectPresent_congr _ secrets]

theorem normalizeBackend_shown : normalizeBackend left = normalizeBackend right := by
  unfold normalizeBackend
  rw [same.always "backend" (by decide)]

theorem requiredQueueName_shown : requiredQueueName left = requiredQueueName right := by
  unfold requiredQueueName
  rw [same.always "name" (by decide)]

theorem buildDefaultJobOptions_shown :
    buildDefaultJobOptions left = buildDefaultJobOptions right := by
  unfold buildDefaultJobOptions
  rw [same.always "removeOnComplete" (by decide), same.always "removeOnFail" (by decide)]

/-- Without telemetry nothing is taken from the telemetry fields. -/
theorem telemetry_shown (rows : dialog.rows = toggledRows dialog.inputs)
    (on : toBoolean (left.get "telemetry") false = dialog.inputs.telemetry) :
    (if (telemetryConfig right).telemetry then some (telemetryConfig right) else none) =
      if (telemetryConfig left).telemetry then some (telemetryConfig left) else none := by
  have agreed := same.always "telemetry" (by decide)
  have off_or_shown : (telemetryConfig left).telemetry = dialog.rows .telemetry := by
    rw [rows]
    exact on
  have switch : (telemetryConfig right).telemetry = (telemetryConfig left).telemetry := by
    unfold telemetryConfig
    rw [agreed]
  rw [switch]
  split
  next visible =>
    rw [off_or_shown] at visible
    unfold telemetryConfig
    rw [agreed, same.shown "telemetryServiceName" rfl visible,
      same.shown "telemetryMetrics" rfl visible]
  next => rfl

theorem precedingChecks_shown {checked : Checked} (passed : precedingChecks left = .ok checked) :
    precedingChecks right =
      (toPort (right.get "port") defaultRedisPort).map fun port => { checked with port } := by
  obtain ⟨_, fields, rest⟩ := bind_eq_ok passed
  obtain ⟨port, _, rest⟩ := bind_eq_ok rest
  obtain ⟨queueName, named, rest⟩ := bind_eq_ok rest
  obtain ⟨defaults, kept, found⟩ := bind_eq_ok rest
  have whole : checked = ⟨port, queueName, defaults⟩ := (Except.ok.inj found).symm
  unfold precedingChecks earlierChecks
  rw [← checkFields_shown same, fields, ← requiredQueueName_shown same, named,
    ← buildDefaultJobOptions_shown same, kept, whole]
  cases toPort (right.get "port") defaultRedisPort with
  | error thrown => rfl
  | ok port => rfl

end Agreement

theorem port_of_precedingChecks {config : JsValue} {checked : Checked}
    (passed : precedingChecks config = .ok checked) :
    toPort (config.get "port") defaultRedisPort = .ok checked.port := by
  obtain ⟨_, _, rest⟩ := bind_eq_ok passed
  obtain ⟨port, read, rest⟩ := bind_eq_ok rest
  obtain ⟨queueName, _, rest⟩ := bind_eq_ok rest
  obtain ⟨defaults, _, found⟩ := bind_eq_ok rest
  rw [read, ← Except.ok.inj found]

/-! ## Redis -/

theorem built_redis {one other : RedisConfig} (queueName : one.queueName = other.queueName)
    (descriptors : ∀ role, buildRedisDescriptor one role = buildRedisDescriptor other role)
    (prefixes : one.prefixValue = other.prefixValue)
    (defaults : one.defaultJobOptions = other.defaultJobOptions)
    (telemetry : (if other.telemetry.telemetry then some other.telemetry else none) =
      if one.telemetry.telemetry then some one.telemetry else none) :
    built (.redis other) = built (.redis one) := by
  have options : buildBullMQOptions (.redis other) = buildBullMQOptions (.redis one) := by
    have kept : (QueueConfig.redis other).prefixValue = (QueueConfig.redis one).prefixValue :=
      prefixes.symm
    funext connection telemetry role
    unfold buildBullMQOptions
    rw [kept]
    rfl
  have connects : (fun role => .inl (buildRedisDescriptor other role)) =
      fun role => (.inl (buildRedisDescriptor one role) : RedisDescriptor ⊕ PostgresTarget) := by
    funext role
    rw [descriptors role]
  exact Built.ext queueName.symm connects options defaults.symm telemetry

theorem completeDeployment_also {one completed : RedisConfig} (other : RedisConfig)
    (accepted : completeDeployment one = .ok completed)
    (kind : one.deployment = other.deployment) (prefixes : one.prefixValue = other.prefixValue)
    (names : one.deployment = .sentinel → one.sentinelMasterName = other.sentinelMasterName) :
    ∃ twin, completeDeployment other = .ok twin := by
  unfold completeDeployment at accepted ⊢
  rw [← kind]
  cases deployed : one.deployment with
  | single => exact ⟨_, rfl⟩
  | cluster =>
    rw [deployed] at accepted
    dsimp only at accepted ⊢
    rw [← prefixes]
    split at accepted
    next tagged => exact ⟨_, if_pos tagged⟩
    next => cases accepted
  | sentinel =>
    rw [deployed] at accepted
    dsimp only at accepted ⊢
    rw [← names deployed]
    split at accepted
    next => cases accepted
    next named => exact ⟨_, if_neg named⟩

def hostOf (config : JsValue) : String :=
  trimText ((config.get "address").orElse (.string "localhost")).toText

section Redis
variable {platform : Platform} {dialog : Dialog} {left right credentials others : JsValue}
variable (same : SameShown platform dialog left right credentials others)
variable (rows : dialog.rows = toggledRows dialog.inputs) (shows : Shows dialog.inputs left)
variable (redis : shownBackend dialog.inputs = .redis)

include rows redis in
theorem rows_redis : dialog.rows = toggledRows { dialog.inputs with backend := some .redis } := by
  have selected : isPostgresBackend dialog.inputs = false := by
    cases postgres : isPostgresBackend dialog.inputs with
    | false => rfl
    | true =>
      rw [shownBackend, postgres] at redis
      cases redis
  rw [rows]
  unfold toggledRows
  rw [selected]
  rfl

include same rows shows in
theorem sameAccess (checked checked' : Checked) (lists lists' : Lists) (deployment : Deployment) :
    SameAccess (assembled left credentials deployment checked lists)
      (assembled right others deployment checked' lists') := by
  refine ⟨?_, same.password, same.dataTlsOptions rows shows.tls⟩
  exact congrArg orUndefined (same.always "username" (by decide))

variable {checked : Checked} {port : Port} {lists found : Lists}

include same rows shows in
/-- Two configurations that agree on the descriptor and on what a deployment completes -/
theorem built_completed {deployment : Deployment} {completed twin : RedisConfig}
    (accepted : completeDeployment (assembled left credentials deployment checked lists) =
      .ok completed)
    (also : completeDeployment (assembled right others deployment { checked with port } found) =
      .ok twin)
    (prefixes : completed.prefixValue = twin.prefixValue)
    (descriptors : ∀ role, buildRedisDescriptor completed role = buildRedisDescriptor twin role) :
    built (.redis twin) = built (.redis completed) := by
  have first := completeDeployment_kept accepted
  have second := completeDeployment_kept also
  have telemetry := telemetry_shown same rows shows.telemetry
  apply built_redis _ descriptors prefixes
  · rw [first, second]
    rfl
  · rw [first, second]
    exact telemetry
  · rw [first, second]
    rfl

include same in
theorem host_shown (visible : dialog.rows .single = true ∨
    "address" ∈ borrowed platform dialog.inputs left) :
    hostOf left = hostOf right := by
  have address : left.get "address" = right.get "address" := by
    rcases visible with shown | lent
    · exact same.shown "address" rfl shown
    · exact same.lent lent
  unfold hostOf
  rw [address]

include same in
theorem port_shown (read : toPort (left.get "port") defaultRedisPort = .ok checked.port)
    (also_read : toPort (right.get "port") defaultRedisPort = .ok port)
    (visible : dialog.rows .single = true ∨ "port" ∈ borrowed platform dialog.inputs left) :
    checked.port = port := by
  have agreed : left.get "port" = right.get "port" := by
    rcases visible with shown | lent
    · exact same.shown "port" rfl shown
    · exact same.lent lent
  rw [agreed, also_read] at read
  exact (Except.ok.inj read).symm

include same rows shows redis in
theorem completed_single {completed : RedisConfig}
    (deployed : dialog.inputs.deployment.getD .single = .single)
    (read : toPort (left.get "port") defaultRedisPort = .ok checked.port)
    (also_read : toPort (right.get "port") defaultRedisPort = .ok port)
    (accepted : completeDeployment (assembled left credentials .single checked lists) =
      .ok completed) :
    ∃ twin, completeDeployment (assembled right others .single { checked with port } found) =
      .ok twin ∧ built (.redis twin) = built (.redis completed) := by
  have visible := rows_redis rows redis
  have shown : dialog.rows .single = true := by
    rw [visible]
    exact decide_eq_true deployed
  have db_shown : dialog.rows .db = true := by
    rw [visible]
    exact decide_eq_true (by rw [deployed]; decide)
  have prefix_shown : dialog.rows .redis = true := by
    rw [visible]
    rfl
  have whole : completed = assembled left credentials .single checked lists :=
    (Except.ok.inj accepted).symm
  subst whole
  refine ⟨_, rfl, built_completed same rows shows accepted rfl ?_ fun role => ?_⟩
  · exact congrArg orUndefined (same.shown "prefix" rfl prefix_shown)
  · apply descriptor_single (sameAccess same rows shows _ _ _ _ _) role rfl rfl
    · exact host_shown same (.inl shown)
    · exact port_shown same read also_read (.inl shown)
    · change (if (left.get "db").isPresent then _ else _) = ite _ _ _
      rw [same.shown "db" rfl db_shown]

include same rows shows redis in
theorem completed_cluster {completed : RedisConfig}
    (deployed : dialog.inputs.deployment.getD .single = .cluster)
    (read : toPort (left.get "port") defaultRedisPort = .ok checked.port)
    (also_read : toPort (right.get "port") defaultRedisPort = .ok port)
    (listed : endpointLists platform left = .ok lists)
    (also_listed : endpointLists platform right = .ok found)
    (accepted : completeDeployment (assembled left credentials .cluster checked lists) =
      .ok completed) :
    ∃ twin, completeDeployment (assembled right others .cluster { checked with port } found) =
      .ok twin ∧ built (.redis twin) = built (.redis completed) := by
  have visible := rows_redis rows redis
  have nodes_shown : dialog.rows .cluster = true := by
    rw [visible]
    exact decide_eq_true deployed
  have prefix_shown : dialog.rows .redis = true := by
    rw [visible]
    rfl
  have prefixes : orUndefined (left.get "prefix") = orUndefined (right.get "prefix") :=
    congrArg orUndefined (same.shown "prefix" rfl prefix_shown)
  have nodes := (endpointLists_ok listed).1
  have same_nodes : lists.clusterNodes = found.clusterNodes := by
    have also_nodes := (endpointLists_ok also_listed).1
    unfold clusterNodesOf at nodes also_nodes
    rw [same.shown "clusterNodes" rfl nodes_shown, same.always "tls" (by decide),
      also_nodes] at nodes
    exact (Except.ok.inj nodes).symm
  obtain ⟨twin, also⟩ := completeDeployment_also
    (assembled right others .cluster { checked with port } found) accepted rfl prefixes
    (by intro kind; cases kind)
  refine ⟨twin, also, built_completed same rows shows accepted also ?_ fun role => ?_⟩
  · rw [completeDeployment_cluster rfl accepted, completeDeployment_cluster rfl also]
    exact congrArg (fun given => JsValue.orElse given (.string "{bull}")) prefixes
  · have access := sameAccess same rows shows checked { checked with port } lists found .cluster
    rw [completeDeployment_cluster rfl accepted, completeDeployment_cluster rfl also]
    refine descriptor_cluster ?_ role rfl rfl ?_
    · exact ⟨access.username, access.password, access.tls⟩
    change (if lists.clusterNodes.isEmpty then [Endpoint.mk (hostOf left) checked.port]
      else lists.clusterNodes) =
      if found.clusterNodes.isEmpty then [Endpoint.mk (hostOf right) port] else found.clusterNodes
    rw [← same_nodes]
    cases empty : lists.clusterNodes with
    | cons node rest => rfl
    | nil =>
      have lent : borrowed platform dialog.inputs left = ["address", "port"] := by
        unfold borrowed
        rw [redis, deployed, nodes, empty]
      rw [host_shown same (.inr (by rw [lent]; decide)),
        port_shown same read also_read (.inr (by rw [lent]; decide))]

include same rows shows redis in
theorem completed_sentinel {completed : RedisConfig}
    (deployed : dialog.inputs.deployment.getD .single = .sentinel)
    (listed : endpointLists platform left = .ok lists)
    (also_listed : endpointLists platform right = .ok found)
    (accepted : completeDeployment (assembled left credentials .sentinel checked lists) =
      .ok completed) :
    ∃ twin, completeDeployment (assembled right others .sentinel { checked with port } found) =
      .ok twin ∧ built (.redis twin) = built (.redis completed) := by
  have visible := rows_redis rows redis
  have sentinels_shown : dialog.rows .sentinel = true := by
    rw [visible]
    exact decide_eq_true deployed
  have db_shown : dialog.rows .db = true := by
    rw [visible]
    exact decide_eq_true (by rw [deployed]; decide)
  have prefix_shown : dialog.rows .redis = true := by
    rw [visible]
    rfl
  have prefixes : orUndefined (left.get "prefix") = orUndefined (right.get "prefix") :=
    congrArg orUndefined (same.shown "prefix" rfl prefix_shown)
  have name := same.shown "sentinelMasterName" rfl sentinels_shown
  have discovery := same.shown "sentinelTls" rfl sentinels_shown
  have sentinels := (endpointLists_ok listed).2
  have same_sentinels : lists.sentinels = found.sentinels := by
    have also_sentinels := (endpointLists_ok also_listed).2
    unfold sentinelsOf at sentinels also_sentinels
    rw [same.shown "sentinels" rfl sentinels_shown, discovery, also_sentinels] at sentinels
    exact (Except.ok.inj sentinels).symm
  obtain ⟨twin, also⟩ := completeDeployment_also
    (assembled right others .sentinel { checked with port } found) accepted rfl prefixes
    (fun _ => name)
  refine ⟨twin, also, built_completed same rows shows accepted also ?_ fun role => ?_⟩
  · rw [completeDeployment_sentinel rfl accepted, completeDeployment_sentinel rfl also]
    exact prefixes
  · have access := sameAccess same rows shows checked { checked with port } lists found .sentinel
    rw [completeDeployment_sentinel rfl accepted, completeDeployment_sentinel rfl also]
    refine descriptor_sentinel ?_ role rfl rfl ?_ ?_ ?_ ?_ ?_ ?_
    · exact ⟨access.username, access.password, access.tls⟩
    · change (if (left.get "db").isPresent then _ else _) = ite _ _ _
      rw [same.shown "db" rfl db_shown]
    · change (if lists.sentinels.isEmpty then [Endpoint.mk (hostOf left) defaultSentinelPort]
          else lists.sentinels) =
        if found.sentinels.isEmpty then [Endpoint.mk (hostOf right) defaultSentinelPort]
          else found.sentinels
      rw [← same_sentinels]
      cases empty : lists.sentinels with
      | cons sentinel rest => rfl
      | nil =>
        have lent : "address" ∈ borrowed platform dialog.inputs left := by
          unfold borrowed
          rw [redis, deployed, sentinels, empty]
          exact List.mem_cons_self
        rw [host_shown same (.inr lent)]
    · exact name
    · exact congrArg orUndefined (same.shown "sentinelUsername" rfl sentinels_shown)
    · exact same.shownSecret "sentinelPassword" rfl sentinels_shown
    · change buildTlsOptions (tlsConfig left credentials) (toBoolean (left.get "sentinelTls") false) =
        buildTlsOptions (tlsConfig right others) (toBoolean (right.get "sentinelTls") false)
      rw [← discovery]
      apply buildTlsOptions_congr
      intro on
      have fields : ∀ field ∈ tlsFields, left.get field = right.get field := by
        intro field member
        apply same.lent
        unfold borrowed
        rw [redis, deployed, on]
        exact List.mem_append_right _ member
      have secrets : ∀ secret ∈ tlsSecrets,
          readSecret credentials secret = readSecret others secret := by
        intro secret member
        apply same.lentSecret
        unfold borrowedSecrets
        rw [redis, deployed, on]
        exact member
      unfold tlsConfig
      rw [fields "tlsRejectUnauthorized" (by decide), fields "tlsServerName" (by decide),
        secrets "tlsCa" (by decide), secrets "tlsCert" (by decide), secrets "tlsKey" (by decide)]

include same rows shows redis in
/-- Redis: what is hidden changes nothing, unless it is malformed. -/
theorem redis_outcome {config : QueueConfig}
    (accepted : normalizeQueueConfig platform left credentials = .ok config) :
    (∃ other, normalizeQueueConfig platform right others = .ok other ∧ built other = built config) ∨
      ∃ error, normalizeQueueConfig platform right others = .error error ∧
        (toPort (right.get "port") defaultRedisPort = .error error ∨
          endpointLists platform right = .error error) := by
  have selected : normalizeBackend left = .ok .redis := redis ▸ shows.backend
  have also_selected : normalizeBackend right = .ok .redis := by
    rw [← normalizeBackend_shown same, selected]
  have deployed := shows.deployment redis
  have also_deployed : normalizeDeployment right = .ok (dialog.inputs.deployment.getD .single) := by
    have visible : dialog.rows .redis = true := by
      rw [rows_redis rows redis]
      rfl
    unfold normalizeDeployment at deployed ⊢
    rw [← same.shown "deployment" rfl visible]
    exact deployed
  rw [normalizeQueueConfig_stages platform credentials selected deployed] at accepted
  obtain ⟨checked, passed, accepted⟩ := bind_eq_ok accepted
  obtain ⟨lists, listed, accepted⟩ := bind_eq_ok accepted
  obtain ⟨completed, finished, returned⟩ := bind_eq_ok accepted
  have whole : config = .redis completed := (Except.ok.inj returned).symm
  subst whole
  have read := port_of_precedingChecks passed
  rw [normalizeQueueConfig_stages platform others also_selected also_deployed,
    precedingChecks_shown same passed]
  cases also_read : toPort (right.get "port") defaultRedisPort with
  | error thrown => exact .inr ⟨thrown, rfl, .inl rfl⟩
  | ok port =>
    cases also_listed : endpointLists platform right with
    | error thrown => exact .inr ⟨thrown, rfl, .inr rfl⟩
    | ok found =>
      have alike : ∃ twin, completeDeployment (assembled right others
          (dialog.inputs.deployment.getD .single) { checked with port } found) = .ok twin ∧
            built (.redis twin) = built (.redis completed) := by
        cases kind : dialog.inputs.deployment.getD .single with
        | single =>
          rw [kind] at finished
          exact completed_single same rows shows redis kind read also_read finished
        | cluster =>
          rw [kind] at finished
          exact completed_cluster same rows shows redis kind read also_read listed also_listed finished
        | sentinel =>
          rw [kind] at finished
          exact completed_sentinel same rows shows redis kind listed also_listed finished
      obtain ⟨twin, also, equal⟩ := alike
      refine .inl ⟨.redis twin, ?_, equal⟩
      have returns : ∀ result : Except JsError RedisConfig, result = .ok twin →
          (result >>= fun completed => pure (QueueConfig.redis completed)) = .ok (.redis twin) := by
        intro result same
        rw [same]
        rfl
      exact returns _ also

end Redis

/-! ## PostgreSQL -/

theorem telemetry_of_postgres {config credentials : JsValue} {target : PostgresConfig}
    (accepted : normalizePostgresConfig config credentials = .ok target) :
    target.telemetry = telemetryConfig config := by
  obtain ⟨queueName, _, rest⟩ := bind_eq_ok accepted
  obtain ⟨port, _, rest⟩ := bind_eq_ok rest
  obtain ⟨max, _, rest⟩ := bind_eq_ok rest
  obtain ⟨defaults, _, found⟩ := bind_eq_ok rest
  rw [← Except.ok.inj found]

section Postgres
variable {platform : Platform} {dialog : Dialog} {left right credentials others : JsValue}
variable (same : SameShown platform dialog left right credentials others)
variable (rows : dialog.rows = toggledRows dialog.inputs) (shows : Shows dialog.inputs left)
variable (postgres : shownBackend dialog.inputs = .postgres)

include rows postgres in
theorem rows_postgres :
    dialog.rows = toggledRows { dialog.inputs with backend := some .postgres } := by
  have selected : isPostgresBackend dialog.inputs = true := by
    cases other : isPostgresBackend dialog.inputs with
    | true => rfl
    | false =>
      rw [shownBackend, other] at postgres
      cases postgres
  rw [rows]
  unfold toggledRows
  rw [selected]
  rfl

include same rows shows postgres in
theorem normalizePostgresConfig_shown :
    normalizePostgresConfig right others = (normalizePostgresConfig left credentials).map
      fun config => { config with telemetry := telemetryConfig right } := by
  have visible := rows_postgres rows postgres
  have own : dialog.rows .postgres = true := by
    rw [visible]
    rfl
  have server : dialog.rows .single = true := by
    rw [visible]
    rfl
  have ssl := same.dataTlsOptions rows shows.tls
  rw [← same.always "tls" (by decide)] at ssl
  unfold normalizePostgresConfig
  dsimp only
  rw [← requiredQueueName_shown same, ← buildDefaultJobOptions_shown same,
    ← same.always "tls" (by decide), ← same.always "username" (by decide), ← same.password,
    ← same.shown "address" rfl server, ← same.shown "port" rfl server,
    ← same.shown "database" rfl own, ← same.shown "schema" rfl own, ← same.shown "max" rfl own,
    ← same.shown "migrate" rfl own, ← ssl]
  cases requiredQueueName left with
  | error thrown => rfl
  | ok queueName =>
    cases toPort (left.get "port") defaultPostgresPort "PostgreSQL" with
    | error thrown => rfl
    | ok port =>
      cases toPoolMax (left.get "max") with
      | error thrown => rfl
      | ok max =>
        cases buildDefaultJobOptions left with
        | error thrown => rfl
        | ok defaults => rfl

include same rows shows postgres in
/-- PostgreSQL: what is hidden is not read at all. -/
theorem postgres_outcome {config : QueueConfig}
    (accepted : normalizeQueueConfig platform left credentials = .ok config) :
    ∃ other, normalizeQueueConfig platform right others = .ok other ∧ built other = built config := by
  have selected : normalizeBackend left = .ok .postgres := postgres ▸ shows.backend
  have also_selected : normalizeBackend right = .ok .postgres := by
    rw [← normalizeBackend_shown same, selected]
  obtain ⟨target, normalized, whole⟩ := postgres_of_normalized selected accepted
  subst whole
  rw [normalizeQueueConfig_postgres platform left credentials selected] at accepted
  obtain ⟨_, fields, _⟩ := bind_eq_ok accepted
  refine ⟨.postgres { target with telemetry := telemetryConfig right }, ?_, ?_⟩
  · rw [normalizeQueueConfig_postgres platform right others also_selected,
      ← checkFields_shown same, fields,
      normalizePostgresConfig_shown same rows shows postgres, normalized]
    rfl
  · have telemetry := telemetry_shown same rows shows.telemetry
    rw [← telemetry_of_postgres normalized] at telemetry
    exact Built.ext rfl rfl rfl rfl telemetry

end Postgres

/-! ## Every session -/

/-- Some session with the dialog leads here. -/
def Reached (dialog : Dialog) : Prop :=
  ∃ savedBackend savedMigrate inputs events,
    dialog = (oneditprepare savedBackend savedMigrate inputs).run events

/-- Whatever has been done in the dialog: if it shows an accepted node, then inputs in hidden rows
(and not borrowed) do not change what is built. All they can do, and only on Redis, is to have the
node rejected for a malformed port or endpoint. -/
theorem hidden_inputs_idle {platform : Platform} {dialog : Dialog}
    {left right credentials others : JsValue} {config : QueueConfig} (reached : Reached dialog)
    (shows : Shows dialog.inputs left)
    (same : SameShown platform dialog left right credentials others)
    (accepted : normalizeQueueConfig platform left credentials = .ok config) :
    (∃ other, normalizeQueueConfig platform right others = .ok other ∧ built other = built config) ∨
      shownBackend dialog.inputs = .redis ∧
        ∃ error, normalizeQueueConfig platform right others = .error error ∧
          (toPort (right.get "port") defaultRedisPort = .error error ∨
            endpointLists platform right = .error error) := by
  obtain ⟨savedBackend, savedMigrate, inputs, events, run⟩ := reached
  have settled := (session (settled_oneditprepare savedBackend savedMigrate inputs) events).1
  have rows : dialog.rows = toggledRows dialog.inputs := by
    rw [run]
    exact settled.rows
  cases backend : shownBackend dialog.inputs with
  | redis =>
    rcases redis_outcome same rows shows backend accepted with alike | malformed
    · exact .inl alike
    · exact .inr ⟨rfl, malformed⟩
  | postgres => exact .inl (postgres_outcome same rows shows backend accepted)

/-! The dialog is opened on a PostgreSQL node, and Redis is selected: a single Redis without TLS,
and what the node had before. -/

def savedInputs : Inputs where
  backend := some .postgres
  deployment := some .single
  port := "5432"
  tls := false
  telemetry := false
  migrate := true

def switchedDialog : Dialog :=
  (oneditprepare (.string "postgres") (.bool true) savedInputs).run [.selectBackend .redis]

def leftovers : List (String × JsValue) :=
  [("schema", .string "jobs"), ("max", .string "0"), ("tlsServerName", .string "db.example.com"),
    ("sentinels", .string ""), ("telemetryMetrics", .bool true)]

theorem sameShown_leftovers :
    SameShown ClusterPrefix.noUrls switchedDialog
      (switchedFlow "redis" []) (switchedFlow "redis" leftovers) .null
      (.object [("sentinelPassword", .string "secret")]) := by
  have plain := switchedFlow_differOnlyIn "redis" (leftovers.map Prod.fst) leftovers (by decide)
  constructor
  · intro name idle
    by_cases stale : name ∈ leftovers.map Prod.fst
    · have hidden : ∀ name ∈ leftovers.map Prod.fst,
          hides switchedDialog.rows fieldRows name = true := by decide
      exact absurd (idle (hidden name stale)) List.not_mem_nil
    · exact (plain name stale).symm
  · intro name idle
    by_cases stale : name = "sentinelPassword"
    · rw [stale] at idle
      exact absurd (idle rfl) List.not_mem_nil
    · change JsValue.undefined = JsValue.field _ name
      unfold JsValue.field
      rw [List.find?_cons, decide_eq_false (Ne.symm stale)]
      rfl

theorem hidden_inputs_idle_leftovers :
    ∃ config, normalizeQueueConfig ClusterPrefix.noUrls (switchedFlow "redis" []) .null = .ok config ∧
      ((∃ other, normalizeQueueConfig ClusterPrefix.noUrls (switchedFlow "redis" leftovers)
          (.object [("sentinelPassword", .string "secret")]) = .ok other ∧
            built other = built config) ∨
        shownBackend switchedDialog.inputs = .redis ∧
          ∃ error, normalizeQueueConfig ClusterPrefix.noUrls (switchedFlow "redis" leftovers)
            (.object [("sentinelPassword", .string "secret")]) = .error error ∧
              (toPort ((switchedFlow "redis" leftovers).get "port") defaultRedisPort = .error error ∨
                endpointLists ClusterPrefix.noUrls (switchedFlow "redis" leftovers) =
                  .error error)) :=
  ⟨_, rfl, hidden_inputs_idle
    ⟨.string "postgres", .bool true, savedInputs, [.selectBackend .redis], rfl⟩
    ⟨rfl, fun _ => rfl, rfl, rfl⟩ sameShown_leftovers rfl⟩

end NodeRedBull.EditorRows
