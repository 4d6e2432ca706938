import NodeRedBull.ConnectionOptions
import NodeRedBull.HiddenTopologies

/-! Whether the connection target of an accepted configuration can be used: which hosts, ports,
endpoint lists, master names and databases normalization lets through. -/

namespace NodeRedBull.UsableTargets
open Js Library Connections Endpoints HiddenFields RedisNormalization HiddenTopologies
open ConnectionOptions

/-! ## Usable targets -/

def Blank (value : JsValue) : Prop := trimText value.toText = ""

/-- A string that is not blank and has no whitespace at its ends. -/
def UsableHost (value : JsValue) : Prop :=
  ∃ host, value = .string host ∧ host ≠ "" ∧ JsNumber.Trimmed host.toList

def UsablePort (value : JsValue) : Prop := ∃ n : Nat, value = ofNat n ∧ 1 ≤ n ∧ n ≤ 65535

structure UsableEndpoint (value : JsValue) : Prop where
  host : UsableHost (value.get "host")
  port : UsablePort (value.get "port")

def UsableList (value : JsValue) : Prop :=
  ∃ items, value = .array items ∧ items ≠ [] ∧ ∀ item ∈ items, UsableEndpoint item

/-- A database of the saved configuration is in the options, as a non-negative integer. -/
def PassesDatabase (config options : JsValue) : Prop :=
  (config.get "db").isPresent = true → ∃ n : Nat, options.get "db" = ofNat n

def UsableDescriptor (config : JsValue) : Deployment → RedisDescriptor → Prop
  | .single, .single options => UsableEndpoint options ∧ PassesDatabase config options
  | .cluster, .cluster startupNodes _ => UsableList (.array (startupNodes.map endpointValue))
  | .sentinel, .single options => UsableList (options.get "sentinels") ∧
      ¬ Blank (options.get "name") ∧ PassesDatabase config options
  | _, _ => False

/-- The target that is built of an accepted configuration can be used. -/
def UsableTarget (config : JsValue) (accepted : QueueConfig) (role : Role) : Prop :=
  match accepted with
  | .postgres target => UsableHost (.string target.postgres.host) ∧
      UsablePort (ofNat target.postgres.port.number)
  | .redis target => UsableDescriptor config target.deployment (buildRedisDescriptor target role)

/-! ## What is asked of the saved configuration -/

/-- The address is not only whitespace. -/
def NamesHost (config : JsValue) : Prop :=
  ¬ Blank ((config.get "address").orElse (.string "localhost"))

/-- No endpoint object names a blank host. -/
def ListsHosts (value : JsValue) : Prop :=
  ∀ entry ∈ entriesOf value, entry.isObject = true → ¬ Blank (namedHost entry)

def NumbersDatabase (config : JsValue) : Prop :=
  (config.get "db").isPresent = true →
    ∃ n : Nat, (config.get "db").toNumber = JsNumber.ofNat n

/-- The address counts where the list has no entry. -/
def Reaches (config list : JsValue) : Prop :=
  (entriesOf list = [] → NamesHost config) ∧ ListsHosts list

def AsksUsable (config : JsValue) : Prop :=
  match normalizeBackend config, normalizeDeployment config with
  | .ok .postgres, _ => NamesHost config
  | .ok .redis, .ok .single => NamesHost config ∧ NumbersDatabase config
  | .ok .redis, .ok .cluster => Reaches config (config.get "clusterNodes")
  | .ok .redis, .ok .sentinel => Reaches config (config.get "sentinels") ∧
      ¬ Blank (config.get "sentinelMasterName") ∧ NumbersDatabase config
  | _, _ => True

/-- What is assumed of the URL class: a host name holds no whitespace. -/
def SpacelessHosts (platform : Platform) : Prop :=
  ∀ text url, platform.url text = some url → ∀ c ∈ url.hostname.toList, JsNumber.isSpace c = false

/-! ## Hosts -/

theorem trimmed_of_spaceless {text : List Char} (none : ∀ c ∈ text, JsNumber.isSpace c = false) :
    JsNumber.Trimmed text :=
  ⟨fun c first => none c (List.mem_of_head? first),
    fun c last => none c (List.mem_of_getLast? last)⟩

theorem usableHost_trim_iff (text : String) :
    UsableHost (.string (trimText text)) ↔ trimText text ≠ "" := by
  constructor
  · intro usable
    obtain ⟨host, same, written, -⟩ := usable
    rw [JsValue.string.inj same]
    exact written
  · intro written
    refine ⟨trimText text, rfl, written, ?_⟩
    rw [trimText, String.toList_ofList]
    exact JsNumber.trimmed_trim _

theorem usableEndpoint_iff (endpoint : Endpoint) :
    UsableEndpoint (endpointValue endpoint) ↔ UsableHost (.string endpoint.host) :=
  ⟨fun usable => usable.host, fun host => ⟨host, endpoint.port.number, rfl, endpoint.port.valid⟩⟩

section
variable {platform : Platform} {defaultPort : Port} {tls : Option Bool} {tlsName : String}

theorem stripBrackets_subset (hostname : List Char) : stripBrackets hostname ⊆ hostname := by
  have opened : ∀ text : List Char,
      (if text.getLast? = some ']' then text.dropLast else text) ⊆ text := by
    intro text
    split
    · exact List.dropLast_subset text
    · exact List.Subset.refl text
  unfold stripBrackets
  dsimp only
  split
  · exact fun c member => List.mem_cons_of_mem _ (opened _ member)
  · exact opened _

theorem ofUrl_host {text : String} {url : ParsedUrl} {endpoint : Endpoint}
    (accepted : ofUrl text defaultPort tls tlsName url = .ok endpoint) :
    endpoint.host = urlHost url ∧ urlHost url ≠ "" := by
  unfold ofUrl at accepted
  split at accepted
  · cases accepted
  split at accepted
  · cases accepted
  split at accepted
  · cases accepted
  split at accepted
  · cases accepted
  · rename_i written
    obtain ⟨port, -, same⟩ := map_eq_ok_iff.mp accepted
    rw [← same]
    exact ⟨rfl, written⟩

/-- A text that is accepted has a usable host. -/
theorem ofText_host (spaceless : SpacelessHosts platform) {text : String} {endpoint : Endpoint}
    (accepted : ofText platform (trimText text) defaultPort tls tlsName = .ok endpoint) :
    UsableHost (.string endpoint.host) := by
  unfold ofText at accepted
  by_cases empty : trimText text = ""
  · rw [if_pos empty] at accepted
    cases accepted
  rw [if_neg empty] at accepted
  by_cases address : isIP (trimText text) = true
  · rw [if_pos address] at accepted
    cases accepted
    exact (usableHost_trim_iff text).mpr empty
  rw [if_neg address] at accepted
  cases parsed : platform.url (urlText (trimText text)) with
  | none =>
    rw [parsed] at accepted
    cases accepted
  | some url =>
    rw [parsed] at accepted
    obtain ⟨host, written⟩ := ofUrl_host accepted
    rw [host]
    refine ⟨urlHost url, rfl, written, trimmed_of_spaceless ?_⟩
    intro c member
    rw [urlHost, String.toList_ofList] at member
    exact spaceless _ url parsed c (stripBrackets_subset _ member)

theorem parseEndpoint_host (spaceless : SpacelessHosts platform) {entry : JsValue}
    {endpoint : Endpoint}
    (accepted : parseEndpoint platform entry defaultPort tls tlsName = .ok endpoint) :
    UsableHost (.string endpoint.host) ↔ (entry.isObject = true → ¬ Blank (namedHost entry)) := by
  cases object : entry.isObject with
  | false =>
    rw [parseEndpoint_primitive object] at accepted
    exact iff_of_true (ofText_host spaceless accepted) fun isObject => by cases isObject
  | true =>
    rw [parseEndpoint_object object] at accepted
    by_cases present : (namedHost entry).isPresent = true
    · rw [if_pos present] at accepted
      obtain ⟨port, -, same⟩ := map_eq_ok_iff.mp accepted
      rw [← same, usableHost_trim_iff]
      exact ⟨fun written _ => written, fun written => written rfl⟩
    · rw [if_neg present] at accepted
      cases accepted

/-- The endpoints of an accepted list are usable unless one of its objects has a blank host. -/
theorem parseEndpointList_hosts (spaceless : SpacelessHosts platform) {value : JsValue}
    {endpoints : List Endpoint}
    (accepted : parseEndpointList platform value defaultPort tls tlsName = .ok endpoints) :
    (endpoints = [] ↔ entriesOf value = []) ∧
      ((∀ endpoint ∈ endpoints, UsableHost (.string endpoint.host)) ↔ ListsHosts value) := by
  rw [parseEndpointList_entries, mapM_eq_ok_iff] at accepted
  unfold ListsHosts
  generalize entriesOf value = entries at accepted ⊢
  induction accepted with
  | nil => simp
  | cons first rest ih =>
    refine ⟨by simp, ?_⟩
    rw [List.forall_mem_cons, List.forall_mem_cons, parseEndpoint_host spaceless first, ih.2]

/-- A list as it is used: the address stands in for a list without entries. -/
theorem usableList_iff (spaceless : SpacelessHosts platform) {config value : JsValue}
    {endpoints : List Endpoint} (port : Port)
    (accepted : parseEndpointList platform value defaultPort tls tlsName = .ok endpoints) :
    UsableList (.array ((if endpoints.isEmpty then
      [⟨trimText ((config.get "address").orElse (.string "localhost")).toText, port⟩]
        else endpoints).map endpointValue)) ↔ Reaches config value := by
  obtain ⟨empty, hosts⟩ := parseEndpointList_hosts spaceless accepted
  unfold Reaches
  rw [← empty, ← hosts]
  cases endpoints with
  | nil =>
    have listed : (∀ endpoint ∈ ([] : List Endpoint), UsableHost (.string endpoint.host)) ↔ True := by
      simp
    rw [listed, and_true, List.isEmpty_nil, if_pos rfl]
    constructor
    · intro usable _
      obtain ⟨items, same, -, each⟩ := usable
      rw [← JsValue.array.inj same] at each
      have host := (usableEndpoint_iff _).mp (each _ List.mem_cons_self)
      exact (usableHost_trim_iff _).mp host
    · intro named
      refine ⟨_, rfl, List.cons_ne_nil _ _, ?_⟩
      intro item member
      rw [List.map_singleton, List.mem_singleton] at member
      rw [member, usableEndpoint_iff]
      exact (usableHost_trim_iff _).mpr (named rfl)
  | cons endpoint rest =>
    have given : (endpoint :: rest = []) ↔ False := by simp
    rw [given, false_imp_iff, true_and, List.isEmpty_cons, if_neg Bool.false_ne_true]
    constructor
    · intro usable other member
      obtain ⟨items, same, -, each⟩ := usable
      rw [← JsValue.array.inj same] at each
      exact (usableEndpoint_iff other).mp (each _ (List.mem_map_of_mem member))
    · intro all
      refine ⟨_, rfl, List.cons_ne_nil _ _, ?_⟩
      intro item member
      obtain ⟨other, listed, same⟩ := List.mem_map.mp member
      rw [← same, usableEndpoint_iff]
      exact all other listed

end

/-! ## Databases -/

theorem passesDatabase_iff {config options : JsValue}
    (passed : options.get "db" = passedDatabase
      (if (config.get "db").isPresent then some (config.get "db").toNumber else none)) :
    PassesDatabase config options ↔ NumbersDatabase config := by
  unfold PassesDatabase NumbersDatabase
  rw [passed]
  cases (config.get "db").isPresent with
  | false => simp
  | true =>
    rw [if_pos rfl, passedDatabase, Option.filter_some]
    cases missing : (config.get "db").toNumber with
    | nan => simp [JsNumber.isNaN, ofNat, JsNumber.ofNat]
    | infinity negative => simp [JsNumber.isNaN, ofNat, JsNumber.ofNat]
    | finite value => simp [JsNumber.isNaN, ofNat, JsNumber.ofNat]

/-! ## Accepted configurations -/

variable {platform : Platform} {config credentials : JsValue}

/-- A PostgreSQL configuration of what the checks yield. -/
def postgresAssembled (config credentials : JsValue) (queueName : String) (port : Port)
    (max : JsNumber) (defaultJobOptions : Option (List (String × JsValue))) : PostgresConfig where
  queueName
  postgres :=
    { host := trimText ((config.get "address").orElse (.string "localhost")).toText
      port
      database := orUndefined (config.get "database")
      user := orUndefined (config.get "username")
      password := readSecret credentials "password"
      schema := orUndefined (config.get "schema")
      max
      connectionTimeoutMillis := 10000
      migrate := toBoolean (config.get "migrate") true
      ssl := buildTlsOptions (tlsConfig config credentials) (toBoolean (config.get "tls") false) }
  defaultJobOptions
  telemetry := telemetryConfig config

/-- The checks that an accepted PostgreSQL configuration has passed. -/
theorem postgres_stages {target : PostgresConfig}
    (accepted : normalizePostgresConfig config credentials = .ok target) :
    ∃ queueName port max defaults, requiredQueueName config = .ok queueName ∧
      toPort (config.get "port") defaultPostgresPort "PostgreSQL" = .ok port ∧
      toPoolMax (config.get "max") = .ok max ∧ buildDefaultJobOptions config = .ok defaults ∧
      target = postgresAssembled config credentials queueName port max defaults := by
  unfold normalizePostgresConfig at accepted
  obtain ⟨queueName, name, rest⟩ := bind_eq_ok accepted
  obtain ⟨port, number, rest⟩ := bind_eq_ok rest
  obtain ⟨max, pool, rest⟩ := bind_eq_ok rest
  obtain ⟨defaults, options, built⟩ := bind_eq_ok rest
  exact ⟨queueName, port, max, defaults, name, number, pool, options, (Except.ok.inj built).symm⟩

theorem postgres_usable_iff {target : PostgresConfig}
    (accepted : normalizePostgresConfig config credentials = .ok target) :
    UsableHost (.string target.postgres.host) ∧
      UsablePort (ofNat target.postgres.port.number) ↔ NamesHost config := by
  obtain ⟨queueName, port, max, defaults, -, -, -, -, built⟩ := postgres_stages accepted
  have usable : UsablePort (ofNat target.postgres.port.number) :=
    ⟨_, rfl, target.postgres.port.valid⟩
  rw [built] at usable ⊢
  unfold postgresAssembled at usable ⊢
  rw [usableHost_trim_iff, and_iff_left usable]
  rfl

theorem single_usable_iff (checked : Checked) (lists : Lists) (role : Role) :
    UsableDescriptor config .single
      (buildRedisDescriptor (assembled config credentials .single checked lists) role) ↔
      NamesHost config ∧ NumbersDatabase config := by
  change UsableEndpoint (buildStandaloneOptions _ role) ∧ PassesDatabase config _ ↔ _
  have passed := standalone_db (assembled config credentials .single checked lists) role
  rw [passesDatabase_iff passed]
  apply and_congr_left'
  constructor
  · intro usable
    have host := usable.host
    rw [standalone_host] at host
    exact (usableHost_trim_iff _).mp host
  · intro named
    constructor
    · rw [standalone_host]
      exact (usableHost_trim_iff _).mpr named
    · rw [standalone_port]
      exact ⟨_, rfl, checked.port.valid⟩

theorem cluster_usable_iff (spaceless : SpacelessHosts platform) {checked : Checked} {lists : Lists}
    {target : RedisConfig}
    (nodes : clusterNodesOf platform config = .ok lists.clusterNodes)
    (completed : completeDeployment (assembled config credentials .cluster checked lists) =
      .ok target) (role : Role) :
    UsableDescriptor config target.deployment (buildRedisDescriptor target role) ↔
      Reaches config (config.get "clusterNodes") := by
  rw [← usableList_iff spaceless checked.port nodes]
  rw [completeDeployment_cluster rfl completed]
  rfl

theorem sentinel_usable_iff (spaceless : SpacelessHosts platform) {checked : Checked}
    {lists : Lists} {target : RedisConfig}
    (sentinels : sentinelsOf platform config = .ok lists.sentinels)
    (completed : completeDeployment (assembled config credentials .sentinel checked lists) =
      .ok target) (role : Role) :
    UsableDescriptor config target.deployment (buildRedisDescriptor target role) ↔
      Reaches config (config.get "sentinels") ∧ ¬ Blank (config.get "sentinelMasterName") ∧
        NumbersDatabase config := by
  rw [← usableList_iff spaceless defaultSentinelPort sentinels]
  rw [completeDeployment_sentinel rfl completed]
  change UsableList ((sentinelDescriptor _ role).get "sentinels") ∧
    ¬ Blank ((sentinelDescriptor _ role).get "name") ∧ PassesDatabase config _ ↔ _
  rw [passesDatabase_iff (sentinel_db _ role), sentinel_list, sentinel_name]
  rfl

theorem backend_of_normalized {accepted : QueueConfig}
    (normalized : normalizeQueueConfig platform config credentials = .ok accepted) :
    ∃ backend, normalizeBackend config = .ok backend := by
  unfold normalizeQueueConfig at normalized
  obtain ⟨_, -, rest⟩ := bind_eq_ok normalized
  obtain ⟨_, -, rest⟩ := bind_eq_ok rest
  obtain ⟨backend, selected, -⟩ := bind_eq_ok rest
  exact ⟨backend, selected⟩

/-- The stages of an accepted Redis configuration. -/
theorem redis_stages {target : RedisConfig}
    (accepted : normalizeRedisConfig platform config credentials = .ok target) :
    ∃ deployment checked lists, normalizeDeployment config = .ok deployment ∧
      earlierChecks config = .ok checked ∧ endpointLists platform config = .ok lists ∧
      completeDeployment (assembled config credentials deployment checked lists) = .ok target := by
  rw [normalizeRedisConfig_eq] at accepted
  obtain ⟨deployment, deployed, rest⟩ := bind_eq_ok accepted
  obtain ⟨checked, checks, rest⟩ := bind_eq_ok rest
  obtain ⟨lists, read, completed⟩ := bind_eq_ok rest
  exact ⟨deployment, checked, lists, deployed, checks, read, completed⟩

/-- The target of an accepted configuration can be used if and only if the address, where it
counts, the endpoint objects that are used and the master name are not blank, and the database is
a non-negative integer. -/
theorem accepted_usable_iff {accepted : QueueConfig} (spaceless : SpacelessHosts platform)
    (normalized : normalizeQueueConfig platform config credentials = .ok accepted) (role : Role) :
    UsableTarget config accepted role ↔ AsksUsable config := by
  obtain ⟨backend, selected⟩ := backend_of_normalized normalized
  unfold AsksUsable
  rw [selected]
  cases backend with
  | postgres =>
    obtain ⟨target, built, same⟩ := postgres_of_normalized selected normalized
    rw [same]
    exact postgres_usable_iff built
  | redis =>
    obtain ⟨target, built, same⟩ := redis_of_normalized selected normalized
    obtain ⟨deployment, checked, lists, deployed, -, read, completed⟩ := redis_stages built
    obtain ⟨nodes, sentinels⟩ := endpointLists_ok read
    rw [deployed, same]
    cases deployment with
    | single =>
      cases completed
      exact single_usable_iff checked lists role
    | cluster => exact cluster_usable_iff spaceless nodes completed role
    | sentinel => exact sentinel_usable_iff spaceless sentinels completed role

/-! An address of blanks: the field is not empty, so that no default stands in for it. -/

def blankAddress : JsValue := .object [("name", .string "orders"), ("address", .string "  ")]

theorem spaceless_noUrls : SpacelessHosts ClusterPrefix.noUrls := by
  intro text url found
  cases found

theorem accepted_usable_iff_blank : ∃ accepted,
    normalizeQueueConfig ClusterPrefix.noUrls blankAddress .undefined = .ok accepted ∧
      (UsableTarget blankAddress accepted .worker ↔ AsksUsable blankAddress) :=
  ⟨_, rfl, accepted_usable_iff spaceless_noUrls rfl .worker⟩

/-- The host of the options is the empty string. -/
theorem blank_host_accepted : ∃ accepted,
    normalizeQueueConfig ClusterPrefix.noUrls blankAddress .undefined = .ok (.redis accepted) ∧
      accepted.host = "" ∧
      ∀ role, ¬ UsableTarget blankAddress (.redis accepted) role := by
  refine ⟨_, rfl, by decide, fun role usable => ?_⟩
  have named : UsableHost ((buildStandaloneOptions _ role).get "host") := usable.1.host
  rw [standalone_host] at named
  obtain ⟨host, same, written, -⟩ := named
  exact written (JsValue.string.inj same).symm

end NodeRedBull.UsableTargets
