import NodeRedBull.EndpointLists

/-! `normalizeRedisConfig` as its stages: the checks that come first, the endpoint lists, and what
the selected deployment completes. -/

namespace NodeRedBull.RedisNormalization
open Js Library Connections Endpoints

/-- What the checks before the endpoint lists yield. -/
structure Checked where
  port : Port
  queueName : String
  defaultJobOptions : Option (List (String × JsValue))

def earlierChecks (config : JsValue) : Except JsError Checked := do
  let port ← toPort (config.get "port") defaultRedisPort
  let queueName ← requiredQueueName config
  let defaultJobOptions ← buildDefaultJobOptions config
  return { port, queueName, defaultJobOptions }

structure Lists where
  clusterNodes : List Endpoint
  sentinels : List Endpoint

def clusterNodesOf (platform : Platform) (config : JsValue) : Except JsError (List Endpoint) :=
  parseEndpointList platform (config.get "clusterNodes") defaultRedisPort
    (some (toBoolean (config.get "tls") false)) "TLS"

def sentinelsOf (platform : Platform) (config : JsValue) : Except JsError (List Endpoint) :=
  parseEndpointList platform (config.get "sentinels") defaultSentinelPort
    (some (toBoolean (config.get "sentinelTls") false)) "Sentinel TLS"

/-- Both lists are parsed, whatever the deployment. -/
def endpointLists (platform : Platform) (config : JsValue) : Except JsError Lists := do
  let clusterNodes ← clusterNodesOf platform config
  let sentinels ← sentinelsOf platform config
  return { clusterNodes, sentinels }

def assembled (config credentials : JsValue) (deployment : Deployment) (checked : Checked)
    (lists : Lists) : RedisConfig where
  queueName := checked.queueName
  deployment
  host := trimText ((config.get "address").orElse (.string "localhost")).toText
  port := checked.port
  db := if (config.get "db").isPresent then some (config.get "db").toNumber else none
  username := orUndefined (config.get "username")
  password := readSecret credentials "password"
  tls := toBoolean (config.get "tls") false
  certificates := tlsConfig config credentials
  prefixValue := orUndefined (config.get "prefix")
  defaultJobOptions := checked.defaultJobOptions
  clusterNodes := lists.clusterNodes
  sentinelMasterName := config.get "sentinelMasterName"
  sentinels := lists.sentinels
  sentinelUsername := orUndefined (config.get "sentinelUsername")
  sentinelPassword := readSecret credentials "sentinelPassword"
  sentinelTls := toBoolean (config.get "sentinelTls") false
  telemetry := telemetryConfig config

/-- The stages of `normalizeRedisConfig`, in its order -/
theorem normalizeRedisConfig_eq (platform : Platform) (config credentials : JsValue) :
    normalizeRedisConfig platform config credentials = (do
      let deployment ← normalizeDeployment config
      let checked ← earlierChecks config
      let lists ← endpointLists platform config
      completeDeployment (assembled config credentials deployment checked lists)) := by
  unfold normalizeRedisConfig earlierChecks endpointLists clusterNodesOf sentinelsOf
  dsimp only
  cases normalizeDeployment config with
  | error thrown => rfl
  | ok deployment =>
    cases toPort (config.get "port") defaultRedisPort with
    | error thrown => rfl
    | ok port =>
      cases requiredQueueName config with
      | error thrown => rfl
      | ok queueName =>
        cases buildDefaultJobOptions config with
        | error thrown => rfl
        | ok defaults =>
          cases parseEndpointList platform (config.get "clusterNodes") defaultRedisPort
              (some (toBoolean (config.get "tls") false)) "TLS" with
          | error thrown => rfl
          | ok clusterNodes =>
            cases parseEndpointList platform (config.get "sentinels") defaultSentinelPort
                (some (toBoolean (config.get "sentinelTls") false)) "Sentinel TLS" with
            | error thrown => rfl
            | ok sentinels => rfl

/-! ## Errors of the endpoint lists -/

/-- Every error of an endpoint begins with one of these letters. -/
def FromEndpoint (error : JsError) : Prop :=
  ∃ c ∈ ['R', 'I', 'U', 'r'], error.message.toList.head? = some c

theorem fromEndpoint_rejection {text tlsName : String} {error : JsError}
    (rejection : Rejection text tlsName error) : FromEndpoint error := by
  cases rejection with
  | invalid => exact ⟨'I', by decide, by simp [invalidEndpoint, newError, String.toList_append]⟩
  | protocol name =>
    exact ⟨'U', by decide, by simp [unsupportedProtocol, newError, String.toList_append]⟩
  | credentials => exact ⟨'R', by decide, by decide⟩
  | tls url known =>
    refine ⟨'r', by decide, ?_⟩
    rcases known with plain | secure
    · simp [tlsMismatch, newError, String.toList_append, plain]
    · simp [tlsMismatch, newError, String.toList_append, secure]
  | host => exact ⟨'R', by decide, by simp [noHost, newError, String.toList_append]⟩
  | port value => exact ⟨'I', by decide, by simp [newError, String.toList_append]⟩

variable {platform : Platform} {defaultPort : Port} {tls : Option Bool} {tlsName : String}

/-- A value that is no object is read as a text. -/
theorem parseEndpoint_primitive {value : JsValue} (primitive : value.isObject = false) :
    parseEndpoint platform value defaultPort tls tlsName =
      ofText platform (trimText (value.orElse (.string "")).toText) defaultPort tls tlsName := by
  rw [← parseEndpoint_text]
  unfold parseEndpoint
  rw [orElse_empty_toText, primitive]
  rfl

/-- The host that an endpoint object names. -/
def namedHost (value : JsValue) : JsValue := (value.get "host").orElse (value.get "address")

theorem parseEndpoint_object {value : JsValue} (object : value.isObject = true) :
    parseEndpoint platform value defaultPort tls tlsName =
      if (namedHost value).isPresent = true then
        (toPort (value.get "port") defaultPort).map fun port =>
          ⟨trimText (namedHost value).toText, port⟩
      else .error (newError "Redis endpoint requires a host") := by
  unfold parseEndpoint namedHost
  rw [object]
  by_cases present : ((value.get "host").orElse (value.get "address")).isPresent = true
  · rw [if_pos present]
    simp only [present, Bool.not_true, Bool.false_eq_true, if_true, if_false]
    rfl
  · rw [if_neg present]
    simp only [present, Bool.not_false, if_true]
    rfl

theorem parseEndpoint_error {value : JsValue} {error : JsError}
    (failed : parseEndpoint platform value defaultPort tls tlsName = .error error) :
    FromEndpoint error := by
  cases object : value.isObject with
  | true =>
    rw [parseEndpoint_object object] at failed
    by_cases present : (namedHost value).isPresent = true
    · rw [if_pos present, map_eq_error_iff] at failed
      rw [toPort_error defaultPort failed]
      exact ⟨'I', by decide, by simp [newError, String.toList_append]⟩
    · rw [if_neg present] at failed
      cases failed
      exact ⟨'R', by decide, by decide⟩
  | false =>
    rw [parseEndpoint_primitive object] at failed
    by_cases empty : trimText (value.orElse (.string "")).toText = ""
    · rw [empty] at failed
      cases failed
      exact ⟨'R', by decide, by decide⟩
    · exact fromEndpoint_rejection (ofText_error empty failed)

/-- The entries of an endpoint list, as `parseEndpoint` gets them. -/
def entriesOf (value : JsValue) : List JsValue :=
  match value with
  | .array items => (items.flatMap splitItem).filter JsValue.isPresent
  | value =>
    if !value.isPresent then []
    else (Separators.trimmedPieces value.toText.toList).map fun piece =>
      .string (String.ofList piece)

theorem parseEndpointList_entries (value : JsValue) :
    parseEndpointList platform value defaultPort tls tlsName =
      (entriesOf value).mapM fun entry => parseEndpoint platform entry defaultPort tls tlsName := by
  have text : ∀ pieces : List (List Char),
      (pieces.map fun piece => JsValue.string (String.ofList piece)).mapM
          (fun entry => parseEndpoint platform entry defaultPort tls tlsName) =
        pieces.mapM fun piece =>
          parseEndpoint platform (.string (String.ofList piece)) defaultPort tls tlsName := by
    intro pieces
    rw [List.mapM_map]
    simp only [Function.comp_def]
  unfold parseEndpointList entriesOf
  cases value with
  | array items => rfl
  | _ =>
    dsimp only
    split
    · rfl
    · exact (text _).symm

theorem parseEndpointList_error {value : JsValue} {error : JsError}
    (failed : parseEndpointList platform value defaultPort tls tlsName = .error error) :
    FromEndpoint error := by
  rw [parseEndpointList_entries] at failed
  obtain ⟨entry, -, thrown⟩ := mapM_error failed
  exact parseEndpoint_error thrown

theorem endpointLists_error {config : JsValue} {error : JsError}
    (failed : endpointLists platform config = .error error) : FromEndpoint error := by
  unfold endpointLists at failed
  rcases bind_eq_error failed with nodes | ⟨clusterNodes, -, rest⟩
  · exact parseEndpointList_error nodes
  · rcases bind_eq_error rest with sentinels | ⟨found, -, rest⟩
    · exact parseEndpointList_error sentinels
    · cases rest

theorem endpointLists_ok {config : JsValue} {lists : Lists}
    (found : endpointLists platform config = .ok lists) :
    clusterNodesOf platform config = .ok lists.clusterNodes ∧
      sentinelsOf platform config = .ok lists.sentinels := by
  unfold endpointLists at found
  obtain ⟨clusterNodes, nodes, rest⟩ := bind_eq_ok found
  obtain ⟨others, sentinels, same⟩ := bind_eq_ok rest
  rw [← Except.ok.inj same]
  exact ⟨nodes, sentinels⟩

theorem completeDeployment_cluster {normalized completed : RedisConfig}
    (deployed : normalized.deployment = .cluster)
    (accepted : completeDeployment normalized = .ok completed) :
    completed = { normalized with
      clusterNodes := if normalized.clusterNodes.isEmpty then [⟨normalized.host, normalized.port⟩]
        else normalized.clusterNodes
      prefixValue := normalized.prefixValue.orElse (.string "{bull}") } := by
  unfold completeDeployment at accepted
  rw [deployed] at accepted
  dsimp only at accepted
  split at accepted
  · rw [deployed]
    exact (Except.ok.inj accepted).symm
  · cases accepted

theorem completeDeployment_sentinel {normalized completed : RedisConfig}
    (deployed : normalized.deployment = .sentinel)
    (accepted : completeDeployment normalized = .ok completed) :
    completed = { normalized with
      sentinels := if normalized.sentinels.isEmpty then [⟨normalized.host, defaultSentinelPort⟩]
        else normalized.sentinels } := by
  unfold completeDeployment at accepted
  rw [deployed] at accepted
  dsimp only at accepted
  split at accepted
  · cases accepted
  · rw [deployed]
    exact (Except.ok.inj accepted).symm

/-- A deployment completes its lists and the prefix, and nothing else. -/
theorem completeDeployment_kept {normalized completed : RedisConfig}
    (accepted : completeDeployment normalized = .ok completed) :
    completed = { normalized with
      clusterNodes := completed.clusterNodes
      prefixValue := completed.prefixValue
      sentinels := completed.sentinels } := by
  cases deployed : normalized.deployment with
  | single =>
    unfold completeDeployment at accepted
    rw [deployed] at accepted
    cases accepted
    rw [← deployed]
  | cluster => rw [completeDeployment_cluster deployed accepted, ← deployed]
  | sentinel => rw [completeDeployment_sentinel deployed accepted, ← deployed]

/-- No check of a deployment fails as an endpoint does. -/
theorem completeDeployment_error {normalized : RedisConfig} {error : JsError}
    (failed : completeDeployment normalized = .error error) : ¬ FromEndpoint error := by
  have other : error.message.toList.head? = some 'C' ∨ error.message.toList.head? = some 'S' := by
    unfold completeDeployment at failed
    split at failed
    · cases failed
    · dsimp only at failed
      split at failed
      · cases failed
      · cases failed
        exact .inl (by decide)
    · split at failed
      · cases failed
        exact .inr (by decide)
      · cases failed
  intro given
  obtain ⟨c, listed, first⟩ := given
  rcases other with cluster | sentinel
  · rw [cluster] at first
    cases first
    exact absurd listed (by decide)
  · rw [sentinel] at first
    cases first
    exact absurd listed (by decide)

end NodeRedBull.RedisNormalization
