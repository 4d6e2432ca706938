import NodeRedBull.Addresses
import NodeRedBull.HiddenFields
import NodeRedBull.RedisNormalization

/-! The fields of the Redis deployments that are not selected. Nothing that is built reads them,
but their endpoint lists are parsed all the same, and a malformed one is an error. -/

namespace NodeRedBull.HiddenTopologies
open Js Library Connections HiddenFields RedisNormalization

/-- The fields that belong to other deployments. -/
def hiddenFields : Deployment → List String
  | .single =>
    ["clusterNodes", "sentinels", "sentinelMasterName", "sentinelUsername", "sentinelTls"]
  | .cluster => ["sentinels", "sentinelMasterName", "sentinelUsername", "sentinelTls"]
  | .sentinel => ["clusterNodes"]

/-- Normalization fails with one and the same error, or succeeds with configurations from which
the same descriptor is built for every role. -/
def SameDescriptors (left right : Except JsError QueueConfig) : Prop :=
  (∃ error, left = .error error ∧ right = .error error) ∨
    ∃ one other, left = .ok (.redis one) ∧ right = .ok (.redis other) ∧
      ∀ role, buildRedisDescriptor one role = buildRedisDescriptor other role

/-- The checks that come before the endpoint lists. -/
def precedingChecks (config : JsValue) : Except JsError Checked := do
  checkFields config
  earlierChecks config

def errorOf {α : Type} : Except JsError α → Option JsError
  | .error error => some error
  | .ok _ => none

theorem normalizeQueueConfig_stages {config : JsValue} {deployment : Deployment}
    (platform : Platform) (credentials : JsValue) (selected : normalizeBackend config = .ok .redis)
    (deployed : normalizeDeployment config = .ok deployment) :
    normalizeQueueConfig platform config credentials = (do
      let checked ← precedingChecks config
      let lists ← endpointLists platform config
      return .redis (← completeDeployment (assembled config credentials deployment checked lists))) := by
  rw [normalizeQueueConfig_redis platform config credentials selected, normalizeRedisConfig_eq,
    deployed]
  unfold precedingChecks
  cases checkFields config with
  | error thrown => rfl
  | ok _ =>
    cases earlierChecks config with
    | error thrown => rfl
    | ok checked =>
      cases endpointLists platform config with
      | error thrown => rfl
      | ok lists => rfl

/-! ## What is read of both -/

variable {left right : JsValue} {deployment : Deployment}

theorem shared_not_hidden (deployment : Deployment) :
    ∀ name ∈ sharedFields, name ∉ hiddenFields deployment := by
  cases deployment <;> decide

theorem visible_not_hidden (deployment : Deployment) :
    ∀ name ∈ ["deployment", "db", "prefix"], name ∉ hiddenFields deployment := by
  cases deployment <;> decide

theorem precedingChecks_congr (same : AgreeOn sharedFields left right) :
    precedingChecks left = precedingChecks right := by
  unfold precedingChecks earlierChecks
  rw [checkFields_congr same, requiredQueueName_congr same, buildDefaultJobOptions_congr same,
    same "port" (by decide)]

section
variable (credentials : JsValue) (checked : Checked)

theorem buildStandaloneOptions_congr (shared : AgreeOn sharedFields left right)
    (db : left.get "db" = right.get "db") (lists others : Lists) (role : Role) :
    buildStandaloneOptions (assembled left credentials deployment checked lists) role =
      buildStandaloneOptions (assembled right credentials deployment checked others) role := by
  unfold buildStandaloneOptions assembled
  dsimp only
  rw [shared "address" (by decide), shared "username" (by decide), shared "tls" (by decide), db,
    tlsConfig_congr credentials shared]

/-- The descriptors for all roles, or the error of the deployment's own checks -/
def descriptors (normalized : RedisConfig) : Except JsError (Role → RedisDescriptor) :=
  (completeDeployment normalized).map buildRedisDescriptor

theorem descriptors_single (differ : DifferOnlyIn (hiddenFields .single) left right)
    (lists others : Lists) :
    descriptors (assembled left credentials .single checked lists) =
      descriptors (assembled right credentials .single checked others) := by
  have shared := differ.agreeOn (shared_not_hidden .single)
  unfold descriptors
  apply congrArg Except.ok
  funext role
  apply congrArg RedisDescriptor.single
  exact buildStandaloneOptions_congr credentials checked shared (differ "db" (by decide)) _ _ role

theorem descriptors_cluster (differ : DifferOnlyIn (hiddenFields .cluster) left right)
    {lists others : Lists} (nodes : lists.clusterNodes = others.clusterNodes) :
    descriptors (assembled left credentials .cluster checked lists) =
      descriptors (assembled right credentials .cluster checked others) := by
  have shared := differ.agreeOn (shared_not_hidden .cluster)
  unfold descriptors completeDeployment assembled
  dsimp only
  rw [nodes, differ "prefix" (by decide), differ "address" (by decide),
    shared "username" (by decide), shared "tls" (by decide), tlsConfig_congr credentials shared]
  split <;> rfl

theorem descriptors_sentinel (differ : DifferOnlyIn (hiddenFields .sentinel) left right)
    {lists others : Lists} (sentinels : lists.sentinels = others.sentinels) :
    descriptors (assembled left credentials .sentinel checked lists) =
      descriptors (assembled right credentials .sentinel checked others) := by
  have shared := differ.agreeOn (shared_not_hidden .sentinel)
  unfold descriptors completeDeployment assembled
  dsimp only
  rw [sentinels, differ "prefix" (by decide), differ "address" (by decide), differ "db" (by decide),
    differ "sentinelMasterName" (by decide), differ "sentinelUsername" (by decide),
    differ "sentinelTls" (by decide), shared "username" (by decide), shared "tls" (by decide),
    tlsConfig_congr credentials shared]
  split <;> rfl

variable (deployment) in
/-- Once both configurations have the lists that are not hidden in common, all is alike. -/
theorem descriptors_congr {platform : Platform} {lists others : Lists}
    (differ : DifferOnlyIn (hiddenFields deployment) left right)
    (read : endpointLists platform left = .ok lists)
    (also_read : endpointLists platform right = .ok others) :
    descriptors (assembled left credentials deployment checked lists) =
      descriptors (assembled right credentials deployment checked others) := by
  obtain ⟨nodes, sentinels⟩ := endpointLists_ok read
  obtain ⟨otherNodes, otherSentinels⟩ := endpointLists_ok also_read
  cases deployment with
  | single => exact descriptors_single credentials checked differ lists others
  | cluster =>
    apply descriptors_cluster credentials checked differ
    unfold clusterNodesOf at nodes otherNodes
    rw [differ "clusterNodes" (by decide), differ "tls" (by decide)] at nodes
    exact Except.ok.inj (nodes.symm.trans otherNodes)
  | sentinel =>
    apply descriptors_sentinel credentials checked differ
    unfold sentinelsOf at sentinels otherSentinels
    rw [differ "sentinels" (by decide), differ "sentinelTls" (by decide)] at sentinels
    exact Except.ok.inj (sentinels.symm.trans otherSentinels)

end

/-! ## Two configurations of one deployment -/

theorem sameDescriptors_of_completed {one other : RedisConfig}
    (same : descriptors one = descriptors other) :
    SameDescriptors ((completeDeployment one).map .redis) ((completeDeployment other).map .redis) := by
  unfold descriptors at same
  cases first : completeDeployment one with
  | error thrown =>
    rw [first] at same
    cases second : completeDeployment other with
    | error again =>
      rw [second] at same
      exact .inl ⟨thrown, rfl, by rw [Except.error.inj same]; rfl⟩
    | ok completed =>
      rw [second] at same
      cases same
  | ok completed =>
    rw [first] at same
    cases second : completeDeployment other with
    | error again =>
      rw [second] at same
      cases same
    | ok twin =>
      rw [second] at same
      exact .inr ⟨completed, twin, rfl, rfl, fun role => congrFun (Except.ok.inj same) role⟩

theorem sameDescriptors_errors {thrown again : JsError} :
    SameDescriptors (.error thrown) (.error again) ↔ thrown = again := by
  constructor
  · intro same
    rcases same with failed | built
    · obtain ⟨error, first, second⟩ := failed
      exact (Except.error.inj first).trans (Except.error.inj second).symm
    · obtain ⟨one, other, first, -⟩ := built
      cases first
  · intro same
    exact .inl ⟨thrown, rfl, by rw [same]⟩

/-- An error of an endpoint is no outcome of a configuration whose endpoints are parsed. -/
theorem not_sameDescriptors {thrown : JsError} {normalized : RedisConfig}
    (endpoint : FromEndpoint thrown) :
    ¬ SameDescriptors (.error thrown) ((completeDeployment normalized).map .redis) := by
  intro same
  cases completed : completeDeployment normalized with
  | error again =>
    rw [completed] at same
    have equal := sameDescriptors_errors.mp same
    exact completeDeployment_error completed (equal ▸ endpoint)
  | ok config =>
    rw [completed] at same
    rcases same with failed | built
    · obtain ⟨error, -, second⟩ := failed
      cases second
    · obtain ⟨one, other, first, -⟩ := built
      cases first

theorem SameDescriptors.symm {one other : Except JsError QueueConfig}
    (same : SameDescriptors one other) : SameDescriptors other one := by
  rcases same with failed | built
  · obtain ⟨error, first, second⟩ := failed
    exact .inl ⟨error, second, first⟩
  · obtain ⟨config, twin, first, second, equal⟩ := built
    exact .inr ⟨twin, config, second, first, fun role => (equal role).symm⟩

/-- Fields of other deployments have no effect if and only if an earlier check fails, or the
endpoint lists of both configurations are rejected for the same reason or not at all. -/
theorem hidden_topologies_iff (platform : Platform) (credentials : JsValue)
    (differ : DifferOnlyIn (hiddenFields deployment) left right)
    (selected : normalizeBackend left = .ok .redis)
    (deployed : normalizeDeployment left = .ok deployment) :
    SameDescriptors (normalizeQueueConfig platform left credentials)
        (normalizeQueueConfig platform right credentials) ↔
      (errorOf (precedingChecks left)).isSome ∨
        errorOf (endpointLists platform left) = errorOf (endpointLists platform right) := by
  have shared := differ.agreeOn (shared_not_hidden deployment)
  have also_selected : normalizeBackend right = .ok .redis := by
    rw [← normalizeBackend_congr shared, selected]
  have also_deployed : normalizeDeployment right = .ok deployment := by
    have visible := differ "deployment" (visible_not_hidden deployment _ (by decide))
    unfold normalizeDeployment at deployed ⊢
    rw [← visible]
    exact deployed
  rw [normalizeQueueConfig_stages platform credentials selected deployed,
    normalizeQueueConfig_stages platform credentials also_selected also_deployed,
    ← precedingChecks_congr shared]
  cases precedingChecks left with
  | error thrown => exact iff_of_true (sameDescriptors_errors.mpr rfl) (.inl rfl)
  | ok checked =>
    have passed : ¬ (errorOf (.ok checked : Except JsError Checked)).isSome = true :=
      Bool.false_ne_true
    rw [or_iff_right passed]
    cases read : endpointLists platform left with
    | error thrown =>
      cases also_read : endpointLists platform right with
      | error again => exact sameDescriptors_errors.trans Option.some_inj.symm
      | ok others =>
        apply iff_of_false
        · exact not_sameDescriptors (endpointLists_error read)
        · exact Option.some_ne_none thrown
    | ok lists =>
      cases also_read : endpointLists platform right with
      | error again =>
        apply iff_of_false
        · exact fun same => not_sameDescriptors (endpointLists_error also_read) same.symm
        · exact (Option.some_ne_none again).symm
      | ok others =>
        apply iff_of_true _ rfl
        exact sameDescriptors_of_completed
          (descriptors_congr deployment credentials checked differ read also_read)

/-! A single Redis that was a cluster before, with a malformed startup node left behind. -/

def staleNode : List (String × JsValue) := [("clusterNodes", .string "redis_1:99999")]

def invalidNode : JsError := newError "Invalid Redis endpoint: redis_1:99999"

theorem staleNode_rejected :
    endpointLists ClusterPrefix.noUrls (switchedFlow "redis" staleNode) = .error invalidNode := by
  have nodes : clusterNodesOf ClusterPrefix.noUrls (switchedFlow "redis" staleNode) =
      parseEndpointList ClusterPrefix.noUrls (.string "redis_1:99999") defaultRedisPort
        (some false) "TLS" := rfl
  have address : isIP "redis_1:99999" = false :=
    Addresses.isIP_of_other (c := '_') (by decide) (by decide)
  have pieces : Separators.trimmedPieces "redis_1:99999".toList = ["redis_1:99999".toList] := by
    decide
  have trimmed : String.ofList (JsNumber.trim "redis_1:99999".toList) = "redis_1:99999" := by decide
  have piece : EndpointLists.parseSegment ClusterPrefix.noUrls defaultRedisPort (some false) "TLS"
      "redis_1:99999".toList = .error invalidNode := by
    rw [EndpointLists.parseSegment_text, trimmed, Endpoints.ofText, if_neg (by decide), address]
    exact congrArg Except.error (by decide)
  unfold endpointLists
  rw [nodes, EndpointLists.parseEndpointList_text _ _ _ _ (by decide), pieces,
    mapM_cons_of_error piece]
  rfl

theorem hidden_topologies_iff_stale :
    SameDescriptors
        (normalizeQueueConfig ClusterPrefix.noUrls (switchedFlow "redis" staleNode) .null)
        (normalizeQueueConfig ClusterPrefix.noUrls (switchedFlow "redis" []) .null) ↔
      (errorOf (precedingChecks (switchedFlow "redis" staleNode))).isSome ∨
        errorOf (endpointLists ClusterPrefix.noUrls (switchedFlow "redis" staleNode)) =
          errorOf (endpointLists ClusterPrefix.noUrls (switchedFlow "redis" [])) :=
  hidden_topologies_iff ClusterPrefix.noUrls .null
    (switchedFlow_differOnlyIn "redis" (hiddenFields .single) staleNode (by decide)) rfl rfl

/-- The startup node is no field of the deployment, and keeps it from being normalized. -/
theorem stale_node_matters :
    DifferOnlyIn (hiddenFields .single) (switchedFlow "redis" staleNode) (switchedFlow "redis" []) ∧
      normalizeDeployment (switchedFlow "redis" staleNode) = .ok .single ∧
      normalizeQueueConfig ClusterPrefix.noUrls (switchedFlow "redis" staleNode) .null =
        .error invalidNode ∧
      ∃ config, normalizeQueueConfig ClusterPrefix.noUrls (switchedFlow "redis" []) .null =
        .ok (.redis config) := by
  refine ⟨switchedFlow_differOnlyIn "redis" (hiddenFields .single) staleNode (by decide), rfl, ?_,
    _, rfl⟩
  have passed : ∃ checked, precedingChecks (switchedFlow "redis" staleNode) = .ok checked :=
    ⟨_, rfl⟩
  obtain ⟨checked, passed⟩ := passed
  rw [normalizeQueueConfig_stages ClusterPrefix.noUrls .null rfl rfl, passed, staleNode_rejected]
  rfl

end NodeRedBull.HiddenTopologies
