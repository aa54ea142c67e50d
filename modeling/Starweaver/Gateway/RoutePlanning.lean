import Starweaver.Library.SortBy
import Starweaver.Gateway.HotState
import Starweaver.Gateway.ProviderGrants

namespace Starweaver.Gateway

open Library.Calendar Library.Checks Library.SortBy

inductive RouteFilterReason
  | groupTargetInactive
  | targetMissing
  | targetInactive
  | protocolMismatch
  | streamingUnsupported
  | endpointMissing
  | endpointInactive
  | endpointProtocolMismatch
  | endpointDrained
  | endpointUnhealthy
  | endpointHealthBlocked
  | credentialMissing
  | credentialUnusable
  | providerGrantDenied
deriving DecidableEq, Repr

def RouteFilterReason.asStr : RouteFilterReason → String
  | .groupTargetInactive => "group_target_inactive"
  | .targetMissing => "target_missing"
  | .targetInactive => "target_inactive"
  | .protocolMismatch => "protocol_mismatch"
  | .streamingUnsupported => "streaming_unsupported"
  | .endpointMissing => "endpoint_missing"
  | .endpointInactive => "endpoint_inactive"
  | .endpointProtocolMismatch => "endpoint_protocol_mismatch"
  | .endpointDrained => "endpoint_drained"
  | .endpointUnhealthy => "endpoint_unhealthy"
  | .endpointHealthBlocked => "endpoint_health_blocked"
  | .credentialMissing => "credential_missing"
  | .credentialUnusable => "credential_unusable"
  | .providerGrantDenied => "provider_grant_denied"

structure RouteFilterSummary where
  reason : RouteFilterReason
  count : Nat
deriving DecidableEq, Repr

def addFilterReason : List RouteFilterSummary → RouteFilterReason → List RouteFilterSummary
  | [], reason => [⟨reason, 1⟩]
  | entry :: summary, reason =>
    if entry.reason = reason then ⟨entry.reason, entry.count + 1⟩ :: summary
    else entry :: addFilterReason summary reason

structure RoutePlanRequest where
  actor : AuthenticatedActor
  protocolFamily : ProtocolFamily
  aliasName : String
  streaming : Bool
  hotState : RouteHotState
  configVersion : Option Int
  now : DateTime
  routeAffinityHash : Option String

structure RouteSelection where
  modelAliasId : String
  aliasName : String
  routePolicyId : String
  routingGroupId : String
  modelTargetId : String
  upstreamModelId : String
  pricingSkuId : Option String
  providerEndpoint : ProviderEndpoint
  upstreamCredentialId : Option String
  filteredSummary : List RouteFilterSummary
  stickyHit : Bool
  stickyMissReason : Option String
  stickyTtlSeconds : Option Int
deriving DecidableEq, Repr

inductive RoutePlanOutcome
  | selected (selection : RouteSelection)
  | providerGrantDenied
  | noRoute
deriving DecidableEq, Repr

structure RoutePlan where
  outcome : RoutePlanOutcome
  filteredSummary : List RouteFilterSummary
deriving DecidableEq, Repr

structure RouteCandidateContext where
  actor : AuthenticatedActor
  protocolFamily : ProtocolFamily
  streaming : Bool
  modelAlias : ModelAliasConfig
  policy : RoutePolicyConfig
  group : RoutingGroupConfig
  endpoints : Index ProviderEndpoint
  credentials : Index UpstreamCredentialConfig
  targets : Index ModelTargetConfig
  hotState : RouteHotState
  configVersion : Option Int
  now : DateTime

def RoutePlanRequest.candidateContext (request : RoutePlanRequest) (modelAlias : ModelAliasConfig)
    (policy : RoutePolicyConfig) (group : RoutingGroupConfig) (endpoints : Index ProviderEndpoint)
    (credentials : Index UpstreamCredentialConfig) (targets : Index ModelTargetConfig) : RouteCandidateContext where
  actor := request.actor
  protocolFamily := request.protocolFamily
  streaming := request.streaming
  modelAlias := modelAlias
  policy := policy
  group := group
  endpoints := endpoints
  credentials := credentials
  targets := targets
  hotState := request.hotState
  configVersion := request.configVersion
  now := request.now

inductive CandidateEvaluation
  | selected (target : ModelTargetConfig) (endpoint : ProviderEndpoint)
  | filtered (reason : RouteFilterReason)
deriving DecidableEq, Repr

inductive StickyRouteSelection
  | selected (selection : RouteSelection)
  | miss (reason : Option String)
  | unavailable

/-- The two accumulators that the sticky pre-pass and the main loop share. -/
structure PlanEvidence where
  filteredSummary : List RouteFilterSummary
  providerGrantDenied : Bool

def PlanEvidence.reject (evidence : PlanEvidence) (reason : RouteFilterReason) : PlanEvidence where
  filteredSummary := addFilterReason evidence.filteredSummary reason
  providerGrantDenied := if reason = .providerGrantDenied then true else evidence.providerGrantDenied

def RouteCandidateContext.path (context : RouteCandidateContext) (target : ModelTargetConfig)
    (endpoint : ProviderEndpoint) : ProviderGrantPath :=
  ⟨context.modelAlias, context.policy, context.group, target, endpoint⟩

def routeSelection (context : RouteCandidateContext) (target : ModelTargetConfig) (endpoint : ProviderEndpoint)
    (filteredSummary : List RouteFilterSummary) (stickyHit : Bool) (stickyMissReason : Option String) :
    RouteSelection where
  modelAliasId := context.modelAlias.modelAliasId
  aliasName := context.modelAlias.aliasName
  routePolicyId := context.policy.routePolicyId
  routingGroupId := context.group.routingGroupId
  modelTargetId := target.modelTargetId
  upstreamModelId := target.upstreamModelId
  pricingSkuId := target.pricingSkuId
  providerEndpoint := endpoint
  upstreamCredentialId := target.upstreamCredentialId
  filteredSummary := filteredSummary
  stickyHit := stickyHit
  stickyMissReason := stickyMissReason
  stickyTtlSeconds := context.policy.stickyTtlSeconds

def aliasScopeScore (modelAlias : ModelAliasConfig) (actor : AuthenticatedActor) : Option UInt8 :=
  if modelAlias.projectId = actor.projectId ∧ modelAlias.organizationId = actor.organizationId ∧
      modelAlias.projectId.isSome then some 3
  else if modelAlias.projectId.isNone ∧ modelAlias.organizationId = actor.organizationId ∧
      modelAlias.organizationId.isSome then some 2
  else if modelAlias.projectId.isNone ∧ modelAlias.organizationId.isNone then some 1
  else none

/-- The order of the candidates: priority ascending, weight descending, target id ascending. -/
def candidateOrder (left right : RoutingGroupTargetConfig) : Ordering :=
  (compare left.priority right.priority).then
    ((compare right.weight left.weight).then (compare left.modelTargetId right.modelTargetId))

def stickyRouteForPolicy (policy : RoutePolicyConfig) (request : RoutePlanRequest) (modelAlias : ModelAliasConfig)
    (affinityHash : String) : Option StickyRouteRecord :=
  match policy.stickyTtlSeconds with
  | none => none
  | some _ =>
    request.hotState.stickyRoute request.actor.tenantId request.actor.projectId modelAlias.modelAliasId
      affinityHash request.configVersion request.now

namespace GatewayCatalogSnapshot

variable (catalog : GatewayCatalogSnapshot)

def resolveAlias (actor : AuthenticatedActor) (aliasName : String) : Result ModelAliasConfig :=
  let scopedAliases := sortBy (fun left right => compare right.1 left.1)
    ((catalog.modelAliases.filter
      (fun modelAlias => modelAlias.tenantId == actor.tenantId && modelAlias.aliasName == aliasName)).filterMap
        (fun modelAlias => (aliasScopeScore modelAlias actor).map (fun score => (score, modelAlias))))
  match scopedAliases with
  | [] => .error (.notFound s!"model alias {aliasName}")
  | (bestScore, bestAlias) :: rest =>
    if rest.any (fun entry => entry.1 == bestScore) then .error (.badRequest s!"ambiguous model alias {aliasName}")
    else .ok bestAlias

def resolveRouteBinding (request : RoutePlanRequest) :
    Result (ModelAliasConfig × RoutePolicyConfig × RoutingGroupConfig) := do
  let modelAlias ← catalog.resolveAlias request.actor request.aliasName
  if modelAlias.protocolFamily ≠ request.protocolFamily then
    .error (.badRequest
      s!"protocol_mismatch: alias {modelAlias.aliasName} is {modelAlias.protocolFamily.asStr}, ingress is {request.protocolFamily.asStr}")
  else if !modelAlias.status.isActive then .error (.notFound s!"model alias {request.aliasName}")
  else match catalog.routePolicies.find? (fun policy => policy.routePolicyId == modelAlias.routePolicyId) with
    | none => .error .notReady
    | some policy =>
      if !policy.status.isActive then .error .notReady
      else match catalog.routingGroups.find? (fun group => group.routingGroupId == policy.routingGroupId) with
        | none => .error .notReady
        | some group => if !group.status.isActive then .error .notReady else .ok (modelAlias, policy, group)

def evaluateCandidate (candidate : RoutingGroupTargetConfig) (context : RouteCandidateContext) :
    CandidateEvaluation :=
  if !candidate.status.isActive then .filtered .groupTargetInactive
  else match context.targets.lookup candidate.modelTargetId with
  | none => .filtered .targetMissing
  | some target =>
    if !target.status.isActive then .filtered .targetInactive
    else if target.protocolFamily ≠ context.protocolFamily then .filtered .protocolMismatch
    else if context.streaming && !target.supportsStreaming then .filtered .streamingUnsupported
    else match context.endpoints.lookup target.providerEndpointId with
    | none => .filtered .endpointMissing
    | some endpoint =>
      if !endpoint.status.isActive then .filtered .endpointInactive
      else if !endpoint.protocolFamilies.contains context.protocolFamily then .filtered .endpointProtocolMismatch
      else if context.hotState.endpointIsDrained endpoint.tenantId endpoint.providerEndpointId
          context.configVersion context.now then .filtered .endpointDrained
      else match context.hotState.endpointHealthState endpoint.tenantId endpoint.providerEndpointId
          context.configVersion context.now with
      | .blocked => .filtered .endpointHealthBlocked
      | .unhealthy => .filtered .endpointUnhealthy
      | .unknown | .healthy | .warmup | .degraded =>
        match target.upstreamCredentialId.map context.credentials.lookup with
        | some none => .filtered .credentialMissing
        | some (some credential) =>
          if !credential.status.isUsable then .filtered .credentialUnusable
          else if !catalog.providerGrantAllows context.actor (context.path target endpoint) then
            .filtered .providerGrantDenied
          else .selected target endpoint
        | none =>
          if !catalog.providerGrantAllows context.actor (context.path target endpoint) then
            .filtered .providerGrantDenied
          else .selected target endpoint

def tryStickyRouteSelection (request : RoutePlanRequest) (context : RouteCandidateContext)
    (candidates : List RoutingGroupTargetConfig) (evidence : PlanEvidence) : StickyRouteSelection × PlanEvidence :=
  match request.routeAffinityHash with
  | none => (.unavailable, evidence)
  | some affinityHash =>
    match stickyRouteForPolicy context.policy request context.modelAlias affinityHash with
    | none => (.unavailable, evidence)
    | some sticky =>
      if sticky.routingGroupId ≠ context.group.routingGroupId then
        (.miss (some "routing_group_changed"), evidence)
      else match candidates.find? (fun candidate => candidate.modelTargetId == sticky.modelTargetId) with
        | none => (.miss (some "model_target_missing"), evidence)
        | some candidate =>
          match catalog.evaluateCandidate candidate context with
          | .selected target endpoint =>
            if endpoint.providerEndpointId = sticky.providerEndpointId then
              (.selected (routeSelection context target endpoint evidence.filteredSummary true none), evidence)
            else (.miss (some "provider_endpoint_changed"), evidence)
          | .filtered reason => (.miss (some reason.asStr), evidence.reject reason)

def firstEligibleRouteSelection (context : RouteCandidateContext) (stickyMissReason : Option String) :
    List RoutingGroupTargetConfig → PlanEvidence → Option RouteSelection × PlanEvidence
  | [], evidence => (none, evidence)
  | candidate :: candidates, evidence =>
    match catalog.evaluateCandidate candidate context with
    | .selected target endpoint =>
      (some (routeSelection context target endpoint evidence.filteredSummary false stickyMissReason), evidence)
    | .filtered reason => firstEligibleRouteSelection context stickyMissReason candidates (evidence.reject reason)

def groupCandidates (group : RoutingGroupConfig) : List RoutingGroupTargetConfig :=
  sortBy candidateOrder (catalog.routingGroupTargets.filter
    (fun candidate => candidate.routingGroupId == group.routingGroupId))

def planRuntimeRouteWithHotState (request : RoutePlanRequest) : Result RoutePlan := do
  let (modelAlias, policy, group) ← catalog.resolveRouteBinding request
  let endpoints ← indexEndpoints catalog.providerEndpoints
  let credentials ← indexCredentials catalog.upstreamCredentials
  let targets ← indexTargets catalog.modelTargets
  let candidates := catalog.groupCandidates group
  let context := request.candidateContext modelAlias policy group endpoints credentials targets
  match catalog.tryStickyRouteSelection request context candidates ⟨[], false⟩ with
  | (.selected selection, evidence) => .ok ⟨.selected selection, evidence.filteredSummary⟩
  | (.miss stickyMissReason, evidence) => .ok (finish context candidates evidence stickyMissReason)
  | (.unavailable, evidence) => .ok (finish context candidates evidence none)
where
  finish (context : RouteCandidateContext) (candidates : List RoutingGroupTargetConfig)
      (evidence : PlanEvidence) (stickyMissReason : Option String) : RoutePlan :=
    match catalog.firstEligibleRouteSelection context stickyMissReason candidates evidence with
    | (some selection, evidence) => ⟨.selected selection, evidence.filteredSummary⟩
    | (none, evidence) =>
      if evidence.providerGrantDenied then ⟨.providerGrantDenied, evidence.filteredSummary⟩
      else ⟨.noRoute, evidence.filteredSummary⟩

def planRuntimeRoute (actor : AuthenticatedActor) (protocolFamily : ProtocolFamily) (aliasName : String)
    (streaming : Bool) (now : DateTime) : Result RoutePlan :=
  catalog.planRuntimeRouteWithHotState
    { actor, protocolFamily, aliasName, streaming, hotState := nullRouteHotState, configVersion := none, now,
      routeAffinityHash := none }

end GatewayCatalogSnapshot

end Starweaver.Gateway
