import Starweaver.Gateway.RoutePlanning
import Starweaver.Gateway.RuntimePolicies

namespace Starweaver.Gateway

open Library.Calendar

structure RuntimeCredentialSnapshot where
  credentialKind : String
  secretRefId : String
deriving DecidableEq, Repr

structure RuntimeRouteTarget where
  authorizationResourceId : String
  upstreamModelId : String
  providerEndpoint : Option ProviderEndpoint
  upstreamCredentialId : Option String
  upstreamCredentialSnapshot : Option RuntimeCredentialSnapshot
  pricingSkuId : Option String
  routeDecisionId : Option String
  selectedRoute : Option SelectedRouteEvidence
deriving DecidableEq, Repr

structure LoadedCatalog where
  catalog : GatewayCatalogSnapshot
  snapshotId : String
  version : Int
deriving DecidableEq, Repr

structure DurableStore where
  insertRouteDecision : Result Unit
  insertRouteAttempt : Result Unit
  insertUsageEvent : Result Unit

def recordDurably (store : Option DurableStore) (insert : DurableStore → Result Unit) : Result Unit :=
  match store with
  | none => .ok ()
  | some store => insert store

structure RuntimeRouteRequest where
  actor : AuthenticatedActor
  replayCase : GatewayReplayCase
  requestedModel : String
  routeAffinityHash : Option String
  plannedAt : DateTime
  recordedAt : DateTime
  routeDecisionId : String
  postgresStore : Option DurableStore

def RuntimeRouteRequest.planRequest (request : RuntimeRouteRequest) (loaded : LoadedCatalog)
    (hotState : InMemoryHotState) : RoutePlanRequest where
  actor := request.actor
  protocolFamily := request.replayCase.protocolFamily
  aliasName := request.requestedModel
  streaming := request.replayCase.streaming
  hotState := hotState.asRouteHotState
  configVersion := some loaded.version
  now := request.plannedAt
  routeAffinityHash := request.routeAffinityHash

def runtimeCredentialSnapshot (catalog : GatewayCatalogSnapshot) (selection : RouteSelection) :
    Option RuntimeCredentialSnapshot :=
  selection.upstreamCredentialId.bind fun id =>
    (catalog.upstreamCredentials.find? fun credential => credential.upstreamCredentialId == id).map fun credential =>
      ⟨credential.credentialKind, credential.secretRefId⟩

def RouteSelection.evidence (selection : RouteSelection) : SelectedRouteEvidence where
  modelAliasId := selection.modelAliasId
  routePolicyId := selection.routePolicyId
  routingGroupId := selection.routingGroupId
  modelTargetId := selection.modelTargetId
  providerEndpointId := selection.providerEndpoint.providerEndpointId
  upstreamCredentialId := selection.upstreamCredentialId

def recordStickyRouteMapping (request : RuntimeRouteRequest) (selection : RouteSelection) (configVersion : Int)
    (hotState : InMemoryHotState) : InMemoryHotState :=
  match request.routeAffinityHash, selection.stickyTtlSeconds with
  | some affinityHash, some ttlSeconds =>
    hotState.setStickyRoute
      { tenantId := request.actor.tenantId
        projectId := request.actor.projectId
        modelAliasId := selection.modelAliasId
        affinityHash := affinityHash
        routingGroupId := selection.routingGroupId
        modelTargetId := selection.modelTargetId
        providerEndpointId := selection.providerEndpoint.providerEndpointId
        configVersion := configVersion
        createdAt := request.recordedAt
        expiresAt := request.recordedAt.addSeconds ttlSeconds }
  | _, _ => hotState

def selectedRuntimeRouteTarget (request : RuntimeRouteRequest) (selection : RouteSelection)
    (upstreamCredentialSnapshot : Option RuntimeCredentialSnapshot) (configVersion : Int)
    (hotState : InMemoryHotState) : Result RuntimeRouteTarget × InMemoryHotState :=
  match recordDurably request.postgresStore (·.insertRouteDecision) with
  | .error error => (.error error, hotState)
  | .ok () =>
    (.ok
      { authorizationResourceId := selection.modelAliasId
        upstreamModelId := selection.upstreamModelId
        providerEndpoint := some selection.providerEndpoint
        upstreamCredentialId := selection.upstreamCredentialId
        upstreamCredentialSnapshot := upstreamCredentialSnapshot
        pricingSkuId := selection.pricingSkuId
        routeDecisionId := some request.routeDecisionId
        selectedRoute := some selection.evidence },
      recordStickyRouteMapping request selection configVersion hotState)

def refusedRuntimeRoute (request : RuntimeRouteRequest) (error : GatewayError) : Result RuntimeRouteTarget := do
  recordDurably request.postgresStore (·.insertRouteDecision)
  .error error

/-- Without a published catalog the requested model is its own target and nothing is routed. -/
def unroutedTarget (requestedModel : String) : RuntimeRouteTarget where
  authorizationResourceId := requestedModel
  upstreamModelId := requestedModel
  providerEndpoint := none
  upstreamCredentialId := none
  upstreamCredentialSnapshot := none
  pricingSkuId := none
  routeDecisionId := none
  selectedRoute := none

def runtimeRouteTarget (request : RuntimeRouteRequest) (loadedCatalog : Result (Option LoadedCatalog))
    (hotState : InMemoryHotState) : Result RuntimeRouteTarget × InMemoryHotState :=
  match loadedCatalog with
  | .error error => (.error error, hotState)
  | .ok none => (.ok (unroutedTarget request.requestedModel), hotState)
  | .ok (some loaded) =>
    match loaded.catalog.planRuntimeRouteWithHotState (request.planRequest loaded hotState) with
    | .error error => (.error error, hotState)
    | .ok plan =>
      match plan.outcome with
      | .selected selection =>
        selectedRuntimeRouteTarget request selection (runtimeCredentialSnapshot loaded.catalog selection)
          loaded.version hotState
      | .providerGrantDenied =>
        (refusedRuntimeRoute request (.authorization "provider_grant_denied"), hotState)
      | .noRoute => (refusedRuntimeRoute request (.noRoute "no_eligible_model_target"), hotState)

end Starweaver.Gateway
