import Starweaver.Library.Machine
import Starweaver.Gateway.AdminResources

namespace Starweaver.Gateway

open Library.Calendar Library.Machine Library.Text

structure GatewayState where
  store : GatewayStore
  hotState : InMemoryHotState

def GatewayState.empty : GatewayState := ⟨.empty, .empty⟩

def EmergencyOperationKind.asStr : EmergencyOperationKind → String
  | .disableUpstreamCredential => "disable_upstream_credential"
  | .disableProviderEndpoint => "disable_provider_endpoint"
  | .drainRoutingGroup => "drain_routing_group"
  | .freezeConfig => "freeze_config"
  | .rollbackConfigSnapshot => "rollback_config_snapshot"
  | .forceBudgetBlock => "force_budget_block"

section Requests

def validateIdempotencyKey (idempotencyKey : String) : Result Unit :=
  if trim idempotencyKey ≠ "" ∧ idempotencyKey.utf8ByteSize ≤ 160 ∧
      (idempotencyKey.toList.all fun c => c.isAlphanum || c == '_' || c == '-' || c == '.') then .ok ()
  else .error (.badRequest "invalid_idempotency_key")

def validateRequiredReason (reason : String) : Result Unit :=
  if trim reason = "" then .error (.badRequest "reason_required") else .ok ()

def validateEmergencyOperationRequest (request : AdminEmergencyOperationRequest) (now : DateTime) : Result Unit := do
  validateIdempotencyKey request.idempotencyKey
  validateRequiredReason request.reason
  if request.expiresAt ≤ now then .error (.badRequest "emergency_expiry_must_be_future") else .ok ()

def requiredEmergencyExpectedVersion (request : AdminEmergencyOperationRequest) : Result Int :=
  match request.expectedVersion with
  | some version => if 0 < version then .ok version else .error (.badRequest "expected_version_required")
  | none => .error (.badRequest "expected_version_required")

def emergencyIdempotencyScopeKey (operationKind : EmergencyOperationKind) (targetResourceId idempotencyKey : String) :
    String :=
  s!"emergency:{operationKind.asStr}:{targetResourceId}:{idempotencyKey}"

def idempotencyTtlSeconds : Int := 24 * 3600

variable (store : GatewayStore)

def GatewayStore.idempotencyResponse (tenantId scopeKey requestHash : String) (now : DateTime) :
    Result (Option EmergencyOperationRecord) × GatewayStore :=
  match store.idempotencyRecords.lookup (tenantId, scopeKey) with
  | none => (.ok none, store)
  | some record =>
    if record.expiresAt ≤ now then
      (.ok none, { store with idempotencyRecords := store.idempotencyRecords.erase (tenantId, scopeKey) })
    else if record.requestHash ≠ requestHash then (.error (.badRequest "idempotency_key_conflict"), store)
    else (.ok (some record.response), store)

def GatewayStore.recordIdempotencyResponse (tenantId scopeKey requestHash : String)
    (response : EmergencyOperationRecord) (now : DateTime) : GatewayStore :=
  { store with
    idempotencyRecords := store.idempotencyRecords.insert (tenantId, scopeKey)
      ⟨requestHash, response, now.addSeconds idempotencyTtlSeconds⟩ }

def GatewayStore.createEmergencyOperation (record : EmergencyOperationRecord) (reason : String) (now : DateTime) :
    Result GatewayStore :=
  if trim reason = "" then .error (.badRequest "reason_required")
  else if record.expiresAt ≤ now then .error (.badRequest "emergency_expiry_must_be_future")
  else .ok { store with emergencyOperations := store.emergencyOperations ++ [record] }

end Requests

/-- One call of an emergency handler: who makes it, on what, and what the authorization of its route answers. -/
structure EmergencyCall where
  actor : AuthenticatedActor
  targetResourceId : String
  request : AdminEmergencyOperationRequest
  authorized : Result Unit
  now : DateTime

def EmergencyCall.operation (call : EmergencyCall) (operationKind : EmergencyOperationKind)
    (targetResourceKind : EmergencyTargetKind) : EmergencyOperationRecord :=
  ⟨call.actor.tenantId, operationKind, targetResourceKind, call.targetResourceId, call.request.expiresAt⟩

/-- What the emergency handlers share around the change that each of them makes. -/
def emergencyOperation (env : GatewayEnv) (operationKind : EmergencyOperationKind)
    (targetResourceKind : EmergencyTargetKind) (change : GatewayState → Result GatewayState) (call : EmergencyCall)
    (s : GatewayState) : Result EmergencyOperationRecord × GatewayState :=
  match (do validateEmergencyOperationRequest call.request call.now; call.authorized : Result Unit) with
  | .error error => (.error error, s)
  | .ok () =>
    let scopeKey := emergencyIdempotencyScopeKey operationKind call.targetResourceId call.request.idempotencyKey
    let requestHash := env.requestHash call.targetResourceId call.request
    match s.store.idempotencyResponse call.actor.tenantId scopeKey requestHash call.now with
    | (.error error, store) => (.error error, { s with store })
    | (.ok (some response), store) => (.ok response, { s with store })
    | (.ok none, store) =>
      match change { s with store } with
      | .error error => (.error error, { s with store })
      | .ok changed =>
        let operation := call.operation operationKind targetResourceKind
        match changed.store.createEmergencyOperation operation call.request.reason call.now with
        | .error error => (.error error, changed)
        | .ok store =>
          (.ok operation, { changed with
            store := store.recordIdempotencyResponse call.actor.tenantId scopeKey requestHash operation call.now })

def providerEndpointForActor (store : GatewayStore) (actor : AuthenticatedActor) (providerEndpointId : String) :
    Result ProviderEndpointRecord :=
  match (store.providerEndpoints.lookup providerEndpointId).filter (·.tenantId == actor.tenantId) with
  | none => .error (.notFound s!"provider endpoint {providerEndpointId}")
  | some endpoint => .ok endpoint

def upstreamCredentialForActor (store : GatewayStore) (actor : AuthenticatedActor) (upstreamCredentialId : String) :
    Result UpstreamCredentialRecord :=
  match (store.upstreamCredentials.lookup upstreamCredentialId).filter (·.tenantId == actor.tenantId) with
  | none => .error (.notFound s!"upstream credential {upstreamCredentialId}")
  | some credential => .ok credential

def routingGroupForActor (store : GatewayStore) (actor : AuthenticatedActor) (routingGroupId : String) :
    Result RoutingGroupRecord :=
  match (store.routingGroups.lookup routingGroupId).filter (·.tenantId == actor.tenantId) with
  | none => .error (.notFound s!"routing group {routingGroupId}")
  | some group => .ok group

/-- The drain carries the config version that the tenant has published, and is not written without one. -/
def setEndpointEmergencyDrain (s : GatewayState) (endpoint : ProviderEndpointRecord) (reason : String)
    (expiresAt now : DateTime) : GatewayState :=
  match s.store.configPublications.lookup endpoint.tenantId with
  | none => s
  | some publication =>
    { s with
      hotState := s.hotState.setEndpointDrain
        ⟨endpoint.tenantId, endpoint.providerEndpointId, publication.version, trim reason, now, expiresAt⟩ }

def disableProviderEndpoint (call : EmergencyCall) (s : GatewayState) : Result GatewayState := do
  let _ ← providerEndpointForActor s.store call.actor call.targetResourceId
  let expectedVersion ← requiredEmergencyExpectedVersion call.request
  let (updated, store) ← updateProviderEndpointStatus s.store call.targetResourceId expectedVersion .disabled
  .ok (setEndpointEmergencyDrain { s with store } updated call.request.reason call.request.expiresAt call.now)

def disableUpstreamCredential (call : EmergencyCall) (s : GatewayState) : Result GatewayState := do
  let _ ← upstreamCredentialForActor s.store call.actor call.targetResourceId
  let expectedVersion ← requiredEmergencyExpectedVersion call.request
  let (_, store) ← updateUpstreamCredentialStatus s.store call.targetResourceId expectedVersion .disabled
  .ok { s with store }

def drainRoutingGroup (call : EmergencyCall) (s : GatewayState) : Result GatewayState := do
  let _ ← routingGroupForActor s.store call.actor call.targetResourceId
  let expectedVersion ← requiredEmergencyExpectedVersion call.request
  let (_, store) ← updateRoutingGroupStatus s.store call.targetResourceId expectedVersion .draining
  .ok { s with store }

def rollbackToSnapshot (snapshotId : String) (call : EmergencyCall) (s : GatewayState) : Result GatewayState := do
  let (_, store) ← rollbackConfigSnapshot s.store call.actor.tenantId call.targetResourceId snapshotId
  .ok { s with store }

section Handlers

variable (env : GatewayEnv) (call : EmergencyCall)

def emergencyDisableProviderEndpoint : GatewayState → Result EmergencyOperationRecord × GatewayState :=
  emergencyOperation env .disableProviderEndpoint .providerEndpoint (disableProviderEndpoint call) call

def emergencyDisableUpstreamCredential : GatewayState → Result EmergencyOperationRecord × GatewayState :=
  emergencyOperation env .disableUpstreamCredential .upstreamCredential (disableUpstreamCredential call) call

def emergencyDrainRoutingGroup : GatewayState → Result EmergencyOperationRecord × GatewayState :=
  emergencyOperation env .drainRoutingGroup .routingGroup (drainRoutingGroup call) call

def emergencyRollbackConfigSnapshot (snapshotId : String) :
    GatewayState → Result EmergencyOperationRecord × GatewayState :=
  emergencyOperation env .rollbackConfigSnapshot .configSnapshot (rollbackToSnapshot snapshotId call) call

end Handlers

/-- A runtime request up to its route, planned from the catalog that its tenant has published. -/
def routeRequest (env : GatewayEnv) (request : RuntimeRouteRequest) (s : GatewayState) :
    Result RuntimeRouteTarget × GatewayState :=
  let (result, hotState) := runtimeRouteTarget request (latestCatalogForActor s.store env request.actor) s.hotState
  (result, { s with hotState })

inductive GatewayAction
  | createSecretRef (request : CreateSecretRefRequest) (secretRefId : String)
  | updateSecretRefStatus (secretRefId : String) (expectedVersion : Int) (status : SecretRefStatus)
  | rotateSecretRef (secretRefId : String) (expectedVersion : Int) (secretValue : String) (fileWrite : Result String)
  | createProviderEndpoint (tenantId : String) (organizationId : Option String) (providerEndpointId : String)
  | updateProviderEndpointStatus (providerEndpointId : String) (expectedVersion : Int) (status : ResourceStatus)
  | createUpstreamCredential (request : CreateUpstreamCredentialRequest) (upstreamCredentialId : String)
  | updateUpstreamCredentialStatus (upstreamCredentialId : String) (expectedVersion : Int)
      (status : UpstreamCredentialStatus)
  | createRoutingGroup (tenantId : String) (organizationId : Option String) (name routingGroupId : String)
  | updateRoutingGroupStatus (routingGroupId : String) (expectedVersion : Int) (status : ResourceStatus)
  | publishConfigSnapshot (tenantId : String) (payload : ConfigPayload) (snapshotId : String)
  | rollbackConfigSnapshot (tenantId sourceSnapshotId snapshotId : String)
  | emergencyRollbackConfigSnapshot (call : EmergencyCall) (snapshotId : String)
  | emergencyDisableProviderEndpoint (call : EmergencyCall)
  | emergencyDisableUpstreamCredential (call : EmergencyCall)
  | emergencyDrainRoutingGroup (call : EmergencyCall)
  | routeRequest (request : RuntimeRouteRequest)

def GatewayState.tryStore {α : Type} (s : GatewayState) (stored : α → GatewayStore) : Result α → GatewayState
  | .ok result => { s with store := stored result }
  | .error _ => s

/-- One operation of the gateway. A generated id is new: a creation under an id in use is not a step. -/
def gatewayStep (env : GatewayEnv) (s : GatewayState) : GatewayAction → Option GatewayState
  | .createSecretRef request secretRefId =>
    if (s.store.secretRefs.lookup secretRefId).isSome then none
    else some (s.tryStore id (Gateway.createSecretRef s.store request secretRefId))
  | .updateSecretRefStatus secretRefId expectedVersion status =>
    some (s.tryStore Prod.snd (Gateway.updateSecretRefStatus s.store secretRefId expectedVersion status))
  | .rotateSecretRef secretRefId expectedVersion secretValue fileWrite =>
    some (s.tryStore id (Gateway.rotateSecretRef s.store secretRefId expectedVersion secretValue fileWrite))
  | .createProviderEndpoint tenantId organizationId providerEndpointId =>
    if (s.store.providerEndpoints.lookup providerEndpointId).isSome then none
    else some (s.tryStore id (Gateway.createProviderEndpoint s.store tenantId organizationId providerEndpointId))
  | .updateProviderEndpointStatus providerEndpointId expectedVersion status =>
    some (s.tryStore Prod.snd (Gateway.updateProviderEndpointStatus s.store providerEndpointId expectedVersion status))
  | .createUpstreamCredential request upstreamCredentialId =>
    if (s.store.upstreamCredentials.lookup upstreamCredentialId).isSome then none
    else some (s.tryStore id (Gateway.createUpstreamCredential s.store request upstreamCredentialId))
  | .updateUpstreamCredentialStatus upstreamCredentialId expectedVersion status =>
    some (s.tryStore Prod.snd
      (Gateway.updateUpstreamCredentialStatus s.store upstreamCredentialId expectedVersion status))
  | .createRoutingGroup tenantId organizationId name routingGroupId =>
    if (s.store.routingGroups.lookup routingGroupId).isSome then none
    else some (s.tryStore id (Gateway.createRoutingGroup s.store tenantId organizationId name routingGroupId))
  | .updateRoutingGroupStatus routingGroupId expectedVersion status =>
    some (s.tryStore Prod.snd (Gateway.updateRoutingGroupStatus s.store routingGroupId expectedVersion status))
  | .publishConfigSnapshot tenantId payload snapshotId =>
    if (s.store.configSnapshot snapshotId).isSome then none
    else some (s.tryStore Prod.snd (Gateway.publishConfigSnapshot s.store env tenantId payload snapshotId))
  | .rollbackConfigSnapshot tenantId sourceSnapshotId snapshotId =>
    if (s.store.configSnapshot snapshotId).isSome then none
    else some (s.tryStore Prod.snd (Gateway.rollbackConfigSnapshot s.store tenantId sourceSnapshotId snapshotId))
  | .emergencyRollbackConfigSnapshot call snapshotId =>
    if (s.store.configSnapshot snapshotId).isSome then none
    else some (Gateway.emergencyRollbackConfigSnapshot env call snapshotId s).2
  | .emergencyDisableProviderEndpoint call => some (Gateway.emergencyDisableProviderEndpoint env call s).2
  | .emergencyDisableUpstreamCredential call => some (Gateway.emergencyDisableUpstreamCredential env call s).2
  | .emergencyDrainRoutingGroup call => some (Gateway.emergencyDrainRoutingGroup env call s).2
  | .routeRequest request => some (Gateway.routeRequest env request s).2

end Starweaver.Gateway
