import Starweaver.Library.MachineInt
import Starweaver.Gateway.RuntimeRoute

namespace Starweaver.Gateway

open Library.Calendar Library.MachineInt

/-- A payload as its readers see it. The policy bundle may be there without being a string; a catalog is there when
the payload has one of the catalog's keys, and then either decodes or does not. -/
structure ConfigPayload where
  cedarPolicyBundle : Option (Option String)
  catalog : Option (Except String GatewayCatalogSnapshot)
deriving DecidableEq

structure PublishedConfigSnapshot where
  snapshotId : String
  tenantId : String
  version : Int
  payload : ConfigPayload
  rollbackOf : Option String
deriving DecidableEq

structure ConfigPublicationPointer where
  snapshotId : String
  version : Int
deriving DecidableEq

inductive SecretBackendKind
  | memory
  | file
deriving DecidableEq, Repr

inductive SecretRefStatus
  | active
  | rotating
  | disabled
  | deleted
deriving DecidableEq, Repr

structure SecretRefRecord where
  secretRefId : String
  tenantId : String
  organizationId : Option String
  projectId : Option String
  backendKind : SecretBackendKind
  backendLocator : String
  status : SecretRefStatus
  resourceVersion : Int
deriving DecidableEq, Repr

inductive UpstreamCredentialStatus
  | active
  | rotating
  | disabled
  | deleted
deriving DecidableEq, Repr

structure UpstreamCredentialRecord where
  upstreamCredentialId : String
  tenantId : String
  organizationId : Option String
  providerEndpointId : String
  credentialKind : String
  secretRefId : String
  status : UpstreamCredentialStatus
  resourceVersion : Int
deriving DecidableEq, Repr

structure ProviderEndpointRecord where
  providerEndpointId : String
  tenantId : String
  organizationId : Option String
  status : ResourceStatus
  resourceVersion : Int
deriving DecidableEq, Repr

structure RoutingGroupRecord where
  routingGroupId : String
  tenantId : String
  organizationId : Option String
  name : String
  status : ResourceStatus
  resourceVersion : Int
deriving DecidableEq, Repr

structure IdempotencyRecord where
  requestHash : String
  response : EmergencyOperationRecord
  expiresAt : DateTime
deriving DecidableEq, Repr

structure ProjectRecord where
  tenantId : String
  organizationId : String
deriving DecidableEq, Repr

/-- The maps of the in-memory store that the control plane and the runtime share; an organization is listed with its
tenant. -/
structure GatewayStore where
  organizations : Index String
  projects : Index ProjectRecord
  configSnapshots : List PublishedConfigSnapshot
  configPublications : Index ConfigPublicationPointer
  secretRefs : Index SecretRefRecord
  secretValues : Index String
  secretFiles : Index String
  providerEndpoints : Index ProviderEndpointRecord
  upstreamCredentials : Index UpstreamCredentialRecord
  routingGroups : Index RoutingGroupRecord
  emergencyOperations : List EmergencyOperationRecord
  idempotencyRecords : AList (fun _ : String × String => IdempotencyRecord)

def GatewayStore.empty : GatewayStore := ⟨∅, ∅, [], ∅, ∅, ∅, ∅, ∅, ∅, ∅, [], ∅⟩

structure AdminEmergencyOperationRequest where
  idempotencyKey : String
  expectedVersion : Option Int
  reason : String
  expiresAt : DateTime
deriving DecidableEq, Repr

/-- The third-party code that the control plane calls: a URI parser, the policy language's parser and a hash. -/
structure GatewayEnv where
  parseUri : String → Except String ParsedUri
  validateCedarPolicyBundle : String → Result Unit
  requestHash : String → AdminEmergencyOperationRequest → String

section Config

def GatewayCatalogSnapshot.fromPayload (env : GatewayEnv) (payload : ConfigPayload) :
    Result (Option GatewayCatalogSnapshot) :=
  match payload.catalog with
  | none => .ok none
  | some (.error error) => .error (.badRequest s!"invalid catalog snapshot payload: {error}")
  | some (.ok catalog) => do
    catalog.validate env.parseUri
    .ok (some catalog)

def validateConfigSnapshotPayload (env : GatewayEnv) (payload : ConfigPayload) : Result Unit :=
  match payload.cedarPolicyBundle with
  | none => .ok ()
  | some none => .error (.badRequest "cedar_policy_bundle must be a string")
  | some (some policyBundle) => env.validateCedarPolicyBundle policyBundle

variable (store : GatewayStore)

def GatewayStore.configSnapshot (snapshotId : String) : Option PublishedConfigSnapshot :=
  store.configSnapshots.find? fun snapshot => snapshot.snapshotId == snapshotId

/-- The last snapshot of the tenant with the largest version, read when no publication pointer is there. -/
def GatewayStore.newestSnapshot (tenantId : String) : Option PublishedConfigSnapshot :=
  (store.configSnapshots.filter fun snapshot => snapshot.tenantId == tenantId).foldl
    (fun best snapshot => if best.all fun other => decide (other.version ≤ snapshot.version) then some snapshot else best)
    none

def GatewayStore.latestPublishedSnapshotForTenant (tenantId : String) : Option PublishedConfigSnapshot :=
  match store.configPublications.lookup tenantId with
  | some pointer => store.configSnapshot pointer.snapshotId
  | none => store.newestSnapshot tenantId

def GatewayStore.insertConfigSnapshot (snapshot : PublishedConfigSnapshot) : GatewayStore :=
  { store with
    configSnapshots := store.configSnapshots ++ [snapshot]
    configPublications := store.configPublications.insert snapshot.tenantId ⟨snapshot.snapshotId, snapshot.version⟩ }

def publishDocument (tenantId : String) (payload : ConfigPayload) (rollbackOf : Option String) (snapshotId : String) :
    PublishedConfigSnapshot × GatewayStore :=
  let version := match store.latestPublishedSnapshotForTenant tenantId with
    | none => 1
    | some snapshot => wrap (snapshot.version + 1)
  let snapshot := ⟨snapshotId, tenantId, version, payload, rollbackOf⟩
  (snapshot, store.insertConfigSnapshot snapshot)

def publishConfigSnapshot (env : GatewayEnv) (tenantId : String) (payload : ConfigPayload) (snapshotId : String) :
    Result (PublishedConfigSnapshot × GatewayStore) := do
  validateConfigSnapshotPayload env payload
  .ok (publishDocument store tenantId payload none snapshotId)

def rollbackConfigSnapshot (tenantId sourceSnapshotId snapshotId : String) :
    Result (PublishedConfigSnapshot × GatewayStore) :=
  match store.configSnapshot sourceSnapshotId with
  | none => .error (.notFound s!"config snapshot {sourceSnapshotId}")
  | some source =>
    if source.tenantId ≠ tenantId then .error (.authorization "snapshot_tenant_mismatch")
    else .ok (publishDocument store tenantId source.payload (some sourceSnapshotId) snapshotId)

def latestSnapshotForActorInMemory (actor : AuthenticatedActor) : Result (Option PublishedConfigSnapshot) :=
  match store.latestPublishedSnapshotForTenant actor.tenantId with
  | none => .ok none
  | some metadata =>
    match store.configSnapshot metadata.snapshotId with
    | none => .error (.internal s!"latest config snapshot {metadata.snapshotId} is missing from store")
    | some snapshot => .ok (some snapshot)

def latestCatalogForActor (env : GatewayEnv) (actor : AuthenticatedActor) : Result (Option LoadedCatalog) := do
  match ← latestSnapshotForActorInMemory store actor with
  | none => .ok none
  | some snapshot =>
    let catalog ← GatewayCatalogSnapshot.fromPayload env snapshot.payload
    .ok (catalog.map fun catalog => ⟨catalog, snapshot.snapshotId, snapshot.version⟩)

end Config

end Starweaver.Gateway
