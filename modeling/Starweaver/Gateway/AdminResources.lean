import Starweaver.Library.Text
import Starweaver.Gateway.GatewayStore

namespace Starweaver.Gateway

open Library.Calendar Library.Text

section Resources

def updateResource {α : Type} (get : GatewayStore → Index α) (put : GatewayStore → Index α → GatewayStore)
    (version : α → Int) (label : String) (update : α → α) (store : GatewayStore) (id : String)
    (expectedVersion : Int) : Result (α × GatewayStore) :=
  match (get store).lookup id with
  | none => .error (.notFound s!"{label} {id}")
  | some record =>
    if version record ≠ expectedVersion then .error (.badRequest "stale_resource_version")
    else .ok (update record, put store ((get store).insert id (update record)))

theorem updateResource_ok {α : Type} {get : GatewayStore → Index α} {put : GatewayStore → Index α → GatewayStore}
    {version : α → Int} {label id : String} {update : α → α} {store store' : GatewayStore} {expectedVersion : Int}
    {updated : α} (h : updateResource get put version label update store id expectedVersion = .ok (updated, store')) :
    ∃ record, (get store).lookup id = some record ∧ updated = update record ∧
      store' = put store ((get store).insert id updated) := by
  unfold updateResource at h
  split at h
  · cases h
  · rename_i record hlookup
    split at h
    · cases h
    · cases h
      exact ⟨record, hlookup, rfl, rfl⟩

def updateProviderEndpointStatus (store : GatewayStore) (id : String) (expectedVersion : Int)
    (status : ResourceStatus) : Result (ProviderEndpointRecord × GatewayStore) :=
  updateResource (·.providerEndpoints) (fun store records => { store with providerEndpoints := records })
    (·.resourceVersion) "provider endpoint"
    (fun record => { record with status, resourceVersion := record.resourceVersion + 1 }) store id expectedVersion

def updateUpstreamCredentialStatus (store : GatewayStore) (id : String) (expectedVersion : Int)
    (status : UpstreamCredentialStatus) : Result (UpstreamCredentialRecord × GatewayStore) :=
  updateResource (·.upstreamCredentials) (fun store records => { store with upstreamCredentials := records })
    (·.resourceVersion) "upstream credential"
    (fun record => { record with status, resourceVersion := record.resourceVersion + 1 }) store id expectedVersion

def updateRoutingGroupStatus (store : GatewayStore) (id : String) (expectedVersion : Int) (status : ResourceStatus) :
    Result (RoutingGroupRecord × GatewayStore) :=
  updateResource (·.routingGroups) (fun store records => { store with routingGroups := records })
    (·.resourceVersion) "routing group"
    (fun record => { record with status, resourceVersion := record.resourceVersion + 1 }) store id expectedVersion

def updateSecretRefStatus (store : GatewayStore) (id : String) (expectedVersion : Int) (status : SecretRefStatus) :
    Result (SecretRefRecord × GatewayStore) :=
  updateResource (·.secretRefs) (fun store records => { store with secretRefs := records }) (·.resourceVersion)
    "secret ref" (fun record => { record with status, resourceVersion := record.resourceVersion + 1 }) store id
    expectedVersion

end Resources

section Secrets

variable (store : GatewayStore)

def organizationScope (tenantId organizationId reason : String) : Result Unit :=
  match store.organizations.lookup organizationId with
  | none => .error (.notFound s!"organization {organizationId}")
  | some owner => if owner ≠ tenantId then .error (.authorization reason) else .ok ()

def validateOptionalOrganizationScope (tenantId : String) : Option String → Result Unit
  | none => .ok ()
  | some organizationId => organizationScope store tenantId organizationId "organization_tenant_mismatch"

def validateNotificationScope (tenantId : String) (organizationId projectId : Option String) :
    Result (Option String × Option String) := do
  if let some organizationId := organizationId then
    organizationScope store tenantId organizationId "notification_scope_tenant_mismatch"
  match projectId with
  | none => .ok (organizationId, none)
  | some projectId =>
    match store.projects.lookup projectId with
    | none => .error (.notFound s!"project {projectId}")
    | some project =>
      if project.tenantId ≠ tenantId then .error (.authorization "notification_scope_tenant_mismatch")
      else if organizationId.any fun id => id != project.organizationId then
        .error (.badRequest "notification_scope_project_organization_mismatch")
      else .ok (some project.organizationId, some projectId)

/-- The answer of the file backend is the locator of the file it wrote. -/
structure CreateSecretRefRequest where
  tenantId : String
  organizationId : Option String
  projectId : Option String
  purpose : String
  backendKind : SecretBackendKind
  secretValue : String
  fileWrite : Result String

def secretBackendLocator (backendKind : SecretBackendKind) (secretRefId : String) (fileWrite : Result String) :
    Result String :=
  match backendKind with
  | .memory => .ok ("memory://gateway-secrets/" ++ secretRefId)
  | .file => fileWrite

def GatewayStore.storeSecretValue (record : SecretRefRecord) (secretValue : String) : GatewayStore :=
  match record.backendKind with
  | .memory => { store with secretValues := store.secretValues.insert record.secretRefId secretValue }
  | .file => { store with secretFiles := store.secretFiles.insert record.backendLocator secretValue }

def createSecretRef (request : CreateSecretRefRequest) (secretRefId : String) : Result GatewayStore := do
  if trim request.purpose = "" ∨ 120 < request.purpose.utf8ByteSize then
    .error (.badRequest "secret_ref_purpose_invalid")
  else if request.secretValue = "" then .error (.badRequest "secret_ref_value_required")
  else
    let (organizationId, projectId) ←
      validateNotificationScope store request.tenantId request.organizationId request.projectId
    let backendLocator ← secretBackendLocator request.backendKind secretRefId request.fileWrite
    let record : SecretRefRecord :=
      ⟨secretRefId, request.tenantId, organizationId, projectId, request.backendKind, backendLocator, .active, 1⟩
    .ok (GatewayStore.storeSecretValue { store with secretRefs := store.secretRefs.insert secretRefId record } record
      request.secretValue)

def rotateSecretRef (secretRefId : String) (expectedVersion : Int) (secretValue : String) (fileWrite : Result String) :
    Result GatewayStore :=
  if secretValue = "" then .error (.badRequest "secret_ref_value_required")
  else match store.secretRefs.lookup secretRefId with
    | none => .error (.notFound s!"secret ref {secretRefId}")
    | some record =>
      if record.resourceVersion ≠ expectedVersion then .error (.badRequest "stale_resource_version")
      else if record.status = .deleted then .error (.badRequest "secret_ref_deleted")
      else do
        let backendLocator ← secretBackendLocator record.backendKind secretRefId fileWrite
        let updated :=
          { record with backendLocator, status := .rotating, resourceVersion := record.resourceVersion + 1 }
        .ok (GatewayStore.storeSecretValue { store with secretRefs := store.secretRefs.insert secretRefId updated }
          updated secretValue)

def readFileSecretValue (locator : String) : Option String :=
  if "file://".toList.isPrefixOf locator.toList then store.secretFiles.lookup locator else none

def GatewayStore.secretValue (secretRefId : String) : Option String :=
  match store.secretRefs.lookup secretRefId with
  | none => none
  | some record =>
    if record.status ≠ .active ∧ record.status ≠ .rotating then none
    else match record.backendKind with
      | .memory => store.secretValues.lookup secretRefId
      | .file => readFileSecretValue store record.backendLocator

def validSecretRefId (value : String) : Bool :=
  "sec_".toList.isPrefixOf value.toList && decide (value.utf8ByteSize ≤ 128) &&
    value.toList.all fun c => c.isAlphanum || c == '_' || c == '-' || c == '.'

def ensureSecretRefUsable (tenantId : String) (organizationId projectId : Option String)
    (secretRefId errorPrefix : String) : Result Unit :=
  if !validSecretRefId secretRefId then .error (.badRequest s!"{errorPrefix}_invalid")
  else match store.secretRefs.lookup secretRefId with
    | none => .error (.notFound s!"secret ref {secretRefId}")
    | some record =>
      if record.tenantId ≠ tenantId then .error (.authorization "secret_ref_tenant_mismatch")
      else if record.status ≠ .active ∧ record.status ≠ .rotating then
        .error (.badRequest s!"{errorPrefix}_not_active")
      else if record.organizationId.any fun id => organizationId != some id then
        .error (.badRequest s!"{errorPrefix}_scope_mismatch")
      else if record.projectId.any fun id => projectId != some id then
        .error (.badRequest s!"{errorPrefix}_scope_mismatch")
      else .ok ()

end Secrets

section Creation

variable (store : GatewayStore)

def createProviderEndpoint (tenantId : String) (organizationId : Option String) (providerEndpointId : String) :
    Result GatewayStore := do
  validateOptionalOrganizationScope store tenantId organizationId
  .ok { store with
    providerEndpoints := store.providerEndpoints.insert providerEndpointId
      ⟨providerEndpointId, tenantId, organizationId, .active, 1⟩ }

structure CreateUpstreamCredentialRequest where
  tenantId : String
  organizationId : Option String
  providerEndpointId : String
  credentialKind : String
  secretRefId : String

def validateUpstreamCredentialEndpoint (request : CreateUpstreamCredentialRequest) : Result Unit := do
  validateOptionalOrganizationScope store request.tenantId request.organizationId
  match store.providerEndpoints.lookup request.providerEndpointId with
  | none => .error (.notFound s!"provider endpoint {request.providerEndpointId}")
  | some endpoint =>
    if endpoint.tenantId ≠ request.tenantId then .error (.authorization "provider_endpoint_tenant_mismatch")
    else if request.organizationId.isSome ∧ endpoint.organizationId.isSome ∧
        endpoint.organizationId ≠ request.organizationId then
      .error (.authorization "provider_endpoint_organization_mismatch")
    else
      ensureSecretRefUsable store request.tenantId request.organizationId none request.secretRefId
        "upstream_credential_secret_ref"

def createUpstreamCredential (request : CreateUpstreamCredentialRequest) (upstreamCredentialId : String) :
    Result GatewayStore := do
  validateUpstreamCredentialEndpoint store request
  .ok { store with
    upstreamCredentials := store.upstreamCredentials.insert upstreamCredentialId
      ⟨upstreamCredentialId, request.tenantId, request.organizationId, request.providerEndpointId,
        request.credentialKind, request.secretRefId, .active, 1⟩ }

def createRoutingGroup (tenantId : String) (organizationId : Option String) (name routingGroupId : String) :
    Result GatewayStore := do
  validateOptionalOrganizationScope store tenantId organizationId
  if trim name = "" then .error (.badRequest "routing_group_name_required")
  else if store.routingGroups.entries.any fun entry =>
      entry.2.tenantId == tenantId && entry.2.organizationId == organizationId && entry.2.name == trim name &&
        entry.2.status != .deleted then
    .error (.badRequest "routing_group_name_conflict")
  else .ok { store with
    routingGroups := store.routingGroups.insert routingGroupId
      ⟨routingGroupId, tenantId, organizationId, trim name, .active, 1⟩ }

end Creation

structure ProviderAdapterCredential where
  upstreamCredentialId : String
  credentialKind : String
  secretValue : String
deriving DecidableEq, Repr

def runtimeProviderAdapterCredential (store : GatewayStore) (routeTarget : RuntimeRouteTarget) :
    Option ProviderAdapterCredential :=
  match (routeTarget.upstreamCredentialId.bind store.upstreamCredentials.lookup).bind fun credential =>
      (store.secretValue credential.secretRefId).map fun secretValue =>
        (⟨credential.upstreamCredentialId, credential.credentialKind, secretValue⟩ : ProviderAdapterCredential) with
  | some credential => some credential
  | none =>
    routeTarget.upstreamCredentialId.bind fun upstreamCredentialId =>
      routeTarget.upstreamCredentialSnapshot.bind fun snapshot =>
        (store.secretValue snapshot.secretRefId).map fun secretValue =>
          ⟨upstreamCredentialId, snapshot.credentialKind, secretValue⟩

end Starweaver.Gateway
