import Starweaver.Gateway.Actions
import Starweaver.Gateway.Memberships

namespace Starweaver.Gateway.Tenancy

open Library.AssocMap Library.Calendar Library.Text

section Scopes

variable (store : TenancyStore)

structure ScopeReasons where
  projectTenant : String
  organizationTenant : String
  missing : String
  projectOrganization : String

/-- The project of the scope, if it names one, and its organization, which may be the one of the project. -/
def validateScope (reasons : ScopeReasons) (tenantId : String) (organizationId projectId : Option String) :
    Result (OrganizationRecord × Option ProjectRecord) := do
  let project ← (match projectId with
    | none => .ok none
    | some projectId =>
      match store.projects.lookup projectId with
      | none => .error (.notFound s!"project {projectId}")
      | some project =>
        if project.tenantId ≠ tenantId then .error (.authorization reasons.projectTenant) else .ok (some project)
      : Result (Option ProjectRecord))
  match organizationId.or (project.map (·.organizationId)) with
  | none => .error (.badRequest reasons.missing)
  | some organizationId =>
    match store.organizations.lookup organizationId with
    | none => .error (.notFound s!"organization {organizationId}")
    | some organization =>
      if organization.tenantId ≠ tenantId then .error (.authorization reasons.organizationTenant)
      else if project.any fun project => project.organizationId != organization.organizationId then
        .error (.badRequest reasons.projectOrganization)
      else .ok (organization, project)

end Scopes

section ServiceAccounts

variable (store : TenancyStore)

structure AdminCreateServiceAccountRequest where
  idempotencyKey : String
  organizationId : Option String
  projectId : Option String
  displayName : String

def serviceAccountScopeReasons : ScopeReasons :=
  ⟨"project_tenant_mismatch", "organization_tenant_mismatch", "service_account_scope_required",
    "service_account_project_organization_mismatch"⟩

def createServiceAccountRecord (tenantId : String) (request : AdminCreateServiceAccountRequest)
    (serviceAccountId : String) : Result (ServiceAccountRecord × TenancyStore) :=
  let displayName := trim request.displayName
  if displayName = "" then .error (.badRequest "service_account_display_name_required")
  else if request.organizationId = none ∧ request.projectId = none then
    .error (.badRequest "service_account_scope_required")
  else do
    let (organization, project) ←
      validateScope store serviceAccountScopeReasons tenantId request.organizationId request.projectId
    let record : ServiceAccountRecord :=
      ⟨serviceAccountId, tenantId, some organization.organizationId, project.map (·.projectId), displayName, .active, 1⟩
    .ok (record, { store with serviceAccounts := store.serviceAccounts.insert serviceAccountId record })

/-- The service account, or nothing when an earlier answer is replayed. -/
def createServiceAccount (call : AdminCall) (request : AdminCreateServiceAccountRequest)
    (requestHash serviceAccountId : String) : Result (Option ServiceAccountRecord) × TenancyStore :=
  match call.authorized with
  | .error error => (.error error, store)
  | .ok () =>
    let scopeKey := s!"service_accounts:create:{request.idempotencyKey}"
    match store.idempotencyResponse call.actor.tenantId scopeKey requestHash call.now with
    | (.error error, store) => (.error error, store)
    | (.ok true, store) => (.ok none, store)
    | (.ok false, store) =>
      match createServiceAccountRecord store call.actor.tenantId request serviceAccountId with
      | .error error => (.error error, store)
      | .ok (record, store) =>
        (.ok (some record), store.recordIdempotencyResponse call.actor.tenantId scopeKey requestHash call.now)

end ServiceAccounts

section Keys

variable (store : TenancyStore)

def TenancyStore.insertApiKey (record : ApiKeyRecord) : TenancyStore :=
  let retained := mapValues (fun records => records.filter fun candidate => candidate.apiKeyId != record.apiKeyId)
    store.apiKeys
  { store with
    apiKeys := retained.insert record.keyPrefix ((retained.lookup record.keyPrefix).getD [] ++ [record]) }

def validateApiKeyOwner (record : ApiKeyRecord) : Result Unit :=
  match store.users.lookup record.ownerPrincipalId with
  | some user =>
    if user.tenantId = record.tenantId then .ok () else .error (.authorization "api_key_owner_tenant_mismatch")
  | none =>
    match store.serviceAccounts.lookup record.ownerPrincipalId with
    | some account =>
      if account.tenantId = record.tenantId then .ok () else .error (.authorization "api_key_owner_tenant_mismatch")
    | none => .error (.notFound s!"principal {record.ownerPrincipalId}")

def apiKeyScopeReasons : ScopeReasons :=
  ⟨"api_key_project_tenant_mismatch", "api_key_organization_tenant_mismatch", "api_key_scope_required",
    "api_key_project_organization_mismatch"⟩

def validateApiKeyScope (record : ApiKeyRecord) : Result Unit := do
  let _ ← validateScope store apiKeyScopeReasons record.tenantId record.organizationId record.projectId
  .ok ()

def validateApiKeyActionAllowlist (record : ApiKeyRecord) : Result Unit :=
  match record.allowedActions.find? fun actionId => (GatewayAction.fromActionId actionId).isNone with
  | some actionId => .error (.badRequest s!"unknown_api_key_action:{actionId}")
  | none => .ok ()

def validateApiKeyAdminRecord (record : ApiKeyRecord) : Result Unit :=
  if trim record.name = "" then .error (.badRequest "api_key_name_required")
  else if record.organizationId = none ∧ record.projectId = none then .error (.badRequest "api_key_scope_required")
  else if (store.tenants.lookup record.tenantId).isNone then .error (.notFound s!"tenant {record.tenantId}")
  else do
    validateApiKeyOwner store record
    validateApiKeyScope store record
    validateApiKeyActionAllowlist record

def createApiKeyRecord (record : ApiKeyRecord) : Result (ApiKeyRecord × TenancyStore) := do
  validateApiKeyAdminRecord store record
  .ok (record, store.insertApiKey record)

structure AdminCreateApiKeyRequest where
  idempotencyKey : String
  organizationId : Option String
  projectId : Option String
  ownerPrincipalId : Option String
  name : String
  expiresAt : Option DateTime
  allowedActions : List String
  allowedResources : List String

/-- What is drawn for a new key: its id, its raw value and the salted hash of that value. -/
structure DrawnApiKey where
  apiKeyId : String
  rawKey : String
  secretHash : Result String

def actorPrincipalOrActorId (actor : AuthenticatedActor) : String := actor.principalId.getD actor.actorId

def AdminCreateApiKeyRequest.owner (request : AdminCreateApiKeyRequest) (actor : AuthenticatedActor) : String :=
  request.ownerPrincipalId.getD (actorPrincipalOrActorId actor)

def createApiKey (actor : AuthenticatedActor) (request : AdminCreateApiKeyRequest) (drawn : DrawnApiKey) :
    Result ApiKeyRecord := do
  let start ← Tenancy.keyPrefix drawn.rawKey
  let secretHash ← drawn.secretHash
  .ok
    { apiKeyId := drawn.apiKeyId
      tenantId := actor.tenantId
      organizationId := request.organizationId
      projectId := request.projectId
      ownerPrincipalId := request.owner actor
      name := trim request.name
      keyPrefix := start
      secretHash
      status := .active
      allowedActions := request.allowedActions
      allowedResources := request.allowedResources
      expiresAt := request.expiresAt }

def createApiKeyAdmin (call : AdminCall) (request : AdminCreateApiKeyRequest) (requestHash : String)
    (drawn : DrawnApiKey) : Result (Option ApiKeyRecord) × TenancyStore :=
  match call.authorized with
  | .error error => (.error error, store)
  | .ok () =>
    let scopeKey := s!"api_keys:create:{request.idempotencyKey}"
    match store.idempotencyResponse call.actor.tenantId scopeKey requestHash call.now with
    | (.error error, store) => (.error error, store)
    | (.ok true, store) => (.ok none, store)
    | (.ok false, store) =>
      match (do createApiKeyRecord store (← createApiKey call.actor request drawn)
          : Result (ApiKeyRecord × TenancyStore)) with
      | .error error => (.error error, store)
      | .ok (record, store) =>
        (.ok (some record), store.recordIdempotencyResponse call.actor.tenantId scopeKey requestHash call.now)

end Keys

section StatusHandlers

variable (store : TenancyStore) (call : AdminCall) (id : String) (expectedVersion : Int) (status : DirectoryStatus)

def updateOrganization : Result (OrganizationRecord × TenancyStore) := do
  call.authorized
  let _ ← organizationForActor store call.actor id
  updateOrganizationStatus store id expectedVersion status

def updateProject : Result (ProjectRecord × TenancyStore) := do
  call.authorized
  let _ ← projectForActor store call.actor id
  updateProjectStatus store id expectedVersion status

def validateUserStatus : Result Unit :=
  if status = .suspended then .error (.badRequest "user_status_invalid") else .ok ()

def TenancyStore.revokeSessionsForPrincipal (tenantId principalId : String) : TenancyStore :=
  { store with
    authSessions := mapValues (fun session =>
      if session.tenantId = tenantId ∧ session.principalId = principalId ∧ session.status = .active then
        { session with status := .revoked }
      else session) store.authSessions }

/-- A user who may no longer log in loses the sessions that are open. -/
def updateUser : Result (UserRecord × TenancyStore) := do
  validateUserStatus status
  call.authorized
  let _ ← userForActor store call.actor id
  let (updated, store) ← updateUserStatus store id expectedVersion status
  if updated.status.acceptsAccess then .ok (updated, store)
  else .ok (updated, store.revokeSessionsForPrincipal call.actor.tenantId updated.userId)

def updateServiceAccount : Result (ServiceAccountRecord × TenancyStore) := do
  call.authorized
  let _ ← serviceAccountForActor store call.actor id
  updateServiceAccountStatus store id expectedVersion status

end StatusHandlers

inductive KeyAction
  | bootstrapDefaultProject (request : BootstrapDefaultProjectRequest)
  | createServiceAccount (call : AdminCall) (request : AdminCreateServiceAccountRequest)
      (requestHash serviceAccountId : String)
  | createApiKeyAdmin (call : AdminCall) (request : AdminCreateApiKeyRequest) (requestHash : String)
      (drawn : DrawnApiKey)
  | updateOrganization (call : AdminCall) (id : String) (expectedVersion : Int) (status : DirectoryStatus)
  | updateProject (call : AdminCall) (id : String) (expectedVersion : Int) (status : DirectoryStatus)
  | updateUser (call : AdminCall) (id : String) (expectedVersion : Int) (status : DirectoryStatus)
  | updateServiceAccount (call : AdminCall) (id : String) (expectedVersion : Int) (status : DirectoryStatus)
  | authenticateRequest (headers : HeaderMap) (requestId traceId : String) (now : DateTime)

/-- A key creation, a status update, or a request, with the tenants and accounts that these need. -/
def keyStep (env : AuthEnv) (store : TenancyStore) : KeyAction → Option TenancyStore
  | .bootstrapDefaultProject request => some (Tenancy.bootstrapDefaultProject store request).2
  | .createServiceAccount call request requestHash serviceAccountId =>
    some (Tenancy.createServiceAccount store call request requestHash serviceAccountId).2
  | .createApiKeyAdmin call request requestHash drawn =>
    some (Tenancy.createApiKeyAdmin store call request requestHash drawn).2
  | .updateOrganization call id expectedVersion status =>
    some (store.orKeep Prod.snd (Tenancy.updateOrganization store call id expectedVersion status))
  | .updateProject call id expectedVersion status =>
    some (store.orKeep Prod.snd (Tenancy.updateProject store call id expectedVersion status))
  | .updateUser call id expectedVersion status =>
    some (store.orKeep Prod.snd (Tenancy.updateUser store call id expectedVersion status))
  | .updateServiceAccount call id expectedVersion status =>
    some (store.orKeep Prod.snd (Tenancy.updateServiceAccount store call id expectedVersion status))
  | .authenticateRequest headers requestId traceId now =>
    some (Tenancy.authenticateRequest env store headers requestId traceId now).2

end Starweaver.Gateway.Tenancy
