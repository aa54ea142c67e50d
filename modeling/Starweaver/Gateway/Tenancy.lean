import Starweaver.Library.AssocMap
import Starweaver.Library.SortBy
import Starweaver.Gateway.Catalog

namespace Starweaver.Gateway.Tenancy

open Library.AssocMap Library.Calendar Library.SortBy

inductive DirectoryStatus
  | active
  | suspended
  | disabled
  | deleted
deriving DecidableEq, Repr

def DirectoryStatus.acceptsAccess : DirectoryStatus → Bool
  | .active => true
  | _ => false

inductive MembershipStatus
  | active
  | suspended
  | removed
deriving DecidableEq, Repr

def MembershipStatus.acceptsAccess : MembershipStatus → Bool
  | .active => true
  | _ => false

@[simp] theorem MembershipStatus.acceptsAccess_iff {status : MembershipStatus} :
    status.acceptsAccess = true ↔ status = .active := by
  cases status <;> simp [acceptsAccess]

inductive InvitationStatus
  | pending
  | accepted
  | revoked
  | expired
deriving DecidableEq, Repr

def InvitationStatus.acceptsAt (status : InvitationStatus) (expiresAt now : DateTime) : Bool :=
  status == .pending && decide (now < expiresAt)

inductive ApiKeyStatus
  | active
  | disabled
  | expired
  | rotating
  | deleted
deriving DecidableEq, Repr

def ApiKeyStatus.acceptsAuthentication : ApiKeyStatus → Bool
  | .active => true
  | .rotating => true
  | _ => false

inductive AuthSessionStatus
  | active
  | revoked
  | expired
deriving DecidableEq, Repr

def AuthSessionStatus.acceptsAuthentication : AuthSessionStatus → Bool
  | .active => true
  | _ => false

structure TenantRecord where
  tenantId : String
  displayName : String
deriving DecidableEq, Repr

structure OrganizationRecord where
  organizationId : String
  tenantId : String
  displayName : String
  status : DirectoryStatus
  resourceVersion : Int
deriving DecidableEq, Repr

structure ProjectRecord where
  projectId : String
  tenantId : String
  organizationId : String
  displayName : String
  status : DirectoryStatus
  resourceVersion : Int
deriving DecidableEq, Repr

structure UserRecord where
  userId : String
  tenantId : String
  defaultOrganizationId : Option String
  defaultProjectId : Option String
  primaryEmail : Option String
  displayName : String
  status : DirectoryStatus
  resourceVersion : Int
deriving DecidableEq, Repr

structure ServiceAccountRecord where
  serviceAccountId : String
  tenantId : String
  organizationId : Option String
  projectId : Option String
  displayName : String
  status : DirectoryStatus
  resourceVersion : Int
deriving DecidableEq, Repr

structure OrganizationMembershipRecord where
  organizationMemberId : String
  tenantId : String
  organizationId : String
  principalId : String
  status : MembershipStatus
  resourceVersion : Int
deriving DecidableEq, Repr

structure ProjectMembershipRecord where
  projectMemberId : String
  tenantId : String
  organizationId : String
  projectId : String
  principalId : String
  organizationMemberId : Option String
  status : MembershipStatus
  resourceVersion : Int
deriving DecidableEq, Repr

structure OrganizationInvitationRecord where
  invitationId : String
  tenantId : String
  organizationId : String
  projectId : Option String
  invitedEmail : Option String
  invitedPrincipalId : Option String
  invitationTokenHash : String
  roleId : String
  status : InvitationStatus
  expiresAt : DateTime
  resourceVersion : Int
deriving DecidableEq, Repr

structure AuthSessionRecord where
  authSessionId : String
  tenantId : String
  principalId : String
  activeOrganizationId : Option String
  activeProjectId : Option String
  sessionHash : String
  status : AuthSessionStatus
  expiresAt : DateTime
deriving DecidableEq, Repr

def AuthSessionRecord.canAuthenticateAt (session : AuthSessionRecord) (now : DateTime) : Bool :=
  session.status.acceptsAuthentication && decide (now < session.expiresAt)

structure ApiKeyRecord where
  apiKeyId : String
  tenantId : String
  organizationId : Option String
  projectId : Option String
  ownerPrincipalId : String
  name : String
  keyPrefix : String
  secretHash : String
  status : ApiKeyStatus
  allowedActions : List String
  allowedResources : List String
  expiresAt : Option DateTime
deriving DecidableEq, Repr

def ApiKeyRecord.canAuthenticateAt (record : ApiKeyRecord) (now : DateTime) : Bool :=
  record.status.acceptsAuthentication && record.expiresAt.all fun expiresAt => decide (now < expiresAt)

/-- An earlier answer under an idempotency key; only its presence is read again. -/
structure IdempotencyRecord where
  requestHash : String
  expiresAt : DateTime
deriving DecidableEq, Repr

/-- The maps of the in-memory store that carry tenants, people, memberships and inbound credentials. -/
structure TenancyStore where
  tenants : Index TenantRecord
  organizations : Index OrganizationRecord
  projects : Index ProjectRecord
  users : Index UserRecord
  serviceAccounts : Index ServiceAccountRecord
  organizationMemberships : AList (fun _ : String × String => OrganizationMembershipRecord)
  projectMemberships : AList (fun _ : String × String => ProjectMembershipRecord)
  organizationInvitations : Index OrganizationInvitationRecord
  authSessions : Index AuthSessionRecord
  apiKeys : Index (List ApiKeyRecord)
  apiKeyFailedAuth : Index (List DateTime)
  idempotencyRecords : AList (fun _ : String × String => IdempotencyRecord)

def TenancyStore.empty : TenancyStore := ⟨∅, ∅, ∅, ∅, ∅, ∅, ∅, ∅, ∅, ∅, ∅, ∅⟩

section Idempotency

def idempotencyTtlSeconds : Int := 24 * 3600

variable (store : TenancyStore)

/-- Whether the key has been answered before; an answer that has expired is dropped. -/
def TenancyStore.idempotencyResponse (tenantId scopeKey requestHash : String) (now : DateTime) :
    Result Bool × TenancyStore :=
  match store.idempotencyRecords.lookup (tenantId, scopeKey) with
  | none => (.ok false, store)
  | some record =>
    if record.expiresAt ≤ now then
      (.ok false, { store with idempotencyRecords := store.idempotencyRecords.erase (tenantId, scopeKey) })
    else if record.requestHash ≠ requestHash then (.error (.badRequest "idempotency_key_conflict"), store)
    else (.ok true, store)

def TenancyStore.recordIdempotencyResponse (tenantId scopeKey requestHash : String) (now : DateTime) : TenancyStore :=
  { store with
    idempotencyRecords := store.idempotencyRecords.insert (tenantId, scopeKey)
      ⟨requestHash, now.addSeconds idempotencyTtlSeconds⟩ }

end Idempotency

section Bootstrap

structure BootstrapDefaultProjectRequest where
  tenantId : String
  tenantDisplayName : String
  organizationId : String
  organizationDisplayName : String
  projectId : String
  projectDisplayName : String
  userId : String
  userDisplayName : String
  userPrimaryEmail : Option String
  organizationMemberId : String
  projectMemberId : String

structure TenancySeed where
  tenant : TenantRecord
  organization : OrganizationRecord
  project : ProjectRecord
  user : UserRecord
  organizationMembership : OrganizationMembershipRecord
  projectMembership : ProjectMembershipRecord

def tenancySeedFromRequest (request : BootstrapDefaultProjectRequest) : TenancySeed where
  tenant := ⟨request.tenantId, request.tenantDisplayName⟩
  organization := ⟨request.organizationId, request.tenantId, request.organizationDisplayName, .active, 1⟩
  project := ⟨request.projectId, request.tenantId, request.organizationId, request.projectDisplayName, .active, 1⟩
  user := ⟨request.userId, request.tenantId, some request.organizationId, some request.projectId,
    request.userPrimaryEmail, request.userDisplayName, .active, 1⟩
  organizationMembership :=
    ⟨request.organizationMemberId, request.tenantId, request.organizationId, request.userId, .active, 1⟩
  projectMembership := ⟨request.projectMemberId, request.tenantId, request.organizationId, request.projectId,
    request.userId, some request.organizationMemberId, .active, 1⟩

def TenancySeed.organizationMembershipKey (seed : TenancySeed) : String × String :=
  (seed.organizationMembership.principalId, seed.organizationMembership.organizationId)

def TenancySeed.projectMembershipKey (seed : TenancySeed) : String × String :=
  (seed.projectMembership.principalId, seed.projectMembership.projectId)

def validateEntry {κ ν : Type} [DecidableEq κ] (map : AList (fun _ : κ => ν)) (key : κ) (value : ν)
    (isMatch : ν → ν → Bool) (reason : String) : Result Unit :=
  match map.lookup key with
  | some existing => if isMatch existing value then .ok () else .error (.badRequest reason)
  | none => .ok ()

def tenantSeedMatches (existing value : TenantRecord) : Bool :=
  existing.tenantId == value.tenantId && existing.displayName == value.displayName

def organizationSeedMatches (existing value : OrganizationRecord) : Bool :=
  existing.organizationId == value.organizationId && existing.tenantId == value.tenantId &&
    existing.displayName == value.displayName

def projectSeedMatches (existing value : ProjectRecord) : Bool :=
  existing.projectId == value.projectId && existing.tenantId == value.tenantId &&
    existing.organizationId == value.organizationId && existing.displayName == value.displayName

def userSeedMatches (existing value : UserRecord) : Bool :=
  existing.userId == value.userId && existing.tenantId == value.tenantId &&
    existing.defaultOrganizationId == value.defaultOrganizationId &&
    existing.defaultProjectId == value.defaultProjectId && existing.primaryEmail == value.primaryEmail &&
    existing.displayName == value.displayName

def organizationMembershipSeedMatches (existing value : OrganizationMembershipRecord) : Bool :=
  existing.organizationMemberId == value.organizationMemberId && existing.tenantId == value.tenantId &&
    existing.organizationId == value.organizationId && existing.principalId == value.principalId

def projectMembershipSeedMatches (existing value : ProjectMembershipRecord) : Bool :=
  existing.projectMemberId == value.projectMemberId && existing.tenantId == value.tenantId &&
    existing.organizationId == value.organizationId && existing.projectId == value.projectId &&
    existing.principalId == value.principalId && existing.organizationMemberId == value.organizationMemberId

variable (store : TenancyStore)

def validateTenancySeed (seed : TenancySeed) : Result Unit := do
  validateEntry store.tenants seed.tenant.tenantId seed.tenant tenantSeedMatches "tenant_seed_conflict"
  validateEntry store.organizations seed.organization.organizationId seed.organization organizationSeedMatches
    "organization_seed_conflict"
  validateEntry store.projects seed.project.projectId seed.project projectSeedMatches "project_seed_conflict"
  validateEntry store.users seed.user.userId seed.user userSeedMatches "user_seed_conflict"
  validateEntry store.organizationMemberships seed.organizationMembershipKey seed.organizationMembership
    organizationMembershipSeedMatches "organization_membership_seed_conflict"
  validateEntry store.projectMemberships seed.projectMembershipKey seed.projectMembership
    projectMembershipSeedMatches "project_membership_seed_conflict"

def insertTenancySeed (seed : TenancySeed) : TenancyStore :=
  { store with
    tenants := orInsert seed.tenant.tenantId seed.tenant store.tenants
    organizations := orInsert seed.organization.organizationId seed.organization store.organizations
    projects := orInsert seed.project.projectId seed.project store.projects
    users := orInsert seed.user.userId seed.user store.users
    organizationMemberships :=
      orInsert seed.organizationMembershipKey seed.organizationMembership store.organizationMemberships
    projectMemberships := orInsert seed.projectMembershipKey seed.projectMembership store.projectMemberships }

def loadEntry {κ ν : Type} [DecidableEq κ] (map : AList (fun _ : κ => ν)) (key : κ) (label : String) : Result ν :=
  match map.lookup key with
  | some value => .ok value
  | none => .error (.internal s!"bootstrapped {label} is missing")

def loadTenancySeed (request : BootstrapDefaultProjectRequest) : Result TenancySeed := do
  let tenant ← loadEntry store.tenants request.tenantId "tenant"
  let organization ← loadEntry store.organizations request.organizationId "organization"
  let project ← loadEntry store.projects request.projectId "project"
  let user ← loadEntry store.users request.userId "user"
  let organizationMembership ←
    loadEntry store.organizationMemberships (request.userId, request.organizationId) "organization membership"
  let projectMembership ←
    loadEntry store.projectMemberships (request.userId, request.projectId) "project membership"
  .ok ⟨tenant, organization, project, user, organizationMembership, projectMembership⟩

def bootstrapDefaultProject (request : BootstrapDefaultProjectRequest) : Result TenancySeed × TenancyStore :=
  let seed := tenancySeedFromRequest request
  match validateTenancySeed store seed with
  | .error error => (.error error, store)
  | .ok () =>
    let seeded := insertTenancySeed store seed
    (loadTenancySeed seeded request, seeded)

end Bootstrap

section Statuses

/-- Replace a record when the caller has seen its current version. -/
def updateRecord {α : Type} (label : String) (version : α → Int) (update : α → α) (records : Index α) (id : String)
    (expectedVersion : Int) : Result (α × Index α) :=
  match records.lookup id with
  | none => .error (.notFound s!"{label} {id}")
  | some record =>
    if version record ≠ expectedVersion then .error (.badRequest "stale_resource_version")
    else .ok (update record, records.insert id (update record))

theorem updateRecord_ok {α : Type} {label id : String} {version : α → Int} {update : α → α} {records updated : Index α}
    {record : α} {expectedVersion : Int}
    (h : updateRecord label version update records id expectedVersion = .ok (record, updated)) :
    ∃ old, records.lookup id = some old ∧ version old = expectedVersion ∧ record = update old ∧
      updated = records.insert id record := by
  unfold updateRecord at h
  split at h
  · cases h
  · rename_i old hlookup
    split at h
    · cases h
    · rename_i hversion
      cases h
      exact ⟨old, hlookup, not_not.mp hversion, rfl, rfl⟩

variable (store : TenancyStore) (id : String) (expectedVersion : Int) (status : DirectoryStatus)

def updateOrganizationStatus : Result (OrganizationRecord × TenancyStore) := do
  let (record, organizations) ← updateRecord "organization" (·.resourceVersion)
    (fun record => { record with status, resourceVersion := record.resourceVersion + 1 }) store.organizations id
    expectedVersion
  .ok (record, { store with organizations })

def updateProjectStatus : Result (ProjectRecord × TenancyStore) := do
  let (record, projects) ← updateRecord "project" (·.resourceVersion)
    (fun record => { record with status, resourceVersion := record.resourceVersion + 1 }) store.projects id
    expectedVersion
  .ok (record, { store with projects })

def updateUserStatus : Result (UserRecord × TenancyStore) := do
  let (record, users) ← updateRecord "user" (·.resourceVersion)
    (fun record => { record with status, resourceVersion := record.resourceVersion + 1 }) store.users id
    expectedVersion
  .ok (record, { store with users })

def updateServiceAccountStatus : Result (ServiceAccountRecord × TenancyStore) := do
  if status = .suspended then .error (.badRequest "unsupported_service_account_status")
  else
    let (record, serviceAccounts) ← updateRecord "service account" (·.resourceVersion)
      (fun record => { record with status, resourceVersion := record.resourceVersion + 1 }) store.serviceAccounts id
      expectedVersion
    .ok (record, { store with serviceAccounts })

end Statuses

section Lookups

variable (store : TenancyStore)

def organizationForActor (actor : AuthenticatedActor) (organizationId : String) : Result OrganizationRecord :=
  match (store.organizations.lookup organizationId).filter (·.tenantId == actor.tenantId) with
  | none => .error (.notFound s!"organization {organizationId}")
  | some organization => .ok organization

def activeOrganizationForActor (actor : AuthenticatedActor) (organizationId : String) :
    Result OrganizationRecord := do
  let organization ← organizationForActor store actor organizationId
  if !organization.status.acceptsAccess then .error (.authorization "organization_inactive") else .ok organization

def projectForActor (actor : AuthenticatedActor) (projectId : String) : Result ProjectRecord :=
  match (store.projects.lookup projectId).filter (·.tenantId == actor.tenantId) with
  | none => .error (.notFound s!"project {projectId}")
  | some project => .ok project

def userForActor (actor : AuthenticatedActor) (userId : String) : Result UserRecord :=
  match (store.users.lookup userId).filter (·.tenantId == actor.tenantId) with
  | none => .error (.notFound s!"user {userId}")
  | some user => .ok user

def serviceAccountForActor (actor : AuthenticatedActor) (serviceAccountId : String) : Result ServiceAccountRecord :=
  match (store.serviceAccounts.lookup serviceAccountId).filter (·.tenantId == actor.tenantId) with
  | none => .error (.notFound s!"service account {serviceAccountId}")
  | some account => .ok account

def TenancyStore.organizationMember (organizationMemberId : String) : Option OrganizationMembershipRecord :=
  (findValue (·.organizationMemberId == organizationMemberId) store.organizationMemberships).map Prod.snd

def TenancyStore.projectMember (projectMemberId : String) : Option ProjectMembershipRecord :=
  (findValue (·.projectMemberId == projectMemberId) store.projectMemberships).map Prod.snd

def organizationMemberForActor (actor : AuthenticatedActor) (organizationId organizationMemberId : String) :
    Result OrganizationMembershipRecord := do
  let _ ← organizationForActor store actor organizationId
  match (store.organizationMember organizationMemberId).filter fun member =>
      member.tenantId == actor.tenantId && member.organizationId == organizationId with
  | none => .error (.notFound s!"organization member {organizationMemberId}")
  | some member => .ok member

def projectMemberForActor (actor : AuthenticatedActor) (projectId projectMemberId : String) :
    Result ProjectMembershipRecord := do
  let _ ← projectForActor store actor projectId
  match (store.projectMember projectMemberId).filter fun member =>
      member.tenantId == actor.tenantId && member.projectId == projectId with
  | none => .error (.notFound s!"project member {projectMemberId}")
  | some member => .ok member

def organizationMembershipOrder (a b : OrganizationMembershipRecord) : Ordering :=
  (compare a.organizationId b.organizationId).then (compare a.organizationMemberId b.organizationMemberId)

def TenancyStore.organizationMembershipsForPrincipal (principalId : String) : List OrganizationMembershipRecord :=
  sortBy organizationMembershipOrder
    ((store.organizationMemberships.entries.map (·.2)).filter fun membership => membership.principalId == principalId)

end Lookups

end Starweaver.Gateway.Tenancy
