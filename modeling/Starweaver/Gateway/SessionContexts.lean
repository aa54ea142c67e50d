import Starweaver.Gateway.LoginAttempts
import Starweaver.Gateway.ApiKeys

/-! Which organization and project a session acts for, over its logins, its switches and the invitations it takes. -/

namespace Starweaver.Gateway.Tenancy

open Library.AssocMap Library.Calendar Library.Checks Library.Machine Library.SortBy Library.Text

section Handlers

variable (env : AuthEnv) (store : TenancyStore)

def normalizedAuthContextId (value fieldName : String) : Result String :=
  if trim value = "" then .error (.badRequest s!"{fieldName}_required") else .ok (trim value)

def projectMembershipOrder (a b : ProjectMembershipRecord) : Ordering :=
  (compare a.organizationId b.organizationId).then
    ((compare a.projectId b.projectId).then (compare a.projectMemberId b.projectMemberId))

def TenancyStore.projectMembershipsForPrincipal (principalId : String) : List ProjectMembershipRecord :=
  sortBy projectMembershipOrder
    ((store.projectMemberships.entries.map (·.2)).filter fun membership => membership.principalId == principalId)

/-- The default project of the user, the active one of the session, then the projects the user is a member of. -/
def candidateProjectIds (session : AuthSessionRecord) (organizationId : String) : List String :=
  let defaults := ((store.users.lookup session.principalId).bind (·.defaultProjectId)).toList
  let active := session.activeProjectId.toList.filter (· ∉ defaults)
  let memberships := (store.projectMembershipsForPrincipal session.principalId).filter fun membership =>
    membership.tenantId == session.tenantId && membership.organizationId == organizationId &&
      membership.status.acceptsAccess
  memberships.foldl (fun candidates membership =>
    if membership.projectId ∈ candidates then candidates else candidates ++ [membership.projectId]) (defaults ++ active)

def selectSessionProjectForOrganization (session : AuthSessionRecord) (organizationId : String)
    (requestedProjectId : Option String) : Result (Option ProjectMembershipRecord) :=
  match requestedProjectId with
  | some requested => do
    let projectId ← normalizedAuthContextId requested "project_id"
    let project ← activeProjectForSession store session projectId (some organizationId)
    .ok (store.projectMemberships.lookup (session.principalId, project.projectId))
  | none =>
    .ok (((candidateProjectIds store session organizationId).find? fun projectId =>
      (activeProjectForSession store session projectId (some organizationId)).isOk).bind fun projectId =>
        store.projectMemberships.lookup (session.principalId, projectId))

def updateUserDefaultContext (userId : String) (organizationId projectId : Option String) : Result TenancyStore :=
  match store.users.lookup userId with
  | none => .error (.notFound s!"user {userId}")
  | some user =>
    .ok { store with
      users := store.users.insert userId
        { user with
          defaultOrganizationId := organizationId
          defaultProjectId := projectId
          resourceVersion := user.resourceVersion + 1 } }

/-- What a switch of the organization settles before it writes: the session, the organization and the project. -/
def selectedContext (headers : HeaderMap) (now : DateTime) (requestedOrganizationId : String)
    (requestedProjectId : Option String) : Result (AuthSessionRecord × String × Option String) := do
  let session ← verifyMutatingAuthSessionFromHeaders env store headers now
  let organizationId ← normalizedAuthContextId requestedOrganizationId "organization_id"
  let organization ← activeOrganizationForSession store session organizationId
  let project ← selectSessionProjectForOrganization store session organizationId requestedProjectId
  .ok (session, organization.organizationId, project.map (·.projectId))

def updateSessionActiveOrganization (headers : HeaderMap) (now : DateTime) (requestedOrganizationId : String)
    (requestedProjectId : Option String) : Result AuthSessionRecord × TenancyStore :=
  match selectedContext env store headers now requestedOrganizationId requestedProjectId with
  | .error error => (.error error, store)
  | .ok (session, organizationId, projectId) =>
    updateSessionActiveContextByHash store session.sessionHash (some organizationId) projectId now

def updateSessionDefaultOrganization (headers : HeaderMap) (now : DateTime) (requestedOrganizationId : String)
    (requestedProjectId : Option String) : Result AuthSessionRecord × TenancyStore :=
  match selectedContext env store headers now requestedOrganizationId requestedProjectId with
  | .error error => (.error error, store)
  | .ok (session, organizationId, projectId) =>
    match updateUserDefaultContext store session.principalId (some organizationId) projectId with
    | .error error => (.error error, store)
    | .ok store => updateSessionActiveContextByHash store session.sessionHash (some organizationId) projectId now

def updateSessionActiveProject (headers : HeaderMap) (now : DateTime) (requestedProjectId : String) :
    Result AuthSessionRecord × TenancyStore :=
  match (do
      let session ← verifyMutatingAuthSessionFromHeaders env store headers now
      let projectId ← normalizedAuthContextId requestedProjectId "project_id"
      let project ← activeProjectForSession store session projectId none
      .ok (session, project) : Result (AuthSessionRecord × ProjectRecord)) with
  | .error error => (.error error, store)
  | .ok (session, project) =>
    updateSessionActiveContextByHash store session.sessionHash (some project.organizationId) (some project.projectId) now

def revokeSessionByHash (sessionHash : String) : Result AuthSessionRecord × TenancyStore :=
  match store.authSessions.lookup sessionHash with
  | none => (.error .authentication, store)
  | some session =>
    let revoked := { session with status := .revoked }
    (.ok revoked, { store with authSessions := store.authSessions.insert sessionHash revoked })

def logoutCurrentAuthSession (headers : HeaderMap) (now : DateTime) : Result AuthSessionRecord × TenancyStore :=
  match verifyMutatingAuthSessionFromHeaders env store headers now with
  | .error error => (.error error, store)
  | .ok session => revokeSessionByHash store session.sessionHash

end Handlers

/-- The memberships as the member handlers may leave them. -/
structure KeyedMemberships where
  organizationMemberships : AList (fun _ : String × String => OrganizationMembershipRecord)
  projectMemberships : AList (fun _ : String × String => ProjectMembershipRecord)
  keyed : ∀ key membership, projectMemberships.lookup key = some membership → membership.projectId = key.2

inductive ContextAction
  | bootstrapDefaultProject (request : BootstrapDefaultProjectRequest)
  | externalLogin (request : UpsertExternalLoginIdentityRequest) (userId externalIdentityId authSessionId rawToken : String)
      (now : DateTime)
  | createOrganizationInvitation (call : AdminCall) (organizationId : String)
      (request : AdminCreateOrganizationInvitationRequest) (requestHash invitationId rawToken : String)
  | acceptAuthInvitation (headers : HeaderMap) (token : String) (now : DateTime)
      (organizationMemberId projectMemberId : String)
  | updateSessionDefaultOrganization (headers : HeaderMap) (now : DateTime) (organizationId : String)
      (projectId : Option String)
  | updateSessionActiveOrganization (headers : HeaderMap) (now : DateTime) (organizationId : String)
      (projectId : Option String)
  | updateSessionActiveProject (headers : HeaderMap) (now : DateTime) (projectId : String)
  | logoutCurrentAuthSession (headers : HeaderMap) (now : DateTime)
  | updateUser (call : AdminCall) (userId : String) (expectedVersion : Int) (status : DirectoryStatus)
  | updateOrganization (call : AdminCall) (organizationId : String) (expectedVersion : Int) (status : DirectoryStatus)
  | updateProject (call : AdminCall) (projectId : String) (expectedVersion : Int) (status : DirectoryStatus)
  | changeMemberships (memberships : KeyedMemberships)

/-- A verified external login: the user, new or known, and a session for it with the defaults of the user. The ids
and the token that it draws are not in use. -/
def externalLoginSession (env : AuthEnv) (store : DirectoryStore) (request : UpsertExternalLoginIdentityRequest)
    (userId externalIdentityId authSessionId rawToken : String) (now : DateTime) : Option DirectoryStore :=
  if (store.users.lookup userId).isSome ∨ (store.externalIdentities.lookup externalIdentityId).isSome ∨
      (store.authSessions.lookup (env.sessionTokenHash rawToken)).isSome then none
  else match upsertExternalLoginIdentity store request userId externalIdentityId with
    | .error _ => some store
    | .ok (user, _, _, store) =>
      if user.status ≠ .active then some store
      else
        let session := createAuthSession env user authSessionId rawToken now
        some { store with authSessions := store.authSessions.insert session.sessionHash session }

def contextStep (env : AuthEnv) (store : DirectoryStore) : ContextAction → Option DirectoryStore
  | .bootstrapDefaultProject request =>
    some { store with toTenancyStore := (Tenancy.bootstrapDefaultProject store.toTenancyStore request).2 }
  | .externalLogin request userId externalIdentityId authSessionId rawToken now =>
    externalLoginSession env store request userId externalIdentityId authSessionId rawToken now
  | .createOrganizationInvitation call organizationId request requestHash invitationId rawToken =>
    some { store with
      toTenancyStore := (Tenancy.createOrganizationInvitation env store.toTenancyStore call organizationId request
        requestHash invitationId rawToken).2 }
  | .acceptAuthInvitation headers token now organizationMemberId projectMemberId =>
    some { store with
      toTenancyStore := (Tenancy.acceptAuthInvitation env store.toTenancyStore headers token now organizationMemberId
        projectMemberId).2 }
  | .updateSessionDefaultOrganization headers now organizationId projectId =>
    some { store with
      toTenancyStore :=
        (Tenancy.updateSessionDefaultOrganization env store.toTenancyStore headers now organizationId projectId).2 }
  | .updateSessionActiveOrganization headers now organizationId projectId =>
    some { store with
      toTenancyStore :=
        (Tenancy.updateSessionActiveOrganization env store.toTenancyStore headers now organizationId projectId).2 }
  | .updateSessionActiveProject headers now projectId =>
    some { store with
      toTenancyStore := (Tenancy.updateSessionActiveProject env store.toTenancyStore headers now projectId).2 }
  | .logoutCurrentAuthSession headers now =>
    some { store with toTenancyStore := (Tenancy.logoutCurrentAuthSession env store.toTenancyStore headers now).2 }
  | .updateUser call userId expectedVersion status =>
    some { store with
      toTenancyStore := store.toTenancyStore.orKeep Prod.snd
        (Tenancy.updateUser store.toTenancyStore call userId expectedVersion status) }
  | .updateOrganization call organizationId expectedVersion status =>
    some { store with
      toTenancyStore := store.toTenancyStore.orKeep Prod.snd
        (Tenancy.updateOrganization store.toTenancyStore call organizationId expectedVersion status) }
  | .updateProject call projectId expectedVersion status =>
    some { store with
      toTenancyStore := store.toTenancyStore.orKeep Prod.snd
        (Tenancy.updateProject store.toTenancyStore call projectId expectedVersion status) }
  | .changeMemberships memberships =>
    some { store with
      organizationMemberships := memberships.organizationMemberships
      projectMemberships := memberships.projectMemberships }

end Starweaver.Gateway.Tenancy
