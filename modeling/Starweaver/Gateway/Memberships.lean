import Starweaver.Gateway.Authentication
import Starweaver.Gateway.ControlPlane

namespace Starweaver.Gateway.Tenancy

open Library.AssocMap Library.Calendar Library.Text

/-- A call of an admin handler: who makes it, when, and what the authorization of its route answers. -/
structure AdminCall where
  actor : AuthenticatedActor
  authorized : Result Unit
  now : DateTime

section Members

variable (store : TenancyStore)

def activeOrganizationMemberForProjectAssignment (actor : AuthenticatedActor) (organizationId principalId : String)
    (organizationMemberId : Option String) : Result OrganizationMembershipRecord :=
  match organizationMemberId with
  | some organizationMemberId => do
    let member ← organizationMemberForActor store actor organizationId organizationMemberId
    if member.principalId = principalId ∧ member.status.acceptsAccess then .ok member
    else .error (.authorization "active_organization_membership_required")
  | none =>
    match (store.organizationMembershipsForPrincipal principalId).find? fun member =>
        member.tenantId == actor.tenantId && member.organizationId == organizationId &&
          member.status.acceptsAccess with
    | none => .error (.authorization "active_organization_membership_required")
    | some member => .ok member

structure CreateProjectMembershipRequest where
  tenantId : String
  organizationId : String
  projectId : String
  principalId : String
  organizationMemberId : String

def createProjectMembership (request : CreateProjectMembershipRequest) (projectMemberId : String) :
    Result ProjectMembershipRecord × TenancyStore :=
  let key := (request.principalId, request.projectId)
  let member := (store.projectMemberships.lookup key).getD ⟨projectMemberId, request.tenantId, request.organizationId,
    request.projectId, request.principalId, some request.organizationMemberId, .active, 1⟩
  if member.tenantId ≠ request.tenantId ∨ member.organizationId ≠ request.organizationId ∨
      member.projectId ≠ request.projectId ∨ member.principalId ≠ request.principalId then
    (.error (.badRequest "project_membership_scope_conflict"), store)
  else
    let updated :=
      if member.organizationMemberId ≠ some request.organizationMemberId ∨ member.status ≠ .active then
        { member with
          organizationMemberId := some request.organizationMemberId
          status := .active
          resourceVersion := member.resourceVersion + 1 }
      else member
    (.ok updated, { store with projectMemberships := store.projectMemberships.insert key updated })

structure AdminCreateProjectMemberRequest where
  idempotencyKey : String
  principalId : String
  organizationMemberId : Option String

/-- The project, the user and the organization membership that a new project member is assigned from. -/
def projectAssignment (call : AdminCall) (projectId : String) (request : AdminCreateProjectMemberRequest) :
    Result (ProjectRecord × UserRecord × OrganizationMembershipRecord) := do
  let project ← projectForActor store call.actor projectId
  if !project.status.acceptsAccess then .error (.badRequest "project_not_active")
  else
    let user ← userForActor store call.actor request.principalId
    if !user.status.acceptsAccess then .error (.badRequest "project_member_principal_inactive")
    else
      let organizationMember ← activeOrganizationMemberForProjectAssignment store call.actor project.organizationId
        user.userId request.organizationMemberId
      call.authorized
      .ok (project, user, organizationMember)

/-- The member, or nothing when an earlier answer is replayed. -/
def createProjectMember (call : AdminCall) (projectId : String) (request : AdminCreateProjectMemberRequest)
    (requestHash projectMemberId : String) : Result (Option ProjectMembershipRecord) × TenancyStore :=
  match projectAssignment store call projectId request with
  | .error error => (.error error, store)
  | .ok (project, user, organizationMember) =>
    let scopeKey := s!"project_members:create:{project.projectId}:{request.idempotencyKey}"
    match store.idempotencyResponse call.actor.tenantId scopeKey requestHash call.now with
    | (.error error, store) => (.error error, store)
    | (.ok true, store) => (.ok none, store)
    | (.ok false, store) =>
      match createProjectMembership store ⟨call.actor.tenantId, project.organizationId, project.projectId, user.userId,
          organizationMember.organizationMemberId⟩ projectMemberId with
      | (.error error, store) => (.error error, store)
      | (.ok member, store) =>
        (.ok (some member), store.recordIdempotencyResponse call.actor.tenantId scopeKey requestHash call.now)

def updateOrganizationMemberStatus (organizationMemberId : String) (expectedVersion : Int)
    (status : MembershipStatus) : Result (OrganizationMembershipRecord × TenancyStore) :=
  match findValue (·.organizationMemberId == organizationMemberId) store.organizationMemberships with
  | none => .error (.notFound s!"organization member {organizationMemberId}")
  | some (key, member) =>
    if member.resourceVersion ≠ expectedVersion then .error (.badRequest "stale_resource_version")
    else
      let updated := { member with status, resourceVersion := member.resourceVersion + 1 }
      .ok (updated, { store with organizationMemberships := store.organizationMemberships.insert key updated })

def updateProjectMemberStatus (projectMemberId : String) (expectedVersion : Int) (status : MembershipStatus) :
    Result (ProjectMembershipRecord × TenancyStore) :=
  match findValue (·.projectMemberId == projectMemberId) store.projectMemberships with
  | none => .error (.notFound s!"project member {projectMemberId}")
  | some (key, member) =>
    if member.resourceVersion ≠ expectedVersion then .error (.badRequest "stale_resource_version")
    else
      let updated := { member with status, resourceVersion := member.resourceVersion + 1 }
      .ok (updated, { store with projectMemberships := store.projectMemberships.insert key updated })

def cascadesTo (organizationMember : OrganizationMembershipRecord) (status : MembershipStatus)
    (member : ProjectMembershipRecord) : Bool :=
  member.tenantId == organizationMember.tenantId && member.organizationId == organizationMember.organizationId &&
    member.principalId == organizationMember.principalId &&
    match status with
    | .active => false
    | .suspended => member.status == .active
    | .removed => member.status != .removed

def cascadeMember (organizationMember : OrganizationMembershipRecord) (status : MembershipStatus)
    (member : ProjectMembershipRecord) : ProjectMembershipRecord :=
  if cascadesTo organizationMember status member then
    { member with status, resourceVersion := member.resourceVersion + 1 }
  else member

def cascadeProjectMembershipsForOrganizationMember (organizationMember : OrganizationMembershipRecord)
    (status : MembershipStatus) : Nat × TenancyStore :=
  (store.projectMemberships.entries.countP fun entry => cascadesTo organizationMember status entry.2,
    { store with projectMemberships := mapValues (cascadeMember organizationMember status) store.projectMemberships })

def updateOrganizationMember (call : AdminCall) (organizationId organizationMemberId : String)
    (expectedVersion : Int) (status : MembershipStatus) :
    Result (OrganizationMembershipRecord × Nat × TenancyStore) := do
  call.authorized
  let _ ← organizationMemberForActor store call.actor organizationId organizationMemberId
  let (updated, store) ← updateOrganizationMemberStatus store organizationMemberId expectedVersion status
  let (count, store) := cascadeProjectMembershipsForOrganizationMember store updated updated.status
  .ok (updated, count, store)

def updateProjectMember (call : AdminCall) (projectId projectMemberId : String) (expectedVersion : Int)
    (status : MembershipStatus) : Result (ProjectMembershipRecord × TenancyStore) := do
  call.authorized
  let _ ← projectMemberForActor store call.actor projectId projectMemberId
  updateProjectMemberStatus store projectMemberId expectedVersion status

end Members

section Invitations

def normalizedEmail (value : String) : Option String :=
  let email := (trimChars value.toList).map Char.toLower
  if (String.ofList email).utf8ByteSize ≤ 320 ∧ '@' ∈ email ∧ (email.all fun c => !isWhitespace c) ∧
      email.head? ≠ some '@' ∧ email.getLast? ≠ some '@' then some (String.ofList email)
  else none

structure AdminCreateOrganizationInvitationRequest where
  idempotencyKey : String
  projectId : Option String
  invitedEmail : Option String
  invitedPrincipalId : Option String
  roleId : Option String
  expiresAt : Option DateTime

variable (env : AuthEnv) (store : TenancyStore)

def daySeconds : Int := 24 * 3600

def organizationInvitationValidationErrors (actor : AuthenticatedActor) (organization : OrganizationRecord)
    (request : AdminCreateOrganizationInvitationRequest) (now : DateTime) : List (String × String) :=
  (if (request.invitedEmail.bind normalizedEmail).isNone ∧
      (request.invitedPrincipalId.all fun principalId => trim principalId == "") then
    [("invited_target", "required")] else []) ++
  (if request.invitedEmail.isSome ∧ request.invitedPrincipalId.isSome then
    [("invited_target", "ambiguous")] else []) ++
  (if request.roleId.any fun roleId => trim roleId == "" || decide (80 < roleId.utf8ByteSize) then
    [("role_id", "invalid_role_id")] else []) ++
  (if request.expiresAt.any fun expiresAt =>
      decide (expiresAt ≤ now) || decide (now.addSeconds (30 * daySeconds) < expiresAt) then
    [("expires_at", "invalid_expiry")] else []) ++
  (if request.projectId.all fun projectId => (store.projects.lookup projectId).any fun project =>
      project.tenantId == actor.tenantId && project.organizationId == organization.organizationId &&
        project.status.acceptsAccess then
    [] else [("project_id", "invalid_project")])

def AuthEnv.invitationTokenHash (rawToken : String) : String := env.sha256Hex rawToken

def trimmedField (value : Option String) : Option String :=
  (value.map trim).filter fun text => text != ""

def createOrganizationInvitation (call : AdminCall) (organizationId : String)
    (request : AdminCreateOrganizationInvitationRequest) (requestHash invitationId rawToken : String) :
    Result (Option OrganizationInvitationRecord) × TenancyStore :=
  match (do
      validateIdempotencyKey request.idempotencyKey
      call.authorized
      activeOrganizationForActor store call.actor organizationId : Result OrganizationRecord) with
  | .error error => (.error error, store)
  | .ok organization =>
    let scopeKey := s!"organization_invitations:create:{organizationId}:{request.idempotencyKey}"
    match store.idempotencyResponse call.actor.tenantId scopeKey requestHash call.now with
    | (.error error, store) => (.error error, store)
    | (.ok true, store) => (.ok none, store)
    | (.ok false, store) =>
      if organizationInvitationValidationErrors store call.actor organization request call.now ≠ [] then
        (.error (.badRequest "validation_failed"), store)
      else
        let invitation : OrganizationInvitationRecord :=
          { invitationId
            tenantId := call.actor.tenantId
            organizationId := organization.organizationId
            projectId := request.projectId
            invitedEmail := request.invitedEmail.bind normalizedEmail
            invitedPrincipalId := trimmedField request.invitedPrincipalId
            invitationTokenHash := env.invitationTokenHash rawToken
            roleId := (trimmedField request.roleId).getD "organization_member"
            status := .pending
            expiresAt := request.expiresAt.getD (call.now.addSeconds (7 * daySeconds))
            resourceVersion := 1 }
        let stored :=
          { store with organizationInvitations := store.organizationInvitations.insert invitationId invitation }
        (.ok (some invitation), stored.recordIdempotencyResponse call.actor.tenantId scopeKey requestHash call.now)

def invitationByRawToken (rawToken : String) : Result OrganizationInvitationRecord :=
  if trim rawToken = "" ∨ !startsWith rawToken "gwinv_" then .error (.notFound "organization invitation")
  else match findValue (·.invitationTokenHash == env.invitationTokenHash rawToken) store.organizationInvitations with
    | none => .error (.notFound "organization invitation")
    | some (_, invitation) => .ok invitation

def verifySessionMatchesInvitation (session : AuthSessionRecord) (invitation : OrganizationInvitationRecord) :
    Result Unit :=
  if session.tenantId ≠ invitation.tenantId then .error (.authorization "invitation_tenant_mismatch")
  else if invitation.invitedPrincipalId = some session.principalId then .ok ()
  else match invitation.invitedEmail with
    | none => .error (.authorization "invitation_principal_mismatch")
    | some invitedEmail =>
      match store.users.lookup session.principalId with
      | none => .error .authentication
      | some user =>
        if user.primaryEmail.bind normalizedEmail = some invitedEmail then .ok ()
        else .error (.authorization "invitation_email_mismatch")

def upsertInvitedOrganizationMembership (invitation : OrganizationInvitationRecord)
    (principalId organizationMemberId : String) : OrganizationMembershipRecord × TenancyStore :=
  let key := (principalId, invitation.organizationId)
  let membership := (store.organizationMemberships.lookup key).getD
    ⟨organizationMemberId, invitation.tenantId, invitation.organizationId, principalId, .active, 1⟩
  let updated :=
    if membership.status ≠ .active then
      { membership with status := .active, resourceVersion := membership.resourceVersion + 1 }
    else membership
  (updated, { store with organizationMemberships := store.organizationMemberships.insert key updated })

def upsertInvitedProjectMembership (invitation : OrganizationInvitationRecord)
    (principalId projectId organizationMemberId projectMemberId : String) : TenancyStore :=
  let key := (principalId, projectId)
  let membership := (store.projectMemberships.lookup key).getD ⟨projectMemberId, invitation.tenantId,
    invitation.organizationId, projectId, principalId, some organizationMemberId, .active, 1⟩
  let activated :=
    if membership.status ≠ .active then
      { membership with status := .active, resourceVersion := membership.resourceVersion + 1 }
    else membership
  let updated :=
    if activated.organizationMemberId = none then
      { activated with
        organizationMemberId := some organizationMemberId, resourceVersion := activated.resourceVersion + 1 }
    else activated
  { store with projectMemberships := store.projectMemberships.insert key updated }

def repairUserDefaultsAfterInviteAccept (invitation : OrganizationInvitationRecord) (principalId : String) :
    TenancyStore :=
  match store.users.lookup principalId with
  | none => store
  | some user =>
    let organizationUpdated := user.defaultOrganizationId.isNone
    let projectUpdated := user.defaultProjectId.isNone && invitation.projectId.isSome
    let repaired :=
      { user with
        defaultOrganizationId := user.defaultOrganizationId.or (some invitation.organizationId)
        defaultProjectId := user.defaultProjectId.or invitation.projectId
        resourceVersion := if organizationUpdated || projectUpdated then user.resourceVersion + 1
          else user.resourceVersion }
    { store with users := store.users.insert principalId repaired }

def acceptOrganizationInvitation (invitationId principalId : String) (now : DateTime)
    (organizationMemberId projectMemberId : String) : Result (OrganizationInvitationRecord × TenancyStore) :=
  match store.organizationInvitations.lookup invitationId with
  | none => .error (.notFound s!"organization invitation {invitationId}")
  | some invitation =>
    if !invitation.status.acceptsAt invitation.expiresAt now then .error (.badRequest "invitation_not_accepting")
    else
      let accepted :=
        { invitation with status := .accepted, resourceVersion := invitation.resourceVersion + 1 }
      let store :=
        { store with organizationInvitations := store.organizationInvitations.insert invitationId accepted }
      let (membership, store) := upsertInvitedOrganizationMembership store accepted principalId organizationMemberId
      let store := match accepted.projectId with
        | some projectId => upsertInvitedProjectMembership store accepted principalId projectId
            membership.organizationMemberId projectMemberId
        | none => store
      .ok (accepted, repairUserDefaultsAfterInviteAccept store accepted principalId)

def updateSessionActiveContextByHash (sessionHash : String) (activeOrganizationId activeProjectId : Option String)
    (now : DateTime) : Result AuthSessionRecord × TenancyStore :=
  match store.authSessions.lookup sessionHash with
  | none => (.error .authentication, store)
  | some session =>
    if !session.canAuthenticateAt now then (.error .authentication, store)
    else
      let updated := { session with activeOrganizationId, activeProjectId }
      (.ok updated, { store with authSessions := store.authSessions.insert sessionHash updated })

def acceptAuthInvitation (headers : HeaderMap) (token : String) (now : DateTime)
    (organizationMemberId projectMemberId : String) : Result OrganizationInvitationRecord × TenancyStore :=
  match (do
      let session ← verifyMutatingAuthSessionFromHeaders env store headers now
      let invitation ← invitationByRawToken env store token
      verifySessionMatchesInvitation store session invitation
      let (accepted, store) ← acceptOrganizationInvitation store invitation.invitationId session.principalId now
        organizationMemberId projectMemberId
      .ok (session, accepted, store) : Result (AuthSessionRecord × OrganizationInvitationRecord × TenancyStore)) with
  | .error error => (.error error, store)
  | .ok (session, accepted, store) =>
    match updateSessionActiveContextByHash store session.sessionHash (some accepted.organizationId) accepted.projectId
        now with
    | (.error error, store) => (.error error, store)
    | (.ok _, store) => (.ok accepted, store)

end Invitations

inductive MembershipAction
  | bootstrapDefaultProject (request : BootstrapDefaultProjectRequest)
  | insertAuthSession (session : AuthSessionRecord)
  | createOrganizationInvitation (call : AdminCall) (organizationId : String)
      (request : AdminCreateOrganizationInvitationRequest) (requestHash invitationId rawToken : String)
  | createProjectMember (call : AdminCall) (projectId : String) (request : AdminCreateProjectMemberRequest)
      (requestHash projectMemberId : String)
  | updateProjectMember (call : AdminCall) (projectId projectMemberId : String) (expectedVersion : Int)
      (status : MembershipStatus)
  | updateOrganizationMember (call : AdminCall) (organizationId organizationMemberId : String) (expectedVersion : Int)
      (status : MembershipStatus)
  | acceptAuthInvitation (headers : HeaderMap) (token : String) (now : DateTime)
      (organizationMemberId projectMemberId : String)

def TenancyStore.orKeep {α : Type} (store : TenancyStore) (updated : α → TenancyStore) : Result α → TenancyStore
  | .ok value => updated value
  | .error _ => store

/-- One operation on memberships, or a login or an invitation that one of them needs. -/
def membershipStep (env : AuthEnv) (store : TenancyStore) : MembershipAction → Option TenancyStore
  | .bootstrapDefaultProject request => some (Tenancy.bootstrapDefaultProject store request).2
  | .insertAuthSession session =>
    some { store with authSessions := store.authSessions.insert session.sessionHash session }
  | .createOrganizationInvitation call organizationId request requestHash invitationId rawToken =>
    some (Tenancy.createOrganizationInvitation env store call organizationId request requestHash invitationId rawToken).2
  | .createProjectMember call projectId request requestHash projectMemberId =>
    some (Tenancy.createProjectMember store call projectId request requestHash projectMemberId).2
  | .updateProjectMember call projectId projectMemberId expectedVersion status =>
    some (store.orKeep Prod.snd (Tenancy.updateProjectMember store call projectId projectMemberId expectedVersion status))
  | .updateOrganizationMember call organizationId organizationMemberId expectedVersion status =>
    some (store.orKeep (fun result => result.2.2)
      (Tenancy.updateOrganizationMember store call organizationId organizationMemberId expectedVersion status))
  | .acceptAuthInvitation headers token now organizationMemberId projectMemberId =>
    some (Tenancy.acceptAuthInvitation env store headers token now organizationMemberId projectMemberId).2

end Starweaver.Gateway.Tenancy
