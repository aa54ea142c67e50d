import Starweaver.Platform.Authorization

namespace Starweaver.Platform

open Library.OrderedMap Library.Text

structure CreateRoleBindingRequest where
  binding : Option String
  tenant : Option String
  organization : Option String
  project : Option String
  principal : String
  role : String
deriving DecidableEq, Repr

structure CreateOrganizationMemberRequest where
  organizationMemberId : Option String
  principalId : String
  membershipKind : Option String
deriving DecidableEq, Repr

structure CreateProjectMemberRequest where
  projectMemberId : Option String
  organizationMemberId : String
deriving DecidableEq, Repr

structure CreateOrganizationInvitationRequest where
  invitationId : Option String
  projectId : Option String
  invitedEmail : Option String
  invitedPrincipalId : Option String
  roleId : Option String
  expiresAtUnix : Option Int
deriving DecidableEq, Repr

structure UpdateStatusRequest where
  expectedVersion : Int
  status : String
deriving DecidableEq, Repr

/-- The service besides its stores: the static grants and the hash of invitation tokens. -/
structure PlatformEnv where
  grants : List ActionGrant
  hashInvitationToken : String → String

section Resources

def tenantFromRequestOrActor (requestedTenantId : Option String) (actor : AuthenticatedActor) : Result String :=
  match normalizedOptionalString requestedTenantId with
  | some tenantId => if tenantId = actor.tenantId then .ok tenantId else .error (.forbidden "tenant_mismatch")
  | none => .ok actor.tenantId

def validateOrganizationId (organizationId : String) : Result Unit :=
  if startsWith organizationId "org_" then .ok () else .error (.badRequest "organization_id_invalid")

def validateProjectId (projectId : String) : Result Unit :=
  if startsWith projectId "prj_" then .ok () else .error (.badRequest "project_id_invalid")

def organizationScopeResource (actor : AuthenticatedActor) (organizationId resourceKind : String) :
    Result ResourceRef := do
  validateOrganizationId organizationId
  .ok ⟨resourceKind, actor.tenantId, some organizationId, none, organizationId⟩

def organizationMemberResource (member : PlatformOrganizationMembershipRecord) : ResourceRef :=
  ⟨"OrganizationMember", member.tenantId, some member.organizationId, none, member.organizationMemberId⟩

def projectMemberResource (member : PlatformProjectMembershipRecord) : ResourceRef :=
  .project "ProjectMember" member.tenantId member.organizationId member.projectId member.projectMemberId

def roleBindingResource (binding : PlatformRoleBindingRecord) : ResourceRef :=
  match binding.projectId, binding.organizationId with
  | some projectId, organizationId =>
    .project "RoleBinding" binding.tenantId (organizationId.getD binding.tenantId) projectId binding.roleBindingId
  | none, some organizationId =>
    ⟨"RoleBinding", binding.tenantId, some organizationId, none, binding.roleBindingId⟩
  | none, none => .tenant "RoleBinding" binding.tenantId binding.roleBindingId

def membershipStatusFromRequest (value : String) : Result PlatformMembershipStatus :=
  match PlatformMembershipStatus.fromId (trim value) with
  | some status => .ok status
  | none => .error (.badRequest "membership_status_invalid")

def roleBindingStatusFromRequest (value : String) : Result PlatformRoleBindingStatus :=
  match PlatformRoleBindingStatus.fromId (trim value) with
  | some status => .ok status
  | none => .error (.badRequest "role_binding_status_invalid")

def normalizedMembershipKind (value : Option String) : Result String :=
  let membershipKind := (normalizedOptionalString value).getD "user"
  if membershipKind = "user" ∨ membershipKind = "service_account" then .ok membershipKind
  else .error (.badRequest "membership_kind_invalid")

end Resources

section RoleBindings

variable (env : PlatformEnv) (store : AccessStore) (actor : AuthenticatedActor)

def roleBindingRecordFromCreateRequest (request : CreateRoleBindingRequest) (tenantId newId : String) :
    Result PlatformRoleBindingRecord :=
  let record : PlatformRoleBindingRecord :=
    ⟨(normalizedOptionalString request.binding).getD newId, tenantId, normalizedOptionalString request.organization,
      normalizedOptionalString request.project, trim request.principal, trim request.role, .active, 1⟩
  match validateRoleBinding record with
  | .error error => .error (roleBindingErrorToService error)
  | .ok () => .ok record

def equivalentRoleBinding (candidate : PlatformRoleBindingRecord) : Option PlatformRoleBindingRecord :=
  (roleBindingsForTenant store.roleBindings candidate.tenantId).find? fun binding =>
    binding.organizationId == candidate.organizationId && binding.projectId == candidate.projectId &&
      binding.principalId == candidate.principalId && binding.roleId == candidate.roleId

def PlatformRoleBindingRecord.toUpsert (record : PlatformRoleBindingRecord) : PlatformRoleBindingUpsert :=
  ⟨record.roleBindingId, record.tenantId, record.organizationId, record.projectId, record.principalId, record.roleId⟩

/-- The checks of the create handler, up to its write. -/
def roleBindingCandidate (request : CreateRoleBindingRequest) (newId : String) : Result PlatformRoleBindingRecord := do
  let tenantId ← tenantFromRequestOrActor request.tenant actor
  let candidate ← roleBindingRecordFromCreateRequest request tenantId newId
  authorizeServiceAction store env.grants actor .roleBindingWrite (roleBindingResource candidate)
  .ok candidate

def createRoleBinding (request : CreateRoleBindingRequest) (newId : String) :
    AccessStore × Result PlatformRoleBindingRecord :=
  match roleBindingCandidate env store actor request newId with
  | .error error => (store, .error error)
  | .ok candidate =>
    let (roleBindings, answer) := upsertRoleBinding store.roleBindings
      ((equivalentRoleBinding store candidate).getD candidate).toUpsert
    ({ store with roleBindings }, answer.mapError roleBindingErrorToService)

def roleBindingById (roleBindingId : String) : Result PlatformRoleBindingRecord :=
  match (store.roleBindings.lookup roleBindingId).filter (·.status != .deleted) with
  | none => .error .resourceNotFound
  | some binding => .ok binding

def roleBindingStatusChange (roleBindingId : String) (request : UpdateStatusRequest) :
    Result PlatformRoleBindingStatus := do
  let before ← roleBindingById store roleBindingId
  authorizeServiceAction store env.grants actor .roleBindingWrite (roleBindingResource before)
  roleBindingStatusFromRequest request.status

def updateRoleBinding (roleBindingId : String) (request : UpdateStatusRequest) :
    AccessStore × Result PlatformRoleBindingRecord :=
  match roleBindingStatusChange env store actor roleBindingId request with
  | .error error => (store, .error error)
  | .ok status =>
    let (roleBindings, answer) :=
      updateRoleBindingStatus store.roleBindings roleBindingId request.expectedVersion status
    ({ store with roleBindings }, answer.mapError roleBindingErrorToService)

end RoleBindings

section OrganizationMembers

variable (env : PlatformEnv) (store : AccessStore) (actor : AuthenticatedActor)

/-- The upsert that the create handler has authorised; an id from the request stands before that of a member that
is already there. -/
def organizationMemberUpsert (organizationId : String) (request : CreateOrganizationMemberRequest) (newId : String) :
    Result PlatformOrganizationMembershipUpsert := do
  validateOrganizationId organizationId
  let resource ← organizationScopeResource actor organizationId "OrganizationMember"
  authorizeServiceAction store env.grants actor .organizationMemberWrite resource
  let principalId := trim request.principalId
  let membershipKind ← normalizedMembershipKind request.membershipKind
  let existing := (organizationMembersForOrganization store.memberships organizationId).find? fun member =>
    member.tenantId == actor.tenantId && member.organizationId == organizationId && member.principalId == principalId
  let organizationMemberId :=
    (normalizedOptionalString request.organizationMemberId).getD ((existing.map (·.organizationMemberId)).getD newId)
  .ok ⟨organizationMemberId, actor.tenantId, organizationId, principalId, membershipKind⟩

def createOrganizationMember (organizationId : String) (request : CreateOrganizationMemberRequest) (newId : String) :
    AccessStore × Result PlatformOrganizationMembershipRecord :=
  match organizationMemberUpsert env store actor organizationId request newId with
  | .error error => (store, .error error)
  | .ok upsert =>
    let (memberships, answer) := upsertOrganizationMember store.memberships upsert
    ({ store with memberships }, answer.mapError membershipErrorToService)

def organizationMemberById (organizationMemberId : String) : Result PlatformOrganizationMembershipRecord :=
  match store.memberships.organizationMembers.lookup organizationMemberId with
  | none => .error .resourceNotFound
  | some member => .ok member

def organizationMemberForActor (organizationId organizationMemberId : String) :
    Result PlatformOrganizationMembershipRecord := do
  let member ← organizationMemberById store organizationMemberId
  if member.tenantId = actor.tenantId ∧ member.organizationId = organizationId then .ok member
  else .error .resourceNotFound

def setOrganizationMemberStatus (organizationMemberId : String) (expectedVersion : Int)
    (status : PlatformMembershipStatus) : Result (PlatformOrganizationMembershipRecord × MembershipStore) :=
  (updateOrganizationMemberStatus store.memberships organizationMemberId expectedVersion status).mapError
    membershipErrorToService

/-- The stores once the status has reached the project memberships and, on removal, the role bindings. -/
def cascadeOrganizationMember (updated : PlatformOrganizationMembershipRecord) (memberships : MembershipStore)
    (status : PlatformMembershipStatus) : AccessStore :=
  { store with
    memberships := cascadeProjectMembershipsForOrganizationMember memberships updated status
    roleBindings :=
      if status = .removed then
        deleteRoleBindingsForOrganizationPrincipal store.roleBindings updated.tenantId updated.organizationId
          updated.principalId
      else store.roleBindings }

def updateOrganizationMember (organizationId organizationMemberId : String) (request : UpdateStatusRequest) :
    Result AccessStore := do
  let before ← organizationMemberForActor store actor organizationId organizationMemberId
  authorizeServiceAction store env.grants actor .organizationMemberWrite (organizationMemberResource before)
  let status ← membershipStatusFromRequest request.status
  let (updated, memberships) ← setOrganizationMemberStatus store organizationMemberId request.expectedVersion status
  .ok (cascadeOrganizationMember store updated memberships status)

def removeOrganizationMember (organizationId organizationMemberId : String) (expectedVersion : Int) :
    Result AccessStore := do
  let before ← organizationMemberForActor store actor organizationId organizationMemberId
  authorizeServiceAction store env.grants actor .organizationMemberWrite (organizationMemberResource before)
  let (updated, memberships) ← setOrganizationMemberStatus store organizationMemberId expectedVersion .removed
  .ok (cascadeOrganizationMember store updated memberships .removed)

end OrganizationMembers

section ProjectMembers

variable (env : PlatformEnv) (store : AccessStore) (actor : AuthenticatedActor)

def activeOrganizationMemberByIdForActor (organizationMemberId : String) :
    Result PlatformOrganizationMembershipRecord :=
  if !startsWith organizationMemberId "om_" then .error (.badRequest "membership_id_invalid")
  else do
    let member ← organizationMemberById store organizationMemberId
    if member.tenantId ≠ actor.tenantId then .error (.forbidden "tenant_mismatch")
    else if member.status.acceptsAccess then .ok member
    else .error (.forbidden "organization_membership_required")

def ensureProjectMemberCreateMatchesProjectOrganization (existing : List PlatformProjectMembershipRecord)
    (organizationMember : PlatformOrganizationMembershipRecord) : Result Unit :=
  match existing with
  | [] => .ok ()
  | member :: _ =>
    if member.tenantId ≠ organizationMember.tenantId then .error (.forbidden "tenant_mismatch")
    else if member.organizationId = organizationMember.organizationId then .ok ()
    else .error (.forbidden "project_organization_mismatch")

def projectMemberUpsert (projectId : String) (request : CreateProjectMemberRequest) (newId : String) :
    Result PlatformProjectMembershipUpsert := do
  validateProjectId projectId
  let organizationMember ← activeOrganizationMemberByIdForActor store actor request.organizationMemberId
  let existingMembers := projectMembersForProject store.memberships projectId
  ensureProjectMemberCreateMatchesProjectOrganization existingMembers organizationMember
  authorizeServiceAction store env.grants actor .projectMemberWrite
    (.project "ProjectMember" organizationMember.tenantId organizationMember.organizationId projectId projectId)
  let existing := existingMembers.find? fun member => member.tenantId == organizationMember.tenantId &&
    member.projectId == projectId && member.principalId == organizationMember.principalId
  let projectMemberId :=
    (normalizedOptionalString request.projectMemberId).getD ((existing.map (·.projectMemberId)).getD newId)
  .ok ⟨projectMemberId, organizationMember.tenantId, organizationMember.organizationId, projectId,
    organizationMember.principalId, organizationMember.organizationMemberId, organizationMember.membershipKind⟩

def createProjectMember (projectId : String) (request : CreateProjectMemberRequest) (newId : String) :
    AccessStore × Result PlatformProjectMembershipRecord :=
  match projectMemberUpsert env store actor projectId request newId with
  | .error error => (store, .error error)
  | .ok upsert =>
    let (memberships, answer) := upsertProjectMember store.memberships upsert
    ({ store with memberships }, answer.mapError membershipErrorToService)

def projectMemberById (projectMemberId : String) : Result PlatformProjectMembershipRecord :=
  match store.memberships.projectMembers.lookup projectMemberId with
  | none => .error .resourceNotFound
  | some member => .ok member

def projectMemberForActor (projectId projectMemberId : String) : Result PlatformProjectMembershipRecord := do
  let member ← projectMemberById store projectMemberId
  if member.tenantId = actor.tenantId ∧ member.projectId = projectId then .ok member else .error .resourceNotFound

def updateProjectMember (projectId projectMemberId : String) (request : UpdateStatusRequest) :
    Result AccessStore := do
  let before ← projectMemberForActor store actor projectId projectMemberId
  authorizeServiceAction store env.grants actor .projectMemberWrite (projectMemberResource before)
  let status ← membershipStatusFromRequest request.status
  let (updated, memberships) ← (updateProjectMemberStatus store.memberships projectMemberId request.expectedVersion
    status).mapError membershipErrorToService
  .ok { store with
    memberships
    roleBindings :=
      if status = .removed then
        deleteRoleBindingsForProjectPrincipal store.roleBindings updated.tenantId updated.projectId updated.principalId
      else store.roleBindings }

end ProjectMembers

section Invitations

variable (env : PlatformEnv) (store : AccessStore) (actor : AuthenticatedActor)

def organizationInvitationTtlSeconds : Int := 7 * 24 * 60 * 60

def normalizedEmail (value : String) : Option String :=
  let email := (trim value).toList.map Char.toLower
  if '@' ∈ email ∧ email.head? ≠ some '@' ∧ email.getLast? ≠ some '@' then some (String.ofList email) else none

def invitationTokenStart : String := "swp_inv_"

/-- The raw token is drawn by the service. -/
def organizationInvitationRecordFromCreateRequest (request : CreateOrganizationInvitationRequest)
    (organizationId : String) (nowUnix : Int) (newId rawToken : String) :
    Result PlatformOrganizationInvitationRecord :=
  if !startsWith organizationId "org_" then .error (.badRequest "organization_id_invalid")
  else
    let invitedEmail := request.invitedEmail.bind normalizedEmail
    let invitedPrincipalId := normalizedOptionalString request.invitedPrincipalId
    if invitedEmail.isSome = invitedPrincipalId.isSome then .error (.badRequest "invitation_target_invalid")
    else if invitedPrincipalId.any fun id => !startsWith id "usr_" then .error (.badRequest "principal_id_invalid")
    else
      let projectId := normalizedOptionalString request.projectId
      if projectId.any fun id => !startsWith id "prj_" then .error (.badRequest "project_id_invalid")
      else
        let expiresAtUnix := request.expiresAtUnix.getD (nowUnix + organizationInvitationTtlSeconds)
        if expiresAtUnix ≤ nowUnix then .error (.badRequest "invitation_expiry_invalid")
        else
          let invitation : PlatformOrganizationInvitationRecord :=
            { invitationId := (normalizedOptionalString request.invitationId).getD newId
              tenantId := actor.tenantId
              organizationId
              projectId
              invitedEmail
              invitedPrincipalId
              invitationTokenHash := env.hashInvitationToken (trim rawToken)
              roleId := (normalizedOptionalString request.roleId).getD "organization_member"
              status := .pending
              expiresAtUnix
              acceptedAtUnix := none
              createdBy := actor.principalId
              resourceVersion := 1
              createdAtUnix := nowUnix
              updatedAtUnix := nowUnix }
          match validateOrganizationInvitation invitation with
          | .error error => .error (invitationErrorToService error)
          | .ok () => .ok invitation

def createOrganizationInvitation (organizationId : String) (request : CreateOrganizationInvitationRequest)
    (nowUnix : Int) (newId rawToken : String) : Result AccessStore := do
  let resource ← organizationScopeResource actor organizationId "OrganizationInvitation"
  authorizeServiceAction store env.grants actor .organizationInvitationCreate resource
  let invitation ← organizationInvitationRecordFromCreateRequest env actor request organizationId nowUnix newId rawToken
  let invitations ← (createInvitation store.invitations invitation).mapError invitationErrorToService
  .ok { store with invitations }

def organizationInvitationByRawToken (rawToken : String) : Result PlatformOrganizationInvitationRecord :=
  if !startsWith (trim rawToken) invitationTokenStart then .error .resourceNotFound
  else match organizationInvitationByTokenHash store.invitations (env.hashInvitationToken (trim rawToken)) with
  | none => .error .resourceNotFound
  | some invitation => .ok invitation

def ensureActorMatchesInvitation (invitation : PlatformOrganizationInvitationRecord) : Result Unit :=
  if actor.tenantId ≠ invitation.tenantId then .error (.forbidden "tenant_mismatch")
  else if invitation.invitedPrincipalId = some actor.principalId then .ok ()
  else .error (.forbidden "invitation_principal_mismatch")

/-- The invitation of the token once it is accepted, with the invitations of the store. -/
def acceptedInvitation (rawToken : String) (nowUnix : Int) (organizationMemberId projectMemberId : String) :
    Result (PlatformOrganizationInvitationRecord × Index PlatformOrganizationInvitationRecord) := do
  if actor.actorKind ≠ .user then .error (.forbidden "user_actor_required")
  else do
    let invitation ← organizationInvitationByRawToken env store rawToken
    ensureActorMatchesInvitation actor invitation
    (acceptInvitation store.invitations ⟨invitation.invitationId, actor.principalId, organizationMemberId,
      invitation.projectId.map fun _ => projectMemberId, nowUnix⟩).mapError invitationErrorToService

def invitedProjectMember (memberships : MembershipStore) (invitation : PlatformOrganizationInvitationRecord)
    (organizationMember : PlatformOrganizationMembershipRecord) (principalId projectMemberId : String) :
    MembershipStore :=
  match invitation.projectId with
  | none => memberships
  | some projectId =>
    (upsertProjectMember memberships ⟨projectMemberId, invitation.tenantId, invitation.organizationId, projectId,
      principalId, organizationMember.organizationMemberId, "user"⟩).1

/-- The stores after the call; a member that fails its check leaves the invitation accepted. -/
def acceptAuthInvitation (rawToken : String) (nowUnix : Int) (organizationMemberId projectMemberId : String) :
    AccessStore :=
  match acceptedInvitation env store actor rawToken nowUnix organizationMemberId projectMemberId with
  | .error _ => store
  | .ok (invitation, invitations) =>
    let (memberships, answer) := upsertOrganizationMember store.memberships
      ⟨organizationMemberId, invitation.tenantId, invitation.organizationId, actor.principalId, "user"⟩
    match answer with
    | .error _ => { store with memberships, invitations }
    | .ok organizationMember =>
      { store with
        memberships :=
          invitedProjectMember memberships invitation organizationMember actor.principalId projectMemberId
        invitations }

end Invitations

inductive AccessCall
  | createRoleBinding (request : CreateRoleBindingRequest) (newId : String)
  | updateRoleBindingStatus (roleBindingId : String) (request : UpdateStatusRequest)
  | createOrganizationMember (organizationId : String) (request : CreateOrganizationMemberRequest) (newId : String)
  | updateOrganizationMemberStatus (organizationId organizationMemberId : String) (request : UpdateStatusRequest)
  | removeOrganizationMember (organizationId organizationMemberId : String) (expectedVersion : Int)
  | createProjectMember (projectId : String) (request : CreateProjectMemberRequest) (newId : String)
  | updateProjectMemberStatus (projectId projectMemberId : String) (request : UpdateStatusRequest)
  | createOrganizationInvitation (organizationId : String) (request : CreateOrganizationInvitationRequest)
    (nowUnix : Int) (newId rawToken : String)
  | acceptAuthInvitation (rawToken : String) (nowUnix : Int) (organizationMemberId projectMemberId : String)
deriving DecidableEq, Repr

/-- The stores after a request that only writes when it succeeds. -/
def AccessStore.orUnchanged (store : AccessStore) : Result AccessStore → AccessStore
  | .ok changed => changed
  | .error _ => store

def AccessStore.call (env : PlatformEnv) (store : AccessStore) (actor : AuthenticatedActor) : AccessCall → AccessStore
  | .createRoleBinding request newId => (createRoleBinding env store actor request newId).1
  | .updateRoleBindingStatus roleBindingId request => (updateRoleBinding env store actor roleBindingId request).1
  | .createOrganizationMember organizationId request newId =>
    (createOrganizationMember env store actor organizationId request newId).1
  | .updateOrganizationMemberStatus organizationId organizationMemberId request =>
    store.orUnchanged (updateOrganizationMember env store actor organizationId organizationMemberId request)
  | .removeOrganizationMember organizationId organizationMemberId expectedVersion =>
    store.orUnchanged (removeOrganizationMember env store actor organizationId organizationMemberId expectedVersion)
  | .createProjectMember projectId request newId => (createProjectMember env store actor projectId request newId).1
  | .updateProjectMemberStatus projectId projectMemberId request =>
    store.orUnchanged (updateProjectMember env store actor projectId projectMemberId request)
  | .createOrganizationInvitation organizationId request nowUnix newId rawToken =>
    store.orUnchanged (createOrganizationInvitation env store actor organizationId request nowUnix newId rawToken)
  | .acceptAuthInvitation rawToken nowUnix organizationMemberId projectMemberId =>
    acceptAuthInvitation env store actor rawToken nowUnix organizationMemberId projectMemberId

end Starweaver.Platform
