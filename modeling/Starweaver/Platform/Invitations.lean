import Starweaver.Platform.Memberships

namespace Starweaver.Platform

open Library.Checks Library.OrderedMap Library.Text

inductive PlatformInvitationStatus
  | pending
  | accepted
  | revoked
  | expired
deriving DecidableEq, Repr

def PlatformInvitationStatus.acceptsAt (status : PlatformInvitationStatus) (expiresAtUnix nowUnix : Int) : Bool :=
  status == .pending && decide (nowUnix < expiresAtUnix)

structure PlatformOrganizationInvitationRecord where
  invitationId : String
  tenantId : String
  organizationId : String
  projectId : Option String
  invitedEmail : Option String
  invitedPrincipalId : Option String
  invitationTokenHash : String
  roleId : String
  status : PlatformInvitationStatus
  expiresAtUnix : Int
  acceptedAtUnix : Option Int
  createdBy : String
  resourceVersion : Int
  createdAtUnix : Int
  updatedAtUnix : Int
deriving DecidableEq, Repr

inductive PlatformInvitationError
  | invalidInvitationId
  | invalidTenantId
  | invalidOrganizationId
  | invalidProjectId
  | invalidPrincipalId
  | invalidCreatedBy
  | invalidTokenHash
  | invalidRoleId
  | invalidStatus
  | invalidTimestamp
  | invalidTarget
  | staleResourceVersion
  | invitationNotPending
  | invitationNotAccepting
  | invitationPrincipalMismatch
deriving DecidableEq, Repr

def PlatformInvitationError.asStr : PlatformInvitationError → String
  | .invalidInvitationId => "invitation_id_invalid"
  | .invalidTenantId => "tenant_id_invalid"
  | .invalidOrganizationId => "organization_id_invalid"
  | .invalidProjectId => "project_id_invalid"
  | .invalidPrincipalId => "principal_id_invalid"
  | .invalidCreatedBy => "created_by_invalid"
  | .invalidTokenHash => "invitation_token_hash_invalid"
  | .invalidRoleId => "invitation_role_invalid"
  | .invalidStatus => "invitation_status_invalid"
  | .invalidTimestamp => "invitation_timestamp_invalid"
  | .invalidTarget => "invitation_target_invalid"
  | .staleResourceVersion => "stale_resource_version"
  | .invitationNotPending => "invitation_not_pending"
  | .invitationNotAccepting => "invitation_not_accepting"
  | .invitationPrincipalMismatch => "invitation_principal_mismatch"

def invitationErrorToService : PlatformInvitationError → ServiceError
  | .invalidInvitationId => .resourceNotFound
  | .invitationPrincipalMismatch => .forbidden "invitation_principal_mismatch"
  | error => .badRequest error.asStr

section Validation

def invitationTargeted (invitation : PlatformOrganizationInvitationRecord) : Bool :=
  (invitation.invitedEmail.any fun value => trim value != "" && value.toList.contains '@') !=
    invitation.invitedPrincipalId.isSome

def validTokenHash (hash : String) : Bool :=
  hash.utf8ByteSize == 64 && hash.toList.all fun c => c.isDigit || (decide ('a' ≤ c) && decide (c ≤ 'f'))

def validateActorId (value : String) : Except PlatformInvitationError Unit :=
  if startsWith value "usr_" || startsWith value "svc_" || startsWith value "sys_" then .ok ()
  else .error .invalidCreatedBy

def requireOptionalStart {ε : Type} (value : Option String) (start : String) (error : ε) : Except ε Unit :=
  match value with
  | none => .ok ()
  | some value => requireStart value start error

def validateOrganizationInvitation (invitation : PlatformOrganizationInvitationRecord) :
    Except PlatformInvitationError Unit := do
  requireStart invitation.invitationId "inv_" .invalidInvitationId
  requireStart invitation.tenantId "ten_" .invalidTenantId
  requireStart invitation.organizationId "org_" .invalidOrganizationId
  requireOptionalStart invitation.projectId "prj_" .invalidProjectId
  requireOptionalStart invitation.invitedPrincipalId "usr_" .invalidPrincipalId
  if !invitationTargeted invitation then .error .invalidTarget
  else if !validTokenHash invitation.invitationTokenHash then .error .invalidTokenHash
  else if trim invitation.roleId = "" then .error .invalidRoleId
  else do
    validateActorId invitation.createdBy
    if invitation.expiresAtUnix ≤ 0 ∨ invitation.createdAtUnix ≤ 0 ∨ invitation.updatedAtUnix ≤ 0 ∨
        invitation.resourceVersion ≤ 0 then .error .invalidTimestamp
    else if invitation.status = .accepted ∧ invitation.acceptedAtUnix.isNone then .error .invalidStatus
    else .ok ()

end Validation

structure AcceptPlatformOrganizationInvitationRequest where
  invitationId : String
  principalId : String
  organizationMemberId : String
  projectMemberId : Option String
  acceptedAtUnix : Int
deriving DecidableEq, Repr

section Store

variable (invitations : Index PlatformOrganizationInvitationRecord)

def createInvitation (record : PlatformOrganizationInvitationRecord) :
    Except PlatformInvitationError (Index PlatformOrganizationInvitationRecord) := do
  validateOrganizationInvitation record
  .ok (invitations.insert record.invitationId record)

def organizationInvitationByTokenHash (tokenHash : String) : Option PlatformOrganizationInvitationRecord :=
  (findOrdered (fun invitation => invitation.invitationTokenHash == tokenHash) invitations).map (·.2)

def revoked (invitation : PlatformOrganizationInvitationRecord) (nowUnix : Int) :
    PlatformOrganizationInvitationRecord :=
  { invitation with
    status := .revoked
    resourceVersion := invitation.resourceVersion + 1
    updatedAtUnix := nowUnix }

def revokeInvitation (invitationId : String) (expectedVersion nowUnix : Int) :
    Except PlatformInvitationError
      (PlatformOrganizationInvitationRecord × Index PlatformOrganizationInvitationRecord) :=
  match invitations.lookup invitationId with
  | none => .error .invalidInvitationId
  | some invitation =>
    if invitation.resourceVersion ≠ expectedVersion then .error .staleResourceVersion
    else if invitation.status ≠ .pending then .error .invitationNotPending
    else .ok (revoked invitation nowUnix, invitations.insert invitationId (revoked invitation nowUnix))

def accepted (invitation : PlatformOrganizationInvitationRecord) (acceptedAtUnix : Int) :
    PlatformOrganizationInvitationRecord :=
  { invitation with
    status := .accepted
    acceptedAtUnix := some acceptedAtUnix
    resourceVersion := invitation.resourceVersion + 1
    updatedAtUnix := acceptedAtUnix }

def acceptInvitation (request : AcceptPlatformOrganizationInvitationRequest) :
    Except PlatformInvitationError
      (PlatformOrganizationInvitationRecord × Index PlatformOrganizationInvitationRecord) := do
  requireStart request.invitationId "inv_" .invalidInvitationId
  requireStart request.principalId "usr_" .invalidPrincipalId
  requireStart request.organizationMemberId "om_" .invalidInvitationId
  requireOptionalStart request.projectMemberId "pm_" .invalidInvitationId
  if request.acceptedAtUnix ≤ 0 then .error .invalidTimestamp
  else match invitations.lookup request.invitationId with
  | none => .error .invalidInvitationId
  | some invitation =>
    if !invitation.status.acceptsAt invitation.expiresAtUnix request.acceptedAtUnix then
      .error .invitationNotAccepting
    else if invitation.invitedPrincipalId ≠ some request.principalId then .error .invitationPrincipalMismatch
    else
      .ok (accepted invitation request.acceptedAtUnix,
        invitations.insert request.invitationId (accepted invitation request.acceptedAtUnix))

end Store

section Changes

variable {invitations changed : Index PlatformOrganizationInvitationRecord}
  {invitation : PlatformOrganizationInvitationRecord}

theorem revokeInvitation_ok {invitationId : String} {expectedVersion nowUnix : Int}
    (h : revokeInvitation invitations invitationId expectedVersion nowUnix = .ok (invitation, changed)) :
    ∃ before, invitations.lookup invitationId = some before ∧ before.resourceVersion = expectedVersion ∧
      before.status = .pending ∧ invitation = revoked before nowUnix ∧
      changed = invitations.insert invitationId invitation := by
  unfold revokeInvitation at h
  split at h
  · cases h
  rename_i before hbefore
  split at h
  · cases h
  split at h
  · cases h
  rename_i hversion hpending
  cases h
  exact ⟨before, hbefore, not_not.mp hversion, not_not.mp hpending, rfl, rfl⟩

theorem acceptInvitation_ok {request : AcceptPlatformOrganizationInvitationRequest}
    (h : acceptInvitation invitations request = .ok (invitation, changed)) :
    ∃ before, invitations.lookup request.invitationId = some before ∧ before.status = .pending ∧
      request.acceptedAtUnix < before.expiresAtUnix ∧ before.invitedPrincipalId = some request.principalId ∧
      invitation = accepted before request.acceptedAtUnix ∧
      changed = invitations.insert request.invitationId invitation := by
  obtain ⟨-, h⟩ := bind_unit_ok.mp h
  obtain ⟨-, h⟩ := bind_unit_ok.mp h
  obtain ⟨-, h⟩ := bind_unit_ok.mp h
  obtain ⟨-, h⟩ := bind_unit_ok.mp h
  split at h
  · cases h
  split at h
  · cases h
  rename_i before hbefore
  split at h
  · cases h
  split at h
  · cases h
  rename_i haccepts hprincipal
  have hpending : before.status = .pending ∧ request.acceptedAtUnix < before.expiresAtUnix := by
    simpa [PlatformInvitationStatus.acceptsAt] using haccepts
  cases h
  exact ⟨before, hbefore, hpending.1, hpending.2, not_not.mp hprincipal, rfl, rfl⟩

end Changes

end Starweaver.Platform
