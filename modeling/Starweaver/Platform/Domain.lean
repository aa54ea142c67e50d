import Mathlib.Data.List.AList
import Starweaver.Library.Text

namespace Starweaver.Platform

open Library.Text

abbrev Index (α : Type) := AList (fun _ : String => α)

inductive ServiceError
  | authenticationRequired
  | authenticationFailed (code : String)
  | badRequest (code : String)
  | forbidden (code : String)
  | internal (code : String)
  | resourceNotFound
deriving DecidableEq, Repr

abbrev Result (α : Type) := Except ServiceError α

section Answers

variable {ε ε' α β : Type} {x : Except ε α}

theorem mapError_ok {f : ε → ε'} {a : α} : x.mapError f = .ok a ↔ x = .ok a := by
  cases x <;> simp [Except.mapError]

theorem map_ok {f : α → β} {b : β} : x.map f = .ok b ↔ ∃ a, x = .ok a ∧ f a = b := by
  cases x <;> simp [Except.map]

end Answers

def startsWith (value start : String) : Bool :=
  start.toByteArray.data.toList.isPrefixOf value.toByteArray.data.toList

def normalizedOptionalString (value : Option String) : Option String :=
  (value.map trim).filter (· != "")

theorem normalizedOptionalString_trimmed {value : Option String} {text : String}
    (h : normalizedOptionalString value = some text) : trim text = text := by
  obtain ⟨hmapped, -⟩ := Option.filter_eq_some_iff.mp h
  obtain ⟨raw, -, rfl⟩ := Option.map_eq_some_iff.mp hmapped
  exact trim_trim raw

inductive ActorKind
  | user
  | serviceAccount
  | system
deriving DecidableEq, Repr

structure AuthenticatedActor where
  tenantId : String
  organizationId : Option String
  projectId : Option String
  principalId : String
  actorKind : ActorKind
deriving DecidableEq, Repr

structure ResourceRef where
  kind : String
  tenantId : String
  organizationId : Option String
  projectId : Option String
  resourceId : String
deriving DecidableEq, Repr

def ResourceRef.project (kind tenantId organizationId projectId resourceId : String) : ResourceRef :=
  ⟨kind, tenantId, some organizationId, some projectId, resourceId⟩

def ResourceRef.tenant (kind tenantId resourceId : String) : ResourceRef := ⟨kind, tenantId, none, none, resourceId⟩

inductive PlatformAction
  | conversationCreate
  | conversationRead
  | conversationUpdate
  | sessionCreate
  | sessionRead
  | runCreate
  | runRead
  | runCancel
  | runSteer
  | runEventRead
  | approvalRead
  | approvalDecide
  | deferredToolRead
  | deferredToolResume
  | environmentAttachmentCreate
  | environmentAttachmentRead
  | environmentAttachmentRelease
  | environmentAttachmentHealthRead
  | evidenceArchiveRead
  | evidenceArchiveDebugRead
  | identityProviderRead
  | identityProviderWrite
  | userRead
  | userWrite
  | externalIdentityRead
  | externalIdentityUnlink
  | roleBindingRead
  | roleBindingWrite
  | authSessionCreate
  | authSessionRead
  | authSessionUpdate
  | authSessionRevoke
  | auditEventRead
  | organizationMemberRead
  | organizationMemberWrite
  | organizationInvitationRead
  | organizationInvitationCreate
  | organizationInvitationManage
  | organizationInvitationAccept
  | projectMemberRead
  | projectMemberWrite
  | secretRefRead
  | secretRefWrite
deriving DecidableEq, Repr

namespace PlatformAction

def resourceKind : PlatformAction → String
  | .conversationCreate | .conversationRead | .conversationUpdate => "Conversation"
  | .sessionCreate | .sessionRead => "AgentSession"
  | .runCreate | .runRead | .runCancel | .runSteer => "Run"
  | .runEventRead => "RunEvent"
  | .approvalRead | .approvalDecide => "Approval"
  | .deferredToolRead | .deferredToolResume => "DeferredTool"
  | .environmentAttachmentCreate | .environmentAttachmentRead | .environmentAttachmentRelease |
    .environmentAttachmentHealthRead => "EnvironmentAttachment"
  | .evidenceArchiveRead | .evidenceArchiveDebugRead => "EvidenceArchive"
  | .identityProviderRead | .identityProviderWrite => "IdentityProvider"
  | .userRead | .userWrite => "User"
  | .externalIdentityRead | .externalIdentityUnlink => "ExternalIdentity"
  | .roleBindingRead | .roleBindingWrite => "RoleBinding"
  | .authSessionCreate | .authSessionRead | .authSessionUpdate | .authSessionRevoke => "AuthSession"
  | .auditEventRead => "AuditEvent"
  | .organizationMemberRead | .organizationMemberWrite => "OrganizationMember"
  | .organizationInvitationRead | .organizationInvitationCreate | .organizationInvitationManage |
    .organizationInvitationAccept => "OrganizationInvitation"
  | .projectMemberRead | .projectMemberWrite => "ProjectMember"
  | .secretRefRead | .secretRefWrite => "SecretRef"

def requiresUserActor : PlatformAction → Bool
  | .conversationCreate | .conversationRead | .sessionCreate | .sessionRead | .runCreate | .runRead |
    .runEventRead | .deferredToolRead | .environmentAttachmentCreate | .environmentAttachmentRead |
    .environmentAttachmentHealthRead | .evidenceArchiveRead | .identityProviderRead | .userRead |
    .externalIdentityRead | .roleBindingRead | .authSessionCreate | .organizationMemberRead |
    .organizationInvitationRead | .projectMemberRead | .secretRefRead => false
  | _ => true

def canonicalActions : List PlatformAction :=
  [.conversationCreate, .conversationRead, .conversationUpdate, .sessionCreate, .sessionRead, .runCreate, .runRead,
    .runCancel, .runSteer, .runEventRead, .approvalRead, .approvalDecide, .deferredToolRead, .deferredToolResume,
    .environmentAttachmentCreate, .environmentAttachmentRead, .environmentAttachmentRelease,
    .environmentAttachmentHealthRead, .evidenceArchiveRead, .evidenceArchiveDebugRead, .identityProviderRead,
    .identityProviderWrite, .userRead, .userWrite, .externalIdentityRead, .externalIdentityUnlink,
    .roleBindingRead, .roleBindingWrite, .authSessionCreate, .authSessionRead, .authSessionUpdate,
    .authSessionRevoke, .auditEventRead, .organizationMemberRead, .organizationMemberWrite,
    .organizationInvitationRead, .organizationInvitationCreate, .organizationInvitationManage,
    .organizationInvitationAccept, .projectMemberRead, .projectMemberWrite, .secretRefRead, .secretRefWrite]

def platformOperatorActions : List PlatformAction :=
  [.conversationRead, .sessionRead, .runRead, .runEventRead, .environmentAttachmentRead,
    .environmentAttachmentHealthRead, .evidenceArchiveRead, .identityProviderRead, .userRead,
    .externalIdentityRead, .roleBindingRead, .authSessionRead, .auditEventRead, .organizationMemberRead,
    .organizationInvitationRead, .projectMemberRead, .secretRefRead]

def organizationAdminActions : List PlatformAction :=
  [.conversationCreate, .conversationRead, .conversationUpdate, .sessionCreate, .sessionRead, .runCreate, .runRead,
    .runCancel, .runEventRead, .approvalRead, .approvalDecide, .deferredToolRead, .deferredToolResume,
    .environmentAttachmentCreate, .environmentAttachmentRead, .environmentAttachmentRelease,
    .environmentAttachmentHealthRead, .evidenceArchiveRead, .authSessionRead, .authSessionUpdate,
    .authSessionRevoke, .roleBindingRead, .roleBindingWrite, .auditEventRead, .organizationMemberRead,
    .organizationMemberWrite, .organizationInvitationRead, .organizationInvitationCreate,
    .organizationInvitationManage, .organizationInvitationAccept, .projectMemberRead, .projectMemberWrite,
    .auditEventRead]

def projectAdminActions : List PlatformAction :=
  [.authSessionRead, .authSessionUpdate, .authSessionRevoke, .roleBindingRead, .roleBindingWrite,
    .conversationCreate, .conversationRead, .conversationUpdate, .sessionCreate, .sessionRead, .runCreate,
    .runRead, .runCancel, .runEventRead, .approvalRead, .approvalDecide, .deferredToolRead, .deferredToolResume,
    .environmentAttachmentCreate, .environmentAttachmentRead, .environmentAttachmentRelease,
    .environmentAttachmentHealthRead, .evidenceArchiveRead, .projectMemberRead, .projectMemberWrite]

def projectDeveloperActions : List PlatformAction :=
  [.authSessionRead, .authSessionUpdate, .authSessionRevoke, .conversationCreate, .conversationRead,
    .sessionCreate, .sessionRead, .runCreate, .runRead, .runCancel, .runSteer, .runEventRead, .approvalRead,
    .approvalDecide, .deferredToolRead, .deferredToolResume, .environmentAttachmentCreate,
    .environmentAttachmentRead, .environmentAttachmentRelease, .environmentAttachmentHealthRead,
    .evidenceArchiveRead]

def projectViewerActions : List PlatformAction :=
  [.authSessionRead, .authSessionUpdate, .authSessionRevoke, .conversationRead, .sessionRead, .runRead,
    .runEventRead, .approvalRead, .deferredToolRead, .environmentAttachmentRead, .environmentAttachmentHealthRead,
    .evidenceArchiveRead]

def auditorActions : List PlatformAction :=
  [.authSessionRead, .authSessionUpdate, .authSessionRevoke, .runRead, .runEventRead, .evidenceArchiveRead,
    .evidenceArchiveDebugRead, .roleBindingRead, .auditEventRead]

end PlatformAction

inductive RoleScopeKind
  | tenant
  | organization
  | project
  | any
deriving DecidableEq, Repr

inductive BuiltInRole
  | tenantOwner
  | platformOperator
  | organizationAdmin
  | projectAdmin
  | projectDeveloper
  | projectViewer
  | auditor
deriving DecidableEq, Repr

namespace BuiltInRole

def fromId (value : String) : Option BuiltInRole :=
  if value = "tenant_owner" then some .tenantOwner
  else if value = "platform_operator" then some .platformOperator
  else if value = "organization_admin" then some .organizationAdmin
  else if value = "project_admin" then some .projectAdmin
  else if value = "project_developer" then some .projectDeveloper
  else if value = "project_viewer" then some .projectViewer
  else if value = "auditor" then some .auditor
  else none

def scopeKind : BuiltInRole → RoleScopeKind
  | .tenantOwner | .platformOperator => .tenant
  | .organizationAdmin => .organization
  | .projectAdmin | .projectDeveloper | .projectViewer => .project
  | .auditor => .any

def actions : BuiltInRole → List PlatformAction
  | .tenantOwner => PlatformAction.canonicalActions
  | .platformOperator => PlatformAction.platformOperatorActions
  | .organizationAdmin => PlatformAction.organizationAdminActions
  | .projectAdmin => PlatformAction.projectAdminActions
  | .projectDeveloper => PlatformAction.projectDeveloperActions
  | .projectViewer => PlatformAction.projectViewerActions
  | .auditor => PlatformAction.auditorActions

end BuiltInRole

structure ActionGrant where
  tenantId : String
  principalId : String
  action : PlatformAction
  resourceKind : String
  scopeKind : RoleScopeKind
  scopeId : String
deriving DecidableEq, Repr

def ActionGrant.forBuiltinRole (tenantId scopeId principalId : String) (role : BuiltInRole) : List ActionGrant :=
  role.actions.map fun action => ⟨tenantId, principalId, action, action.resourceKind, role.scopeKind, scopeId⟩

structure AuthorizationRequest where
  actor : AuthenticatedActor
  action : PlatformAction
  resource : ResourceRef

structure AuthorizationDecision where
  allowed : Bool
  reason : String
deriving DecidableEq, Repr

def AuthorizationDecision.allow : AuthorizationDecision := ⟨true, "allow"⟩

def AuthorizationDecision.deny (reason : String) : AuthorizationDecision := ⟨false, reason⟩

def grantScopeMatches (grant : ActionGrant) (resource : ResourceRef) : Bool :=
  match grant.scopeKind with
  | .tenant => grant.scopeId == resource.tenantId
  | .organization => resource.organizationId == some grant.scopeId
  | .project => resource.projectId == some grant.scopeId
  | .any => grant.scopeId == resource.tenantId || resource.organizationId == some grant.scopeId ||
      resource.projectId == some grant.scopeId

def grantAllows (grant : ActionGrant) (request : AuthorizationRequest) : Bool :=
  grant.tenantId == request.actor.tenantId && grant.principalId == request.actor.principalId &&
    grant.action == request.action && grant.resourceKind == request.resource.kind &&
    grantScopeMatches grant request.resource

/-- The decision of the engine that holds the grants. -/
def authorize (grants : List ActionGrant) (request : AuthorizationRequest) : AuthorizationDecision :=
  if request.resource.tenantId ≠ request.actor.tenantId then .deny "tenant_mismatch"
  else if request.resource.kind ≠ request.action.resourceKind then .deny "resource_kind_mismatch"
  else if request.action.requiresUserActor ∧ request.actor.actorKind ≠ .user then .deny "user_actor_required"
  else if grants.any fun grant => grantAllows grant request then .allow
  else .deny "missing_action_grant"

theorem authorize_allowed {grants : List ActionGrant} {request : AuthorizationRequest} :
    (authorize grants request).allowed = true ↔
      request.resource.tenantId = request.actor.tenantId ∧ request.resource.kind = request.action.resourceKind ∧
      (request.action.requiresUserActor = true → request.actor.actorKind = .user) ∧
      ∃ grant ∈ grants, grantAllows grant request = true := by
  unfold authorize
  split
  · rename_i h
    simp [AuthorizationDecision.deny, h]
  split
  · rename_i h
    simp [AuthorizationDecision.deny, h]
  split
  · rename_i h
    simp [AuthorizationDecision.deny, h]
  rename_i htenant hkind huser
  split
  · rename_i hany
    simp only [AuthorizationDecision.allow, true_iff]
    exact ⟨not_not.mp htenant, not_not.mp hkind, fun h => not_not.mp fun hne => huser ⟨h, hne⟩,
      List.any_eq_true.mp hany⟩
  · rename_i hany
    simp only [AuthorizationDecision.deny, Bool.false_eq_true, false_iff]
    rintro ⟨-, -, -, hgrant⟩
    exact hany (List.any_eq_true.mpr hgrant)

theorem startsWith_apart {value first second : String} (hsize : first.utf8ByteSize = second.utf8ByteSize)
    (hfirst : startsWith value first = true) (hsecond : startsWith value second = true) : first = second := by
  have hlength : first.toByteArray.data.toList.length = second.toByteArray.data.toList.length := hsize
  have hle := List.prefix_of_prefix_length_le (List.isPrefixOf_iff_prefix.mp hfirst)
    (List.isPrefixOf_iff_prefix.mp hsecond) hlength.le
  have hdata := hle.eq_of_length hlength
  exact String.toByteArray_inj.mp (ByteArray.ext (Array.toList_inj.mp hdata))

end Starweaver.Platform
