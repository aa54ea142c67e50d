import Mathlib.Algebra.GroupWithZero.Nat
import Starweaver.Platform.Domain

namespace Starweaver.Platform

inductive HttpMethod
  | delete
  | get
  | post
deriving DecidableEq, Repr

inductive RouteAccess
  | publicAccess
  | session
  | authorized
deriving DecidableEq, Repr

structure RouteMetadata where
  method : HttpMethod
  pathPattern : String
  action : PlatformAction
  resourceKind : String
  resourceIdPathParam : Option String
  scopePathParams : List String
  access : RouteAccess
  userActorRequired : Bool
deriving DecidableEq, Repr

def RouteMetadata.withAccess (method : HttpMethod) (pathPattern : String) (action : PlatformAction)
    (resourceIdPathParam : Option String) (scopePathParams : List String) (access : RouteAccess) : RouteMetadata :=
  ⟨method, pathPattern, action, action.resourceKind, resourceIdPathParam, scopePathParams, access,
    action.requiresUserActor⟩

def RouteMetadata.new (method : HttpMethod) (pathPattern : String) (action : PlatformAction)
    (resourceIdPathParam : Option String) (scopePathParams : List String) : RouteMetadata :=
  .withAccess method pathPattern action resourceIdPathParam scopePathParams .authorized

def platformRoutes : List RouteMetadata :=
  [.new .post "/v1/conversations" .conversationCreate none [],
    .new .get "/v1/conversations/{conversation_id}" .conversationRead (some "conversation_id") ["conversation_id"],
    .new .get "/v1/conversations/{conversation_id}/sessions"
      .sessionRead (some "conversation_id") ["conversation_id"],
    .new .post "/v1/runs" .runCreate none [],
    .new .get "/v1/runs/{run_id}" .runRead (some "run_id") ["run_id"],
    .new .post "/v1/runs/{run_id}:cancel" .runCancel (some "run_id") ["run_id"],
    .new .post "/v1/runs/{run_id}:steer" .runSteer (some "run_id") ["run_id"],
    .new .get "/v1/runs/{run_id}/events" .runEventRead (some "run_id") ["run_id"],
    .new .post "/v1/approvals/{approval_id}:decide" .approvalDecide (some "approval_id") ["approval_id"],
    .new .get "/v1/deferred-tools" .deferredToolRead none [],
    .new .post "/v1/deferred-tools/{deferred_tool_id}:resume"
      .deferredToolResume (some "deferred_tool_id") ["deferred_tool_id"],
    .new .post "/v1/environment-attachments" .environmentAttachmentCreate none [],
    .new .get "/v1/environment-attachments" .environmentAttachmentRead none [],
    .new .get "/v1/environment-attachments/{attachment_lease_id}/health"
      .environmentAttachmentHealthRead (some "attachment_lease_id") ["attachment_lease_id"],
    .new .delete "/v1/environment-attachments/{attachment_lease_id}"
      .environmentAttachmentRelease (some "attachment_lease_id") ["attachment_lease_id"],
    .new .get "/v1/evidence-archives/{evidence_archive_id}"
      .evidenceArchiveRead (some "evidence_archive_id") ["evidence_archive_id"],
    .new .get "/v1/evidence-archives/{evidence_archive_id}/debug"
      .evidenceArchiveDebugRead (some "evidence_archive_id") ["evidence_archive_id"],
    .new .post "/admin/v1/identity-providers" .identityProviderWrite none [],
    .new .get "/admin/v1/identity-providers" .identityProviderRead none [],
    .new .get "/admin/v1/identity-providers/{identity_provider_id}"
      .identityProviderRead (some "identity_provider_id") ["identity_provider_id"],
    .new .get "/admin/v1/users" .userRead none [],
    .new .get "/admin/v1/users/{user_id}" .userRead (some "user_id") ["user_id"],
    .new .post "/admin/v1/users/{user_id}/status" .userWrite (some "user_id") ["user_id"],
    .new .get "/admin/v1/users/{user_id}/sessions" .authSessionRead none ["user_id"],
    .new .post "/admin/v1/users/{user_id}/sessions/{auth_session_id}/revoke"
      .authSessionRevoke (some "auth_session_id") ["user_id", "auth_session_id"],
    .new .get "/admin/v1/users/{user_id}/external-identities" .externalIdentityRead none ["user_id"],
    .new .get "/admin/v1/users/{user_id}/external-identities/{external_identity_id}"
      .externalIdentityRead (some "external_identity_id") ["user_id", "external_identity_id"],
    .new .post "/admin/v1/users/{user_id}/external-identities/{external_identity_id}/unlink"
      .externalIdentityUnlink (some "external_identity_id") ["user_id", "external_identity_id"],
    .new .get "/admin/v1/role-bindings" .roleBindingRead none [],
    .new .post "/admin/v1/role-bindings" .roleBindingWrite none [],
    .new .get "/admin/v1/role-bindings/{role_binding_id}"
      .roleBindingRead (some "role_binding_id") ["role_binding_id"],
    .new .post "/admin/v1/role-bindings/{role_binding_id}/status"
      .roleBindingWrite (some "role_binding_id") ["role_binding_id"],
    .new .get "/admin/v1/audit-events" .auditEventRead none [],
    .new .get "/admin/v1/organizations/{organization_id}/members" .organizationMemberRead none ["organization_id"],
    .new .post "/admin/v1/organizations/{organization_id}/members" .organizationMemberWrite none ["organization_id"],
    .new .get "/admin/v1/organizations/{organization_id}/members/{organization_member_id}"
      .organizationMemberRead (some "organization_member_id") ["organization_id", "organization_member_id"],
    .new .post "/admin/v1/organizations/{organization_id}/members/{organization_member_id}/status"
      .organizationMemberWrite (some "organization_member_id") ["organization_id", "organization_member_id"],
    .new .post "/admin/v1/organizations/{organization_id}/members/{organization_member_id}/remove"
      .organizationMemberWrite (some "organization_member_id") ["organization_id", "organization_member_id"],
    .new .get "/admin/v1/organizations/{organization_id}/invitations"
      .organizationInvitationRead none ["organization_id"],
    .new .post "/admin/v1/organizations/{organization_id}/invitations"
      .organizationInvitationCreate none ["organization_id"],
    .new .get "/admin/v1/organizations/{organization_id}/invitations/{invitation_id}"
      .organizationInvitationRead (some "invitation_id") ["organization_id", "invitation_id"],
    .new .post "/admin/v1/organizations/{organization_id}/invitations/{invitation_id}/revoke"
      .organizationInvitationManage (some "invitation_id") ["organization_id", "invitation_id"],
    .new .get "/admin/v1/projects/{project_id}/members" .projectMemberRead none ["project_id"],
    .new .post "/admin/v1/projects/{project_id}/members" .projectMemberWrite none ["project_id"],
    .new .get "/admin/v1/projects/{project_id}/members/{project_member_id}"
      .projectMemberRead (some "project_member_id") ["project_id", "project_member_id"],
    .new .post "/admin/v1/projects/{project_id}/members/{project_member_id}/status"
      .projectMemberWrite (some "project_member_id") ["project_id", "project_member_id"],
    .new .post "/admin/v1/secret-refs" .secretRefWrite none [],
    .new .get "/admin/v1/secret-refs" .secretRefRead none [],
    .new .get "/admin/v1/secret-refs/{secret_ref_id}" .secretRefRead (some "secret_ref_id") ["secret_ref_id"],
    .withAccess .get "/auth/v1/providers" .identityProviderRead none [] .publicAccess,
    .withAccess .post "/auth/v1/providers/{identity_provider_id}/start"
      .identityProviderRead none ["identity_provider_id"] .publicAccess,
    .withAccess .get "/auth/v1/providers/{identity_provider_id}/login"
      .identityProviderRead none ["identity_provider_id"] .publicAccess,
    .withAccess .post "/auth/v1/providers/{identity_provider_id}/callback"
      .authSessionCreate none ["identity_provider_id"] .publicAccess,
    .withAccess .post "/auth/v1/single-user/login" .authSessionCreate none [] .publicAccess,
    .withAccess .get "/auth/v1/invitations/{invitation_token}/preview"
      .organizationInvitationRead (some "invitation_token") ["invitation_token"] .publicAccess,
    .withAccess .post "/auth/v1/invitations/{invitation_token}/accept"
      .organizationInvitationAccept (some "invitation_token") ["invitation_token"] .session,
    .withAccess .get "/auth/v1/session" .authSessionRead none [] .session,
    .withAccess .post "/auth/v1/session/active-organization" .authSessionUpdate none [] .session,
    .withAccess .post "/auth/v1/session/active-project" .authSessionUpdate none [] .session,
    .withAccess .post "/auth/v1/logout" .authSessionRevoke none [] .session]

def foundationRoutes : List RouteMetadata := platformRoutes

structure MatchedRoute where
  route : RouteMetadata
  params : Index String

def platformMethod (method : String) : Option HttpMethod :=
  if method = "DELETE" then some .delete
  else if method = "GET" then some .get
  else if method = "POST" then some .post
  else none

def byteLength (text : List Char) : ℕ := (text.map Char.utf8Size).sum

def pathSegments (path : List Char) : List (List Char) :=
  (((path.dropWhile (· == '/')).rdropWhile (· == '/')).splitOn '/').filter fun segment => !segment.isEmpty

/-- The slices are cut at characters; the source cuts at the bytes where these characters begin. -/
def matchSegment (patternSegment pathSegment : List Char) (params : Index String) : Option (Index String) :=
  match patternSegment.idxOf? '{' with
  | none => if patternSegment = pathSegment then some params else none
  | some opening => do
    let close := (← (patternSegment.drop (opening + 1)).idxOf? '}') + opening + 1
    let before := patternSegment.take opening
    let name := (patternSegment.take close).drop (opening + 1)
    let after := patternSegment.drop (close + 1)
    if name = [] ∨ ¬before <+: pathSegment ∨ ¬after <:+ pathSegment ∨
        byteLength pathSegment < byteLength before + byteLength after then none
    else
      let valueEnd := pathSegment.length - after.length
      let value := (pathSegment.take valueEnd).drop before.length
      if value = [] then none else some (params.insert (String.ofList name) (String.ofList value))

def matchPathPattern (pattern path : String) : Option (Index String) :=
  let patternSegments := pathSegments pattern.toList
  let segments := pathSegments path.toList
  if patternSegments.length ≠ segments.length then none
  else (patternSegments.zip segments).foldlM (fun params pair => matchSegment pair.1 pair.2 params) ∅

/-- The search of the source, in a table given as an argument. -/
def matchRouteIn (routes : List RouteMetadata) (method path : String) : Option MatchedRoute := do
  let platformMethod ← platformMethod method
  (routes.filter (·.method == platformMethod)).findSome? fun route =>
    (matchPathPattern route.pathPattern path).map fun params => ⟨route, params⟩

def matchRoute (method path : String) : Option MatchedRoute := matchRouteIn foundationRoutes method path

end Starweaver.Platform
