import Starweaver.Gateway.Authentication

namespace Starweaver.Gateway.Tenancy

inductive GatewayAction
  | tenantRead | tenantWrite | identityProviderRead | identityProviderWrite | userRead | userWrite
  | userDisable | externalIdentityRead | externalIdentityUnlink | sessionRead | sessionRevoke | sessionUpdate
  | serviceAccountRead | serviceAccountWrite | serviceAccountDisable | organizationRead | organizationWrite
  | organizationMemberRead | organizationMemberWrite | organizationInviteRead | organizationInviteCreate
  | organizationInviteManage | organizationInviteAccept | projectRead | projectWrite | projectMemberRead
  | projectMemberWrite | callerCredentialRead | callerCredentialDisable | actionGrantRead | actionGrantWrite
  | providerEndpointRead | providerEndpointWrite | upstreamCredentialRead | upstreamCredentialWrite
  | upstreamCredentialRotate | secretRefRead | secretRefWrite | secretRefLocatorRead | codexOAuthConnectionRead
  | codexOAuthConnectionWrite | codexOAuthSessionRead | codexOAuthSessionStart | codexOAuthSessionRevoke
  | codexOAuthRefreshRead | modelTargetRead | modelTargetWrite | modelAliasRead | modelAliasWrite
  | pricingSkuRead | pricingSkuWrite | routingGroupRead | routingGroupWrite | routePolicyRead
  | routePolicyWrite | providerGrantRead | providerGrantWrite | quotaPolicyRead | quotaPolicyWrite
  | admissionPolicyRead | admissionPolicyWrite | redactionPolicyRead | redactionPolicyWrite | apiKeyCreate
  | apiKeyRead | apiKeyRotate | apiKeyDisable | roleRead | roleWrite | roleBindingRead | roleBindingWrite
  | policyRead | policyWrite | budgetPolicyRead | budgetPolicyWrite | configRead | configApply | configPublish
  | configRollback | routeSimulationRun | catalogImportCreate | catalogImportRead | maintenanceWindowRead
  | maintenanceWindowWrite | modelInvoke | modelStream | modelNative | routeDebugRead | usageRead
  | usageSummaryRead | usageEventRead | realtimeDashboardRead | dashboardTenantRead | dashboardOrganizationRead
  | dashboardProjectRead | dashboardProjectMemberRead | dashboardApiKeyRead | dashboardServiceAccountRead
  | modelObservabilityRead | providerObservabilityRead | budgetDashboardRead | quotaDashboardRead | auditRead
  | exportRead | exportCreate | notificationRead | notificationWrite | notificationOutboxWrite
  | observabilityExportRead | observabilityExportWrite | healthRead | providerHealthOverride | emergencyDisable
  | debugCaptureEnable
deriving DecidableEq, Repr

def GatewayAction.asStr : GatewayAction → String
  | .tenantRead => "gateway.tenant.read"
  | .tenantWrite => "gateway.tenant.write"
  | .identityProviderRead => "gateway.identity_provider.read"
  | .identityProviderWrite => "gateway.identity_provider.write"
  | .userRead => "gateway.user.read"
  | .userWrite => "gateway.user.write"
  | .userDisable => "gateway.user.disable"
  | .externalIdentityRead => "gateway.external_identity.read"
  | .externalIdentityUnlink => "gateway.external_identity.unlink"
  | .sessionRead => "gateway.session.read"
  | .sessionRevoke => "gateway.session.revoke"
  | .sessionUpdate => "gateway.session.update"
  | .serviceAccountRead => "gateway.service_account.read"
  | .serviceAccountWrite => "gateway.service_account.write"
  | .serviceAccountDisable => "gateway.service_account.disable"
  | .organizationRead => "gateway.organization.read"
  | .organizationWrite => "gateway.organization.write"
  | .organizationMemberRead => "gateway.organization_member.read"
  | .organizationMemberWrite => "gateway.organization_member.write"
  | .organizationInviteRead => "gateway.organization_invite.read"
  | .organizationInviteCreate => "gateway.organization_invite.create"
  | .organizationInviteManage => "gateway.organization_invite.manage"
  | .organizationInviteAccept => "gateway.organization_invite.accept"
  | .projectRead => "gateway.project.read"
  | .projectWrite => "gateway.project.write"
  | .projectMemberRead => "gateway.project_member.read"
  | .projectMemberWrite => "gateway.project_member.write"
  | .callerCredentialRead => "gateway.caller_credential.read"
  | .callerCredentialDisable => "gateway.caller_credential.disable"
  | .actionGrantRead => "gateway.action_grant.read"
  | .actionGrantWrite => "gateway.action_grant.write"
  | .providerEndpointRead => "gateway.provider_endpoint.read"
  | .providerEndpointWrite => "gateway.provider_endpoint.write"
  | .upstreamCredentialRead => "gateway.upstream_credential.read"
  | .upstreamCredentialWrite => "gateway.upstream_credential.write"
  | .upstreamCredentialRotate => "gateway.upstream_credential.rotate"
  | .secretRefRead => "gateway.secret_ref.read"
  | .secretRefWrite => "gateway.secret_ref.write"
  | .secretRefLocatorRead => "gateway.secret_ref.locator.read"
  | .codexOAuthConnectionRead => "gateway.codex_oauth_connection.read"
  | .codexOAuthConnectionWrite => "gateway.codex_oauth_connection.write"
  | .codexOAuthSessionRead => "gateway.codex_oauth_session.read"
  | .codexOAuthSessionStart => "gateway.codex_oauth_session.start"
  | .codexOAuthSessionRevoke => "gateway.codex_oauth_session.revoke"
  | .codexOAuthRefreshRead => "gateway.codex_oauth_refresh.read"
  | .modelTargetRead => "gateway.model_target.read"
  | .modelTargetWrite => "gateway.model_target.write"
  | .modelAliasRead => "gateway.model_alias.read"
  | .modelAliasWrite => "gateway.model_alias.write"
  | .pricingSkuRead => "gateway.pricing_sku.read"
  | .pricingSkuWrite => "gateway.pricing_sku.write"
  | .routingGroupRead => "gateway.routing_group.read"
  | .routingGroupWrite => "gateway.routing_group.write"
  | .routePolicyRead => "gateway.route_policy.read"
  | .routePolicyWrite => "gateway.route_policy.write"
  | .providerGrantRead => "gateway.provider_grant.read"
  | .providerGrantWrite => "gateway.provider_grant.write"
  | .quotaPolicyRead => "gateway.quota_policy.read"
  | .quotaPolicyWrite => "gateway.quota_policy.write"
  | .admissionPolicyRead => "gateway.admission_policy.read"
  | .admissionPolicyWrite => "gateway.admission_policy.write"
  | .redactionPolicyRead => "gateway.redaction_policy.read"
  | .redactionPolicyWrite => "gateway.redaction_policy.write"
  | .apiKeyCreate => "gateway.api_key.create"
  | .apiKeyRead => "gateway.api_key.read"
  | .apiKeyRotate => "gateway.api_key.rotate"
  | .apiKeyDisable => "gateway.api_key.disable"
  | .roleRead => "gateway.role.read"
  | .roleWrite => "gateway.role.write"
  | .roleBindingRead => "gateway.role_binding.read"
  | .roleBindingWrite => "gateway.role_binding.write"
  | .policyRead => "gateway.policy.read"
  | .policyWrite => "gateway.policy.write"
  | .budgetPolicyRead => "gateway.budget_policy.read"
  | .budgetPolicyWrite => "gateway.budget_policy.write"
  | .configRead => "gateway.config.read"
  | .configApply => "gateway.config.apply"
  | .configPublish => "gateway.config.publish"
  | .configRollback => "gateway.config.rollback"
  | .routeSimulationRun => "gateway.route_simulation.run"
  | .catalogImportCreate => "gateway.catalog_import.create"
  | .catalogImportRead => "gateway.catalog_import.read"
  | .maintenanceWindowRead => "gateway.maintenance_window.read"
  | .maintenanceWindowWrite => "gateway.maintenance_window.write"
  | .modelInvoke => "gateway.model.invoke"
  | .modelStream => "gateway.model.stream"
  | .modelNative => "gateway.model.native"
  | .routeDebugRead => "gateway.route.debug.read"
  | .usageRead => "gateway.usage.read"
  | .usageSummaryRead => "gateway.usage.summary.read"
  | .usageEventRead => "gateway.usage.event.read"
  | .realtimeDashboardRead => "gateway.realtime_dashboard.read"
  | .dashboardTenantRead => "gateway.dashboard.tenant.read"
  | .dashboardOrganizationRead => "gateway.dashboard.organization.read"
  | .dashboardProjectRead => "gateway.dashboard.project.read"
  | .dashboardProjectMemberRead => "gateway.dashboard.project_member.read"
  | .dashboardApiKeyRead => "gateway.dashboard.api_key.read"
  | .dashboardServiceAccountRead => "gateway.dashboard.service_account.read"
  | .modelObservabilityRead => "gateway.model_observability.read"
  | .providerObservabilityRead => "gateway.provider_observability.read"
  | .budgetDashboardRead => "gateway.budget_dashboard.read"
  | .quotaDashboardRead => "gateway.quota_dashboard.read"
  | .auditRead => "gateway.audit.read"
  | .exportRead => "gateway.export.read"
  | .exportCreate => "gateway.export.create"
  | .notificationRead => "gateway.notification.read"
  | .notificationWrite => "gateway.notification.write"
  | .notificationOutboxWrite => "gateway.notification_outbox.write"
  | .observabilityExportRead => "gateway.observability_export.read"
  | .observabilityExportWrite => "gateway.observability_export.write"
  | .healthRead => "gateway.health.read"
  | .providerHealthOverride => "gateway.provider_health.override"
  | .emergencyDisable => "gateway.emergency.disable"
  | .debugCaptureEnable => "gateway.debug_capture.enable"

def GatewayAction.canonicalActions : List GatewayAction :=
  [.tenantRead, .tenantWrite, .identityProviderRead, .identityProviderWrite, .userRead, .userWrite,
    .userDisable, .externalIdentityRead, .externalIdentityUnlink, .sessionRead, .sessionRevoke, .sessionUpdate,
    .serviceAccountRead, .serviceAccountWrite, .serviceAccountDisable, .organizationRead, .organizationWrite,
    .organizationMemberRead, .organizationMemberWrite, .organizationInviteRead, .organizationInviteCreate,
    .organizationInviteManage, .organizationInviteAccept, .projectRead, .projectWrite, .projectMemberRead,
    .projectMemberWrite, .callerCredentialRead, .callerCredentialDisable, .actionGrantRead, .actionGrantWrite,
    .providerEndpointRead, .providerEndpointWrite, .upstreamCredentialRead, .upstreamCredentialWrite,
    .upstreamCredentialRotate, .secretRefRead, .secretRefWrite, .secretRefLocatorRead,
    .codexOAuthConnectionRead, .codexOAuthConnectionWrite, .codexOAuthSessionRead, .codexOAuthSessionStart,
    .codexOAuthSessionRevoke, .codexOAuthRefreshRead, .modelTargetRead, .modelTargetWrite, .modelAliasRead,
    .modelAliasWrite, .pricingSkuRead, .pricingSkuWrite, .routingGroupRead, .routingGroupWrite,
    .routePolicyRead, .routePolicyWrite, .providerGrantRead, .providerGrantWrite, .quotaPolicyRead,
    .quotaPolicyWrite, .admissionPolicyRead, .admissionPolicyWrite, .redactionPolicyRead,
    .redactionPolicyWrite, .apiKeyCreate, .apiKeyRead, .apiKeyRotate, .apiKeyDisable, .roleRead, .roleWrite,
    .roleBindingRead, .roleBindingWrite, .policyRead, .policyWrite, .budgetPolicyRead, .budgetPolicyWrite,
    .configRead, .configApply, .configPublish, .configRollback, .routeSimulationRun, .catalogImportCreate,
    .catalogImportRead, .maintenanceWindowRead, .maintenanceWindowWrite, .modelInvoke, .modelStream,
    .modelNative, .routeDebugRead, .usageRead, .usageSummaryRead, .usageEventRead, .realtimeDashboardRead,
    .dashboardTenantRead, .dashboardOrganizationRead, .dashboardProjectRead, .dashboardProjectMemberRead,
    .dashboardApiKeyRead, .dashboardServiceAccountRead, .modelObservabilityRead, .providerObservabilityRead,
    .budgetDashboardRead, .quotaDashboardRead, .auditRead, .exportRead, .exportCreate, .notificationRead,
    .notificationWrite, .notificationOutboxWrite, .observabilityExportRead, .observabilityExportWrite,
    .healthRead, .providerHealthOverride, .emergencyDisable, .debugCaptureEnable]

def GatewayAction.fromActionId (value : String) : Option GatewayAction :=
  canonicalActions.find? fun action => action.asStr == value

structure ResourceRef where
  kind : String
  id : String
deriving DecidableEq, Repr

structure ActionGrant where
  tenantId : String
  organizationId : Option String
  projectId : Option String
  principalId : String
  action : GatewayAction
  resourceKind : String
  resourceId : String
deriving DecidableEq, Repr

structure AuthorizationRequest where
  actor : CredentialedActor
  action : GatewayAction
  resource : ResourceRef

structure AuthorizationDecision where
  allowed : Bool
  reason : String
deriving DecidableEq, Repr

def AuthorizationDecision.allow : AuthorizationDecision := ⟨true, "allowed"⟩

def AuthorizationDecision.deny (reason : String) : AuthorizationDecision := ⟨false, reason⟩

section Engine

def optionalScopeMatch (grantScope actorScope : Option String) : Bool :=
  grantScope.all fun scope => actorScope == some scope

def resourceMatches (grant : ActionGrant) (resource : ResourceRef) : Bool :=
  grant.resourceKind == resource.kind && (grant.resourceId == "*" || grant.resourceId == resource.id)

def apiKeyAllowsAction (allowedActions : List String) (action : GatewayAction) : Bool :=
  allowedActions.isEmpty || allowedActions.any fun allowed => allowed == action.asStr || allowed == "*"

def apiKeyAllowsResource (allowedResources : List String) (resource : ResourceRef) : Bool :=
  allowedResources.isEmpty || allowedResources.any fun allowed =>
    allowed == "*" || allowed == resource.id || allowed == s!"{resource.kind}:{resource.id}" ||
      allowed == s!"{resource.kind}:*"

def grantAllows (grant : ActionGrant) (request : AuthorizationRequest) : Bool :=
  match request.actor.principalId with
  | none => false
  | some principalId =>
    grant.tenantId == request.actor.tenantId &&
      optionalScopeMatch grant.organizationId request.actor.organizationId &&
      optionalScopeMatch grant.projectId request.actor.projectId && grant.principalId == principalId &&
      grant.action == request.action && resourceMatches grant request.resource

def gatewayPreflightDecision (request : AuthorizationRequest) : Option AuthorizationDecision :=
  if request.actor.apiKeyId.isSome ∧ (request.action = .configPublish ∨ request.action = .configRollback ∨
      request.action = .observabilityExportWrite) then some (.deny "api_key_strong_auth_required")
  else if request.actor.apiKeyId.isSome ∧ !apiKeyAllowsAction request.actor.apiKeyAllowedActions request.action then
    some (.deny "api_key_action_not_granted")
  else if request.actor.apiKeyId.isSome ∧
      !apiKeyAllowsResource request.actor.apiKeyAllowedResources request.resource then
    some (.deny "api_key_resource_not_granted")
  else none

/-- An engine decides on a request; the foundation engine does so from a list of grants. -/
abbrev AuthorizationEngine := AuthorizationRequest → AuthorizationDecision

def foundationAuthorizationEngine (grants : List ActionGrant) : AuthorizationEngine := fun request =>
  match gatewayPreflightDecision request with
  | some decision => decision
  | none =>
    if request.action = .modelNative then .deny "native_route_grant_required"
    else if !grants.any (grantAllows · request) then .deny "principal_action_not_granted"
    else .allow

end Engine

section Routes

def CredentialedActor.authStrength (actor : CredentialedActor) : Nat :=
  match actor.actorKind with
  | .apiKey => 50
  | .user => 80
  | .serviceAccount => 70
  | .internalService => 90
  | .system => 100

structure RouteMetadata where
  action : GatewayAction
  resourceKind : String
  allowApiKey : Bool
  strongAuthRequired : Bool

/-- The route `POST /admin/v1/api-keys`. -/
def apiKeyCreateRoute : RouteMetadata := ⟨.apiKeyCreate, "ApiKey", false, true⟩

def RouteMetadata.actorConstraintDenial (route : RouteMetadata) (actor : CredentialedActor) : Option String :=
  if actor.apiKeyId.isSome ∧ !route.allowApiKey then some "api_key_not_allowed_for_route"
  else if route.strongAuthRequired ∧ actor.authStrength < 80 then some "strong_auth_required"
  else none

def authorizeRoute (route : RouteMetadata) (engine : AuthorizationEngine) (actor : CredentialedActor)
    (resourceId : String) : AuthorizationDecision :=
  match route.actorConstraintDenial actor with
  | some reason => .deny reason
  | none => engine ⟨actor, route.action, ⟨route.resourceKind, resourceId⟩⟩

/-- What an admin request meets: whether a config freeze rejects it, and the engine of its tenant. -/
structure AdminAuthorization where
  configFreeze : Result Unit
  engine : Result AuthorizationEngine

def authorizeAdminRoute (authorization : AdminAuthorization) (route : RouteMetadata) (actor : CredentialedActor)
    (resourceId : String) : Result Unit := do
  authorization.configFreeze
  let engine ← authorization.engine
  let decision := authorizeRoute route engine actor resourceId
  if decision.allowed then .ok () else .error (.authorization decision.reason)

end Routes

end Starweaver.Gateway.Tenancy
