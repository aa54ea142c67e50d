import Starweaver.Library.Checks
import Starweaver.Gateway.Domain

namespace Starweaver.Gateway

open Library.Checks

inductive CredentialStatus
  | active
  | rotating
  | disabled
  | expired
  | error
  | deleted
deriving DecidableEq, Repr

def CredentialStatus.isUsable : CredentialStatus → Bool
  | .active | .rotating => true
  | _ => false

structure UpstreamCredentialConfig where
  upstreamCredentialId : String
  tenantId : String
  providerEndpointId : String
  credentialKind : String
  secretRefId : String
  status : CredentialStatus
deriving DecidableEq, Repr

structure ModelTargetConfig where
  modelTargetId : String
  tenantId : String
  providerEndpointId : String
  upstreamCredentialId : Option String
  protocolFamily : ProtocolFamily
  upstreamModelId : String
  pricingSkuId : Option String
  status : ResourceStatus
  supportsStreaming : Bool
deriving DecidableEq, Repr

structure ModelAliasConfig where
  modelAliasId : String
  tenantId : String
  organizationId : Option String
  projectId : Option String
  aliasName : String
  protocolFamily : ProtocolFamily
  routePolicyId : String
  status : ResourceStatus
deriving DecidableEq, Repr

structure RoutingGroupConfig where
  routingGroupId : String
  tenantId : String
  status : ResourceStatus
deriving DecidableEq, Repr

structure RoutingGroupTargetConfig where
  routingGroupTargetId : String
  routingGroupId : String
  modelTargetId : String
  weight : UInt32
  priority : UInt32
  status : ResourceStatus
deriving DecidableEq, Repr

structure RoutePolicyConfig where
  routePolicyId : String
  tenantId : String
  modelAliasId : String
  routingGroupId : String
  status : ResourceStatus
  stickyTtlSeconds : Option Int
deriving DecidableEq, Repr

inductive ProviderGrantScopeKind
  | organization
  | project
deriving DecidableEq, Repr

inductive ProviderGrantResourceKind
  | modelAlias
  | routePolicy
  | routingGroup
  | modelTarget
  | providerEndpoint
  | pricingSku
deriving DecidableEq, Repr

inductive ProviderGrantEffect
  | allow
  | deny
deriving DecidableEq, Repr

inductive ProviderGrantClosureMode
  | selfOnly
  | includeDescendants
  | denyDescendants
deriving DecidableEq, Repr

structure ProviderGrantConfig where
  providerGrantId : String
  tenantId : String
  scopeKind : Option ProviderGrantScopeKind := none
  scopeId : Option String := none
  organizationId : Option String := none
  projectId : Option String := none
  principalId : Option String := none
  resourceKind : Option ProviderGrantResourceKind := none
  resourceId : Option String := none
  effect : ProviderGrantEffect := .allow
  closureMode : ProviderGrantClosureMode := .selfOnly
  providerEndpointId : Option String := none
  modelTargetId : Option String := none
  status : ResourceStatus
deriving DecidableEq, Repr

def ProviderGrantConfig.isSpecShape (grant : ProviderGrantConfig) : Bool :=
  grant.scopeKind.isSome || grant.scopeId.isSome || grant.resourceKind.isSome || grant.resourceId.isSome ||
    grant.effect != .allow || grant.closureMode != .selfOnly

structure GatewayCatalogSnapshot where
  providerEndpoints : List ProviderEndpoint
  upstreamCredentials : List UpstreamCredentialConfig
  modelTargets : List ModelTargetConfig
  modelAliases : List ModelAliasConfig
  routingGroups : List RoutingGroupConfig
  routingGroupTargets : List RoutingGroupTargetConfig
  routePolicies : List RoutePolicyConfig
  providerGrants : List ProviderGrantConfig
deriving DecidableEq, Repr

structure ParsedUri where
  scheme : Option String
  hasAuthority : Bool
deriving DecidableEq, Repr

abbrev Index (α : Type) := AList (fun _ : String => α)

def invalidCatalog {α : Type} (message : String) : Result α := .error (.badRequest message)

def indexEndpoints (endpoints : List ProviderEndpoint) : Result (Index ProviderEndpoint) :=
  indexBy (·.providerEndpointId) (fun id => .badRequest s!"duplicate provider endpoint {id}") endpoints

def indexCredentials (credentials : List UpstreamCredentialConfig) : Result (Index UpstreamCredentialConfig) :=
  indexBy (·.upstreamCredentialId) (fun id => .badRequest s!"duplicate upstream credential {id}") credentials

def indexTargets (targets : List ModelTargetConfig) : Result (Index ModelTargetConfig) :=
  indexBy (·.modelTargetId) (fun id => .badRequest s!"duplicate model target {id}") targets

def indexAliases (aliases : List ModelAliasConfig) : Result (Index ModelAliasConfig) :=
  indexBy (·.modelAliasId) (fun id => .badRequest s!"duplicate model alias {id}") aliases

def indexGroups (groups : List RoutingGroupConfig) : Result (Index RoutingGroupConfig) :=
  indexBy (·.routingGroupId) (fun id => .badRequest s!"duplicate routing group {id}") groups

def indexPolicies (policies : List RoutePolicyConfig) : Result (Index RoutePolicyConfig) :=
  indexBy (·.routePolicyId) (fun id => .badRequest s!"duplicate route policy {id}") policies

def groupTargetsByGroup (groupTargets : List RoutingGroupTargetConfig) : Index (List RoutingGroupTargetConfig) :=
  groupTargets.foldl (fun index groupTarget =>
    index.insert groupTarget.routingGroupId
      ((index.lookup groupTarget.routingGroupId).getD [] ++ [groupTarget])) ∅

def grantScopeKind (grant : ProviderGrantConfig) : Option ProviderGrantScopeKind :=
  grant.scopeKind.or
    (if grant.projectId.isSome then some .project
    else if grant.organizationId.isSome then some .organization
    else none)

def grantScopeId (grant : ProviderGrantConfig) : Option String :=
  grant.scopeId.or (grant.projectId.or grant.organizationId)

section Validation

variable (parseUri : String → Except String ParsedUri)

def validateEndpoint (endpoint : ProviderEndpoint) : Result Unit :=
  if endpoint.protocolFamilies.isEmpty then
    invalidCatalog s!"provider endpoint {endpoint.providerEndpointId} has no protocol families"
  else match parseUri endpoint.upstreamBaseUrl with
    | .error error =>
      .error (.badRequest
        s!"provider endpoint {endpoint.providerEndpointId} has invalid upstream_base_url: {error}")
    | .ok uri =>
      if (uri.scheme != some "http" && uri.scheme != some "https") || !uri.hasAuthority then
        invalidCatalog
          s!"provider endpoint {endpoint.providerEndpointId} upstream_base_url must be absolute http or https"
      else .ok ()

def validateEndpoints (endpoints : List ProviderEndpoint) : Result Unit :=
  checkAll (validateEndpoint parseUri) endpoints

end Validation

def validateCredentialKind (endpoint : ProviderEndpoint) (credential : UpstreamCredentialConfig) : Result Unit :=
  if credential.secretRefId.isEmpty then
    invalidCatalog s!"upstream credential {credential.upstreamCredentialId} has empty secret_ref_id"
  else if credential.credentialKind == "codex_oauth" && endpoint.providerKind != "codex" then
    invalidCatalog
      s!"upstream credential {credential.upstreamCredentialId} uses codex_oauth outside codex provider"
  else if "oauth".toList.isSuffixOf credential.credentialKind.toList && credential.credentialKind != "codex_oauth" then
    invalidCatalog
      s!"upstream credential {credential.upstreamCredentialId} uses unsupported generic upstream OAuth"
  else .ok ()

def validateCredentials (credentials : List UpstreamCredentialConfig) (endpoints : Index ProviderEndpoint) :
    Result Unit :=
  checkAll (fun credential =>
    match endpoints.lookup credential.providerEndpointId with
    | none =>
      invalidCatalog
        s!"upstream credential {credential.upstreamCredentialId} references missing provider endpoint {credential.providerEndpointId}"
    | some endpoint => validateCredentialKind endpoint credential) credentials

def validateTargetEndpoint (target : ModelTargetConfig) (endpoint : ProviderEndpoint) : Result Unit :=
  if !endpoint.protocolFamilies.contains target.protocolFamily then
    invalidCatalog
      s!"model target {target.modelTargetId} protocol {target.protocolFamily.asStr} is not supported by provider endpoint {endpoint.providerEndpointId}"
  else .ok ()

def validateTargetCredential (target : ModelTargetConfig) (credentials : Index UpstreamCredentialConfig) :
    Result Unit :=
  match target.upstreamCredentialId with
  | none => .ok ()
  | some credentialId =>
    match credentials.lookup credentialId with
    | none =>
      invalidCatalog
        s!"model target {target.modelTargetId} references missing upstream credential {credentialId}"
    | some credential =>
      if credential.providerEndpointId != target.providerEndpointId then
        invalidCatalog
          s!"model target {target.modelTargetId} credential {credentialId} belongs to another endpoint"
      else if !credential.status.isUsable then
        invalidCatalog
          s!"model target {target.modelTargetId} references unusable upstream credential {credentialId}"
      else .ok ()

def validateTargets (targets : List ModelTargetConfig) (endpoints : Index ProviderEndpoint)
    (credentials : Index UpstreamCredentialConfig) : Result Unit :=
  checkAll (fun target =>
    match endpoints.lookup target.providerEndpointId with
    | none =>
      invalidCatalog
        s!"model target {target.modelTargetId} references missing provider endpoint {target.providerEndpointId}"
    | some endpoint => do
      validateTargetEndpoint target endpoint
      validateTargetCredential target credentials) targets

def validatePolicies (policies : List RoutePolicyConfig) (groups : Index RoutingGroupConfig)
    (groupTargets : Index (List RoutingGroupTargetConfig)) : Result Unit :=
  checkAll (fun policy =>
    if policy.stickyTtlSeconds.any (fun ttl => !(decide (60 ≤ ttl) && decide (ttl ≤ 86400))) then
      invalidCatalog
        s!"route policy {policy.routePolicyId} sticky_ttl_seconds must be between 60 and 86400"
    else if !(groups.lookup policy.routingGroupId).isSome then
      invalidCatalog
        s!"route policy {policy.routePolicyId} references missing routing group {policy.routingGroupId}"
    else if !(groupTargets.lookup policy.routingGroupId).isSome then
      invalidCatalog
        s!"route policy {policy.routePolicyId} references empty routing group {policy.routingGroupId}"
    else .ok ()) policies

def validateAliasPolicy (modelAlias : ModelAliasConfig) (policy : RoutePolicyConfig) : Result Unit :=
  if policy.modelAliasId != modelAlias.modelAliasId then
    invalidCatalog
      s!"model alias {modelAlias.modelAliasId} route policy {policy.routePolicyId} points at another alias"
  else .ok ()

def validateAliasTargets (modelAlias : ModelAliasConfig) (policy : RoutePolicyConfig)
    (targets : Index ModelTargetConfig) (groupTargets : Index (List RoutingGroupTargetConfig)) : Result Unit :=
  checkAll (fun groupTarget =>
    match targets.lookup groupTarget.modelTargetId with
    | none =>
      invalidCatalog
        s!"routing group target {groupTarget.routingGroupTargetId} references missing model target {groupTarget.modelTargetId}"
    | some target =>
      if target.protocolFamily != modelAlias.protocolFamily then
        invalidCatalog
          s!"model alias {modelAlias.modelAliasId} protocol {modelAlias.protocolFamily.asStr} does not match target {target.modelTargetId} protocol {target.protocolFamily.asStr}"
      else .ok ()) ((groupTargets.lookup policy.routingGroupId).getD [])

def validateAliases (aliases : List ModelAliasConfig) (policies : Index RoutePolicyConfig)
    (targets : Index ModelTargetConfig) (groupTargets : Index (List RoutingGroupTargetConfig)) : Result Unit :=
  checkAll (fun modelAlias =>
    match policies.lookup modelAlias.routePolicyId with
    | none =>
      invalidCatalog
        s!"model alias {modelAlias.modelAliasId} references missing route policy {modelAlias.routePolicyId}"
    | some policy => do
      validateAliasPolicy modelAlias policy
      validateAliasTargets modelAlias policy targets groupTargets) aliases

def validateLegacyProviderGrant (grant : ProviderGrantConfig) (targets : Index ModelTargetConfig)
    (endpoints : Index ProviderEndpoint) : Result Unit :=
  match grant.providerEndpointId with
  | none => invalidCatalog s!"provider grant {grant.providerGrantId} missing provider_endpoint_id"
  | some endpointId =>
    if !(endpoints.lookup endpointId).isSome then
      invalidCatalog
        s!"provider grant {grant.providerGrantId} references missing provider endpoint {endpointId}"
    else match grant.modelTargetId with
      | none => .ok ()
      | some targetId =>
        match targets.lookup targetId with
        | none =>
          invalidCatalog s!"provider grant {grant.providerGrantId} references missing model target {targetId}"
        | some target =>
          if target.providerEndpointId != endpointId then
            invalidCatalog
              s!"provider grant {grant.providerGrantId} target {targetId} belongs to another endpoint"
          else .ok ()

def validateProviderGrantClosureMode (grant : ProviderGrantConfig) : Result Unit :=
  if grant.effect == .allow && grant.closureMode == .denyDescendants then
    invalidCatalog s!"provider grant {grant.providerGrantId} cannot allow with deny_descendants"
  else if grant.effect == .deny && grant.closureMode == .includeDescendants then
    invalidCatalog s!"provider grant {grant.providerGrantId} cannot deny with include_descendants"
  else .ok ()

def grantResourceMissing {α : Type} (grant : ProviderGrantConfig) (label resourceId : String) (index : Index α) :
    Result Unit :=
  if !(index.lookup resourceId).isSome then
    invalidCatalog s!"provider grant {grant.providerGrantId} references missing {label} {resourceId}"
  else .ok ()

def validateSpecProviderGrant (grant : ProviderGrantConfig) (aliases : Index ModelAliasConfig)
    (policies : Index RoutePolicyConfig) (groups : Index RoutingGroupConfig) (targets : Index ModelTargetConfig)
    (endpoints : Index ProviderEndpoint) : Result Unit :=
  if (grantScopeKind grant).isNone || (grantScopeId grant).isNone then
    invalidCatalog s!"provider grant {grant.providerGrantId} missing scope_kind or scope_id"
  else match grant.resourceKind with
    | none => invalidCatalog s!"provider grant {grant.providerGrantId} missing resource_kind"
    | some resourceKind =>
      match grant.resourceId with
      | none => invalidCatalog s!"provider grant {grant.providerGrantId} missing resource_id"
      | some resourceId => do
        validateProviderGrantClosureMode grant
        match resourceKind with
        | .modelAlias => grantResourceMissing grant "model alias" resourceId aliases
        | .routePolicy => grantResourceMissing grant "route policy" resourceId policies
        | .routingGroup => grantResourceMissing grant "routing group" resourceId groups
        | .modelTarget => grantResourceMissing grant "model target" resourceId targets
        | .providerEndpoint => grantResourceMissing grant "provider endpoint" resourceId endpoints
        | .pricingSku => .ok ()

def validateProviderGrants (grants : List ProviderGrantConfig) (aliases : Index ModelAliasConfig)
    (policies : Index RoutePolicyConfig) (groups : Index RoutingGroupConfig) (targets : Index ModelTargetConfig)
    (endpoints : Index ProviderEndpoint) : Result Unit :=
  checkAll (fun grant =>
    if grant.isSpecShape then validateSpecProviderGrant grant aliases policies groups targets endpoints
    else validateLegacyProviderGrant grant targets endpoints) grants

def GatewayCatalogSnapshot.validate (parseUri : String → Except String ParsedUri)
    (catalog : GatewayCatalogSnapshot) : Result Unit := do
  let endpoints ← indexEndpoints catalog.providerEndpoints
  let credentials ← indexCredentials catalog.upstreamCredentials
  let targets ← indexTargets catalog.modelTargets
  let aliases ← indexAliases catalog.modelAliases
  let groups ← indexGroups catalog.routingGroups
  let groupTargets := groupTargetsByGroup catalog.routingGroupTargets
  let policies ← indexPolicies catalog.routePolicies
  validateEndpoints parseUri catalog.providerEndpoints
  validateCredentials catalog.upstreamCredentials endpoints
  validateTargets catalog.modelTargets endpoints credentials
  validatePolicies catalog.routePolicies groups groupTargets
  validateProviderGrants catalog.providerGrants aliases policies groups targets endpoints
  validateAliases catalog.modelAliases policies targets groupTargets

/-- The indexes that validation builds, which planning and the reference checks then share. -/
structure ValidatedIndexes (catalog : GatewayCatalogSnapshot) where
  endpoints : Index ProviderEndpoint
  credentials : Index UpstreamCredentialConfig
  targets : Index ModelTargetConfig
  groups : Index RoutingGroupConfig
  policies : Index RoutePolicyConfig
  endpoints_ok : indexEndpoints catalog.providerEndpoints = .ok endpoints
  credentials_ok : indexCredentials catalog.upstreamCredentials = .ok credentials
  targets_ok : indexTargets catalog.modelTargets = .ok targets
  groups_ok : indexGroups catalog.routingGroups = .ok groups
  policies_ok : indexPolicies catalog.routePolicies = .ok policies
  targets_valid : validateTargets catalog.modelTargets endpoints credentials = .ok ()
  policies_valid : validatePolicies catalog.routePolicies groups
    (groupTargetsByGroup catalog.routingGroupTargets) = .ok ()
  aliases_valid : validateAliases catalog.modelAliases policies targets
    (groupTargetsByGroup catalog.routingGroupTargets) = .ok ()

theorem GatewayCatalogSnapshot.validate_indexes {parseUri : String → Except String ParsedUri}
    {catalog : GatewayCatalogSnapshot} (h : catalog.validate parseUri = .ok ()) :
    Nonempty (ValidatedIndexes catalog) := by
  simp only [validate, bind_ok] at h
  obtain ⟨endpoints, he, credentials, hc, targets, ht, aliases, ha, groups, hg, policies, hp, _, -, _, -, _, htv, _, hpv, _, -, hav⟩ := h
  exact ⟨⟨endpoints, credentials, targets, groups, policies, he, hc, ht, hg, hp, htv, hpv, hav⟩⟩

end Starweaver.Gateway
