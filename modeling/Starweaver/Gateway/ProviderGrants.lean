import Starweaver.Gateway.Catalog

namespace Starweaver.Gateway

structure ProviderGrantPathNode where
  kind : ProviderGrantResourceKind
  id : String
deriving DecidableEq, Repr

structure ProviderGrantPath where
  modelAlias : ModelAliasConfig
  policy : RoutePolicyConfig
  group : RoutingGroupConfig
  target : ModelTargetConfig
  endpoint : ProviderEndpoint

namespace ProviderGrantPath

def nodes (path : ProviderGrantPath) : List ProviderGrantPathNode :=
  [⟨.modelAlias, path.modelAlias.modelAliasId⟩, ⟨.routePolicy, path.policy.routePolicyId⟩,
    ⟨.routingGroup, path.group.routingGroupId⟩, ⟨.modelTarget, path.target.modelTargetId⟩,
    ⟨.providerEndpoint, path.endpoint.providerEndpointId⟩]

def position (path : ProviderGrantPath) (kind : ProviderGrantResourceKind) (id : String) : Option Nat :=
  path.nodes.findIdx? (fun node => node.kind == kind && node.id == id)

end ProviderGrantPath

def optionalMatch (expected actual : Option String) : Bool :=
  match expected with
  | none => true
  | some expected => some expected == actual

def grantMatchesScope (grant : ProviderGrantConfig) (actor : AuthenticatedActor)
    (scopeKind : ProviderGrantScopeKind) (scopeId : String) : Bool :=
  grant.tenantId == actor.tenantId && grantScopeKind grant == some scopeKind &&
    grantScopeId grant == some scopeId && optionalMatch grant.principalId actor.principalId

def grantIsAncestorOrSelf (path : ProviderGrantPath) (grantKind : ProviderGrantResourceKind)
    (grantResourceId : String) (node : ProviderGrantPathNode) : Bool :=
  match path.position grantKind grantResourceId, path.position node.kind node.id with
  | some grantPosition, some nodePosition => decide (grantPosition ≤ nodePosition)
  | _, _ => false

def grantAppliesToNode (grant : ProviderGrantConfig) (path : ProviderGrantPath) (node : ProviderGrantPathNode) :
    Bool :=
  match grant.resourceKind, grant.resourceId with
  | some grantKind, some grantResourceId =>
    match grant.closureMode with
    | .selfOnly => node.kind == grantKind && node.id == grantResourceId
    | .includeDescendants =>
      grant.effect == .allow && grantIsAncestorOrSelf path grantKind grantResourceId node
    | .denyDescendants =>
      grant.effect == .deny && grantIsAncestorOrSelf path grantKind grantResourceId node
  | _, _ => false

namespace GatewayCatalogSnapshot

variable (catalog : GatewayCatalogSnapshot) (actor : AuthenticatedActor)

def hasSpecProviderGrants : Bool :=
  catalog.providerGrants.any fun grant =>
    grant.status.isActive && grant.tenantId == actor.tenantId && grant.isSpecShape

def legacyProviderGrantAllows (endpoint : ProviderEndpoint) (target : ModelTargetConfig) : Bool :=
  catalog.providerGrants.any fun grant =>
    grant.status.isActive && grant.tenantId == actor.tenantId &&
      optionalMatch grant.organizationId actor.organizationId &&
      optionalMatch grant.projectId actor.projectId &&
      optionalMatch grant.principalId actor.principalId &&
      grant.providerEndpointId == some endpoint.providerEndpointId &&
      grant.modelTargetId.all (fun modelTargetId => modelTargetId == target.modelTargetId)

/-- Whether some active grant of the scope, with the given effect, reaches the node. -/
def specScopeReachesNode (effect : ProviderGrantEffect) (scopeKind : ProviderGrantScopeKind) (scopeId : String)
    (path : ProviderGrantPath) (node : ProviderGrantPathNode) : Bool :=
  catalog.providerGrants.any fun grant =>
    grant.status.isActive && grant.effect == effect && grantMatchesScope grant actor scopeKind scopeId &&
      grantAppliesToNode grant path node

def specScopeAllowsNode := catalog.specScopeReachesNode actor .allow

def specScopeDeniesNode := catalog.specScopeReachesNode actor .deny

def projectHasAllowForKind (projectId : String) (resourceKind : ProviderGrantResourceKind) : Bool :=
  catalog.providerGrants.any fun grant =>
    grant.status.isActive && grant.effect == .allow && grantMatchesScope grant actor .project projectId &&
      grant.resourceKind == some resourceKind

def scopeAllowsAllPathNodes (scopeKind : ProviderGrantScopeKind) (scopeId : String) (path : ProviderGrantPath) :
    Bool :=
  path.nodes.all fun node =>
    catalog.specScopeAllowsNode actor scopeKind scopeId path node &&
      !catalog.specScopeDeniesNode actor scopeKind scopeId path node

def projectScopeInheritsOrNarrows (projectId : String) (path : ProviderGrantPath) : Bool :=
  path.nodes.all fun node =>
    if catalog.specScopeDeniesNode actor .project projectId path node then false
    else if catalog.projectHasAllowForKind actor projectId node.kind &&
        !catalog.specScopeAllowsNode actor .project projectId path node then false
    else true

def specProviderGrantAllows (path : ProviderGrantPath) : Bool :=
  match actor.organizationId with
  | none => false
  | some organizationId =>
    if !catalog.scopeAllowsAllPathNodes actor .organization organizationId path then false
    else match actor.projectId with
      | none => true
      | some projectId => catalog.projectScopeInheritsOrNarrows actor projectId path

def providerGrantAllows (path : ProviderGrantPath) : Bool :=
  if !catalog.hasSpecProviderGrants actor then
    catalog.legacyProviderGrantAllows actor path.endpoint path.target
  else catalog.specProviderGrantAllows actor path

end GatewayCatalogSnapshot

end Starweaver.Gateway
