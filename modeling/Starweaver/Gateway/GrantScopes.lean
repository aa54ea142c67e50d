import Starweaver.Gateway.GrantMonotonicity

namespace Starweaver.Gateway

open Library.Checks

/-- The id that the grant is matched against is the one of the kind of scope that it resolves to. -/
def MatchedByOwnScope (grant : ProviderGrantConfig) : Prop :=
  (grantScopeKind grant = some .organization → grantScopeId grant = grant.organizationId) ∧
    (grantScopeKind grant = some .project → grantScopeId grant = grant.projectId)

/-- An active denial of the actor's organization, for its tenant and principal, on a resource of the path. -/
structure DeniesOrganization (grant : ProviderGrantConfig) (actor : AuthenticatedActor) (path : ProviderGrantPath) :
    Prop where
  active : grant.status.isActive = true
  effect : grant.effect = .deny
  scope : grantScopeKind grant = some .organization
  tenant : grant.tenantId = actor.tenantId
  organization : grant.organizationId.isSome = true ∧ grant.organizationId = actor.organizationId
  principal : optionalMatch grant.principalId actor.principalId = true
  resource : ∃ node ∈ path.nodes, grant.resourceKind = some node.kind ∧ grant.resourceId = some node.id

/-- The grant is matched by its own scope, and as a denial of the actor's organization it refuses the route. -/
def AppliesToOwnScope (catalog : GatewayCatalogSnapshot) (grant : ProviderGrantConfig) : Prop :=
  MatchedByOwnScope grant ∧
    ∀ actor path, DeniesOrganization grant actor path → catalog.providerGrantAllows actor path = false

/-- A named kind of scope comes with the id that the fallback finds: an organization has no other project before it,
and a project has its id. -/
def ScopeFieldsAgree (grant : ProviderGrantConfig) : Prop :=
  match grant.scopeKind with
  | none => True
  | some .organization => grant.projectId = none ∨ grant.projectId = grant.organizationId
  | some .project => grant.projectId.isSome = true

section Scopes

variable {grant : ProviderGrantConfig}

theorem matchedByOwnScope_of_noKind (hscope : grant.scopeId = none) (hkind : grant.scopeKind = none) :
    MatchedByOwnScope grant := by
  unfold MatchedByOwnScope grantScopeKind grantScopeId
  rw [hscope, hkind]
  cases hproject : grant.projectId with
  | none => cases horganization : grant.organizationId <;> simp
  | some projectId => simp

theorem matchedByOwnScope_iff (hscope : grant.scopeId = none) (hid : grantScopeId grant ≠ none) :
    MatchedByOwnScope grant ↔ ScopeFieldsAgree grant := by
  cases hkind : grant.scopeKind with
  | none => exact iff_of_true (matchedByOwnScope_of_noKind hscope hkind) (by rw [ScopeFieldsAgree, hkind]; trivial)
  | some kind =>
    unfold MatchedByOwnScope ScopeFieldsAgree grantScopeKind
    unfold grantScopeId at *
    rw [hscope] at hid ⊢
    rw [hkind]
    cases kind with
    | organization =>
      cases hproject : grant.projectId with
      | none => simp
      | some projectId => simp
    | project =>
      cases hproject : grant.projectId with
      | none => simpa [hproject] using hid
      | some projectId => simp

theorem position_of_mem {path : ProviderGrantPath} {node : ProviderGrantPathNode} (hnode : node ∈ path.nodes) :
    ∃ position, path.position node.kind node.id = some position := by
  refine Option.isSome_iff_exists.mp ?_
  unfold ProviderGrantPath.position
  rw [List.findIdx?_isSome, List.any_eq_true]
  exact ⟨node, hnode, by simp⟩

/-- A denial that is not of the descending allow mode reaches the node that it names. -/
theorem grantAppliesToNode_self {path : ProviderGrantPath} {node : ProviderGrantPathNode} (hnode : node ∈ path.nodes)
    (hkind : grant.resourceKind = some node.kind) (hresource : grant.resourceId = some node.id)
    (hdeny : grant.effect = .deny) (hmode : grant.closureMode ≠ .includeDescendants) :
    grantAppliesToNode grant path node = true := by
  obtain ⟨position, hposition⟩ := position_of_mem hnode
  unfold grantAppliesToNode
  rw [hkind, hresource]
  cases hclosure : grant.closureMode with
  | selfOnly => simp
  | includeDescendants => exact absurd hclosure hmode
  | denyDescendants => simp [hdeny, grantIsAncestorOrSelf, hposition]

end Scopes

section Denials

variable {catalog : GatewayCatalogSnapshot} {grant : ProviderGrantConfig} {actor : AuthenticatedActor}
  {path : ProviderGrantPath}

theorem specProviderGrantAllows_denied {organizationId : String} {node : ProviderGrantPathNode}
    (horganization : actor.organizationId = some organizationId) (hnode : node ∈ path.nodes)
    (hdenied : catalog.specScopeDeniesNode actor .organization organizationId path node = true) :
    catalog.specProviderGrantAllows actor path = false := by
  have hscope : catalog.scopeAllowsAllPathNodes actor .organization organizationId path = false := by
    unfold GatewayCatalogSnapshot.scopeAllowsAllPathNodes
    rw [List.all_eq_false]
    refine ⟨node, hnode, ?_⟩
    rw [hdenied]
    simp
  unfold GatewayCatalogSnapshot.specProviderGrantAllows
  rw [horganization]
  simp only [hscope]
  rfl

theorem DeniesOrganization.refuses (h : DeniesOrganization grant actor path) (hlisted : grant ∈ catalog.providerGrants)
    (hmatched : grantScopeId grant = grant.organizationId) (hmode : grant.closureMode ≠ .includeDescendants) :
    catalog.providerGrantAllows actor path = false := by
  obtain ⟨node, hnode, hkind, hresource⟩ := h.resource
  obtain ⟨organizationId, horganization⟩ := Option.isSome_iff_exists.mp h.organization.1
  have hactor : actor.organizationId = some organizationId := h.organization.2.symm.trans horganization
  have hspec : catalog.hasSpecProviderGrants actor = true := by
    refine List.any_eq_true.mpr ⟨grant, hlisted, ?_⟩
    simp [h.active, h.tenant, ProviderGrantConfig.isSpecShape, h.effect]
  have hscope : grantMatchesScope grant actor .organization organizationId = true := by
    simp [grantMatchesScope, h.tenant, h.scope, hmatched, horganization, h.principal]
  have hdenied : catalog.specScopeDeniesNode actor .organization organizationId path node = true := by
    refine List.any_eq_true.mpr ⟨grant, hlisted, ?_⟩
    simp [h.active, h.effect, hscope, grantAppliesToNode_self hnode hkind hresource h.effect hmode]
  unfold GatewayCatalogSnapshot.providerGrantAllows
  rw [hspec]
  exact specProviderGrantAllows_denied hactor hnode hdenied

end Denials

section Validated

variable {grant : ProviderGrantConfig} {aliases : Index ModelAliasConfig} {policies : Index RoutePolicyConfig}
  {groups : Index RoutingGroupConfig} {targets : Index ModelTargetConfig} {endpoints : Index ProviderEndpoint}

theorem validateSpecProviderGrant_shape
    (h : validateSpecProviderGrant grant aliases policies groups targets endpoints = .ok ()) :
    grantScopeId grant ≠ none ∧ (grant.effect = .deny → grant.closureMode ≠ .includeDescendants) := by
  unfold validateSpecProviderGrant invalidCatalog at h
  split at h
  · cases h
  · rename_i hpresent
    rw [Bool.or_eq_true, not_or, Option.isNone_iff_eq_none, Option.isNone_iff_eq_none] at hpresent
    refine ⟨hpresent.2, fun hdeny hmode => ?_⟩
    split at h
    · cases h
    · split at h
      · cases h
      · have hclosure := (bind_unit_ok.mp h).1
        unfold validateProviderGrantClosureMode invalidCatalog at hclosure
        rw [hdeny, hmode] at hclosure
        cases hclosure

/-- A validated grant without a scope id applies to its own scope exactly when its scope fields agree. -/
theorem validatedGrant_appliesToOwnScope_iff {catalog : GatewayCatalogSnapshot}
    (hvalid : validateProviderGrants catalog.providerGrants aliases policies groups targets endpoints = .ok ())
    (hlisted : grant ∈ catalog.providerGrants) (hscope : grant.scopeId = none) :
    AppliesToOwnScope catalog grant ↔ ScopeFieldsAgree grant := by
  have hcheck := checkAll_ok.mp hvalid grant hlisted
  cases hshape : grant.isSpecShape with
  | false =>
    -- a grant of the old shape names no kind and denies nothing
    have hplain : grant.scopeKind = none ∧ grant.effect = .allow := by
      simp only [ProviderGrantConfig.isSpecShape, Bool.or_eq_false_iff, bne_eq_false_iff_eq] at hshape
      exact ⟨Option.not_isSome_iff_eq_none.mp (by simp [hshape.1.1.1.1.1]), hshape.1.2⟩
    refine iff_of_true ⟨matchedByOwnScope_of_noKind hscope hplain.1, fun actor path hdenies => ?_⟩ ?_
    · cases hplain.2.symm.trans hdenies.effect
    · rw [ScopeFieldsAgree, hplain.1]
      trivial
  | true =>
    rw [if_pos hshape] at hcheck
    obtain ⟨hid, hmode⟩ := validateSpecProviderGrant_shape hcheck
    rw [← matchedByOwnScope_iff hscope hid]
    refine ⟨fun h => h.1, fun hmatched => ⟨hmatched, fun actor path hdenies => ?_⟩⟩
    exact hdenies.refuses hlisted (hmatched.1 hdenies.scope) (hmode hdenies.effect)

end Validated

section Examples

/-- A denial of an organization, which may carry a project id too. -/
def organizationDenial (projectId : Option String) : ProviderGrantConfig :=
  { providerGrantId := "grant_3", tenantId := "tenant_1", scopeKind := some .organization,
    organizationId := some "org_1", projectId := projectId, resourceKind := some .modelAlias,
    resourceId := some "alias_1", effect := .deny, status := .active }

def deniedCatalog (projectId : Option String) : GatewayCatalogSnapshot :=
  { grantedCatalog with providerGrants := [organizationGrant, organizationDenial projectId] }

def sampleAliases : Index ModelAliasConfig := (∅ : Index ModelAliasConfig).insert "alias_1" samplePath.modelAlias

def organizationActor : AuthenticatedActor := { tenantActor with organizationId := some "org_1", projectId := none }

theorem organizationDenial_denies (projectId : Option String) :
    DeniesOrganization (organizationDenial projectId) organizationActor samplePath :=
  ⟨rfl, rfl, rfl, rfl, ⟨rfl, rfl⟩, rfl, ⟨.modelAlias, "alias_1"⟩, List.mem_cons_self, rfl, rfl⟩

theorem plainDenial_applies :
    AppliesToOwnScope (deniedCatalog none) (organizationDenial none) ∧
      (deniedCatalog none).providerGrantAllows organizationActor samplePath = false := by
  have hvalid : validateProviderGrants (deniedCatalog none).providerGrants sampleAliases ∅ ∅ ∅ ∅ = .ok () := rfl
  have happlies : AppliesToOwnScope (deniedCatalog none) (organizationDenial none) :=
    (validatedGrant_appliesToOwnScope_iff hvalid (List.mem_cons_of_mem _ List.mem_cons_self) rfl).mpr (.inl rfl)
  exact ⟨happlies, happlies.2 organizationActor samplePath (organizationDenial_denies none)⟩

/-- With a project id beside it the validated denial is matched against the project, and the route stays allowed. -/
theorem denialWithProject_misses :
    validateProviderGrants (deniedCatalog (some "prj_1")).providerGrants sampleAliases ∅ ∅ ∅ ∅ = .ok () ∧
      (deniedCatalog (some "prj_1")).providerGrantAllows organizationActor samplePath = true ∧
      ¬ AppliesToOwnScope (deniedCatalog (some "prj_1")) (organizationDenial (some "prj_1")) := by
  have hallowed : (deniedCatalog (some "prj_1")).providerGrantAllows organizationActor samplePath = true := rfl
  refine ⟨rfl, hallowed, fun happlies => ?_⟩
  have hrefused := happlies.2 organizationActor samplePath (organizationDenial_denies (some "prj_1"))
  cases hallowed.symm.trans hrefused

end Examples

end Starweaver.Gateway
