import Starweaver.Gateway.ProviderGrants
import Starweaver.Gateway.RouteEligibility

namespace Starweaver.Gateway

section Insertion

variable {α : Type} {before after : List α} {p : α → Bool}

theorem any_insert_of_false {x : α} (h : p x = false) : (before ++ x :: after).any p = (before ++ after).any p := by
  simp [h]

theorem any_insert_mono (x : α) (h : (before ++ after).any p = true) : (before ++ x :: after).any p = true := by
  simp only [List.any_append, List.any_cons, Bool.or_eq_true] at h ⊢
  rcases h with h | h
  · exact .inl h
  · exact .inr (.inr h)

end Insertion

section Denial

variable {catalog : GatewayCatalogSnapshot} {actor : AuthenticatedActor} {path : ProviderGrantPath}
  {before after : List ProviderGrantConfig} {grant : ProviderGrantConfig}

def GatewayCatalogSnapshot.withGrant (catalog : GatewayCatalogSnapshot) (before after : List ProviderGrantConfig)
    (grant : ProviderGrantConfig) : GatewayCatalogSnapshot :=
  { catalog with providerGrants := before ++ grant :: after }

theorem specScopeAllowsNode_legacy (hlegacy : catalog.hasSpecProviderGrants actor = false)
    (scopeKind : ProviderGrantScopeKind) (scopeId : String) (node : ProviderGrantPathNode) :
    catalog.specScopeAllowsNode actor scopeKind scopeId path node = false := by
  unfold GatewayCatalogSnapshot.specScopeAllowsNode GatewayCatalogSnapshot.specScopeReachesNode
  rw [List.any_eq_false]
  intro grant hgrant happlies
  simp only [Bool.and_eq_true, beq_iff_eq, grantMatchesScope] at happlies
  obtain ⟨⟨⟨hactive, -⟩, ⟨⟨htenant, -⟩, -⟩, -⟩, hnode⟩ := happlies
  have hkind : grant.resourceKind.isSome = true := by
    unfold grantAppliesToNode at hnode
    cases hresource : grant.resourceKind with
    | none => simp [hresource] at hnode
    | some kind => rfl
  have hnot := List.any_eq_false.mp hlegacy grant hgrant
  apply hnot
  simp [hactive, htenant, ProviderGrantConfig.isSpecShape, hkind]

theorem specProviderGrantAllows_legacy (hlegacy : catalog.hasSpecProviderGrants actor = false) :
    catalog.specProviderGrantAllows actor path = false := by
  unfold GatewayCatalogSnapshot.specProviderGrantAllows
  split
  · rfl
  · rename_i organizationId _
    have hnone : catalog.scopeAllowsAllPathNodes actor .organization organizationId path = false := by
      unfold GatewayCatalogSnapshot.scopeAllowsAllPathNodes
      simp only [specScopeAllowsNode_legacy hlegacy]
      rfl
    rw [hnone]
    rfl

section Deny

variable (hgrants : catalog.providerGrants = before ++ after) (hdeny : grant.effect = .deny)

include hgrants hdeny

theorem withGrant_specScopeAllowsNode (scopeKind : ProviderGrantScopeKind) (scopeId : String)
    (node : ProviderGrantPathNode) :
    (catalog.withGrant before after grant).specScopeAllowsNode actor scopeKind scopeId path node =
      catalog.specScopeAllowsNode actor scopeKind scopeId path node := by
  unfold GatewayCatalogSnapshot.specScopeAllowsNode GatewayCatalogSnapshot.specScopeReachesNode
  rw [hgrants]
  exact any_insert_of_false (by simp [hdeny])

theorem withGrant_projectHasAllowForKind (projectId : String) (resourceKind : ProviderGrantResourceKind) :
    (catalog.withGrant before after grant).projectHasAllowForKind actor projectId resourceKind =
      catalog.projectHasAllowForKind actor projectId resourceKind := by
  unfold GatewayCatalogSnapshot.projectHasAllowForKind
  rw [hgrants]
  exact any_insert_of_false (by simp [hdeny])

omit hdeny in
theorem withGrant_specScopeDeniesNode {scopeKind : ProviderGrantScopeKind} {scopeId : String}
    {node : ProviderGrantPathNode}
    (h : (catalog.withGrant before after grant).specScopeDeniesNode actor scopeKind scopeId path node = false) :
    catalog.specScopeDeniesNode actor scopeKind scopeId path node = false := by
  unfold GatewayCatalogSnapshot.specScopeDeniesNode GatewayCatalogSnapshot.specScopeReachesNode at h ⊢
  rw [hgrants]
  by_contra hdenied
  rw [Bool.not_eq_false] at hdenied
  have hwith := any_insert_mono grant hdenied
  rw [GatewayCatalogSnapshot.withGrant] at h
  exact absurd (h.symm.trans hwith) (by decide)

theorem withGrant_scopeAllowsAllPathNodes {scopeKind : ProviderGrantScopeKind} {scopeId : String}
    (h : (catalog.withGrant before after grant).scopeAllowsAllPathNodes actor scopeKind scopeId path = true) :
    catalog.scopeAllowsAllPathNodes actor scopeKind scopeId path = true := by
  unfold GatewayCatalogSnapshot.scopeAllowsAllPathNodes at h ⊢
  rw [List.all_eq_true] at h ⊢
  intro node hnode
  have hwith := h node hnode
  rw [Bool.and_eq_true, Bool.not_eq_true', withGrant_specScopeAllowsNode hgrants hdeny] at hwith
  rw [Bool.and_eq_true, Bool.not_eq_true']
  exact ⟨hwith.1, withGrant_specScopeDeniesNode hgrants hwith.2⟩

theorem withGrant_projectScopeInheritsOrNarrows {projectId : String}
    (h : (catalog.withGrant before after grant).projectScopeInheritsOrNarrows actor projectId path = true) :
    catalog.projectScopeInheritsOrNarrows actor projectId path = true := by
  unfold GatewayCatalogSnapshot.projectScopeInheritsOrNarrows at h ⊢
  rw [List.all_eq_true] at h ⊢
  intro node hnode
  have hwith := h node hnode
  rw [withGrant_projectHasAllowForKind hgrants hdeny, withGrant_specScopeAllowsNode hgrants hdeny] at hwith
  split at hwith
  · cases hwith
  · rename_i hdenied
    rw [withGrant_specScopeDeniesNode hgrants (by simpa using hdenied)]
    exact hwith

theorem withGrant_specProviderGrantAllows
    (h : (catalog.withGrant before after grant).specProviderGrantAllows actor path = true) :
    catalog.specProviderGrantAllows actor path = true := by
  unfold GatewayCatalogSnapshot.specProviderGrantAllows at h ⊢
  split at h
  · cases h
  rename_i organizationId horganization
  split at h
  · cases h
  rename_i hscope
  rw [withGrant_scopeAllowsAllPathNodes hgrants hdeny (by simpa using hscope)]
  cases hproject : actor.projectId with
  | none => rfl
  | some projectId =>
    simp only [hproject] at h
    exact withGrant_projectScopeInheritsOrNarrows hgrants hdeny h

/-- A denial either concerns another tenant or puts the tenant under the rule for grants of the new shape. -/
theorem withGrant_hasSpecProviderGrants (hactive : grant.status.isActive = true) :
    (catalog.withGrant before after grant).hasSpecProviderGrants actor =
      (decide (grant.tenantId = actor.tenantId) || catalog.hasSpecProviderGrants actor) := by
  have hshape : grant.isSpecShape = true := by simp [ProviderGrantConfig.isSpecShape, hdeny]
  unfold GatewayCatalogSnapshot.hasSpecProviderGrants GatewayCatalogSnapshot.withGrant
  rw [hgrants]
  by_cases htenant : grant.tenantId = actor.tenantId
  · simp [htenant, hactive, hshape]
  · rw [any_insert_of_false (by simp [beq_eq_false_iff_ne.mpr htenant]), decide_eq_false htenant, Bool.false_or]

omit hgrants hdeny in
theorem withGrant_legacyProviderGrantAllows (hgrants : catalog.providerGrants = before ++ after)
    (htenant : grant.tenantId ≠ actor.tenantId) (endpoint : ProviderEndpoint) (target : ModelTargetConfig) :
    (catalog.withGrant before after grant).legacyProviderGrantAllows actor endpoint target =
      catalog.legacyProviderGrantAllows actor endpoint target := by
  unfold GatewayCatalogSnapshot.legacyProviderGrantAllows
  rw [hgrants]
  exact any_insert_of_false (by simp [beq_eq_false_iff_ne.mpr htenant])

theorem withGrant_providerGrantAllows (hactive : grant.status.isActive = true)
    (h : (catalog.withGrant before after grant).providerGrantAllows actor path = true) :
    catalog.providerGrantAllows actor path = true := by
  unfold GatewayCatalogSnapshot.providerGrantAllows at h ⊢
  rw [withGrant_hasSpecProviderGrants hgrants hdeny hactive] at h
  by_cases hspec : catalog.hasSpecProviderGrants actor = true
  · rw [hspec, Bool.or_true] at h
    rw [hspec]
    exact withGrant_specProviderGrantAllows hgrants hdeny h
  · rw [Bool.not_eq_true] at hspec
    rw [hspec]
    by_cases htenant : grant.tenantId = actor.tenantId
    · -- the denial is the first grant of the new shape: nothing is allowed any more
      rw [hspec, decide_eq_true htenant] at h
      have hallowed := withGrant_specProviderGrantAllows hgrants hdeny h
      rw [specProviderGrantAllows_legacy hspec] at hallowed
      cases hallowed
    · rw [hspec, decide_eq_false htenant] at h
      rw [← withGrant_legacyProviderGrantAllows hgrants htenant]
      exact h

end Deny

theorem specProviderGrantAllows_organization (h : catalog.specProviderGrantAllows actor path = true) :
    catalog.specProviderGrantAllows { actor with projectId := none } path = true := by
  unfold GatewayCatalogSnapshot.specProviderGrantAllows at h ⊢
  split at h
  · cases h
  rename_i organizationId horganization
  split at h
  · cases h
  rename_i hscope
  simp only [horganization]
  rw [if_neg]
  exact hscope

/-- Adding a denial never allows what was refused, and a project never allows what its organization refuses. -/
theorem providerGrantAllows_monotone (catalog : GatewayCatalogSnapshot) (actor : AuthenticatedActor)
    (path : ProviderGrantPath) :
    (∀ before after grant, catalog.providerGrants = before ++ after → grant.status.isActive = true →
      grant.effect = .deny → catalog.providerGrantAllows actor path = false →
      (catalog.withGrant before after grant).providerGrantAllows actor path = false) ∧
    (catalog.hasSpecProviderGrants actor = true → catalog.providerGrantAllows actor path = true →
      catalog.providerGrantAllows { actor with projectId := none } path = true) := by
  constructor
  · intro before after grant hgrants hactive hdeny hrefused
    by_contra hallowed
    rw [Bool.not_eq_false] at hallowed
    have hbefore := withGrant_providerGrantAllows hgrants hdeny hactive hallowed
    rw [hrefused] at hbefore
    cases hbefore
  · intro hspec hallowed
    unfold GatewayCatalogSnapshot.providerGrantAllows at hallowed ⊢
    have hspec' : catalog.hasSpecProviderGrants { actor with projectId := none } = true := hspec
    rw [hspec] at hallowed
    rw [hspec']
    exact specProviderGrantAllows_organization hallowed

end Denial

def organizationGrant : ProviderGrantConfig :=
  { providerGrantId := "grant_1", tenantId := "tenant_1", scopeKind := some .organization, scopeId := some "org_1",
    resourceKind := some .modelAlias, resourceId := some "alias_1", closureMode := .includeDescendants,
    status := .active }

def projectDenial : ProviderGrantConfig :=
  { providerGrantId := "grant_2", tenantId := "tenant_1", scopeKind := some .project, scopeId := some "prj_2",
    resourceKind := some .providerEndpoint, resourceId := some "ep_a", effect := .deny, status := .active }

def grantedCatalog : GatewayCatalogSnapshot := { twoEndpointCatalog with providerGrants := [organizationGrant] }

def samplePath : ProviderGrantPath where
  modelAlias := ⟨"alias_1", "tenant_1", none, none, "chat", .openAiResponses, "policy_1", .active⟩
  policy := ⟨"policy_1", "tenant_1", "alias_1", "group_1", .active, none⟩
  group := ⟨"group_1", "tenant_1", .active⟩
  target := ⟨"target_a", "tenant_1", "ep_a", some "cred_a", .openAiResponses, "model-a", none, .active, true⟩
  endpoint := ⟨"ep_a", "tenant_1", "A", "openai", [.openAiResponses], "https://a.example", .active⟩

theorem providerGrantAllows_monotone_granted :
    (grantedCatalog.withGrant [organizationGrant] [] projectDenial).providerGrantAllows tenantActor samplePath = false ∧
      grantedCatalog.providerGrantAllows
        { tenantActor with organizationId := some "org_1", projectId := none } samplePath = true := by
  constructor
  · exact (providerGrantAllows_monotone grantedCatalog tenantActor samplePath).1 _ _ _ rfl rfl rfl rfl
  · exact (providerGrantAllows_monotone grantedCatalog
      { tenantActor with organizationId := some "org_1", projectId := some "prj_1" } samplePath).2 rfl rfl

end Starweaver.Gateway
