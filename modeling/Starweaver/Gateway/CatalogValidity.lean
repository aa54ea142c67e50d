import Starweaver.Gateway.Catalog

namespace Starweaver.Gateway

open Library.Checks

section Records

def EndpointValid (parseUri : String → Except String ParsedUri) (endpoint : ProviderEndpoint) : Prop :=
  endpoint.protocolFamilies ≠ [] ∧ ∃ uri, parseUri endpoint.upstreamBaseUrl = .ok uri ∧
    (uri.scheme = some "http" ∨ uri.scheme = some "https") ∧ uri.hasAuthority = true

variable (catalog : GatewayCatalogSnapshot)

def CredentialValid (credential : UpstreamCredentialConfig) : Prop :=
  ∃ endpoint ∈ catalog.providerEndpoints, endpoint.providerEndpointId = credential.providerEndpointId ∧
    credential.secretRefId ≠ "" ∧ (credential.credentialKind = "codex_oauth" → endpoint.providerKind = "codex") ∧
    ("oauth".toList <:+ credential.credentialKind.toList → credential.credentialKind = "codex_oauth")

def TargetValid (target : ModelTargetConfig) : Prop :=
  (∃ endpoint ∈ catalog.providerEndpoints, endpoint.providerEndpointId = target.providerEndpointId ∧
    target.protocolFamily ∈ endpoint.protocolFamilies) ∧
  ∀ id, target.upstreamCredentialId = some id →
    ∃ credential ∈ catalog.upstreamCredentials, credential.upstreamCredentialId = id ∧
      credential.providerEndpointId = target.providerEndpointId ∧ credential.status.isUsable = true

def PolicyValid (policy : RoutePolicyConfig) : Prop :=
  (∀ ttl, policy.stickyTtlSeconds = some ttl → 60 ≤ ttl ∧ ttl ≤ 86400) ∧
    (∃ group ∈ catalog.routingGroups, group.routingGroupId = policy.routingGroupId) ∧
    ∃ entry ∈ catalog.routingGroupTargets, entry.routingGroupId = policy.routingGroupId

def AliasValid (modelAlias : ModelAliasConfig) : Prop :=
  ∃ policy ∈ catalog.routePolicies, policy.routePolicyId = modelAlias.routePolicyId ∧
    policy.modelAliasId = modelAlias.modelAliasId ∧
    ∀ entry ∈ catalog.routingGroupTargets, entry.routingGroupId = policy.routingGroupId →
      ∃ target ∈ catalog.modelTargets, target.modelTargetId = entry.modelTargetId ∧
        target.protocolFamily = modelAlias.protocolFamily

def GrantResourceListed (resourceId : String) : ProviderGrantResourceKind → Prop
  | .modelAlias => ∃ modelAlias ∈ catalog.modelAliases, modelAlias.modelAliasId = resourceId
  | .routePolicy => ∃ policy ∈ catalog.routePolicies, policy.routePolicyId = resourceId
  | .routingGroup => ∃ group ∈ catalog.routingGroups, group.routingGroupId = resourceId
  | .modelTarget => ∃ target ∈ catalog.modelTargets, target.modelTargetId = resourceId
  | .providerEndpoint => ∃ endpoint ∈ catalog.providerEndpoints, endpoint.providerEndpointId = resourceId
  | .pricingSku => True

def SpecGrantValid (grant : ProviderGrantConfig) : Prop :=
  grantScopeKind grant ≠ none ∧ grantScopeId grant ≠ none ∧
    ¬ (grant.effect = .allow ∧ grant.closureMode = .denyDescendants) ∧
    ¬ (grant.effect = .deny ∧ grant.closureMode = .includeDescendants) ∧
    ∃ resourceKind resourceId, grant.resourceKind = some resourceKind ∧ grant.resourceId = some resourceId ∧
      GrantResourceListed catalog resourceId resourceKind

def LegacyGrantValid (grant : ProviderGrantConfig) : Prop :=
  ∃ endpointId, grant.providerEndpointId = some endpointId ∧
    (∃ endpoint ∈ catalog.providerEndpoints, endpoint.providerEndpointId = endpointId) ∧
    ∀ targetId, grant.modelTargetId = some targetId →
      ∃ target ∈ catalog.modelTargets, target.modelTargetId = targetId ∧ target.providerEndpointId = endpointId

def GrantValid (grant : ProviderGrantConfig) : Prop :=
  if grant.isSpecShape then SpecGrantValid catalog grant else LegacyGrantValid catalog grant

end Records

/-- No id is used twice and every reference of the catalog leads to a record that fits. -/
structure WellFormedCatalog (parseUri : String → Except String ParsedUri) (catalog : GatewayCatalogSnapshot) :
    Prop where
  endpoint_ids : (catalog.providerEndpoints.map (·.providerEndpointId)).Nodup
  credential_ids : (catalog.upstreamCredentials.map (·.upstreamCredentialId)).Nodup
  target_ids : (catalog.modelTargets.map (·.modelTargetId)).Nodup
  alias_ids : (catalog.modelAliases.map (·.modelAliasId)).Nodup
  group_ids : (catalog.routingGroups.map (·.routingGroupId)).Nodup
  policy_ids : (catalog.routePolicies.map (·.routePolicyId)).Nodup
  endpoints : ∀ endpoint ∈ catalog.providerEndpoints, EndpointValid parseUri endpoint
  credentials : ∀ credential ∈ catalog.upstreamCredentials, CredentialValid catalog credential
  targets : ∀ target ∈ catalog.modelTargets, TargetValid catalog target
  policies : ∀ policy ∈ catalog.routePolicies, PolicyValid catalog policy
  grants : ∀ grant ∈ catalog.providerGrants, GrantValid catalog grant
  aliases : ∀ modelAlias ∈ catalog.modelAliases, AliasValid catalog modelAlias

section Grouping

variable {groupTargets : List RoutingGroupTargetConfig} {groupId : String}

theorem foldl_groupTargets_getD (base : Index (List RoutingGroupTargetConfig)) :
    ((groupTargets.foldl (fun index groupTarget => index.insert groupTarget.routingGroupId
      ((index.lookup groupTarget.routingGroupId).getD [] ++ [groupTarget])) base).lookup groupId).getD [] =
      (base.lookup groupId).getD [] ++ groupTargets.filter fun entry => entry.routingGroupId == groupId := by
  induction groupTargets generalizing base with
  | nil => simp
  | cons entry entries ih =>
    rw [List.foldl_cons, ih]
    by_cases heq : groupId = entry.routingGroupId
    · subst heq
      rw [AList.lookup_insert, Option.getD_some, List.filter_cons_of_pos (by simp), List.append_assoc]
      rfl
    · rw [AList.lookup_insert_ne heq, List.filter_cons_of_neg]
      simpa using Ne.symm heq

theorem foldl_groupTargets_isSome (base : Index (List RoutingGroupTargetConfig)) :
    ((groupTargets.foldl (fun index groupTarget => index.insert groupTarget.routingGroupId
      ((index.lookup groupTarget.routingGroupId).getD [] ++ [groupTarget])) base).lookup groupId).isSome = true ↔
      (base.lookup groupId).isSome = true ∨ ∃ entry ∈ groupTargets, entry.routingGroupId = groupId := by
  induction groupTargets generalizing base with
  | nil => simp
  | cons entry entries ih =>
    rw [List.foldl_cons, ih]
    by_cases heq : groupId = entry.routingGroupId
    · subst heq
      simp
    · rw [AList.lookup_insert_ne heq]
      simp [Ne.symm heq]

theorem groupTargetsByGroup_getD :
    ((groupTargetsByGroup groupTargets).lookup groupId).getD [] =
      groupTargets.filter fun entry => entry.routingGroupId == groupId := by
  unfold groupTargetsByGroup
  rw [foldl_groupTargets_getD, AList.lookup_empty]
  rfl

theorem groupTargetsByGroup_isSome :
    ((groupTargetsByGroup groupTargets).lookup groupId).isSome = true ↔
      ∃ entry ∈ groupTargets, entry.routingGroupId = groupId := by
  unfold groupTargetsByGroup
  rw [foldl_groupTargets_isSome, AList.lookup_empty]
  simp

end Grouping

section Checks

variable {catalog : GatewayCatalogSnapshot} {endpoints : Index ProviderEndpoint}
  {credentials : Index UpstreamCredentialConfig} {targets : Index ModelTargetConfig}
  {aliases : Index ModelAliasConfig} {groups : Index RoutingGroupConfig} {policies : Index RoutePolicyConfig}

theorem validateEndpoint_ok {parseUri : String → Except String ParsedUri} {endpoint : ProviderEndpoint} :
    validateEndpoint parseUri endpoint = .ok () ↔ EndpointValid parseUri endpoint := by
  unfold validateEndpoint EndpointValid invalidCatalog
  rw [refuses_ok, List.isEmpty_iff]
  refine and_congr_right fun _ => ?_
  cases parseUri endpoint.upstreamBaseUrl with
  | error error => simp
  | ok uri =>
    simp only [refuses_ok, Except.ok.injEq, exists_eq_left', and_true]
    simp [imp_iff_not_or]

theorem validateCredentialKind_ok {endpoint : ProviderEndpoint} {credential : UpstreamCredentialConfig} :
    validateCredentialKind endpoint credential = .ok () ↔
      credential.secretRefId ≠ "" ∧ (credential.credentialKind = "codex_oauth" → endpoint.providerKind = "codex") ∧
      ("oauth".toList <:+ credential.credentialKind.toList → credential.credentialKind = "codex_oauth") := by
  unfold validateCredentialKind invalidCatalog
  simp only [refuses_ok, and_true, Bool.and_eq_true, not_and, bne_iff_ne, beq_iff_eq, ne_eq, not_not,
    List.isSuffixOf_iff_suffix, String.isEmpty_iff]

theorem validateCredentials_ok (hendpoints : indexEndpoints catalog.providerEndpoints = .ok endpoints) :
    validateCredentials catalog.upstreamCredentials endpoints = .ok () ↔
      ∀ credential ∈ catalog.upstreamCredentials, CredentialValid catalog credential := by
  unfold validateCredentials
  rw [checkAll_ok]
  refine forall₂_congr fun credential _ => ?_
  unfold CredentialValid
  rw [indexBy_exists hendpoints]
  cases endpoints.lookup credential.providerEndpointId with
  | none => simp [invalidCatalog]
  | some endpoint =>
    simp only [Option.some.injEq, exists_eq_left']
    exact validateCredentialKind_ok

theorem validateTargetCredential_ok {target : ModelTargetConfig}
    (hcredentials : indexCredentials catalog.upstreamCredentials = .ok credentials) :
    validateTargetCredential target credentials = .ok () ↔ ∀ id, target.upstreamCredentialId = some id →
      ∃ credential ∈ catalog.upstreamCredentials, credential.upstreamCredentialId = id ∧
        credential.providerEndpointId = target.providerEndpointId ∧ credential.status.isUsable = true := by
  unfold validateTargetCredential invalidCatalog
  cases target.upstreamCredentialId with
  | none => simp
  | some id =>
    simp only [Option.some.injEq, forall_eq']
    rw [indexBy_exists hcredentials]
    cases credentials.lookup id with
    | none => simp
    | some credential =>
      simp only [refuses_ok, Option.some.injEq, exists_eq_left', and_true]
      simp

theorem validateTargets_ok (hendpoints : indexEndpoints catalog.providerEndpoints = .ok endpoints)
    (hcredentials : indexCredentials catalog.upstreamCredentials = .ok credentials) :
    validateTargets catalog.modelTargets endpoints credentials = .ok () ↔
      ∀ target ∈ catalog.modelTargets, TargetValid catalog target := by
  unfold validateTargets
  rw [checkAll_ok]
  refine forall₂_congr fun target _ => ?_
  unfold TargetValid
  rw [indexBy_exists hendpoints, ← validateTargetCredential_ok hcredentials]
  cases endpoints.lookup target.providerEndpointId with
  | none => simp [invalidCatalog]
  | some endpoint =>
    simp only [bind_unit_ok, Option.some.injEq, exists_eq_left']
    refine and_congr_left fun _ => ?_
    unfold validateTargetEndpoint invalidCatalog
    rw [refuses_ok]
    simp

theorem validatePolicies_ok (hgroups : indexGroups catalog.routingGroups = .ok groups) :
    validatePolicies catalog.routePolicies groups (groupTargetsByGroup catalog.routingGroupTargets) = .ok () ↔
      ∀ policy ∈ catalog.routePolicies, PolicyValid catalog policy := by
  unfold validatePolicies invalidCatalog
  rw [checkAll_ok]
  refine forall₂_congr fun policy _ => ?_
  unfold PolicyValid
  rw [← indexBy_contains hgroups, ← groupTargetsByGroup_isSome, refuses_ok, refuses_ok, refuses_ok]
  refine and_congr ?_ (and_congr ?_ ?_)
  · cases policy.stickyTtlSeconds <;> simp
  · simp only [Bool.not_eq_true', Bool.not_eq_false]
  · simp only [Bool.not_eq_true', Bool.not_eq_false, and_true]

theorem validateAliases_ok (hpolicies : indexPolicies catalog.routePolicies = .ok policies)
    (htargets : indexTargets catalog.modelTargets = .ok targets) :
    validateAliases catalog.modelAliases policies targets (groupTargetsByGroup catalog.routingGroupTargets) = .ok () ↔
      ∀ modelAlias ∈ catalog.modelAliases, AliasValid catalog modelAlias := by
  unfold validateAliases
  rw [checkAll_ok]
  refine forall₂_congr fun modelAlias _ => ?_
  unfold AliasValid
  rw [indexBy_exists hpolicies]
  cases policies.lookup modelAlias.routePolicyId with
  | none => simp [invalidCatalog]
  | some policy =>
    simp only [bind_unit_ok, Option.some.injEq, exists_eq_left']
    refine and_congr ?_ ?_
    · unfold validateAliasPolicy invalidCatalog
      rw [refuses_ok]
      simp
    · unfold validateAliasTargets
      rw [groupTargetsByGroup_getD, checkAll_ok]
      simp only [List.mem_filter, and_imp, beq_iff_eq]
      refine forall₃_congr fun entry _ _ => ?_
      rw [indexBy_exists htargets]
      cases targets.lookup entry.modelTargetId with
      | none => simp [invalidCatalog]
      | some target => simp [invalidCatalog]

theorem grantResourceMissing_ok {α : Type} {grant : ProviderGrantConfig} {label resourceId : String}
    {index : Index α} : grantResourceMissing grant label resourceId index = .ok () ↔
      (index.lookup resourceId).isSome = true := by
  unfold grantResourceMissing invalidCatalog
  simp only [refuses_ok, Bool.not_eq_true', Bool.not_eq_false, and_true]

theorem validateProviderGrantClosureMode_ok {grant : ProviderGrantConfig} :
    validateProviderGrantClosureMode grant = .ok () ↔
      ¬ (grant.effect = .allow ∧ grant.closureMode = .denyDescendants) ∧
        ¬ (grant.effect = .deny ∧ grant.closureMode = .includeDescendants) := by
  unfold validateProviderGrantClosureMode invalidCatalog
  rw [refuses_ok, refuses_ok]
  simp

structure GrantIndexes (catalog : GatewayCatalogSnapshot) (aliases : Index ModelAliasConfig)
    (policies : Index RoutePolicyConfig) (groups : Index RoutingGroupConfig) (targets : Index ModelTargetConfig)
    (endpoints : Index ProviderEndpoint) : Prop where
  aliases : indexAliases catalog.modelAliases = .ok aliases
  policies : indexPolicies catalog.routePolicies = .ok policies
  groups : indexGroups catalog.routingGroups = .ok groups
  targets : indexTargets catalog.modelTargets = .ok targets
  endpoints : indexEndpoints catalog.providerEndpoints = .ok endpoints

theorem validateSpecProviderGrant_ok (h : GrantIndexes catalog aliases policies groups targets endpoints)
    {grant : ProviderGrantConfig} :
    validateSpecProviderGrant grant aliases policies groups targets endpoints = .ok () ↔
      SpecGrantValid catalog grant := by
  unfold validateSpecProviderGrant SpecGrantValid invalidCatalog
  rw [refuses_ok]
  cases grant.resourceKind with
  | none => simp
  | some resourceKind =>
    cases grant.resourceId with
    | none => simp
    | some resourceId =>
      simp only [bind_unit_ok, validateProviderGrantClosureMode_ok]
      have hresource : (match resourceKind with
          | .modelAlias => grantResourceMissing grant "model alias" resourceId aliases
          | .routePolicy => grantResourceMissing grant "route policy" resourceId policies
          | .routingGroup => grantResourceMissing grant "routing group" resourceId groups
          | .modelTarget => grantResourceMissing grant "model target" resourceId targets
          | .providerEndpoint => grantResourceMissing grant "provider endpoint" resourceId endpoints
          | .pricingSku => .ok ()) = .ok () ↔ GrantResourceListed catalog resourceId resourceKind := by
        cases resourceKind with
        | modelAlias => exact grantResourceMissing_ok.trans (indexBy_contains h.aliases resourceId)
        | routePolicy => exact grantResourceMissing_ok.trans (indexBy_contains h.policies resourceId)
        | routingGroup => exact grantResourceMissing_ok.trans (indexBy_contains h.groups resourceId)
        | modelTarget => exact grantResourceMissing_ok.trans (indexBy_contains h.targets resourceId)
        | providerEndpoint => exact grantResourceMissing_ok.trans (indexBy_contains h.endpoints resourceId)
        | pricingSku => simp [GrantResourceListed]
      refine (and_congr_right' (and_congr_right' hresource)).trans ?_
      simp [and_assoc]

theorem validateLegacyProviderGrant_ok (h : GrantIndexes catalog aliases policies groups targets endpoints)
    {grant : ProviderGrantConfig} :
    validateLegacyProviderGrant grant targets endpoints = .ok () ↔ LegacyGrantValid catalog grant := by
  unfold validateLegacyProviderGrant LegacyGrantValid invalidCatalog
  cases grant.providerEndpointId with
  | none => simp
  | some endpointId =>
    simp only [Option.some.injEq, exists_eq_left']
    rw [refuses_ok, ← indexBy_contains h.endpoints]
    refine and_congr (by simp only [Bool.not_eq_true', Bool.not_eq_false]) ?_
    cases grant.modelTargetId with
    | none => simp
    | some targetId =>
      simp only [Option.some.injEq, forall_eq']
      rw [indexBy_exists h.targets]
      cases targets.lookup targetId with
      | none => simp
      | some target => simp

theorem validateProviderGrants_ok (h : GrantIndexes catalog aliases policies groups targets endpoints) :
    validateProviderGrants catalog.providerGrants aliases policies groups targets endpoints = .ok () ↔
      ∀ grant ∈ catalog.providerGrants, GrantValid catalog grant := by
  unfold validateProviderGrants
  rw [checkAll_ok]
  refine forall₂_congr fun grant _ => ?_
  unfold GrantValid
  split
  · exact validateSpecProviderGrant_ok h
  · exact validateLegacyProviderGrant_ok h

end Checks

/-- Validation accepts exactly the catalogs that are well formed. -/
theorem GatewayCatalogSnapshot.validate_iff (parseUri : String → Except String ParsedUri)
    (catalog : GatewayCatalogSnapshot) : catalog.validate parseUri = .ok () ↔ WellFormedCatalog parseUri catalog := by
  constructor
  · intro h
    simp only [validate, bind_ok] at h
    obtain ⟨endpoints, he, credentials, hc, targets, ht, aliases, ha, groups, hg, policies, hp, _, hendpoints, _,
      hcredentials, _, htargets, _, hpolicies, _, hgrants, haliases⟩ := h
    exact
      { endpoint_ids := indexBy_ok_iff.mp ⟨_, he⟩
        credential_ids := indexBy_ok_iff.mp ⟨_, hc⟩
        target_ids := indexBy_ok_iff.mp ⟨_, ht⟩
        alias_ids := indexBy_ok_iff.mp ⟨_, ha⟩
        group_ids := indexBy_ok_iff.mp ⟨_, hg⟩
        policy_ids := indexBy_ok_iff.mp ⟨_, hp⟩
        endpoints := fun endpoint hendpoint => validateEndpoint_ok.mp (checkAll_ok.mp hendpoints endpoint hendpoint)
        credentials := (validateCredentials_ok he).mp hcredentials
        targets := (validateTargets_ok he hc).mp htargets
        policies := (validatePolicies_ok hg).mp hpolicies
        grants := (validateProviderGrants_ok ⟨ha, hp, hg, ht, he⟩).mp hgrants
        aliases := (validateAliases_ok hp ht).mp haliases }
  · intro h
    obtain ⟨endpoints, he⟩ : ∃ index, indexEndpoints catalog.providerEndpoints = .ok index :=
      indexBy_ok_iff.mpr h.endpoint_ids
    obtain ⟨credentials, hc⟩ : ∃ index, indexCredentials catalog.upstreamCredentials = .ok index :=
      indexBy_ok_iff.mpr h.credential_ids
    obtain ⟨targets, ht⟩ : ∃ index, indexTargets catalog.modelTargets = .ok index := indexBy_ok_iff.mpr h.target_ids
    obtain ⟨aliases, ha⟩ : ∃ index, indexAliases catalog.modelAliases = .ok index := indexBy_ok_iff.mpr h.alias_ids
    obtain ⟨groups, hg⟩ : ∃ index, indexGroups catalog.routingGroups = .ok index := indexBy_ok_iff.mpr h.group_ids
    obtain ⟨policies, hp⟩ : ∃ index, indexPolicies catalog.routePolicies = .ok index :=
      indexBy_ok_iff.mpr h.policy_ids
    simp only [validate, bind_ok]
    refine ⟨endpoints, he, credentials, hc, targets, ht, aliases, ha, groups, hg, policies, hp, (), ?_, (), ?_, (), ?_,
      (), ?_, (), ?_, ?_⟩
    · exact checkAll_ok.mpr fun endpoint hendpoint => validateEndpoint_ok.mpr (h.endpoints endpoint hendpoint)
    · exact (validateCredentials_ok he).mpr h.credentials
    · exact (validateTargets_ok he hc).mpr h.targets
    · exact (validatePolicies_ok hg).mpr h.policies
    · exact (validateProviderGrants_ok ⟨ha, hp, hg, ht, he⟩).mpr h.grants
    · exact (validateAliases_ok hp ht).mpr h.aliases

end Starweaver.Gateway
