import Starweaver.Gateway.CatalogValidity
import Starweaver.Gateway.RouteEligibility

namespace Starweaver.Gateway

open Library.Checks

/-- The reasons that say that a reference of the catalog leads nowhere. -/
def danglingReasons : List RouteFilterReason :=
  [.targetMissing, .protocolMismatch, .endpointMissing, .endpointProtocolMismatch, .credentialMissing,
    .credentialUnusable]

section References

variable {parseUri : String → Except String ParsedUri} {catalog : GatewayCatalogSnapshot} {request : RoutePlanRequest}
  {binding : RouteBinding} {entry : RoutingGroupTargetConfig}

theorem resolveAlias_listed {actor : AuthenticatedActor} {aliasName : String} {modelAlias : ModelAliasConfig}
    (h : catalog.resolveAlias actor aliasName = .ok modelAlias) : modelAlias ∈ catalog.modelAliases := by
  unfold GatewayCatalogSnapshot.resolveAlias at h
  simp only at h
  split at h
  · cases h
  rename_i score best rest hsorted
  split at h
  · cases h
  cases h
  have hmem : (score, modelAlias) ∈ (score, modelAlias) :: rest := List.mem_cons_self
  rw [← hsorted, Library.SortBy.mem_sortBy] at hmem
  obtain ⟨found, hfound, hscore⟩ := List.mem_filterMap.mp hmem
  obtain ⟨value, -, hpair⟩ := Option.map_eq_some_iff.mp hscore
  cases hpair
  exact List.mem_of_mem_filter hfound

theorem resolveAlias_ne_notReady (actor : AuthenticatedActor) (aliasName : String) :
    catalog.resolveAlias actor aliasName ≠ .error .notReady := by
  intro h
  unfold GatewayCatalogSnapshot.resolveAlias at h
  simp only at h
  split at h
  · cases h
  split at h
  · cases h
  · cases h

theorem Resolves.target_valid (hresolves : Resolves catalog request binding) (hvalid : WellFormedCatalog parseUri catalog)
    (hentry : entry ∈ catalog.entriesOf binding) :
    ∃ target ∈ catalog.modelTargets, target.modelTargetId = entry.modelTargetId ∧
      target.protocolFamily = request.protocolFamily ∧ TargetValid catalog target := by
  obtain ⟨policy, hlisted, hnamed, -, htargets⟩ := hvalid.aliases _ (resolveAlias_listed hresolves.alias_resolved)
  have hsame : policy = binding.policy :=
    List.inj_on_of_nodup_map hvalid.policy_ids hlisted hresolves.policy_listed
      (hnamed.trans hresolves.policy_bound.symm)
  obtain ⟨hentryListed, hgroup⟩ := List.mem_filter.mp hentry
  obtain ⟨target, htarget, hid, hprotocol⟩ := htargets entry hentryListed (by
    rw [hsame, ← hresolves.group_bound]
    simpa using hgroup)
  exact ⟨target, htarget, hid, hprotocol.trans hresolves.alias_protocol, hvalid.targets target htarget⟩

end References

section Evaluation

variable {parseUri : String → Except String ParsedUri} {catalog : GatewayCatalogSnapshot} {request : RoutePlanRequest} {binding : RouteBinding}
  {context : RouteCandidateContext} {entry : RoutingGroupTargetConfig} {target : ModelTargetConfig}

theorem evaluateCandidate_not_dangling (target : ModelTargetConfig) {endpoint : ProviderEndpoint}
    (htarget : context.targets.lookup entry.modelTargetId = some target)
    (hprotocol : target.protocolFamily = context.protocolFamily)
    (hendpoint : context.endpoints.lookup target.providerEndpointId = some endpoint)
    (hspeaks : endpoint.protocolFamilies.contains target.protocolFamily = true)
    (hcredential : ∀ id, target.upstreamCredentialId = some id →
      ∃ credential, context.credentials.lookup id = some credential ∧ credential.status.isUsable = true)
    {reason : RouteFilterReason} (heval : catalog.evaluateCandidate entry context = .filtered reason) :
    reason ∉ danglingReasons := by
  rw [hprotocol] at hspeaks
  unfold GatewayCatalogSnapshot.evaluateCandidate at heval
  simp only [htarget, hprotocol, hendpoint, hspeaks, ne_eq, not_true_eq_false, if_false, Bool.not_true,
    Bool.false_eq_true] at heval
  -- what is left are the statuses, the hot state and the grant
  split at heval
  · cases heval
    decide
  split at heval
  · cases heval
    decide
  split at heval
  · cases heval
    decide
  split at heval
  · cases heval
    decide
  split at heval
  · cases heval
    decide
  have hgrant : ∀ allowed : Bool, (if (!allowed) = true then CandidateEvaluation.filtered .providerGrantDenied
      else .selected target endpoint) = .filtered reason → reason ∉ danglingReasons := by
    intro allowed hdenied
    split at hdenied
    · cases hdenied
      decide
    · cases hdenied
  cases hid : target.upstreamCredentialId with
  | none =>
    simp only [hid, Option.map_none] at heval
    split at heval
    · cases heval
      decide
    · cases heval
      decide
    all_goals exact hgrant _ heval
  | some id =>
    obtain ⟨credential, hlookup, husable⟩ := hcredential id hid
    simp only [hid, Option.map_some, hlookup, husable, Bool.not_true, Bool.false_eq_true, if_false] at heval
    split at heval
    · cases heval
      decide
    · cases heval
      decide
    all_goals exact hgrant _ heval

theorem Resolves.not_dangling (hresolves : Resolves catalog request binding) (hvalid : WellFormedCatalog parseUri catalog)
    (hcontext : ContextOf catalog request binding context) (hentry : entry ∈ catalog.entriesOf binding)
    {reason : RouteFilterReason} (heval : catalog.evaluateCandidate entry context = .filtered reason) :
    reason ∉ danglingReasons := by
  obtain ⟨target, htarget, hid, hprotocol, ⟨endpoint, hendpoint, hendpointId, hspeaks⟩, hcredential⟩ :=
    hresolves.target_valid hvalid hentry
  refine evaluateCandidate_not_dangling target ((indexBy_lookup hcontext.targets _ _).mpr ⟨htarget, hid⟩)
    (hprotocol.trans hcontext.protocolFamily.symm)
    ((indexBy_lookup hcontext.endpoints _ _).mpr ⟨hendpoint, hendpointId⟩) (by simpa using hspeaks) ?_ heval
  intro id hused
  obtain ⟨credential, hlisted, hnamed, -, husable⟩ := hcredential id hused
  exact ⟨credential, (indexBy_lookup hcontext.credentials _ _).mpr ⟨hlisted, hnamed⟩, husable⟩

/-- A binding is not ready only when its policy or its group is listed without being active. -/
theorem resolveRouteBinding_notReady (hvalid : WellFormedCatalog parseUri catalog)
    (h : catalog.resolveRouteBinding request = .error .notReady) :
    ∃ modelAlias policy, catalog.resolveAlias request.actor request.aliasName = .ok modelAlias ∧
      policy ∈ catalog.routePolicies ∧ policy.routePolicyId = modelAlias.routePolicyId ∧
      (policy.status.isActive = false ∨ ∃ group ∈ catalog.routingGroups,
        group.routingGroupId = policy.routingGroupId ∧ group.status.isActive = false) := by
  unfold GatewayCatalogSnapshot.resolveRouteBinding at h
  cases halias : catalog.resolveAlias request.actor request.aliasName with
  | error error =>
    rw [halias] at h
    cases h
    exact absurd halias (resolveAlias_ne_notReady _ _)
  | ok modelAlias =>
    obtain ⟨stored, hlisted, hnamed, -⟩ := hvalid.aliases _ (resolveAlias_listed halias)
    rw [halias] at h
    simp only [bind, Except.bind] at h
    split at h
    · cases h
    split at h
    · cases h
    split at h
    · rename_i hmissing
      exact absurd (List.find?_eq_none.mp hmissing stored hlisted) (by simpa using hnamed)
    rename_i policy hpolicy
    have hpolicyListed := List.mem_of_find?_eq_some hpolicy
    refine ⟨modelAlias, policy, rfl, hpolicyListed, by simpa using List.find?_some hpolicy, ?_⟩
    split at h
    · rename_i hinactive
      exact .inl (by simpa using hinactive)
    split at h
    · rename_i hmissing
      obtain ⟨-, ⟨group, hgroup, hbound⟩, -⟩ := hvalid.policies policy hpolicyListed
      exact absurd (List.find?_eq_none.mp hmissing group hgroup) (by simpa using hbound)
    rename_i group hgroup
    split at h
    · rename_i hinactive
      exact .inr ⟨group, List.mem_of_find?_eq_some hgroup, by simpa using List.find?_some hgroup,
        by simpa using hinactive⟩
    · cases h

/-- In a validated catalog no route is dangling. -/
theorem validatedCatalog_no_dangling (parseUri : String → Except String ParsedUri) (catalog : GatewayCatalogSnapshot)
    (hvalid : catalog.validate parseUri = .ok ()) (request : RoutePlanRequest) :
    (∃ endpoints credentials targets, indexEndpoints catalog.providerEndpoints = .ok endpoints ∧
      indexCredentials catalog.upstreamCredentials = .ok credentials ∧
      indexTargets catalog.modelTargets = .ok targets ∧
      ∀ modelAlias policy group, catalog.resolveRouteBinding request = .ok (modelAlias, policy, group) →
        ∀ entry ∈ catalog.groupCandidates group, ∀ reason ∈ danglingReasons,
          catalog.evaluateCandidate entry
            (request.candidateContext modelAlias policy group endpoints credentials targets) ≠ .filtered reason) ∧
    (catalog.resolveRouteBinding request = .error .notReady →
      ∃ modelAlias policy, catalog.resolveAlias request.actor request.aliasName = .ok modelAlias ∧
        policy ∈ catalog.routePolicies ∧ policy.routePolicyId = modelAlias.routePolicyId ∧
        (policy.status.isActive = false ∨ ∃ group ∈ catalog.routingGroups,
          group.routingGroupId = policy.routingGroupId ∧ group.status.isActive = false)) := by
  obtain ⟨indexes⟩ := GatewayCatalogSnapshot.validate_indexes hvalid
  have hformed := (GatewayCatalogSnapshot.validate_iff parseUri catalog).mp hvalid
  refine ⟨⟨_, _, _, indexes.endpoints_ok, indexes.credentials_ok, indexes.targets_ok, ?_⟩,
    resolveRouteBinding_notReady hformed⟩
  intro modelAlias policy group hbinding entry hentry reason hreason heval
  have hcontext : ContextOf catalog request ⟨modelAlias, policy, group⟩ (request.candidateContext modelAlias policy
      group indexes.endpoints indexes.credentials indexes.targets) :=
    ⟨rfl, rfl, rfl, rfl, rfl, rfl, indexes.endpoints_ok, indexes.credentials_ok, indexes.targets_ok, rfl, rfl, rfl⟩
  have hlisted := (mem_groupCandidates ⟨modelAlias, policy, group⟩ entry).mp hentry
  exact (resolveRouteBinding_resolves hbinding).not_dangling hformed hcontext hlisted heval hreason

theorem validatedCatalog_no_dangling_drained :
    twoEndpointCatalog.validate httpUri = .ok () ∧
      ∃ endpoints credentials targets, indexEndpoints twoEndpointCatalog.providerEndpoints = .ok endpoints ∧
        indexCredentials twoEndpointCatalog.upstreamCredentials = .ok credentials ∧
        indexTargets twoEndpointCatalog.modelTargets = .ok targets ∧
        ∀ modelAlias policy group, twoEndpointCatalog.resolveRouteBinding drainedRequest =
            .ok (modelAlias, policy, group) →
          ∀ entry ∈ twoEndpointCatalog.groupCandidates group, ∀ reason ∈ danglingReasons,
            twoEndpointCatalog.evaluateCandidate entry (drainedRequest.candidateContext modelAlias policy group
              endpoints credentials targets) ≠ .filtered reason :=
  ⟨rfl, (validatedCatalog_no_dangling httpUri twoEndpointCatalog rfl drainedRequest).1⟩

end Evaluation

end Starweaver.Gateway
