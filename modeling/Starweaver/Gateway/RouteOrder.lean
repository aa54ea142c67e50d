import Starweaver.Gateway.CatalogValidity
import Starweaver.Gateway.RuntimeRoute
import Starweaver.Gateway.StickyRouting

namespace Starweaver.Gateway

open Library.Calendar Library.Checks Library.SortBy

/-- The two catalogs list the same records, each list in an order of its own. -/
structure Permuted (catalog other : GatewayCatalogSnapshot) : Prop where
  providerEndpoints : catalog.providerEndpoints.Perm other.providerEndpoints
  upstreamCredentials : catalog.upstreamCredentials.Perm other.upstreamCredentials
  modelTargets : catalog.modelTargets.Perm other.modelTargets
  modelAliases : catalog.modelAliases.Perm other.modelAliases
  routingGroups : catalog.routingGroups.Perm other.routingGroups
  routingGroupTargets : catalog.routingGroupTargets.Perm other.routingGroupTargets
  routePolicies : catalog.routePolicies.Perm other.routePolicies
  providerGrants : catalog.providerGrants.Perm other.providerGrants

section Grants

variable {catalog other : GatewayCatalogSnapshot} (hperm : Permuted catalog other) (actor : AuthenticatedActor)

include hperm

theorem Permuted.specScopeReachesNode (effect : ProviderGrantEffect) (scopeKind : ProviderGrantScopeKind)
    (scopeId : String) (path : ProviderGrantPath) (node : ProviderGrantPathNode) :
    other.specScopeReachesNode actor effect scopeKind scopeId path node =
      catalog.specScopeReachesNode actor effect scopeKind scopeId path node :=
  hperm.providerGrants.symm.any_eq

theorem Permuted.specProviderGrantAllows (path : ProviderGrantPath) :
    other.specProviderGrantAllows actor path = catalog.specProviderGrantAllows actor path := by
  have hkind : ∀ projectId resourceKind, other.projectHasAllowForKind actor projectId resourceKind =
      catalog.projectHasAllowForKind actor projectId resourceKind :=
    fun _ _ => hperm.providerGrants.symm.any_eq
  unfold GatewayCatalogSnapshot.specProviderGrantAllows GatewayCatalogSnapshot.scopeAllowsAllPathNodes
    GatewayCatalogSnapshot.projectScopeInheritsOrNarrows GatewayCatalogSnapshot.specScopeAllowsNode
    GatewayCatalogSnapshot.specScopeDeniesNode
  simp only [hperm.specScopeReachesNode actor, hkind]

theorem Permuted.providerGrantAllows (path : ProviderGrantPath) :
    other.providerGrantAllows actor path = catalog.providerGrantAllows actor path := by
  have hspec : other.hasSpecProviderGrants actor = catalog.hasSpecProviderGrants actor :=
    hperm.providerGrants.symm.any_eq
  have hlegacy : other.legacyProviderGrantAllows actor path.endpoint path.target =
      catalog.legacyProviderGrantAllows actor path.endpoint path.target :=
    hperm.providerGrants.symm.any_eq
  unfold GatewayCatalogSnapshot.providerGrantAllows
  rw [hspec, hlegacy, hperm.specProviderGrantAllows actor path]

end Grants

section Aliases

instance : Std.TransCmp (fun left right : UInt8 × ModelAliasConfig => compare right.1 left.1) :=
  inferInstanceAs (Std.TransCmp fun left right => compareOn Prod.fst right left)

abbrev scoreOrder (left right : UInt8 × ModelAliasConfig) : Ordering := compare right.1 left.1

theorem scoreOrder_eq {left right : UInt8 × ModelAliasConfig} : scoreOrder left right = .eq ↔ right.1 = left.1 :=
  Std.LawfulEqOrd.compare_eq_iff_eq

/-- Whether the best score is shared, seen from the head of the sorted list, is the same in every order. -/
theorem sortBy_best {xs ys : List (UInt8 × ModelAliasConfig)} (hperm : xs.Perm ys) {best : UInt8 × ModelAliasConfig}
    {rest : List (UInt8 × ModelAliasConfig)} (hx : sortBy scoreOrder xs = best :: rest)
    (halone : (rest.any fun entry => entry.1 == best.1) = false) :
    ∃ rest', sortBy scoreOrder ys = best :: rest' ∧ (rest'.any fun entry => entry.1 == best.1) = false := by
  have hunique : ∀ entry ∈ rest, scoreOrder best entry ≠ .eq := by
    intro entry hentry heq
    have hne := List.any_eq_false.mp halone entry hentry
    exact hne (by simpa using scoreOrder_eq.mp heq)
  obtain ⟨rest', hy, hrest⟩ := sortBy_unique_head hperm hx hunique
  exact ⟨rest', hy, hrest.any_eq.symm.trans halone⟩

variable {catalog other : GatewayCatalogSnapshot} (hperm : Permuted catalog other)

include hperm

/-- The alias that a request names is found, missed or ambiguous in every order of the aliases. -/
theorem Permuted.resolveAlias (actor : AuthenticatedActor) (aliasName : String) :
    other.resolveAlias actor aliasName = catalog.resolveAlias actor aliasName := by
  have hscoped := (hperm.modelAliases.filter
    fun modelAlias => modelAlias.tenantId == actor.tenantId && modelAlias.aliasName == aliasName).filterMap
      fun modelAlias => (aliasScopeScore modelAlias actor).map fun score => (score, modelAlias)
  unfold GatewayCatalogSnapshot.resolveAlias
  simp only
  generalize (catalog.modelAliases.filter _).filterMap _ = xs at hscoped ⊢
  generalize (other.modelAliases.filter _).filterMap _ = ys at hscoped ⊢
  cases hx : sortBy scoreOrder xs with
  | nil =>
    have hempty : sortBy scoreOrder ys = [] := by
      rw [← List.length_eq_zero_iff, ((sortBy_perm scoreOrder ys).trans hscoped.symm).length_eq,
        ← (sortBy_perm scoreOrder xs).length_eq, hx, List.length_nil]
    rw [hempty]
  | cons best rest =>
    cases halone : rest.any fun entry => entry.1 == best.1 with
    | false =>
      obtain ⟨rest', hy, halone'⟩ := sortBy_best hscoped hx halone
      rw [hy]
      simp only [halone, halone']
    | true =>
      cases hy : sortBy scoreOrder ys with
      | nil =>
        have hlength := ((sortBy_perm scoreOrder xs).trans hscoped).length_eq.trans
          (sortBy_perm scoreOrder ys).length_eq.symm
        rw [hx, hy] at hlength
        cases hlength
      | cons best' rest' =>
        have hshared : (rest'.any fun entry => entry.1 == best'.1) = true := by
          by_contra hnot
          obtain ⟨rest'', hx', halone''⟩ := sortBy_best hscoped.symm hy (Bool.eq_false_of_not_eq_true hnot)
          rw [hx] at hx'
          cases hx'
          rw [halone] at halone''
          cases halone''
        simp only [halone, hshared]
        rfl

end Aliases

section Bindings

variable {parseUri : String → Except String ParsedUri} {catalog other : GatewayCatalogSnapshot}

theorem Permuted.resolveRouteBinding (hperm : Permuted catalog other) (hvalid : WellFormedCatalog parseUri catalog)
    (request : RoutePlanRequest) : other.resolveRouteBinding request = catalog.resolveRouteBinding request := by
  unfold GatewayCatalogSnapshot.resolveRouteBinding
  rw [hperm.resolveAlias]
  simp only [find?_perm hperm.routePolicies hvalid.policy_ids, find?_perm hperm.routingGroups hvalid.group_ids]

theorem Permuted.groupCandidates (hperm : Permuted catalog other) (group : RoutingGroupConfig) :
    (catalog.groupCandidates group).Perm (other.groupCandidates group) :=
  (sortBy_perm _ _).trans ((hperm.routingGroupTargets.filter _).trans (sortBy_perm _ _).symm)

structure SameIndexes (context other : RouteCandidateContext) : Prop where
  endpoints : ∀ id, other.endpoints.lookup id = context.endpoints.lookup id
  credentials : ∀ id, other.credentials.lookup id = context.credentials.lookup id
  targets : ∀ id, other.targets.lookup id = context.targets.lookup id

variable {request : RoutePlanRequest} {modelAlias : ModelAliasConfig} {policy : RoutePolicyConfig}
  {group : RoutingGroupConfig} {endpoints endpoints' : Index ProviderEndpoint}
  {credentials credentials' : Index UpstreamCredentialConfig} {targets targets' : Index ModelTargetConfig}

theorem Permuted.evaluateCandidate (hperm : Permuted catalog other)
    (hsame : SameIndexes (request.candidateContext modelAlias policy group endpoints credentials targets)
      (request.candidateContext modelAlias policy group endpoints' credentials' targets'))
    (candidate : RoutingGroupTargetConfig) :
    other.evaluateCandidate candidate
        (request.candidateContext modelAlias policy group endpoints' credentials' targets') =
      catalog.evaluateCandidate candidate
        (request.candidateContext modelAlias policy group endpoints credentials targets) := by
  have hcredentials := funext hsame.credentials
  unfold GatewayCatalogSnapshot.evaluateCandidate
  simp only [hsame.endpoints, hsame.targets, hcredentials, hperm.providerGrantAllows]
  rfl

theorem Permuted.candidatesClass (hperm : Permuted catalog other)
    (hsame : SameIndexes (request.candidateContext modelAlias policy group endpoints credentials targets)
      (request.candidateContext modelAlias policy group endpoints' credentials' targets')) :
    other.candidatesClass (request.candidateContext modelAlias policy group endpoints' credentials' targets')
        (other.groupCandidates group) =
      catalog.candidatesClass (request.candidateContext modelAlias policy group endpoints credentials targets)
        (catalog.groupCandidates group) := by
  unfold GatewayCatalogSnapshot.candidatesClass
  simp only [hperm.evaluateCandidate hsame, (hperm.groupCandidates group).symm.any_eq]

end Bindings

/-- What a plan decides, without the evidence that it carries. -/
inductive RouteDecision
  | selected (route : SelectedRouteEvidence)
  | providerGrantDenied
  | noRoute
deriving DecidableEq, Repr

def RoutePlanOutcome.decision : RoutePlanOutcome → RouteDecision
  | .selected selection => .selected selection.evidence
  | .providerGrantDenied => .providerGrantDenied
  | .noRoute => .noRoute

def RouteHotState.NoStickyRoute (hotState : RouteHotState) : Prop :=
  ∀ tenantId projectId modelAliasId affinityHash configVersion now,
    hotState.stickyRoute tenantId projectId modelAliasId affinityHash configVersion now = none

theorem decision_eq {left right : RoutePlanOutcome} (hclass : left.outcomeClass = right.outcomeClass)
    (hselected : ∀ selection selection', left = .selected selection → right = .selected selection' →
      selection.evidence = selection'.evidence) : left.decision = right.decision := by
  cases left with
  | selected selection =>
    cases right with
    | selected selection' => exact congrArg RouteDecision.selected (hselected selection selection' rfl rfl)
    | providerGrantDenied => cases hclass
    | noRoute => cases hclass
  | providerGrantDenied => cases right <;> first | rfl | cases hclass
  | noRoute => cases right <;> first | rfl | cases hclass

section Decisions

variable {catalog other : GatewayCatalogSnapshot} {context context' : RouteCandidateContext}

theorem evaluateCandidate_active {candidate : RoutingGroupTargetConfig} {target : ModelTargetConfig}
    {endpoint : ProviderEndpoint} (heval : catalog.evaluateCandidate candidate context = .selected target endpoint) :
    candidate.status.isActive = true := by
  by_contra hinactive
  rw [Bool.not_eq_true] at hinactive
  simp [GatewayCatalogSnapshot.evaluateCandidate, hinactive] at heval

theorem evaluateCandidate_same_target {left right : RoutingGroupTargetConfig} {target target' : ModelTargetConfig}
    {endpoint endpoint' : ProviderEndpoint} (hsame : left.modelTargetId = right.modelTargetId)
    (hleft : catalog.evaluateCandidate left context = .selected target endpoint)
    (hright : catalog.evaluateCandidate right context = .selected target' endpoint') :
    target = target' ∧ endpoint = endpoint' := by
  have heval : catalog.evaluateCandidate left context = catalog.evaluateCandidate right context := by
    unfold GatewayCatalogSnapshot.evaluateCandidate
    rw [evaluateCandidate_active hleft, evaluateCandidate_active hright, hsame]
  rw [hleft, hright] at heval
  cases heval
  exact ⟨rfl, rfl⟩

theorem candidateOrder_eq_target {left right : RoutingGroupTargetConfig} (h : candidateOrder left right = .eq) :
    left.modelTargetId = right.modelTargetId := by
  unfold candidateOrder at h
  simp only [Ordering.then_eq_eq, Std.LawfulEqOrd.compare_eq_iff_eq] at h
  exact h.2.2

theorem tryStickyRouteSelection_none {request : RoutePlanRequest} (hsticky : request.hotState.NoStickyRoute)
    (candidates : List RoutingGroupTargetConfig) (evidence : PlanEvidence) :
    catalog.tryStickyRouteSelection request context candidates evidence = (.unavailable, evidence) := by
  have hnone : ∀ affinityHash, stickyRouteForPolicy context.policy request context.modelAlias affinityHash = none := by
    intro affinityHash
    unfold stickyRouteForPolicy
    split
    · rfl
    · exact hsticky _ _ _ _ _ _
  unfold GatewayCatalogSnapshot.tryStickyRouteSelection
  split
  · rfl
  · rw [hnone]

end Decisions

section Plans

variable {parseUri : String → Except String ParsedUri} {catalog other : GatewayCatalogSnapshot}
  {request : RoutePlanRequest}

/-- The main loop over the candidates of a group decides the same in every order of the lists. -/
theorem Permuted.finish (hperm : Permuted catalog other) {modelAlias : ModelAliasConfig} {policy : RoutePolicyConfig}
    {group : RoutingGroupConfig} {endpoints endpoints' : Index ProviderEndpoint}
    {credentials credentials' : Index UpstreamCredentialConfig} {targets targets' : Index ModelTargetConfig}
    (hsame : SameIndexes (request.candidateContext modelAlias policy group endpoints credentials targets)
      (request.candidateContext modelAlias policy group endpoints' credentials' targets')) :
    (GatewayCatalogSnapshot.planRuntimeRouteWithHotState.finish other
        (request.candidateContext modelAlias policy group endpoints' credentials' targets')
        (other.groupCandidates group) ⟨[], false⟩ none).outcome.decision =
      (GatewayCatalogSnapshot.planRuntimeRouteWithHotState.finish catalog
        (request.candidateContext modelAlias policy group endpoints credentials targets)
        (catalog.groupCandidates group) ⟨[], false⟩ none).outcome.decision := by
  have heval := hperm.evaluateCandidate hsame
  apply decision_eq
  · rw [finish_class none (by simp), finish_class none (by simp), hperm.candidatesClass hsame]
  · intro selection' selection hright hleft
    obtain ⟨before, candidate, after, target, endpoint, summary, hsplit, hbefore, hchosen, rfl⟩ :=
      finish_selected hleft
    obtain ⟨before', candidate', after', target', endpoint', summary', hsplit', hbefore', hchosen', rfl⟩ :=
      finish_selected hright
    simp only [heval] at hbefore' hchosen'
    -- Entries that compare equal name one target, so the two first usable entries lead to one endpoint.
    have horder : candidateOrder candidate candidate' = .eq := by
      refine sortBy_first_eq (fun entry => (catalog.evaluateCandidate entry (request.candidateContext modelAlias policy
        group endpoints credentials targets)).isSelected = true) (hperm.routingGroupTargets.filter _) hsplit ?_ ?_
        hsplit' ?_ ?_
      · intro earlier hearlier
        rw [Bool.not_eq_true, CandidateEvaluation.isSelected_filtered]
        exact hbefore earlier hearlier
      · rw [hchosen]
        rfl
      · intro earlier hearlier
        rw [Bool.not_eq_true, CandidateEvaluation.isSelected_filtered]
        exact hbefore' earlier hearlier
      · rw [hchosen']
        rfl
    obtain ⟨rfl, rfl⟩ := evaluateCandidate_same_target (candidateOrder_eq_target horder) hchosen hchosen'
    rfl

/-- Without a sticky record a plan is what the loop over the candidates of its group ends with. -/
theorem planRuntimeRouteWithHotState_noSticky (hsticky : request.hotState.NoStickyRoute)
    {modelAlias : ModelAliasConfig} {policy : RoutePolicyConfig} {group : RoutingGroupConfig}
    {endpoints : Index ProviderEndpoint} {credentials : Index UpstreamCredentialConfig}
    {targets : Index ModelTargetConfig} (hbinding : catalog.resolveRouteBinding request = .ok (modelAlias, policy, group))
    (hendpoints : indexEndpoints catalog.providerEndpoints = .ok endpoints)
    (hcredentials : indexCredentials catalog.upstreamCredentials = .ok credentials)
    (htargets : indexTargets catalog.modelTargets = .ok targets) :
    catalog.planRuntimeRouteWithHotState request =
      .ok (GatewayCatalogSnapshot.planRuntimeRouteWithHotState.finish catalog
        (request.candidateContext modelAlias policy group endpoints credentials targets)
        (catalog.groupCandidates group) ⟨[], false⟩ none) := by
  unfold GatewayCatalogSnapshot.planRuntimeRouteWithHotState
  rw [hbinding, hendpoints, hcredentials, htargets]
  simp only [bind, Except.bind, tryStickyRouteSelection_none hsticky]

/-- Without a sticky record a plan decides the same in every order of the lists of the catalog. -/
theorem planRuntimeRouteWithHotState_order_independent (hvalid : catalog.validate parseUri = .ok ())
    (hperm : Permuted catalog other) (hsticky : request.hotState.NoStickyRoute) :
    (other.planRuntimeRouteWithHotState request).map (·.outcome.decision) =
      (catalog.planRuntimeRouteWithHotState request).map (·.outcome.decision) := by
  have hwell := (GatewayCatalogSnapshot.validate_iff parseUri catalog).mp hvalid
  obtain ⟨endpoints, hendpoints⟩ : ∃ index, indexEndpoints catalog.providerEndpoints = .ok index :=
    indexBy_ok_iff.mpr hwell.endpoint_ids
  obtain ⟨credentials, hcredentials⟩ : ∃ index, indexCredentials catalog.upstreamCredentials = .ok index :=
    indexBy_ok_iff.mpr hwell.credential_ids
  obtain ⟨targets, htargets⟩ : ∃ index, indexTargets catalog.modelTargets = .ok index :=
    indexBy_ok_iff.mpr hwell.target_ids
  obtain ⟨endpoints', hendpoints', hsameEndpoints⟩ := indexBy_perm hperm.providerEndpoints hendpoints
  obtain ⟨credentials', hcredentials', hsameCredentials⟩ := indexBy_perm hperm.upstreamCredentials hcredentials
  obtain ⟨targets', htargets', hsameTargets⟩ := indexBy_perm hperm.modelTargets htargets
  have hresolve := hperm.resolveRouteBinding hwell request
  cases hbinding : catalog.resolveRouteBinding request with
  | error error =>
    rw [hbinding] at hresolve
    unfold GatewayCatalogSnapshot.planRuntimeRouteWithHotState
    rw [hbinding, hresolve]
    simp only [bind, Except.bind]
  | ok binding =>
    obtain ⟨modelAlias, policy, group⟩ := binding
    rw [hbinding] at hresolve
    rw [planRuntimeRouteWithHotState_noSticky hsticky hbinding hendpoints hcredentials htargets,
      planRuntimeRouteWithHotState_noSticky hsticky hresolve hendpoints' hcredentials' htargets', Except.map, Except.map,
      hperm.finish ⟨hsameEndpoints, hsameCredentials, hsameTargets⟩]

def shuffledCatalog : GatewayCatalogSnapshot :=
  { twoEndpointCatalog with
    providerEndpoints := twoEndpointCatalog.providerEndpoints.reverse
    modelTargets := twoEndpointCatalog.modelTargets.reverse
    routingGroupTargets := twoEndpointCatalog.routingGroupTargets.reverse
    providerGrants := twoEndpointCatalog.providerGrants.reverse }

theorem planRuntimeRouteWithHotState_order_independent_reversed :
    (shuffledCatalog.planRuntimeRouteWithHotState drainedRequest).map (·.outcome.decision) =
        (twoEndpointCatalog.planRuntimeRouteWithHotState drainedRequest).map (·.outcome.decision) ∧
      (twoEndpointCatalog.planRuntimeRouteWithHotState drainedRequest).map (·.outcome.decision) =
        .ok (.selected ⟨"alias_1", "policy_1", "group_1", "target_b", "ep_b", none⟩) := by
  have hvalid : twoEndpointCatalog.validate httpUri = .ok () := rfl
  have hperm : Permuted twoEndpointCatalog shuffledCatalog :=
    ⟨(List.reverse_perm _).symm, .refl _, (List.reverse_perm _).symm, .refl _, .refl _, (List.reverse_perm _).symm,
      .refl _, (List.reverse_perm _).symm⟩
  have hsticky : drainedRequest.hotState.NoStickyRoute := fun _ _ _ _ _ _ => rfl
  exact ⟨planRuntimeRouteWithHotState_order_independent hvalid hperm hsticky, rfl⟩

end Plans

end Starweaver.Gateway
