import Starweaver.Gateway.RouteEligibility

namespace Starweaver.Gateway

open Library.Checks

inductive OutcomeClass
  | selected
  | providerGrantDenied
  | noRoute
deriving DecidableEq, Repr

def RoutePlanOutcome.outcomeClass : RoutePlanOutcome → OutcomeClass
  | .selected _ => .selected
  | .providerGrantDenied => .providerGrantDenied
  | .noRoute => .noRoute

def CandidateEvaluation.isSelected : CandidateEvaluation → Bool
  | .selected _ _ => true
  | .filtered _ => false

theorem CandidateEvaluation.isSelected_filtered {evaluation : CandidateEvaluation} :
    evaluation.isSelected = false ↔ ∃ reason, evaluation = .filtered reason := by
  cases evaluation <;> simp [isSelected]

/-- Whether some candidate can be used, and if not, whether a grant stands against one. -/
def GatewayCatalogSnapshot.candidatesClass (catalog : GatewayCatalogSnapshot) (context : RouteCandidateContext)
    (candidates : List RoutingGroupTargetConfig) : OutcomeClass :=
  if candidates.any fun candidate => (catalog.evaluateCandidate candidate context).isSelected then .selected
  else if candidates.any fun candidate =>
      catalog.evaluateCandidate candidate context == .filtered .providerGrantDenied then .providerGrantDenied
  else .noRoute

def GatewayCatalogSnapshot.planClass (catalog : GatewayCatalogSnapshot) (request : RoutePlanRequest) :
    Result OutcomeClass := do
  let (modelAlias, policy, group) ← catalog.resolveRouteBinding request
  let endpoints ← indexEndpoints catalog.providerEndpoints
  let credentials ← indexCredentials catalog.upstreamCredentials
  let targets ← indexTargets catalog.modelTargets
  .ok (catalog.candidatesClass (request.candidateContext modelAlias policy group endpoints credentials targets)
    (catalog.groupCandidates group))

section Classes

variable {catalog : GatewayCatalogSnapshot} {context : RouteCandidateContext}
  {candidates : List RoutingGroupTargetConfig}

theorem candidatesClass_selected {candidate : RoutingGroupTargetConfig} {target : ModelTargetConfig}
    {endpoint : ProviderEndpoint} (hmem : candidate ∈ candidates)
    (heval : catalog.evaluateCandidate candidate context = .selected target endpoint) :
    catalog.candidatesClass context candidates = .selected := by
  unfold GatewayCatalogSnapshot.candidatesClass
  rw [if_pos]
  exact List.any_eq_true.mpr ⟨candidate, hmem, by rw [heval]; rfl⟩

/-- The main loop ends in the class of its candidates, from evidence that only they gave. -/
theorem finish_class {evidence : PlanEvidence} (stickyMissReason : Option String)
    (hflag : evidence.providerGrantDenied = true →
      ∃ candidate ∈ candidates, catalog.evaluateCandidate candidate context = .filtered .providerGrantDenied) :
    (GatewayCatalogSnapshot.planRuntimeRouteWithHotState.finish catalog context candidates evidence
      stickyMissReason).outcome.outcomeClass = catalog.candidatesClass context candidates := by
  unfold GatewayCatalogSnapshot.planRuntimeRouteWithHotState.finish
  split
  · rename_i selection final hloop
    obtain ⟨before, candidate, after, target, endpoint, summary, hsplit, -, hchosen, -⟩ :=
      firstEligibleRouteSelection_some (congrArg Prod.fst hloop)
    have hmem : candidate ∈ candidates := by
      rw [hsplit]
      simp
    rw [candidatesClass_selected hmem hchosen]
    rfl
  · rename_i final hloop
    obtain ⟨hall, hdenied⟩ := firstEligibleRouteSelection_none (congrArg Prod.fst hloop)
    rw [hloop] at hdenied
    have hnone : (candidates.any fun candidate => (catalog.evaluateCandidate candidate context).isSelected) = false := by
      rw [List.any_eq_false]
      intro candidate hcandidate
      rw [Bool.not_eq_true, CandidateEvaluation.isSelected_filtered]
      exact hall candidate hcandidate
    have hgrant : final.providerGrantDenied = (candidates.any fun candidate =>
        catalog.evaluateCandidate candidate context == .filtered .providerGrantDenied) := by
      rw [Bool.eq_iff_iff, hdenied, List.any_eq_true]
      simp only [beq_iff_eq]
      exact ⟨fun hor => hor.elim hflag id, .inr⟩
    unfold GatewayCatalogSnapshot.candidatesClass
    rw [hnone, ← hgrant]
    cases final.providerGrantDenied <;> rfl

/-- The class of a plan is the class of the candidates of its binding, whatever the sticky route is. -/
theorem planRuntimeRouteWithHotState_class (catalog : GatewayCatalogSnapshot) (request : RoutePlanRequest) :
    (catalog.planRuntimeRouteWithHotState request).map (·.outcome.outcomeClass) = catalog.planClass request := by
  unfold GatewayCatalogSnapshot.planRuntimeRouteWithHotState GatewayCatalogSnapshot.planClass
  cases catalog.resolveRouteBinding request with
  | error error => rfl
  | ok binding =>
    obtain ⟨modelAlias, policy, group⟩ := binding
    cases indexEndpoints catalog.providerEndpoints with
    | error error => rfl
    | ok endpoints =>
      cases indexCredentials catalog.upstreamCredentials with
      | error error => rfl
      | ok credentials =>
        cases indexTargets catalog.modelTargets with
        | error error => rfl
        | ok targets =>
          simp only [bind, Except.bind]
          set context := request.candidateContext modelAlias policy group endpoints credentials targets
          rcases tryStickyRouteSelection_cases catalog request context (catalog.groupCandidates group) with
            ⟨entry, hentry, target, endpoint, summary, heval, hselected⟩ | ⟨hmiss, hflag⟩
          · rw [candidatesClass_selected hentry heval]
            split
            · rfl
            all_goals simp_all
          · split
            · simp_all
            · rename_i reason evidence hresult
              rw [hresult] at hflag
              exact congrArg Except.ok (finish_class reason hflag)
            · rename_i evidence hresult
              rw [hresult] at hflag
              exact congrArg Except.ok (finish_class none hflag)

end Classes

section Sticky

variable {catalog : GatewayCatalogSnapshot}

/-- The two hot states tell the same about health and drains. -/
structure SameHealth (s t : RouteHotState) : Prop where
  health : t.endpointHealthState = s.endpointHealthState
  drains : t.endpointIsDrained = s.endpointIsDrained

theorem SameHealth.evaluateCandidate (context : RouteCandidateContext) {other : RouteHotState}
    (h : SameHealth context.hotState other) (candidate : RoutingGroupTargetConfig) :
    catalog.evaluateCandidate candidate { context with hotState := other } =
      catalog.evaluateCandidate candidate context := by
  unfold GatewayCatalogSnapshot.evaluateCandidate
  simp only [h.health, h.drains]
  rfl

theorem SameHealth.planClass {request : RoutePlanRequest} {other : RouteHotState}
    (h : SameHealth request.hotState other) :
    catalog.planClass { request with hotState := other } = catalog.planClass request := by
  have hclass : ∀ modelAlias policy group endpoints credentials targets,
      catalog.candidatesClass (RoutePlanRequest.candidateContext { request with hotState := other } modelAlias policy
          group endpoints credentials targets) (catalog.groupCandidates group) =
        catalog.candidatesClass (request.candidateContext modelAlias policy group endpoints credentials targets)
          (catalog.groupCandidates group) := by
    intro modelAlias policy group endpoints credentials targets
    have heval : ∀ candidate, catalog.evaluateCandidate candidate (RoutePlanRequest.candidateContext
        { request with hotState := other } modelAlias policy group endpoints credentials targets) =
          catalog.evaluateCandidate candidate
            (request.candidateContext modelAlias policy group endpoints credentials targets) :=
      fun candidate => SameHealth.evaluateCandidate
        (request.candidateContext modelAlias policy group endpoints credentials targets) h candidate
    unfold GatewayCatalogSnapshot.candidatesClass
    simp only [heval]
  unfold GatewayCatalogSnapshot.planClass
  simp only [hclass]
  rfl

theorem tryStickyRouteSelection_hit {request : RoutePlanRequest} {context : RouteCandidateContext}
    {candidates : List RoutingGroupTargetConfig} {evidence : PlanEvidence} {selection : RouteSelection}
    (h : (catalog.tryStickyRouteSelection request context candidates evidence).1 = .selected selection) :
    ∃ affinityHash sticky, request.routeAffinityHash = some affinityHash ∧
      stickyRouteForPolicy context.policy request context.modelAlias affinityHash = some sticky ∧
      ∃ candidate ∈ candidates, candidate.modelTargetId = sticky.modelTargetId ∧
        ∃ target endpoint, catalog.evaluateCandidate candidate context = .selected target endpoint ∧
          endpoint.providerEndpointId = sticky.providerEndpointId ∧
          selection = routeSelection context target endpoint evidence.filteredSummary true none := by
  unfold GatewayCatalogSnapshot.tryStickyRouteSelection at h
  split at h
  · cases h
  rename_i affinityHash haffinity
  split at h
  · cases h
  rename_i sticky hsticky
  split at h
  · cases h
  split at h
  · cases h
  rename_i candidate hfind
  split at h
  · rename_i target endpoint heval
    split at h
    · rename_i hendpoint
      cases h
      exact ⟨affinityHash, sticky, haffinity, hsticky, candidate, List.mem_of_find?_eq_some hfind,
        by simpa using List.find?_some hfind, target, endpoint, heval, hendpoint, rfl⟩
    · cases h
  · cases h

theorem finish_selected {context : RouteCandidateContext} {candidates : List RoutingGroupTargetConfig}
    {evidence : PlanEvidence} {stickyMissReason : Option String} {selection : RouteSelection}
    (h : (GatewayCatalogSnapshot.planRuntimeRouteWithHotState.finish catalog context candidates evidence
      stickyMissReason).outcome = .selected selection) :
    ∃ before candidate after target endpoint summary, candidates = before ++ candidate :: after ∧
      (∀ earlier ∈ before, ∃ reason, catalog.evaluateCandidate earlier context = .filtered reason) ∧
      catalog.evaluateCandidate candidate context = .selected target endpoint ∧
      selection = routeSelection context target endpoint summary false stickyMissReason := by
  unfold GatewayCatalogSnapshot.planRuntimeRouteWithHotState.finish at h
  split at h
  · rename_i found final hloop
    cases h
    exact firstEligibleRouteSelection_some (congrArg Prod.fst hloop)
  · split at h <;> cases h

theorem finish_not_sticky {context : RouteCandidateContext} {candidates : List RoutingGroupTargetConfig}
    {evidence : PlanEvidence} {stickyMissReason : Option String} {selection : RouteSelection}
    (h : (GatewayCatalogSnapshot.planRuntimeRouteWithHotState.finish catalog context candidates evidence
      stickyMissReason).outcome = .selected selection) : selection.stickyHit = false := by
  obtain ⟨_, _, _, _, _, _, -, -, -, rfl⟩ := finish_selected h
  rfl

theorem planRuntimeRouteWithHotState_sticky {request : RoutePlanRequest} {plan : RoutePlan}
    {selection : RouteSelection} (hplan : catalog.planRuntimeRouteWithHotState request = .ok plan)
    (hselected : plan.outcome = .selected selection) (hhit : selection.stickyHit = true) :
    ∃ binding affinityHash sticky, Resolves catalog request binding ∧
      request.routeAffinityHash = some affinityHash ∧
      stickyRouteForPolicy binding.policy request binding.modelAlias affinityHash = some sticky ∧
      selection.modelTargetId = sticky.modelTargetId ∧
      selection.providerEndpoint.providerEndpointId = sticky.providerEndpointId ∧
      ∃ entry ∈ catalog.entriesOf binding, ∃ target endpoint,
        Eligible catalog request binding entry target endpoint ∧ selection.modelTargetId = target.modelTargetId ∧
        selection.providerEndpoint = endpoint := by
  unfold GatewayCatalogSnapshot.planRuntimeRouteWithHotState at hplan
  obtain ⟨⟨modelAlias, policy, group⟩, hbinding, hplan⟩ := bind_ok.mp hplan
  obtain ⟨endpoints, hendpoints, hplan⟩ := bind_ok.mp hplan
  obtain ⟨credentials, hcredentials, hplan⟩ := bind_ok.mp hplan
  obtain ⟨targets, htargets, hplan⟩ := bind_ok.mp hplan
  simp only at hplan
  have hcontext : ContextOf catalog request ⟨modelAlias, policy, group⟩
      (request.candidateContext modelAlias policy group endpoints credentials targets) :=
    ⟨rfl, rfl, rfl, rfl, rfl, rfl, hendpoints, hcredentials, htargets, rfl, rfl, rfl⟩
  have hmissed : ∀ evidence stickyMissReason, plan = GatewayCatalogSnapshot.planRuntimeRouteWithHotState.finish catalog
      (request.candidateContext modelAlias policy group endpoints credentials targets)
      (catalog.groupCandidates group) evidence stickyMissReason → False := by
    intro evidence stickyMissReason hfinish
    rw [hfinish] at hselected
    rw [finish_not_sticky hselected] at hhit
    cases hhit
  split at hplan
  · rename_i found evidence hresult
    cases hplan
    cases hselected
    obtain ⟨affinityHash, sticky, haffinity, hsticky, entry, hentry, htarget, target, endpoint, heval, hendpoint,
      rfl⟩ := tryStickyRouteSelection_hit (congrArg Prod.fst hresult)
    have heligible := (evaluateCandidate_selected hcontext).mp heval
    refine ⟨⟨modelAlias, policy, group⟩, affinityHash, sticky, resolveRouteBinding_resolves hbinding, haffinity, hsticky,
      ?_, hendpoint, entry, (mem_groupCandidates ⟨modelAlias, policy, group⟩ entry).mp hentry, target, endpoint,
      heligible, rfl, rfl⟩
    exact heligible.1.target_named.trans htarget
  · exact (hmissed _ _ (Except.ok.inj hplan).symm).elim
  · exact (hmissed _ _ (Except.ok.inj hplan).symm).elim

end Sticky

/-- Sticky records decide where a request goes, never whether it goes, and only to a target that may be used. -/
theorem stickyRoute_keeps_outcome (catalog : GatewayCatalogSnapshot) (request : RoutePlanRequest)
    (other : RouteHotState) (hsame : SameHealth request.hotState other) :
    (catalog.planRuntimeRouteWithHotState { request with hotState := other }).map (·.outcome.outcomeClass) =
        (catalog.planRuntimeRouteWithHotState request).map (·.outcome.outcomeClass) ∧
      ∀ plan selection, catalog.planRuntimeRouteWithHotState request = .ok plan →
        plan.outcome = .selected selection → selection.stickyHit = true →
        ∃ binding affinityHash sticky, Resolves catalog request binding ∧
          request.routeAffinityHash = some affinityHash ∧
          stickyRouteForPolicy binding.policy request binding.modelAlias affinityHash = some sticky ∧
          selection.modelTargetId = sticky.modelTargetId ∧
          selection.providerEndpoint.providerEndpointId = sticky.providerEndpointId ∧
          ∃ entry ∈ catalog.entriesOf binding, ∃ target endpoint,
            Eligible catalog request binding entry target endpoint ∧ selection.modelTargetId = target.modelTargetId ∧
            selection.providerEndpoint = endpoint := by
  refine ⟨?_, fun plan selection hplan hselected hhit => planRuntimeRouteWithHotState_sticky hplan hselected hhit⟩
  rw [planRuntimeRouteWithHotState_class, planRuntimeRouteWithHotState_class, hsame.planClass]

def stickyCatalog : GatewayCatalogSnapshot :=
  { twoEndpointCatalog with routePolicies := [⟨"policy_1", "tenant_1", "alias_1", "group_1", .active, some 3600⟩] }

def stickyToSecond : StickyRouteRecord :=
  ⟨"tenant_1", none, "alias_1", "affinity", "group_1", "target_b", "ep_b", 1, ⟨0⟩, ⟨3600⟩⟩

def stickyRequest : RoutePlanRequest :=
  { drainedRequest with
    hotState := { nullRouteHotState with stickyRoute := fun _ _ _ _ _ _ => some stickyToSecond }
    routeAffinityHash := some "affinity" }

theorem stickyRoute_keeps_outcome_second :
    stickyCatalog.validate httpUri = .ok () ∧
      (stickyCatalog.planRuntimeRouteWithHotState { stickyRequest with hotState := nullRouteHotState }).map
          (·.outcome.outcomeClass) =
        (stickyCatalog.planRuntimeRouteWithHotState stickyRequest).map (·.outcome.outcomeClass) ∧
      ∃ plan selection, stickyCatalog.planRuntimeRouteWithHotState stickyRequest = .ok plan ∧
        plan.outcome = .selected selection ∧ selection.stickyHit = true ∧ selection.modelTargetId = "target_b" := by
  refine ⟨rfl, (stickyRoute_keeps_outcome stickyCatalog stickyRequest nullRouteHotState ⟨rfl, rfl⟩).1, ?_⟩
  exact ⟨_, _, rfl, rfl, rfl, rfl⟩

end Starweaver.Gateway
