import Starweaver.Gateway.ControlPlane
import Starweaver.Gateway.RouteEligibility

namespace Starweaver.Gateway

open Library.Checks

/-- A route of the catalog that planning has selected: the binding, the target and the endpoint it goes through. -/
structure SelectedRoute (catalog : GatewayCatalogSnapshot) (request : RoutePlanRequest) (selection : RouteSelection)
    where
  binding : RouteBinding
  entry : RoutingGroupTargetConfig
  target : ModelTargetConfig
  endpoint : ProviderEndpoint
  resolves : Resolves catalog request binding
  listed : entry ∈ catalog.entriesOf binding
  eligible : Eligible catalog request binding entry target endpoint
  group_eq : selection.routingGroupId = binding.group.routingGroupId
  endpoint_eq : selection.providerEndpoint = endpoint
  credential_eq : selection.upstreamCredentialId = target.upstreamCredentialId

theorem planRuntimeRouteWithHotState_selected {catalog : GatewayCatalogSnapshot} {request : RoutePlanRequest}
    {plan : RoutePlan} {selection : RouteSelection} (hplan : catalog.planRuntimeRouteWithHotState request = .ok plan)
    (hselected : plan.outcome = .selected selection) : Nonempty (SelectedRoute catalog request selection) := by
  obtain ⟨binding, context, hresolves, hcontext, hcases⟩ := planRuntimeRouteWithHotState_cases hplan
  have hgroup := congrArg RoutingGroupConfig.routingGroupId hcontext.group
  rcases hcases with ⟨entry, hentry, target, endpoint, summary, heligible, hsticky⟩ |
    ⟨evidence, stickyMissReason, hflag, hfinish⟩
  · rw [hselected, RoutePlanOutcome.selected.injEq] at hsticky
    subst hsticky
    exact ⟨⟨binding, entry, target, endpoint, hresolves, hentry, heligible, hgroup, rfl, rfl⟩⟩
  · rcases finish_outcome hcontext evidence stickyMissReason hflag hfinish with
      ⟨entry, hentry, target, endpoint, summary, heligible, hmain, -⟩ | ⟨hnone, -⟩
    · rw [hselected, RoutePlanOutcome.selected.injEq] at hmain
      subst hmain
      exact ⟨⟨binding, entry, target, endpoint, hresolves, hentry, heligible, hgroup, rfl, rfl⟩⟩
    · exact absurd hselected (hnone selection)

def Selects (env : GatewayEnv) (s : GatewayState) (request : RuntimeRouteRequest) (loaded : LoadedCatalog)
    (selection : RouteSelection) : Prop :=
  latestCatalogForActor s.store env request.actor = .ok (some loaded) ∧
    ∃ plan, loaded.catalog.planRuntimeRouteWithHotState (request.planRequest loaded s.hotState) = .ok plan ∧
      plan.outcome = .selected selection

theorem Selects.route {env : GatewayEnv} {s : GatewayState} {request : RuntimeRouteRequest} {loaded : LoadedCatalog}
    {selection : RouteSelection} (h : Selects env s request loaded selection) :
    Nonempty (SelectedRoute loaded.catalog (request.planRequest loaded s.hotState) selection) := by
  obtain ⟨-, plan, hplan, hselected⟩ := h
  exact planRuntimeRouteWithHotState_selected hplan hselected

/-- A routed target is the one that the plan selected, or the requested model itself when nothing is published. -/
theorem routeRequest_ok {env : GatewayEnv} {s next : GatewayState} {request : RuntimeRouteRequest}
    {target : RuntimeRouteTarget} (h : routeRequest env request s = (.ok target, next)) :
    next.store = s.store ∧ (target = unroutedTarget request.requestedModel ∨
      ∃ loaded selection, Selects env s request loaded selection ∧
        target.upstreamCredentialId = selection.upstreamCredentialId ∧
        target.upstreamCredentialSnapshot = runtimeCredentialSnapshot loaded.catalog selection ∧
        target.providerEndpoint = some selection.providerEndpoint ∧ target.selectedRoute = some selection.evidence) := by
  unfold routeRequest at h
  simp only [Prod.mk.injEq] at h
  obtain ⟨htarget, rfl⟩ := h
  refine ⟨rfl, ?_⟩
  cases hloaded : latestCatalogForActor s.store env request.actor with
  | error error =>
    rw [hloaded] at htarget
    cases htarget
  | ok loaded =>
    rw [hloaded] at htarget
    cases loaded with
    | none =>
      cases htarget
      exact .inl rfl
    | some loaded =>
      simp only [runtimeRouteTarget] at htarget
      cases hplan : loaded.catalog.planRuntimeRouteWithHotState (request.planRequest loaded s.hotState) with
      | error error =>
        rw [hplan] at htarget
        cases htarget
      | ok plan =>
        rw [hplan] at htarget
        have hrefused : ∀ error, refusedRuntimeRoute request error ≠ .ok target := by
          intro error hok
          obtain ⟨_, -, hok⟩ := bind_ok.mp hok
          cases hok
        cases houtcome : plan.outcome with
        | selected selection =>
          simp only [houtcome, selectedRuntimeRouteTarget] at htarget
          split at htarget
          · cases htarget
          · cases htarget
            exact .inr ⟨loaded, selection, ⟨hloaded, plan, hplan, houtcome⟩, rfl, rfl, rfl, rfl⟩
        | providerGrantDenied =>
          simp only [houtcome] at htarget
          exact absurd htarget (hrefused _)
        | noRoute =>
          simp only [houtcome] at htarget
          exact absurd htarget (hrefused _)

theorem latestCatalogForActor_valid {store : GatewayStore} {env : GatewayEnv} {actor : AuthenticatedActor}
    {loaded : LoadedCatalog} (h : latestCatalogForActor store env actor = .ok (some loaded)) :
    loaded.catalog.validate env.parseUri = .ok () := by
  obtain ⟨snapshot, -, h⟩ := bind_ok.mp h
  cases snapshot with
  | none => cases h
  | some snapshot =>
    obtain ⟨catalog, hpayload, h⟩ := bind_ok.mp h
    unfold GatewayCatalogSnapshot.fromPayload at hpayload
    split at hpayload
    · cases hpayload
      cases h
    · cases hpayload
    · obtain ⟨_, hvalid, hpayload⟩ := bind_ok.mp hpayload
      cases hpayload
      cases h
      exact hvalid

end Starweaver.Gateway
