import Starweaver.Gateway.EndpointDrain

namespace Starweaver.Gateway

open Library.Checks Library.Machine

def SendsCredential (env : GatewayEnv) (upstreamCredentialId : String) (s : GatewayState)
    (request : RuntimeRouteRequest) : Prop :=
  ∃ target next credential, routeRequest env request s = (.ok target, next) ∧
    target.upstreamCredentialId = some upstreamCredentialId ∧
    runtimeProviderAdapterCredential next.store target = some credential

def SelectsGroup (env : GatewayEnv) (routingGroupId : String) (s : GatewayState) (request : RuntimeRouteRequest) :
    Prop :=
  ∃ loaded selection, Selects env s request loaded selection ∧ selection.routingGroupId = routingGroupId

/-- The catalog in use has no active target with a usable credential of this id. -/
def CatalogSparesCredential (env : GatewayEnv) (upstreamCredentialId : String) (s : GatewayState)
    (request : RuntimeRouteRequest) : Prop :=
  ∀ loaded, latestCatalogForActor s.store env request.actor = .ok (some loaded) →
    ∀ target ∈ loaded.catalog.modelTargets, target.status = .active →
      target.upstreamCredentialId = some upstreamCredentialId →
      ∀ credential ∈ loaded.catalog.upstreamCredentials, credential.upstreamCredentialId = upstreamCredentialId →
        credential.status.isUsable = false

/-- The catalog in use has no active policy to an active group of this id. -/
def CatalogSparesGroup (env : GatewayEnv) (routingGroupId : String) (s : GatewayState)
    (request : RuntimeRouteRequest) : Prop :=
  ∀ loaded, latestCatalogForActor s.store env request.actor = .ok (some loaded) →
    ∀ policy ∈ loaded.catalog.routePolicies, policy.status = .active → policy.routingGroupId = routingGroupId →
      ∀ group ∈ loaded.catalog.routingGroups, group.routingGroupId = routingGroupId → group.status ≠ .active

section Requests

variable {env : GatewayEnv} {id : String} {s : GatewayState} {request : RuntimeRouteRequest}

theorem not_sendsCredential (hspared : CatalogSparesCredential env id s request) :
    ¬ SendsCredential env id s request := by
  rintro ⟨target, next, credential, hroute, hid, -⟩
  obtain ⟨-, rfl | ⟨loaded, selection, hselects, hcredential, -⟩⟩ := routeRequest_ok hroute
  · cases hid
  obtain ⟨route⟩ := hselects.route
  obtain ⟨htests, -⟩ := route.eligible
  have hnamed : route.target.upstreamCredentialId = some id := by
    rw [← route.credential_eq, ← hcredential, hid]
  obtain ⟨entry, hlisted, hentry, husable⟩ := htests.credential_usable id hnamed
  have hunusable := hspared loaded hselects.1 route.target htests.target_listed htests.target_active hnamed entry
    hlisted hentry
  rw [husable] at hunusable
  cases hunusable

theorem not_selectsGroup (hspared : CatalogSparesGroup env id s request) : ¬ SelectsGroup env id s request := by
  rintro ⟨loaded, selection, hselects, hgroup⟩
  obtain ⟨route⟩ := hselects.route
  have hresolves := route.resolves
  rw [route.group_eq] at hgroup
  have hpolicy : route.binding.policy.routingGroupId = id := by rw [← hresolves.group_bound, hgroup]
  exact hspared loaded hselects.1 _ hresolves.policy_listed hresolves.policy_active hpolicy _ hresolves.group_listed
    hgroup hresolves.group_active

end Requests

section Statuses

variable {env : GatewayEnv} {call : EmergencyCall} {id : String} {s next : GatewayState} {action : GatewayAction}

def CredentialDisabled (id : String) (r : Resources) : Prop :=
  ∃ record, r.upstreamCredentials.lookup id = some record ∧ record.status = .disabled

def GroupDraining (id : String) (r : Resources) : Prop :=
  ∃ record, r.routingGroups.lookup id = some record ∧ record.status = .draining

theorem CredentialDisabled.step {r r' : Resources} (h : CredentialDisabled id r) (hstep : ResourceStep action r r')
    (hother : ∀ version status, action ≠ .updateUpstreamCredentialStatus id version status) :
    CredentialDisabled id r' := by
  obtain ⟨record, hlookup, hdisabled⟩ := h
  cases hstep with
  | credentialCreated created newRecord ref hfresh href htenant =>
    have hne : id ≠ created := by
      rintro rfl
      rw [hfresh] at hlookup
      cases hlookup
    exact ⟨record, by rw [AList.lookup_insert_ne hne, hlookup], hdisabled⟩
  | credentialUpdated updated old record' hfound htenant hsecret hstatus =>
    by_cases heq : id = updated
    · subst heq
      refine ⟨record', AList.lookup_insert _, ?_⟩
      rcases hstatus with hstatus | ⟨version, status, haction⟩
      · exact hstatus
      · exact absurd haction (hother version status)
    · exact ⟨record, by rw [AList.lookup_insert_ne heq, hlookup], hdisabled⟩
  | _ => exact ⟨record, hlookup, hdisabled⟩

theorem GroupDraining.step {r r' : Resources} (h : GroupDraining id r) (hstep : ResourceStep action r r')
    (hother : ∀ version status, action ≠ .updateRoutingGroupStatus id version status) : GroupDraining id r' := by
  obtain ⟨record, hlookup, hdraining⟩ := h
  cases hstep with
  | groupCreated created newRecord hfresh =>
    have hne : id ≠ created := by
      rintro rfl
      rw [hfresh] at hlookup
      cases hlookup
    exact ⟨record, by rw [AList.lookup_insert_ne hne, hlookup], hdraining⟩
  | groupUpdated updated record' hstatus =>
    by_cases heq : id = updated
    · subst heq
      refine ⟨record', AList.lookup_insert _, ?_⟩
      rcases hstatus with hstatus | ⟨version, status, haction⟩
      · exact hstatus
      · exact absurd haction (hother version status)
    · exact ⟨record, by rw [AList.lookup_insert_ne heq, hlookup], hdraining⟩
  | _ => exact ⟨record, hlookup, hdraining⟩

theorem emergencyDisableUpstreamCredential_disabled {operation : EmergencyOperationRecord}
    (hcall : emergencyDisableUpstreamCredential env call s = (.ok operation, next))
    (hfresh : call.replayed env .disableUpstreamCredential s = false) :
    CredentialDisabled call.targetResourceId next.store.resources := by
  obtain ⟨before, changed, -, hchange, hafter⟩ := emergencyOperation_ok hcall hfresh
  obtain ⟨_, -, hchange⟩ := bind_ok.mp hchange
  obtain ⟨_, -, hchange⟩ := bind_ok.mp hchange
  obtain ⟨⟨updated, store⟩, hupdate, hchange⟩ := bind_ok.mp hchange
  obtain ⟨record, -, hupdated, hstore⟩ := updateResource_ok hupdate
  rw [hafter.resources, ← Except.ok.inj hchange, hstore]
  exact ⟨updated, AList.lookup_insert _, by rw [hupdated]⟩

theorem emergencyDrainRoutingGroup_draining {operation : EmergencyOperationRecord}
    (hcall : emergencyDrainRoutingGroup env call s = (.ok operation, next))
    (hfresh : call.replayed env .drainRoutingGroup s = false) :
    GroupDraining call.targetResourceId next.store.resources := by
  obtain ⟨before, changed, -, hchange, hafter⟩ := emergencyOperation_ok hcall hfresh
  obtain ⟨_, -, hchange⟩ := bind_ok.mp hchange
  obtain ⟨_, -, hchange⟩ := bind_ok.mp hchange
  obtain ⟨⟨updated, store⟩, hupdate, hchange⟩ := bind_ok.mp hchange
  obtain ⟨record, -, hupdated, hstore⟩ := updateResource_ok hupdate
  rw [hafter.resources, ← Except.ok.inj hchange, hstore]
  exact ⟨updated, AList.lookup_insert _, by rw [hupdated]⟩

end Statuses

/-- What a condition on requests asks of an operation. -/
def OnRequest (condition : GatewayState → RuntimeRouteRequest → Prop) (s : GatewayState) : GatewayAction → Prop
  | .routeRequest request => condition s request
  | _ => True

theorem OnRequest.imp {condition good : GatewayState → RuntimeRouteRequest → Prop} {s : GatewayState}
    {action : GatewayAction} (himp : ∀ request, condition s request → good s request)
    (h : OnRequest condition s action) : OnRequest good s action := by
  cases action with
  | routeRequest request => exact himp request h
  | _ => exact trivial

/-- The emergency change stays in the store, and requests keep off the credential or the group as long as the catalogs
in use do not offer it. -/
theorem emergencyResource_kept_off (env : GatewayEnv) (call : EmergencyCall) (s next : GatewayState)
    (operation : EmergencyOperationRecord) (actions : List GatewayAction) :
    (emergencyDisableUpstreamCredential env call s = (.ok operation, next) →
      Meets (gatewayStep env) (fun t action =>
        (∀ version status, action ≠ .updateUpstreamCredentialStatus call.targetResourceId version status) ∧
          OnRequest (CatalogSparesCredential env call.targetResourceId) t action) next actions →
      Meets (gatewayStep env) (fun t action =>
        (call.replayed env .disableUpstreamCredential s = false →
          CredentialDisabled call.targetResourceId t.store.resources) ∧
          OnRequest (fun t request => ¬ SendsCredential env call.targetResourceId t request) t action) next actions) ∧
    (emergencyDrainRoutingGroup env call s = (.ok operation, next) →
      Meets (gatewayStep env) (fun t action =>
        (∀ version status, action ≠ .updateRoutingGroupStatus call.targetResourceId version status) ∧
          OnRequest (CatalogSparesGroup env call.targetResourceId) t action) next actions →
      Meets (gatewayStep env) (fun t action =>
        (call.replayed env .drainRoutingGroup s = false → GroupDraining call.targetResourceId t.store.resources) ∧
          OnRequest (fun t request => ¬ SelectsGroup env call.targetResourceId t request) t action) next actions) := by
  constructor
  · intro hcall hlater
    refine Meets.imp_of_invariant (fun t action after hinv hcondition hstep hfresh => ?_)
      (fun t action hinv hcondition => ⟨hinv, hcondition.2.imp fun _ => not_sendsCredential⟩)
      (emergencyDisableUpstreamCredential_disabled hcall) hlater
    exact (hinv hfresh).step (gatewayStep_resources hstep) hcondition.1
  · intro hcall hlater
    refine Meets.imp_of_invariant (fun t action after hinv hcondition hstep hfresh => ?_)
      (fun t action hinv hcondition => ⟨hinv, hcondition.2.imp fun _ => not_selectsGroup⟩)
      (emergencyDrainRoutingGroup_draining hcall) hlater
    exact (hinv hfresh).step (gatewayStep_resources hstep) hcondition.1

def resourcesPublished : List GatewayAction :=
  namedByFirstTenant "tenant_1" ++ [.createRoutingGroup "tenant_1" none "primary" "group_1"]

def incidentCall (targetResourceId : String) : EmergencyCall :=
  ⟨tenantActor, targetResourceId, ⟨"incident-1", some 1, "leaked key", ⟨3600⟩⟩, .ok (), ⟨0⟩⟩

theorem emergencyResource_still_used :
    ∃ s operation next, run (gatewayStep sampleEnv) .empty resourcesPublished = some s ∧
      emergencyDisableUpstreamCredential sampleEnv (incidentCall "upc_1") s = (.ok operation, next) ∧
      SendsCredential sampleEnv "upc_1" next chatRequest ∧
      ∃ operation next, emergencyDrainRoutingGroup sampleEnv (incidentCall "group_1") s = (.ok operation, next) ∧
        SelectsGroup sampleEnv "group_1" next chatRequest := by
  obtain ⟨s, hrun⟩ : ∃ s, run (gatewayStep sampleEnv) .empty resourcesPublished = some s := ⟨_, rfl⟩
  obtain ⟨operation, next, hdisable⟩ : ∃ operation next,
      emergencyDisableUpstreamCredential sampleEnv (incidentCall "upc_1") s = (.ok operation, next) := by
    cases hrun
    exact ⟨_, _, rfl⟩
  obtain ⟨drained, after, hdrain⟩ : ∃ operation next,
      emergencyDrainRoutingGroup sampleEnv (incidentCall "group_1") s = (.ok operation, next) := by
    cases hrun
    exact ⟨_, _, rfl⟩
  refine ⟨s, operation, next, hrun, hdisable, ?_, drained, after, hdrain, ?_⟩
  · cases hrun
    cases hdisable
    exact ⟨_, _, _, rfl, rfl, rfl⟩
  · cases hrun
    cases hdrain
    exact ⟨_, _, ⟨rfl, _, rfl, rfl⟩, rfl⟩

def withdrawnCatalog : GatewayCatalogSnapshot :=
  { catalogNaming "upc_1" with
    modelTargets := [⟨"target_a", "tenant_1", "ep_a", some "upc_1", .openAiResponses, "model-a", none, .disabled, true⟩,
      ⟨"target_b", "tenant_1", "ep_b", none, .openAiResponses, "model-b", none, .active, true⟩]
    routingGroups := [⟨"group_1", "tenant_1", .draining⟩] }

def withdrawn : List GatewayAction :=
  [.publishConfigSnapshot "tenant_1" ⟨none, some (.ok withdrawnCatalog)⟩ "cfg_2", .routeRequest chatRequest]

theorem emergencyResource_kept_off_withdrawn :
    ∃ s operation next, run (gatewayStep sampleEnv) .empty resourcesPublished = some s ∧
      emergencyDisableUpstreamCredential sampleEnv (incidentCall "upc_1") s = (.ok operation, next) ∧
      Meets (gatewayStep sampleEnv)
        (OnRequest fun t request => ¬ SendsCredential sampleEnv "upc_1" t request) next withdrawn := by
  obtain ⟨s, hrun⟩ : ∃ s, run (gatewayStep sampleEnv) .empty resourcesPublished = some s := ⟨_, rfl⟩
  obtain ⟨operation, next, hdisable⟩ : ∃ operation next,
      emergencyDisableUpstreamCredential sampleEnv (incidentCall "upc_1") s = (.ok operation, next) := by
    cases hrun
    exact ⟨_, _, rfl⟩
  obtain ⟨published, hstep⟩ : ∃ published,
      gatewayStep sampleEnv next (.publishConfigSnapshot "tenant_1" ⟨none, some (.ok withdrawnCatalog)⟩ "cfg_2") =
        some published := by
    cases hrun
    cases hdisable
    exact ⟨_, rfl⟩
  have hspared : CatalogSparesCredential sampleEnv "upc_1" published chatRequest := by
    intro loaded hloaded target hlisted hactive hnamed
    cases hrun
    cases hdisable
    cases hstep
    cases hloaded
    simp only [withdrawnCatalog, List.mem_cons, List.not_mem_nil, or_false] at hlisted
    rcases hlisted with rfl | rfl
    · cases hactive
    · cases hnamed
  refine ⟨s, operation, next, hrun, hdisable, ?_⟩
  have hmeets := (emergencyResource_kept_off sampleEnv (incidentCall "upc_1") s next operation withdrawn).1 hdisable
    (Meets.cons hstep ⟨fun _ _ => by simp, trivial⟩ ⟨⟨fun _ _ => by simp, hspared⟩, fun _ _ => trivial⟩)
  exact Meets.cons hstep trivial ⟨(hmeets.2 published hstep).1.2, fun _ _ => trivial⟩

end Starweaver.Gateway
