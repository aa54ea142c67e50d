import Starweaver.Gateway.ControlPlaneSteps
import Starweaver.Gateway.CredentialTenancy

namespace Starweaver.Gateway

open Library.Calendar Library.Checks Library.Machine

def EndpointsKeyed (endpoints : Index ProviderEndpointRecord) : Prop :=
  ∀ id record, endpoints.lookup id = some record → record.providerEndpointId = id

section Endpoints

variable {env : GatewayEnv} {store store' : GatewayStore} {id : String}

theorem EndpointsKeyed.insert {endpoints : Index ProviderEndpointRecord} {record : ProviderEndpointRecord}
    (h : EndpointsKeyed endpoints) (hid : record.providerEndpointId = id) :
    EndpointsKeyed (endpoints.insert id record) := by
  intro other found hfound
  by_cases heq : other = id
  · subst heq
    rw [AList.lookup_insert, Option.some.injEq] at hfound
    rw [← hfound, hid]
  · rw [AList.lookup_insert_ne heq] at hfound
    exact h other found hfound

theorem updateProviderEndpointStatus_keyed {expectedVersion : Int} {status : ResourceStatus}
    {updated : ProviderEndpointRecord} (hkeyed : EndpointsKeyed store.providerEndpoints)
    (h : updateProviderEndpointStatus store id expectedVersion status = .ok (updated, store')) :
    updated.providerEndpointId = id ∧ EndpointsKeyed store'.providerEndpoints := by
  obtain ⟨record, hlookup, rfl, rfl⟩ := updateResource_ok h
  exact ⟨hkeyed id record hlookup, hkeyed.insert (hkeyed id record hlookup)⟩

theorem SameBut.endpoints {s t : GatewayState} (h : SameBut s t) :
    t.store.providerEndpoints = s.store.providerEndpoints := by
  obtain ⟨records, operations, rfl⟩ := h
  rfl

theorem StoreWrite.keyed {action : GatewayAction} (hkeyed : EndpointsKeyed store.providerEndpoints)
    (hwrite : StoreWrite env action store store') : EndpointsKeyed store'.providerEndpoints := by
  cases hwrite with
  | createSecretRef _ h =>
    obtain ⟨record, values, files, rfl⟩ := createSecretRef_ok h
    exact hkeyed
  | updateSecretRefStatus h =>
    obtain ⟨record, -, -, hstore⟩ := updateResource_ok h
    rw [hstore]
    exact hkeyed
  | rotateSecretRef h =>
    obtain ⟨record, record', values, files, -, -, rfl⟩ := rotateSecretRef_ok h
    exact hkeyed
  | createProviderEndpoint h =>
    obtain ⟨_, -, h⟩ := bind_ok.mp h
    rw [← Except.ok.inj h]
    exact hkeyed.insert rfl
  | updateProviderEndpointStatus h => exact (updateProviderEndpointStatus_keyed hkeyed h).2
  | createUpstreamCredential _ h =>
    obtain ⟨_, -, h⟩ := bind_ok.mp h
    rw [← Except.ok.inj h]
    exact hkeyed
  | updateUpstreamCredentialStatus _ h =>
    obtain ⟨record, -, -, hstore⟩ := updateResource_ok h
    rw [hstore]
    exact hkeyed
  | createRoutingGroup _ h =>
    obtain ⟨record, rfl⟩ := createRoutingGroup_ok h
    exact hkeyed
  | updateRoutingGroupStatus _ h =>
    obtain ⟨record, -, -, hstore⟩ := updateResource_ok h
    rw [hstore]
    exact hkeyed
  | publishConfigSnapshot h =>
    obtain ⟨_, -, h⟩ := bind_ok.mp h
    rw [← Except.ok.inj h]
    exact hkeyed
  | rollbackConfigSnapshot h =>
    obtain ⟨payload, rollbackOf, hstore⟩ := rollbackConfigSnapshot_ok h
    rw [hstore]
    exact hkeyed

theorem gatewayStep_keyed {s next : GatewayState} {action : GatewayAction}
    (hkeyed : EndpointsKeyed s.store.providerEndpoints) (hstep : gatewayStep env s action = some next) :
    EndpointsKeyed next.store.providerEndpoints := by
  cases gatewayStep_store hstep with
  | kept hsame hstore => rwa [hstore, hsame.endpoints]
  | written hbefore hwrite hafter =>
    rw [hafter.endpoints]
    exact hwrite.keyed (by rwa [hbefore.endpoints])

theorem endpointsKeyed_run {start s : GatewayState} {actions : List GatewayAction}
    (hstart : start.store.providerEndpoints = ∅) (hrun : run (gatewayStep env) start actions = some s) :
    EndpointsKeyed s.store.providerEndpoints := by
  have hinitial : EndpointsKeyed start.store.providerEndpoints := by
    intro id record hlookup
    rw [hstart] at hlookup
    cases hlookup
  exact run_invariant_always (fun _ _ _ h hnext => gatewayStep_keyed h hnext) hinitial hrun

end Endpoints

/-- The hot state keeps the drain of the endpoint, for the config version if there is one and until this instant. -/
def DrainHeld (tenantId providerEndpointId : String) (version : Option Int) (expiresAt : DateTime)
    (s : GatewayState) : Prop :=
  ∀ published, version = some published → ∃ record,
    s.hotState.endpointDrains.lookup (tenantId, providerEndpointId) = some record ∧
      record.configVersion = published ∧ record.expiresAt = expiresAt

def GatewayStore.publishedVersion (store : GatewayStore) (tenantId : String) : Option Int :=
  (store.configPublications.lookup tenantId).map (·.version)

/-- A publication, a rollback, or a request that is planned before the expiry. -/
def ConfigOrRequestBefore (expiresAt : DateTime) : GatewayAction → Prop
  | .publishConfigSnapshot _ _ _ => True
  | .rollbackConfigSnapshot _ _ _ => True
  | .emergencyRollbackConfigSnapshot _ _ => True
  | .routeRequest request => request.plannedAt < expiresAt
  | _ => False

/-- The catalog in use lists the endpoint as active only under the tenant of the call, and then only while it has the
version that was published at the call. -/
def DrainReaches (env : GatewayEnv) (tenantId providerEndpointId : String) (version : Option Int) (s : GatewayState) :
    GatewayAction → Prop
  | .routeRequest request => ∀ loaded, latestCatalogForActor s.store env request.actor = .ok (some loaded) →
      ∀ endpoint ∈ loaded.catalog.providerEndpoints, endpoint.providerEndpointId = providerEndpointId →
        endpoint.status = .active → endpoint.tenantId = tenantId ∧ version = some loaded.version
  | _ => True

def AvoidsEndpoint (env : GatewayEnv) (providerEndpointId : String) (s : GatewayState) : GatewayAction → Prop
  | .routeRequest request => ∀ loaded selection, Selects env s request loaded selection →
      selection.providerEndpoint.providerEndpointId ≠ providerEndpointId
  | _ => True

section Drain

variable {env : GatewayEnv} {call : EmergencyCall} {tenantId providerEndpointId : String} {expiresAt : DateTime}
  {s next : GatewayState}

theorem runtimeRouteTarget_endpointDrains (request : RuntimeRouteRequest) (loaded : Result (Option LoadedCatalog))
    (hotState : InMemoryHotState) :
    (runtimeRouteTarget request loaded hotState).2.endpointDrains = hotState.endpointDrains := by
  have hsticky : ∀ selection version,
      (recordStickyRouteMapping request selection version hotState).endpointDrains = hotState.endpointDrains := by
    intro selection version
    unfold recordStickyRouteMapping
    split <;> rfl
  unfold runtimeRouteTarget
  split
  · rfl
  · rfl
  split
  · rfl
  split
  · unfold selectedRuntimeRouteTarget
    split
    · rfl
    · exact hsticky _ _
  · rfl
  · rfl

theorem SameBut.hotState {t : GatewayState} (h : SameBut s t) : t.hotState = s.hotState := by
  obtain ⟨records, operations, rfl⟩ := h
  rfl

theorem tryStore_hotState {α : Type} (s : GatewayState) (stored : α → GatewayStore) (result : Result α) :
    (s.tryStore stored result).hotState = s.hotState := by
  cases result <;> rfl

theorem endpointDrains_step {action : GatewayAction} (haction : ConfigOrRequestBefore expiresAt action)
    (hstep : gatewayStep env s action = some next) :
    next.hotState.endpointDrains = s.hotState.endpointDrains := by
  cases action with
  | publishConfigSnapshot tenantId payload snapshotId =>
    simp only [gatewayStep] at hstep
    split at hstep
    · cases hstep
    · rw [← Option.some.inj hstep, tryStore_hotState]
  | rollbackConfigSnapshot tenantId sourceSnapshotId snapshotId =>
    simp only [gatewayStep] at hstep
    split at hstep
    · cases hstep
    · rw [← Option.some.inj hstep, tryStore_hotState]
  | emergencyRollbackConfigSnapshot call snapshotId =>
    simp only [gatewayStep] at hstep
    split at hstep
    · cases hstep
    rw [← Option.some.inj hstep, Gateway.emergencyRollbackConfigSnapshot]
    rcases @emergencyOperation_cases env .rollbackConfigSnapshot .configSnapshot (rollbackToSnapshot snapshotId call)
      call s with ⟨hsame, -⟩ | ⟨before, changed, hbefore, hok, hafter⟩
    · rw [hsame.hotState]
    · obtain ⟨⟨snapshot, store⟩, -, hchanged⟩ := bind_ok.mp hok
      rw [hafter.hotState, ← Except.ok.inj hchanged, ← hbefore.hotState]
  | routeRequest request =>
    simp only [gatewayStep, Option.some.injEq] at hstep
    rw [← hstep]
    exact runtimeRouteTarget_endpointDrains _ _ _
  | _ => exact haction.elim

theorem DrainHeld.drained {request : RuntimeRouteRequest} {loaded : LoadedCatalog}
    (h : DrainHeld tenantId providerEndpointId (some loaded.version) expiresAt s)
    (hbefore : request.plannedAt < expiresAt) :
    s.hotState.endpointIsDrained tenantId providerEndpointId (some loaded.version) request.plannedAt = true := by
  obtain ⟨record, hrecord, hversion, hexpires⟩ := h _ rfl
  unfold InMemoryHotState.endpointIsDrained
  rw [hrecord]
  simp [EndpointDrainRecord.isFreshFor, isFreshFor, hversion, hexpires, hbefore]

theorem avoidsEndpoint_of_drainReaches {action : GatewayAction} {version : Option Int}
    (hheld : DrainHeld tenantId providerEndpointId version expiresAt s) (haction : ConfigOrRequestBefore expiresAt action)
    (hreaches : DrainReaches env tenantId providerEndpointId version s action) :
    AvoidsEndpoint env providerEndpointId s action := by
  cases action with
  | routeRequest request =>
    intro loaded selection hselects hendpoint
    obtain ⟨route⟩ := hselects.route
    obtain ⟨htests, -⟩ := route.eligible
    rw [route.endpoint_eq] at hendpoint
    obtain ⟨htenant, hversion⟩ := hreaches loaded hselects.1 _ htests.endpoint_listed hendpoint htests.endpoint_active
    rw [hversion] at hheld
    have hdrained := hheld.drained haction
    have hnot := htests.not_drained
    rw [htenant, hendpoint] at hnot
    exact absurd (hdrained.symm.trans hnot) (by decide)
  | _ => exact trivial

theorem providerEndpointForActor_tenant {store : GatewayStore} {actor : AuthenticatedActor} {id : String}
    {record owned : ProviderEndpointRecord} (hlookup : store.providerEndpoints.lookup id = some record)
    (h : providerEndpointForActor store actor id = .ok owned) : record.tenantId = actor.tenantId := by
  unfold providerEndpointForActor at h
  rw [hlookup] at h
  split at h
  · cases h
  · rename_i found hfound
    obtain ⟨hsame, hfits⟩ := Option.filter_eq_some_iff.mp hfound
    simpa [← Option.some.inj hsame] using hfits

theorem disableProviderEndpoint_held {changed : GatewayState} (hkeyed : EndpointsKeyed s.store.providerEndpoints)
    (h : disableProviderEndpoint call s = .ok changed) :
    DrainHeld call.actor.tenantId call.targetResourceId (s.store.publishedVersion call.actor.tenantId)
      call.request.expiresAt changed := by
  intro published hpublished
  obtain ⟨owned, howned, h⟩ := bind_ok.mp h
  obtain ⟨_, -, h⟩ := bind_ok.mp h
  obtain ⟨⟨updated, store⟩, hupdate, h⟩ := bind_ok.mp h
  have hid := (updateProviderEndpointStatus_keyed hkeyed hupdate).1
  obtain ⟨record, hlookup, hupdated, hstore⟩ := updateResource_ok hupdate
  have htenant : record.tenantId = call.actor.tenantId := providerEndpointForActor_tenant hlookup howned
  have hsame : updated.tenantId = record.tenantId := by rw [hupdated]
  rw [← hsame] at htenant
  obtain ⟨publication, hpublication, hversion⟩ := Option.map_eq_some_iff.mp hpublished
  have hpointer : store.configPublications.lookup updated.tenantId = some publication := by
    rw [hstore, htenant]
    exact hpublication
  have hwritten := Except.ok.inj h
  unfold setEndpointEmergencyDrain at hwritten
  simp only [hpointer] at hwritten
  rw [← hwritten, ← htenant, ← hid]
  exact ⟨_, AList.lookup_insert _, hversion, rfl⟩

theorem emergencyDisableProviderEndpoint_held {operation : EmergencyOperationRecord}
    (hkeyed : EndpointsKeyed s.store.providerEndpoints)
    (hcall : emergencyDisableProviderEndpoint env call s = (.ok operation, next))
    (hfresh : call.replayed env .disableProviderEndpoint s = false) :
    DrainHeld call.actor.tenantId call.targetResourceId (s.store.publishedVersion call.actor.tenantId)
      call.request.expiresAt next := by
  intro published hpublished
  obtain ⟨before, changed, hbefore, hchange, hafter⟩ := emergencyOperation_ok hcall hfresh
  have hversion : before.store.publishedVersion call.actor.tenantId = some published := by
    obtain ⟨records, operations, rfl⟩ := hbefore
    exact hpublished
  obtain ⟨record, hrecord, hdrain⟩ := disableProviderEndpoint_held (by rwa [hbefore.endpoints]) hchange
    published hversion
  exact ⟨record, by rw [hafter.hotState, hrecord], hdrain⟩

/-- An emergency disable keeps requests off the endpoint until its expiry, as long as every catalog in use that still
offers the endpoint has the version of the call. -/
theorem emergencyDisableProviderEndpoint_until_expiry {start : GatewayState} {before actions : List GatewayAction}
    {operation : EmergencyOperationRecord} (hstart : start.store.providerEndpoints = ∅)
    (hrun : run (gatewayStep env) start before = some s)
    (hcall : emergencyDisableProviderEndpoint env call s = (.ok operation, next))
    (hfresh : call.replayed env .disableProviderEndpoint s = false)
    (hlater : Meets (gatewayStep env) (fun t action => ConfigOrRequestBefore call.request.expiresAt action ∧
      DrainReaches env call.actor.tenantId call.targetResourceId
        (s.store.publishedVersion call.actor.tenantId) t action) next actions) :
    Meets (gatewayStep env) (AvoidsEndpoint env call.targetResourceId) next actions := by
  have hheld := emergencyDisableProviderEndpoint_held (endpointsKeyed_run hstart hrun) hcall hfresh
  refine Meets.imp_of_invariant (fun t action after hinv hcondition hstep => ?_)
    (fun t action hinv hcondition => ?_) hheld hlater
  · intro published hpublished
    rw [endpointDrains_step hcondition.1 hstep]
    exact hinv published hpublished
  · exact avoidsEndpoint_of_drainReaches hinv hcondition.1 hcondition.2

end Drain

def endpointPublished : List GatewayAction :=
  [.createProviderEndpoint "tenant_1" none "ep_a",
    .publishConfigSnapshot "tenant_1" ⟨none, some (.ok twoEndpointCatalog)⟩ "cfg_1"]

def disableEndpointCall : EmergencyCall :=
  ⟨tenantActor, "ep_a", ⟨"incident-1", some 1, "provider incident", ⟨3600⟩⟩, .ok (), ⟨0⟩⟩

def publishedAgain : List GatewayAction :=
  [.publishConfigSnapshot "tenant_1" ⟨none, some (.ok twoEndpointCatalog)⟩ "cfg_2", .routeRequest chatRequest]

theorem chatRequest_before : chatRequest.plannedAt < disableEndpointCall.request.expiresAt := by decide

theorem disabledEndpoint_selected_after_publication :
    ∃ s operation next, run (gatewayStep sampleEnv) .empty endpointPublished = some s ∧
      disableEndpointCall.replayed sampleEnv .disableProviderEndpoint s = false ∧
      emergencyDisableProviderEndpoint sampleEnv disableEndpointCall s = (.ok operation, next) ∧
      Meets (gatewayStep sampleEnv) (fun _ => ConfigOrRequestBefore operation.expiresAt) next publishedAgain ∧
      ¬ Meets (gatewayStep sampleEnv) (AvoidsEndpoint sampleEnv disableEndpointCall.targetResourceId) next
        publishedAgain := by
  obtain ⟨s, hrun⟩ : ∃ s, run (gatewayStep sampleEnv) .empty endpointPublished = some s := ⟨_, rfl⟩
  obtain ⟨operation, next, hcall⟩ : ∃ operation next,
      emergencyDisableProviderEndpoint sampleEnv disableEndpointCall s = (.ok operation, next) := by
    cases hrun
    exact ⟨_, _, rfl⟩
  obtain ⟨published, hstep⟩ : ∃ published,
      gatewayStep sampleEnv next (.publishConfigSnapshot "tenant_1" ⟨none, some (.ok twoEndpointCatalog)⟩ "cfg_2") =
        some published := by
    cases hrun
    cases hcall
    exact ⟨_, rfl⟩
  obtain ⟨loaded, selection, hselects, hendpoint⟩ : ∃ loaded selection,
      Selects sampleEnv published chatRequest loaded selection ∧
        selection.providerEndpoint.providerEndpointId = "ep_a" := by
    cases hrun
    cases hcall
    cases hstep
    exact ⟨_, _, ⟨rfl, _, rfl, rfl⟩, rfl⟩
  refine ⟨s, operation, next, hrun, ?_, hcall, ?_, ?_⟩
  · cases hrun
    rfl
  · refine Meets.cons hstep trivial ⟨?_, fun _ _ => trivial⟩
    cases hrun
    cases hcall
    exact chatRequest_before
  · intro hmeets
    exact (hmeets.2 published hstep).1 loaded selection hselects hendpoint

theorem disabledEndpoint_avoided_before_publication :
    ∃ s operation next, run (gatewayStep sampleEnv) .empty endpointPublished = some s ∧
      emergencyDisableProviderEndpoint sampleEnv disableEndpointCall s = (.ok operation, next) ∧
      Meets (gatewayStep sampleEnv) (AvoidsEndpoint sampleEnv "ep_a") next [.routeRequest chatRequest] := by
  obtain ⟨s, hrun⟩ : ∃ s, run (gatewayStep sampleEnv) .empty endpointPublished = some s := ⟨_, rfl⟩
  obtain ⟨operation, next, hcall⟩ : ∃ operation next,
      emergencyDisableProviderEndpoint sampleEnv disableEndpointCall s = (.ok operation, next) := by
    cases hrun
    exact ⟨_, _, rfl⟩
  have hfresh : disableEndpointCall.replayed sampleEnv .disableProviderEndpoint s = false := by
    cases hrun
    rfl
  refine ⟨s, operation, next, hrun, hcall, ?_⟩
  refine emergencyDisableProviderEndpoint_until_expiry rfl hrun hcall hfresh ⟨⟨chatRequest_before, ?_⟩, fun _ _ => trivial⟩
  intro loaded hloaded endpoint hlisted hnamed hactive
  cases hrun
  cases hcall
  cases hloaded
  simp only [twoEndpointCatalog, List.mem_cons, List.not_mem_nil, or_false] at hlisted
  rcases hlisted with rfl | rfl <;> exact ⟨rfl, rfl⟩

end Starweaver.Gateway
